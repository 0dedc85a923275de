import StorageNode.Journal.Reading

/-!
# The records that the journal makes

`create` and `transition` make records that the journal accepts again: `create` of a payload that names
its volume and its collection, `transition` of an accepted record whose id is not changed.
-/

set_option autoImplicit false

namespace StorageNode.RepairJournal

open StorageNode.Json

variable {ft : FloatText} {members : Record} {name : String} {v : Value}

/-! ## Dictionaries -/

theorem get?_setDefault (members : Record) (name other : String) (v : Value) :
    Value.get? (setDefault members name v) other =
      if other = name then some ((Value.get? members name).getD v) else Value.get? members other := by
  rw [setDefault]
  split
  · rename_i hsome
    obtain ⟨u, hu⟩ := Option.isSome_iff_exists.mp hsome
    by_cases hother : other = name
    · rw [if_pos hother, hother, hu, Option.getD_some]
    · rw [if_neg hother]
  · rename_i hnone
    rw [Value.get?_put]
    by_cases hother : other = name
    · rw [if_pos hother, if_pos hother, Option.not_isSome_iff_eq_none.mp hnone, Option.getD_none]
    · rw [if_neg hother, if_neg hother]

theorem readable_setDefault (h : Readable ft (.object members)) (hv : Readable ft v) :
    Readable ft (.object (setDefault members name v)) := by
  rw [setDefault]
  split
  · exact h
  · exact h.put hv

theorem readable_phaseEntry {phase : String} {now : Value} (hnow : Readable ft now) :
    Readable ft (phaseEntry phase now) := by
  refine .object _ (by simp [Value.Distinct]) fun m hm => ?_
  rcases List.mem_cons.mp hm with rfl | hm
  · exact .str _
  · obtain rfl := List.mem_singleton.mp hm
    exact hnow

/-! ## Accepted records -/

/-- The checks of a record, name by name. -/
theorem wellFormed_object {file : Text} {id : String} (history : List Value)
    (hid : Value.get? members "transaction_id" = some (.str id)) (hstem : id.toList = stem file)
    (hrequired : ∀ required ∈ requiredNames, (Value.get? members required).isSome = true)
    (hhistory : Value.get? members "phase_history" = some (.array history)) :
    wellFormed file (.object members) = true := by
  simp only [wellFormed, hid, hhistory, Bool.and_true, Bool.and_eq_true, List.all_eq_true]
  exact ⟨by simpa using hstem, hrequired⟩

/-- What an accepted record holds. -/
theorem ValidRecord.parts {file : Text} (h : ValidRecord ft file members) :
    ∃ id history, Value.get? members "transaction_id" = some (.str id) ∧
      file = id.toList ++ ".json".toList ∧ id.toList = stem file ∧
      (∀ required ∈ requiredNames, (Value.get? members required).isSome = true) ∧
      Value.get? members "phase_history" = some (.array history) := by
  have hwell := h.wellFormed
  have hnamed := h.named
  simp only [RepairJournal.wellFormed, Bool.and_eq_true, List.all_eq_true] at hwell
  obtain ⟨⟨hid, hrequired⟩, hhistory⟩ := hwell
  rw [recordName] at hnamed
  cases hfound : Value.get? members "transaction_id" with
  | none => simp [hfound] at hid
  | some v =>
    rw [hfound] at hid hnamed
    cases v with
    | str id =>
      cases hlist : Value.get? members "phase_history" with
      | none => simp [hlist] at hhistory
      | some u =>
        rw [hlist] at hhistory
        cases u with
        | array history =>
          exact ⟨id, history, rfl, (Option.some.inj hnamed).symm, by simpa using hid, hrequired, rfl⟩
        | _ => simp at hhistory
    | _ => simp at hid

/-- `create` makes a record that is accepted. -/
theorem valid_created {payload : Record} {uuid : String} {now : Value}
    (hpayload : Readable ft (.object payload)) (hnow : Readable ft now)
    (hvolume : (Value.get? payload "volume_id").isSome = true)
    (hcollection : (Value.get? payload "collection").isSome = true)
    (hid : Value.get? payload "transaction_id" = none)
    (hhistory : Value.get? payload "phase_history" = none) (huuid : uuid.toList ≠ [])
    (hcomponent : '/' ∉ uuid.toList) :
    ValidRecord ft (uuid.toList ++ ".json".toList) (created payload uuid now) := by
  have hget : ∀ other, Value.get? (created payload uuid now) other =
      if other = "updated_at" then some now
      else if other = "created_at" then some ((Value.get? payload "created_at").getD now)
      else if other = "phase_history" then some (.array [phaseEntry "detected" now])
      else if other = "phase" then some ((Value.get? payload "phase").getD (.str "detected"))
      else if other = "transaction_id" then some (.str uuid)
      else if other = "version" then some ((Value.get? payload "version").getD (.int 1))
      else Value.get? payload other := by
    intro other
    simp only [created, Value.get?_put, get?_setDefault, hid, hhistory]
    simp
  have hname : Value.get? (created payload uuid now) "transaction_id" = some (.str uuid) := by
    rw [hget]
    simp
  refine ⟨?_, ?_, ?_, wellFormed_object [phaseEntry "detected" now] hname
    (stem_recordName huuid).symm (fun required hmem => ?_) ?_⟩
  · refine Readable.put (readable_setDefault (readable_setDefault (readable_setDefault
      (readable_setDefault (readable_setDefault hpayload ?_) (.str _)) (.str _)) ?_) hnow) hnow
    · exact .int 1 (by decide)
    · refine .array _ fun u hu => ?_
      obtain rfl := List.mem_singleton.mp hu
      exact readable_phaseEntry hnow
  · rw [recordName, hname]
  · rw [List.mem_append]
    rintro (hmem | hmem)
    · exact hcomponent hmem
    · exact absurd hmem (by decide)
  · rw [hget]
    simp only [requiredNames, List.mem_cons, List.not_mem_nil, or_false] at hmem
    rcases hmem with rfl | rfl | rfl | rfl | rfl | rfl
    · simp
    · simp
    · simpa using hvolume
    · simpa using hcollection
    · simp
    · simp
  · rw [hget]
    simp

/-- `transition` makes a record that is accepted under the same name. -/
theorem valid_transitioned {file : Text} {transaction values changed : Record} {phase : String}
    {now : Value} (h : ValidRecord ft file transaction) (hvalues : ∀ m ∈ values, Readable ft m.2)
    (hid : ∀ m ∈ values, m.1 ≠ "transaction_id") (hnow : Readable ft now)
    (hchanged : transitioned transaction phase values now = some changed) :
    ValidRecord ft file changed := by
  obtain ⟨id, history, hname, hfile, hstem, hrequired, hhistory⟩ := h.parts
  have hbase : Readable ft (.object (Value.put (Value.put (Value.update transaction values) "phase"
      (.str phase)) "updated_at" now)) := ((h.readable.update hvalues).put (.str _)).put hnow
  -- the record before its history grows
  generalize hmiddle : Value.put (Value.put (Value.update transaction values) "phase" (.str phase))
    "updated_at" now = middle at hbase
  have hmiddleName : Value.get? middle "transaction_id" = some (.str id) := by
    rw [← hmiddle, Value.get?_put_of_ne (by decide), Value.get?_put_of_ne (by decide),
      Value.get?_update_of_not_mem hid, hname]
  have hmiddleRequired : ∀ required ∈ requiredNames, (Value.get? middle required).isSome = true := by
    intro required hmem
    rw [← hmiddle, Value.get?_put, Value.get?_put]
    split
    · rfl
    · split
      · rfl
      · exact Value.isSome_get?_update (hrequired required hmem)
  obtain ⟨entries, hentries, heq⟩ : ∃ entries : List Value, (∀ u ∈ entries, Readable ft u) ∧
      changed = Value.put middle "phase_history" (.array entries) := by
    simp only [transitioned, hmiddle] at hchanged
    cases hfound : Value.get? middle "phase_history" with
    | none =>
      rw [hfound] at hchanged
      refine ⟨_, fun u hu => ?_, (Option.some.inj hchanged).symm⟩
      obtain rfl := List.mem_singleton.mp hu
      exact readable_phaseEntry hnow
    | some v =>
      rw [hfound] at hchanged
      cases v with
      | array old =>
        refine ⟨_, fun u hu => ?_, (Option.some.inj hchanged).symm⟩
        rcases List.mem_append.mp hu with hu | hu
        · cases hbase.get? hfound with
          | array _ hold => exact hold u hu
        · obtain rfl := List.mem_singleton.mp hu
          exact readable_phaseEntry hnow
      | _ => simp at hchanged
  subst heq
  have hchangedName : Value.get? (Value.put middle "phase_history" (.array entries)) "transaction_id" =
      some (.str id) := by rw [Value.get?_put_of_ne (by decide), hmiddleName]
  refine ⟨hbase.put (.array _ hentries), ?_, h.component,
    wellFormed_object entries hchangedName hstem (fun required hmem => ?_) Value.get?_put_self⟩
  · rw [recordName, hchangedName, hfile]
  · rw [Value.get?_put]
    split
    · rfl
    · exact hmiddleRequired required hmem

end StorageNode.RepairJournal
