import StorageNode.Journal.Writing

/-!
# What a reader of the journal gets

The contracts of `load_all` and `load_all_readonly`. Neither finds a file that it cannot decode or that
is structurally invalid. Without the lock, the names are those of one moment and each record stood under
its name at that moment or later (`Read`). With the lock, the result is the journal of one moment
(`Snapshot`).
-/

set_option autoImplicit false

namespace StorageNode.RepairJournal

open StorageNode.Files StorageNode.Json StorageNode.Program

variable {ι : Type} {ft : FloatText} {i : ι}

/-! ## Records are read back -/

theorem stem_recordName {id : Text} (h : id ≠ []) : stem (id ++ ".json".toList) = id := by
  have hsuffix : ".json".toList = '.' :: "json".toList := rfl
  have hdrop : (id ++ ".json".toList).rdropWhile (fun c => decide (c ≠ '.')) = id ++ ['.'] := by
    rw [hsuffix, List.rdropWhile, List.reverse_append, List.reverse_cons, List.append_assoc,
      List.dropWhile_append_of_pos (by simp), List.singleton_append,
      List.dropWhile_cons_of_neg (by simp)]
    simp
  have htake : (id ++ ".json".toList).rtakeWhile (fun c => decide (c ≠ '.')) ≠ [] := by
    rw [hsuffix, List.rtakeWhile, List.reverse_append, List.reverse_cons, List.append_assoc]
    simp
  simp only [stem, hdrop, List.dropLast_concat]
  rw [if_pos ⟨h, htake⟩]

/-- The checks do not depend on the order of names. -/
theorem wellFormed_sortKeys {name : Text} {members : Record} (hdistinct : Value.Distinct members)
    (h : wellFormed name (.object members) = true) :
    wellFormed name (sortKeys (.object members)) = true := by
  obtain ⟨sorted, hsorted, -⟩ := perm_sortKeys_object members
  have hget := get?_sortKeys hdistinct hsorted
  rw [hsorted]
  simp only [wellFormed, Bool.and_eq_true, List.all_eq_true] at h ⊢
  obtain ⟨⟨hid, hrequired⟩, hhistory⟩ := h
  refine ⟨⟨?_, fun required hmem => ?_⟩, ?_⟩
  · rw [hget]
    cases hfound : Value.get? members "transaction_id" with
    | none => simp [hfound] at hid
    | some v =>
      rw [hfound] at hid
      cases v with
      | str id => exact hid
      | _ => simp at hid
  · rw [hget]
    simpa using hrequired required hmem
  · rw [hget]
    cases hfound : Value.get? members "phase_history" with
    | none => simp [hfound] at hhistory
    | some v =>
      rw [hfound] at hhistory
      cases v with
      | array items => simp [sortKeys]
      | _ => simp at hhistory

/-- The text of a record is read back as its members, with their names in order. -/
theorem loads_recordText {members : Record} (h : Readable ft (.object members)) :
    loads ft (recordText ft members) = some (sortKeys (.object members)) :=
  loads_dumps (by simp [isBlank]) (by simp [isBlank]) h

/-- A record is read back, and passes the checks. -/
theorem HoldsRecord.loads {name : Text} {e : Entry ι} (h : HoldsRecord ft name e) :
    ∃ v, loads ft e.text = some v ∧ wellFormed name v = true := by
  obtain ⟨members, hvalid, htext⟩ := h.text
  refine ⟨sortKeys (.object members), ?_, ?_⟩
  · rw [htext, loads_recordText hvalid.readable]
  · cases hvalid.readable with
    | object _ hdistinct _ => exact wellFormed_sortKeys hdistinct hvalid.wellFormed

/-! ## Names -/

theorem not_isRecordName_temporaryName (name : Text) (token : Nat) :
    isRecordName (temporaryName name token) = false := by
  rw [← Bool.not_eq_true, isRecordName, List.isSuffixOf_iff_suffix]
  rintro ⟨front, hfront⟩
  have hlast := congrArg List.getLast? hfront
  have hsplit : temporaryName name token =
      ('.' :: (name ++ '.' :: Nat.toDigits 16 token)) ++ ".tmp".toList := by
    simp [temporaryName]
  have hjson : ".json".toList.getLast? = some 'n' := by decide
  have htmp : ".tmp".toList.getLast? = some 'p' := by decide
  rw [hsplit, List.getLast?_append, List.getLast?_append, hjson, htmp] at hlast
  exact absurd hlast (by simp)

/-- Files that have not got their names yet are not seen. -/
theorem recordNames_names (w : World ι) :
    recordNames w.names = recordNames w.records.current.names := by
  have hnone : (w.temporaries.map Temporary.fileName).filter isRecordName = [] := by
    rw [List.filter_eq_nil_iff]
    intro name hname
    obtain ⟨t, -, rfl⟩ := List.mem_map.mp hname
    rw [Temporary.fileName, not_isRecordName_temporaryName]
    simp
  rw [recordNames, World.names, List.filter_append, hnone, List.append_nil]
  rfl

theorem mem_recordNames {names : List Text} {name : Text} (h : name ∈ recordNames names) :
    name ∈ names := by
  rw [recordNames, List.mem_insertionSort] at h
  exact List.mem_of_mem_filter h

/-! ## Results -/

/-- The record under a name in a directory. -/
def HasRecord (ft : FloatText) (d : Directory Text (Entry ι)) (name : Text) (v : Value) : Prop :=
  ∃ e, d.find name = some e ∧ loads ft e.text = some v

/-- The records that were read, each at a moment of its own, from a given one on. -/
def ReadFrom (ft : FloatText) (k₀ : Nat) (names : List Text) (vs : List Value) (w : World ι) : Prop :=
  List.Forall₂ (fun name v => ∃ k, k₀ ≤ k ∧ k ≤ w.records.log.length ∧
    HasRecord ft (w.records.after k) name v) names vs

/-- A result of a reader without the lock. -/
def Read (ft : FloatText) (since : World ι) (vs : List Value) (w : World ι) : Prop :=
  ∃ k, since.records.log.length ≤ k ∧ k ≤ w.records.log.length ∧
    ReadFrom ft k (recordNames (w.records.after k).names) vs w

/-- A result of a reader with the lock. -/
def Snapshot (ft : FloatText) (since : World ι) (vs : List Value) (w : World ι) : Prop :=
  ∃ k, since.records.log.length ≤ k ∧ k ≤ w.records.log.length ∧
    List.Forall₂ (HasRecord ft (w.records.after k)) (recordNames (w.records.after k).names) vs

/-- The exceptions that a reader may end with. -/
def Excused : Error → Prop
  | .os | .waiting | .unreadable _ .os => True
  | _ => False

theorem ReadFrom.later {w w' : World ι} {k₀ : Nat} {names : List Text} {vs : List Value}
    (h : ReadFrom ft k₀ names vs w) (hlater : Later w w') : ReadFrom ft k₀ names vs w' := by
  refine h.imp fun name v => ?_
  rintro ⟨k, hk, hk', hrecord⟩
  refine ⟨k, hk, Nat.le_trans hk' hlater.records.length_le, ?_⟩
  rw [hlater.records.after_eq hk']
  exact hrecord

theorem Read.later {since w w' : World ι} {vs : List Value} (h : Read ft since vs w)
    (hlater : Later w w') : Read ft since vs w' := by
  obtain ⟨k, hk, hk', hread⟩ := h
  refine ⟨k, hk, Nat.le_trans hk' hlater.records.length_le, ?_⟩
  rw [hlater.records.after_eq hk']
  exact hread.later hlater

theorem Snapshot.later {since w w' : World ι} {vs : List Value} (h : Snapshot ft since vs w)
    (hlater : Later w w') : Snapshot ft since vs w' := by
  obtain ⟨k, hk, hk', hread⟩ := h
  refine ⟨k, hk, Nat.le_trans hk' hlater.records.length_le, ?_⟩
  rw [hlater.records.after_eq hk']
  exact hread

/-- A snapshot is read at one moment. -/
theorem Snapshot.read {since w : World ι} {vs : List Value} (h : Snapshot ft since vs w) :
    Read ft since vs w := by
  obtain ⟨k, hk, hk', hall⟩ := h
  exact ⟨k, hk, hk', hall.imp fun _ _ hrecord => ⟨k, Nat.le_refl _, hk', hrecord⟩⟩

/-- What is read for a name. -/
theorem exists_of_forall₂ {α β : Type} {R : α → β → Prop} {as : List α} {bs : List β}
    (h : List.Forall₂ R as bs) {a : α} (ha : a ∈ as) : ∃ b ∈ bs, R a b := by
  induction h with
  | nil => exact absurd ha (by simp)
  | cons hab _ ih =>
    rcases List.mem_cons.mp ha with rfl | ha
    · exact ⟨_, List.mem_cons_self, hab⟩
    · obtain ⟨b, hb, hR⟩ := ih ha
      exact ⟨b, List.mem_cons_of_mem _ hb, hR⟩

/-! ## Reading -/

variable [DecidableEq ι]

/-- Names that stood for records at a moment, known to a thread. -/
def Known (since : World ι) (k₀ : Nat) (names : List Text) (w : World ι) : Prop :=
  Later since w ∧ k₀ ≤ w.records.log.length ∧
    ∀ name ∈ names, ∃ e, w.records.current.find name = some e

omit [DecidableEq ι] in
theorem Known.later {since w w' : World ι} {k₀ : Nat} {names : List Text} (h : Known since k₀ names w)
    (hlater : Later w w') : Known since k₀ names w' := by
  refine ⟨h.1.trans hlater, Nat.le_trans h.2.1 hlater.records.length_le, fun name hname => ?_⟩
  obtain ⟨e, he⟩ := h.2.2 name hname
  obtain ⟨e', he', -⟩ := hlater.records.find_after (Φ := fun _ => True) (fun _ _ _ => trivial)
    ⟨e, he, trivial⟩ hlater.records.length_le
  exact ⟨e', he'⟩

variable {since : World ι} {k₀ : Nat}

theorem readRecord_triple (name : Text) (names : List Text) :
    (threadDiscipline ft i).Triple (Known since k₀ (name :: names)) (readRecord ft name)
      (fun v w => Known since k₀ names w ∧ ∃ k, k₀ ≤ k ∧ k ≤ w.records.log.length ∧
        HasRecord ft (w.records.after k) name v) (fun e _ => Excused e) := by
  -- what is read is the text of a record that stands under the name at that moment
  refine .bind (M := fun (text : Text) w => Known since k₀ names w ∧ ∃ k, k₀ ≤ k ∧
    k ≤ w.records.log.length ∧ ∃ e, (w.records.after k).find name = some e ∧ e.text = text) ?_ fun text => ?_
  · refine performOr_triple (fun w w' _ _ hd h => h.later hd.later) (fun w _ _ => trivial)
      (fun c w hw hp _ text ha => ?_) fun _ => trivial
    obtain ⟨e, he⟩ := hp.2.2 name List.mem_cons_self
    cases hfails : c.fails with
    | true => simp [exec, hfails] at ha
    | false =>
      simp only [exec, hfails, Bool.false_eq_true, if_false, he, Option.map_some,
        Option.some.injEq] at ha ⊢
      exact ⟨⟨hp.1, hp.2.1, fun other hother => hp.2.2 other (List.mem_cons_of_mem _ hother)⟩,
        _, hp.2.1, Nat.le_refl _, e, he, ha⟩
  · have hreads : ∀ w : World ι, Inv ft w → (∃ k, k₀ ≤ k ∧ k ≤ w.records.log.length ∧
        ∃ e, (w.records.after k).find name = some e ∧ e.text = text) →
        ∃ v, loads ft text = some v ∧ wellFormed name v = true := by
      rintro w hw ⟨k, -, -, e, he, rfl⟩
      exact (hw.holdsRecord he).1.loads
    refine .bind (M := fun v w => loads ft text = some v ∧ Known since k₀ names w ∧ ∃ k, k₀ ≤ k ∧
      k ≤ w.records.log.length ∧ ∃ e, (w.records.after k).find name = some e ∧ e.text = text) ?_ fun v => ?_
    · refine .orRaise (fun hnone w hw hp => ?_) fun v hv w _ hp => ⟨hv, hp⟩
      obtain ⟨v, hv, -⟩ := hreads w hw hp.2
      exact absurd (hnone.symm.trans hv) (by simp)
    · refine .bind (.raiseIf (Q := fun _ w => loads ft text = some v ∧ Known since k₀ names w ∧
        ∃ k, k₀ ≤ k ∧ k ≤ w.records.log.length ∧
          ∃ e, (w.records.after k).find name = some e ∧ e.text = text)
        (fun hbad w hw hp => ?_) fun _ w _ hp => hp) fun _ => .ret fun w _ hp => ?_
      · obtain ⟨u, hu, hwell⟩ := hreads w hw hp.2.2
        obtain rfl := Option.some.inj (hu.symm.trans hp.1)
        exact absurd (hwell.symm.trans hbad) (by simp)
      · obtain ⟨hv, hknown, k, hk, hk', e, he, htext⟩ := hp
        exact ⟨hknown, k, hk, hk', e, he, htext ▸ hv⟩

theorem readRecords_triple : ∀ names : List Text,
    (threadDiscipline ft i).Triple (Known since k₀ names) (readRecords ft names)
      (fun vs w => ReadFrom ft k₀ names vs w) (fun e _ => Excused e)
  | [] => .ret fun _ _ _ => .nil
  | name :: names => by
    refine .bind (readRecord_triple name names) fun v => ?_
    -- the record that has been read stays read while the rest is read
    have hframe := (readRecords_triple names).frame (K := fun r => ∃ other, r = .read other)
      (F := fun w => ∃ k, k₀ ≤ k ∧ k ≤ w.records.log.length ∧ HasRecord ft (w.records.after k) name v)
      (fun w w' _ _ hd hF => by
        obtain ⟨k, hk, hk', hrecord⟩ := hF
        refine ⟨k, hk, Nat.le_trans hk' hd.later.records.length_le, ?_⟩
        rw [hd.later.records.after_eq hk']
        exact hrecord)
      (fun r c w hr _ _ hF => by
        obtain ⟨other, rfl⟩ := hr
        exact hF) (readRecords_issues names)
    refine .bind (hframe.mono (fun _ _ h => h) (fun _ _ _ h => h) fun _ _ _ h => h.1) fun vs => ?_
    exact .ret fun w _ h => .cons h.2 h.1
where
  readRecords_issues : ∀ names : List Text,
      (readRecords ft names).Issues fun r => ∃ other, r = .read other := by
    intro names
    induction names with
    | nil => trivial
    | cons name names ih =>
      refine Prog.Issues.bind (Prog.Issues.bind (Prog.Issues.bind ?_ fun _ => by simp) fun _ => ?_)
        fun _ => Prog.Issues.bind ih fun _ => trivial
      · simp
      · exact Prog.Issues.bind (by simp) fun _ => Prog.Issues.bind (by simp) fun _ => trivial

/-- The names of the moment of the listing stand for records from then on. -/
theorem list_triple {P : World ι → Prop} (hP : (threadDiscipline ft i).Stable P) :
    (threadDiscipline ft i).Triple P (perform .list)
      (fun (names : List Text) w => P w ∧ names = recordNames (w.records.after w.records.log.length).names)
      (fun e _ => Excused e) := by
  refine performOr_triple hP (fun w _ _ => trivial) (fun c w _ hp _ names ha => ?_) fun _ => trivial
  cases hfails : c.fails with
  | true => simp [exec, hfails] at ha
  | false =>
    simp only [exec, hfails, Bool.false_eq_true, if_false, Option.some.injEq] at ha ⊢
    exact ⟨hp, by rw [← ha, recordNames_names]; rfl⟩

omit [DecidableEq ι] in
/-- The listed names are known. -/
theorem Known.of_list {w : World ι} (h : Later since w) :
    Known since w.records.log.length (recordNames (w.records.after w.records.log.length).names) w :=
  ⟨h, Nat.le_refl _, fun _ hname => Directory.mem_names.mp (mem_recordNames hname)⟩

/-- The loop, from the moment of the listing on. A condition that others and reading keep holds at its
end too. -/
theorem readRecords_from {w : World ι} (hw : Inv ft w) (hlater : Later since w) {F : World ι → Prop}
    (hF : (threadDiscipline ft i).Stable F) (hFw : F w) :
    (threadDiscipline ft i).Runs (fun vs u => (Later w u ∧ F u) ∧
        ReadFrom ft w.records.log.length (recordNames (w.records.after w.records.log.length).names) vs u)
      (fun e _ => Excused e)
      (readRecords ft (recordNames (w.records.after w.records.log.length).names)) w := by
  have hread : (threadDiscipline ft i).Runs _ _ _ w := readRecords_triple _ w hw (Known.of_list hlater)
  have hframe := (Discipline.Triple.frame (d := threadDiscipline ft i) (P := fun u => u = w)
    (F := fun u => Later w u ∧ F u) (K := fun r => ∃ other, r = Request.read other)
    (fun u u' hu hu' hd h => ⟨h.1.trans hd.later, hF u u' hu hu' hd h.2⟩)
    (fun r c u hr _ _ h => by
      obtain ⟨other, rfl⟩ := hr
      exact h)
    (p := readRecords ft (recordNames (w.records.after w.records.log.length).names))
    (fun u hu heq => by subst heq; exact hread) (readRecords_triple.readRecords_issues _)) w hw
    ⟨rfl, .refl w, hFw⟩
  exact hframe.mono_post (fun vs u hu => ⟨hu.1, hu.2.2, hu.2.1⟩) fun e u hu => ⟨hu.1, hu.2.1⟩

theorem listAndRead_triple :
    (threadDiscipline ft i).Triple (Later since)
      ((perform .list).bind fun (names : List Text) => readRecords ft names)
      (fun vs w => Read ft since vs w) (fun e _ => Excused e) := by
  refine .bind (list_triple (stable_later since)) fun names => ?_
  intro w hw hp
  obtain ⟨hlater, rfl⟩ := hp
  refine (readRecords_from hw hlater (Discipline.Stable.const True) trivial).mono_post
    (fun vs u hu => ⟨hu.1, w.records.log.length, hlater.records.length_le,
      hu.2.1.1.records.length_le, ?_⟩) fun _ _ h => h
  rw [hu.2.1.1.records.after_eq (Nat.le_refl _)]
  exact hu.2.2

/-- With the lock, nothing is replaced between the listing and the last read. -/
theorem listAndRead_locked_triple :
    (threadDiscipline ft i).Triple (fun w => Later since w ∧ i ∈ w.shared)
      ((perform .list).bind fun (names : List Text) => readRecords ft names)
      (fun vs w => Snapshot ft since vs w) (fun e _ => Excused e) := by
  have hshared : (threadDiscipline ft i).Stable fun w : World ι => i ∈ w.shared := stable_holdsLock false
  refine .bind (list_triple ((stable_later since).and hshared)) fun names => ?_
  intro w hw hp
  obtain ⟨⟨hlater, hlocked⟩, rfl⟩ := hp
  have hF : (threadDiscipline ft i).Stable fun u : World ι =>
      i ∈ u.shared ∧ u.records.log = w.records.log :=
    fun u u' _ _ hd h => ⟨hd.shared h.1, (hd.locked (.inl h.1)).trans h.2⟩
  refine (readRecords_from hw hlater hF ⟨hlocked, rfl⟩).mono_post (fun vs u hu =>
    ⟨hu.1, w.records.log.length, hlater.records.length_le, hu.2.1.1.records.length_le, ?_⟩) fun _ _ h => h
  rw [hu.2.1.1.records.after_eq (Nat.le_refl _)]
  refine hu.2.2.imp fun name v => ?_
  rintro ⟨k, hk, hk', hrecord⟩
  rw [hu.2.1.2.2] at hk'
  obtain rfl : k = w.records.log.length := Nat.le_antisymm hk' hk
  rwa [hu.2.1.1.records.after_eq (Nat.le_refl _)] at hrecord

/-- The contract of `load_all_readonly`. -/
theorem loadAllReadonly_triple :
    (threadDiscipline ft i).Triple (Later since) (loadAllReadonly ft)
      (fun vs w => Read ft since vs w) (fun e _ => Excused e) := by
  refine .bind (M := fun (present : Bool) w => Later since w ∧ (present = false → Read ft since [] w)) ?_
    fun present => .ite (fun _ => listAndRead_triple.pre fun w _ h => h.1) fun habsent =>
      .ret fun w _ h => h.2 (by simpa using habsent)
  refine performOr_triple (stable_later since) (fun w _ _ => trivial) (fun c w hw hp _ present ha => ?_)
    fun _ => trivial
  cases hfails : c.fails with
  | true => simp [exec, hfails] at ha
  | false =>
    simp only [exec, hfails, Bool.false_eq_true, if_false, Option.some.injEq] at ha ⊢
    refine ⟨hp, fun habsent => ⟨_, hp.records.length_le, Nat.le_refl _, ?_⟩⟩
    -- without a directory there are no records
    have hmade : w.madeLasting = false := by
      cases hlasting : w.madeLasting with
      | false => rfl
      | true => exact absurd ((hw.made hlasting).symm.trans (ha.trans habsent)) (by simp)
    obtain ⟨hbase, hlog⟩ := hw.lasting hmade
    have hempty : recordNames (w.records.after w.records.log.length).names = [] := by
      simp [Volume.after, hbase, hlog, Directory.names, recordNames]
    rw [hempty]
    exact .nil

/-- The contract of `load_all`. -/
theorem loadAll_triple (asRoot : Bool) (patience : Nat) :
    (threadDiscipline ft i).Triple (Later since) (loadAll ft asRoot patience)
      (fun vs w => Snapshot ft since vs w) (fun e _ => Excused e) := by
  refine .bind (lock_triple (fun _ => trivial) (fun _ => trivial) asRoot false patience) fun _ => ?_
  refine .andFinally (M := fun vs w => Snapshot ft since vs w) (F := fun e _ => Excused e) ?_
    (fun vs => ?_) fun e => ?_
  · exact listAndRead_locked_triple.pre fun w _ h => ⟨h.1.1, h.2⟩
  · exact perform_plain trivial (fun w w' h hp => hp.later h) fun _ => trivial
  · exact perform_plain trivial (fun _ _ _ h => h) fun _ => trivial

end StorageNode.RepairJournal
