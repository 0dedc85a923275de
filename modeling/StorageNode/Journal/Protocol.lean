import StorageNode.Journal.Programs
import StorageNode.Program.Parallel

/-!
# What the threads of the journal rely on

The invariant of the journal and the protocol between its threads. Every file under a record name holds
a record that was written completely and synchronised before it got its name. A thread may write to its
own temporary files only, and may replace a record only while it holds the exclusive lock. It relies on
the others not to touch its files, not to take its lock, and not to replace anything while it holds the
lock in either mode.
-/

set_option autoImplicit false

namespace StorageNode.RepairJournal

open StorageNode.Files StorageNode.Json StorageNode.Program

variable {ι : Type}

/-! ## What a request does -/

section

variable [DecidableEq ι]

/-- The states that a request can lead to. -/
inductive Effect (i : ι) (w : World ι) : Request → World ι → Prop
  | unchanged (r : Request) : Effect i w r w
  | made (place : Place) :
      Effect i w (.makeDirectory place) { w with directories := w.directories.make place }
  | synced : Effect i w (.syncDirectory .journal) { w with records := w.records.sync }
  | lasting (place : Place) :
      Effect i w (.syncDirectory place) { w with directories := w.directories.sync place }
  | exclusive (free : w.exclusive = none ∧ w.shared = []) :
      Effect i w (.flock true) { w with exclusive := some i }
  | shared (free : w.exclusive = none) : Effect i w (.flock false) { w with shared := i :: w.shared }
  | unlocked : Effect i w .closeLock (w.unlock i)
  | opened (name : Text) : Effect i w (.openTemporary name)
      { w with temporaries := ⟨w.nextToken, i, name, [], false⟩ :: w.temporaries
               nextToken := w.nextToken + 1 }
  | appended (token : Nat) (text written : Text) : Effect i w (.append token text)
      (w.change token fun t => { t with text := t.text ++ written, synced := false })
  | fileSynced (token : Nat) : Effect i w (.syncTemporary token)
      (w.change token fun t => { t with synced := true })
  | replaced (token : Nat) (name : Text) (t : Temporary ι) (found : w.temporary token = some t) :
      Effect i w (.replace token name) (w.replace t name)

theorem exec_effect (i : ι) (r : Request) (c : Choice) (w : World ι) :
    Effect i w r (exec i r c w).2 := by
  cases r with
  | makeDirectory place =>
    simp only [exec]
    split_ifs
    · exact .unchanged _
    · exact .made _
  | syncDirectory place =>
    simp only [exec]
    split_ifs with hfails hjournal
    · exact .unchanged _
    · subst hjournal
      exact .synced
    · exact .lasting _
  | flock exclusive =>
    cases exclusive with
    | true =>
      simp only [exec, if_true]
      split_ifs with hfails hfree
      · exact .unchanged _
      · exact .exclusive hfree
      · exact .unchanged _
    | false =>
      simp only [exec, Bool.false_eq_true, if_false]
      split_ifs with hfails hfree
      · exact .unchanged _
      · exact .shared hfree
      · exact .unchanged _
  | closeLock => exact .unlocked
  | openTemporary name =>
    simp only [exec]
    split_ifs
    · exact .unchanged _
    · exact .opened name
  | append token text => exact .appended token text _
  | syncTemporary token =>
    simp only [exec]
    split_ifs
    · exact .unchanged _
    · exact .fileSynced token
  | replace token name =>
    simp only [exec]
    split_ifs
    · exact .unchanged _
    · cases hfound : w.temporary token with
      | none => exact .unchanged _
      | some t => exact .replaced token name t hfound
  | setOwner place => exact .unchanged _
  | setMode place mode => exact .unchanged _
  | openLock => exact .unchanged _
  | setTemporaryMode token mode => exact .unchanged _
  | journalExists => exact .unchanged _
  | list => exact .unchanged _
  | read name => exact .unchanged _

end

/-! ## Directories -/

namespace Directories

/-- What exists goes on existing, and what lasts goes on lasting. -/
structure Grows (d d' : Directories) : Prop where
  root : d.root = true → d'.root = true
  rootLasting : d.rootLasting = true → d'.rootLasting = true
  journal : d.journal = true → d'.journal = true
  journalLasting : d.journalLasting = true → d'.journalLasting = true

/-- Only what exists lasts, and the directory of the records is inside the root. -/
structure Sound (d : Directories) : Prop where
  root : d.rootLasting = true → d.root = true
  journal : d.journalLasting = true → d.journal = true
  inside : d.journal = true → d.root = true

variable {d : Directories}

theorem Grows.refl (d : Directories) : Grows d d := ⟨id, id, id, id⟩

theorem Grows.trans {d d' d'' : Directories} (h : Grows d d') (h' : Grows d' d'') : Grows d d'' :=
  ⟨h'.root ∘ h.root, h'.rootLasting ∘ h.rootLasting, h'.journal ∘ h.journal,
    h'.journalLasting ∘ h.journalLasting⟩

theorem grows_make (d : Directories) (place : Place) : Grows d (d.make place) := by
  cases place with
  | rootParent => exact .refl d
  | journal => exact ⟨fun _ => rfl, id, fun _ => rfl, id⟩
  | _ => exact ⟨fun _ => rfl, id, id, id⟩

theorem grows_sync (d : Directories) (place : Place) : Grows d (d.sync place) := by
  cases place with
  | rootParent => exact ⟨id, fun h => by simp [sync, h], id, id⟩
  | root => exact ⟨id, id, id, fun h => by simp [sync, h]⟩
  | _ => exact .refl d

theorem Sound.make (h : d.Sound) (place : Place) : (d.make place).Sound := by
  cases place with
  | rootParent => exact h
  | journal => exact ⟨fun _ => rfl, fun _ => rfl, fun _ => rfl⟩
  | _ => exact ⟨fun _ => rfl, h.journal, fun _ => rfl⟩

theorem Sound.sync (h : d.Sound) (place : Place) : (d.sync place).Sound := by
  cases place with
  | rootParent =>
    refine ⟨fun hlasting => ?_, h.journal, h.inside⟩
    exact (Bool.or_eq_true _ _ ▸ hlasting).elim id h.root
  | root =>
    refine ⟨h.root, fun hlasting => ?_, h.inside⟩
    exact (Bool.or_eq_true _ _ ▸ hlasting).elim id h.journal
  | _ => exact h

end Directories

/-! ## The invariant -/

/-- A record that the journal accepts under a name, and whose text is read back. -/
structure ValidRecord (ft : FloatText) (name : Text) (members : Record) : Prop where
  readable : Readable ft (.object members)
  named : recordName members = some name
  component : '/' ∉ name
  wellFormed : wellFormed name (.object members) = true

/-- A file that holds a record. -/
structure HoldsRecord (ft : FloatText) (name : Text) (e : Entry ι) : Prop where
  synced : e.synced = true
  text : ∃ members, ValidRecord ft name members ∧ e.text = recordText ft members

/-- The invariant. -/
structure Inv (ft : FloatText) (w : World ι) : Prop where
  base : ∀ name e, w.records.base.find name = some e → HoldsRecord ft name e ∧ e.serial < w.nextSerial
  log : ∀ e ∈ w.records.log, HoldsRecord ft e.1 e.2 ∧ e.2.serial < w.nextSerial
  lock : w.exclusive ≠ none → w.shared = []
  tokens : ∀ t ∈ w.temporaries, t.token < w.nextToken
  distinct : (w.temporaries.map Temporary.token).Nodup
  directories : w.directories.Sound
  lasting : w.madeLasting = false → w.records.base = [] ∧ w.records.log = []

/-- A directory that lasts exists. -/
theorem Inv.made {ft : FloatText} {w : World ι} (h : Inv ft w) (hlasting : w.madeLasting = true) :
    w.made = true := by
  rw [World.madeLasting, Bool.and_eq_true] at hlasting
  exact h.directories.journal hlasting.2

/-- What stands under a name at any moment is a record. -/
theorem Inv.holdsRecord {ft : FloatText} {w : World ι} (h : Inv ft w) {k : Nat} {name : Text}
    {e : Entry ι} (he : (w.records.after k).find name = some e) :
    HoldsRecord ft name e ∧ e.serial < w.nextSerial := by
  rw [Volume.after, Directory.find_append] at he
  cases hlog : Directory.find (w.records.log.take k) name with
  | none => exact h.base name e (by simpa [hlog] using he)
  | some x =>
    obtain rfl : x = e := by simpa [hlog] using he
    exact h.log _ (List.mem_of_mem_take (Directory.mem_of_find hlog))

/-! ## Time -/

/-- A later state of the same journal, with nothing taken back. -/
structure Later (w w' : World ι) : Prop where
  records : w.records.Extends w'.records
  fresh : ∀ e ∈ w'.records.log.drop w.records.log.length, w.nextSerial ≤ e.2.serial
  serial : w.nextSerial ≤ w'.nextSerial
  directories : w.directories.Grows w'.directories

theorem Later.refl (w : World ι) : Later w w :=
  ⟨.refl _, by simp, Nat.le_refl _, .refl _⟩

theorem Later.made {w w' : World ι} (h : Later w w') : w.made = true → w'.made = true :=
  h.directories.journal

theorem Later.lasting {w w' : World ι} (h : Later w w') (hw : w.madeLasting = true) :
    w'.madeLasting = true := by
  rw [World.madeLasting, Bool.and_eq_true] at hw ⊢
  exact ⟨h.directories.rootLasting hw.1, h.directories.journalLasting hw.2⟩

theorem Later.trans {u v w : World ι} (h : Later u v) (h' : Later v w) : Later u w where
  records := h.records.trans h'.records
  fresh e he := by
    -- what was added since `u` was added up to `v`, or since
    obtain ⟨more, hmore⟩ := h'.records.2.1
    rw [← hmore, List.drop_append_of_le_length h.records.length_le] at he
    rcases List.mem_append.mp he with he | he
    · exact h.fresh e he
    · have hdrop : w.records.log.drop v.records.log.length = more := by
        rw [← hmore, List.drop_left]
      exact Nat.le_trans h.serial (h'.fresh e (hdrop ▸ he))
  serial := Nat.le_trans h.serial h'.serial
  directories := h.directories.trans h'.directories

/-- A state with the same records. -/
theorem Later.of_records_eq {w w' : World ι} (hrecords : w'.records = w.records)
    (hserial : w'.nextSerial = w.nextSerial) (hdirectories : w.directories.Grows w'.directories) :
    Later w w' where
  records := by rw [hrecords]; exact .refl _
  fresh := by simp [hrecords]
  serial := by rw [hserial]
  directories := hdirectories

theorem World.madeLasting_of_grows {w : World ι} {d : Directories} (hgrows : w.directories.Grows d)
    (hnot : (d.rootLasting && d.journalLasting) = false) : w.madeLasting = false := by
  by_contra hlasting
  rw [Bool.not_eq_false, World.madeLasting, Bool.and_eq_true] at hlasting
  rw [hgrows.rootLasting hlasting.1, hgrows.journalLasting hlasting.2] at hnot
  cases hnot

variable [DecidableEq ι]

/-- A request takes nothing back. -/
theorem Effect.later {i : ι} {w w' : World ι} {r : Request} (h : Effect i w r w') : Later w w' := by
  cases h with
  | unchanged => exact .refl _
  | made place => exact .of_records_eq rfl rfl (Directories.grows_make _ _)
  | synced => exact ⟨.sync _, by simp [Volume.sync], Nat.le_refl _, .refl _⟩
  | lasting place => exact .of_records_eq rfl rfl (Directories.grows_sync _ _)
  | «exclusive» free => exact .of_records_eq rfl rfl (.refl _)
  | shared free => exact .of_records_eq rfl rfl (.refl _)
  | unlocked => exact .of_records_eq rfl rfl (.refl _)
  | opened name => exact .of_records_eq rfl rfl (.refl _)
  | appended token text written => exact .of_records_eq rfl rfl (.refl _)
  | fileSynced token => exact .of_records_eq rfl rfl (.refl _)
  | replaced token name t found =>
    refine ⟨.replace _ _ _, fun e he => ?_, Nat.le_succ _, .refl _⟩
    rw [World.replace, Volume.replace, List.drop_left, List.mem_singleton] at he
    rw [he]

/-! ## The protocol -/

/-- What thread `i` may rely on while others run. -/
structure Undisturbed (i : ι) (w w' : World ι) : Prop where
  later : Later w w'
  exclusive : w.exclusive = some i → w'.exclusive = some i
  shared : i ∈ w.shared → i ∈ w'.shared
  locked : i ∈ w.shared ∨ w.exclusive = some i → w'.records.log = w.records.log
  temporaries : ∀ t ∈ w.temporaries, t.owner = i → t ∈ w'.temporaries

omit [DecidableEq ι] in
theorem Undisturbed.refl (i : ι) (w : World ι) : Undisturbed i w w :=
  ⟨.refl w, id, id, fun _ => rfl, fun _ ht _ => ht⟩

omit [DecidableEq ι] in
theorem Undisturbed.trans {i : ι} {u v w : World ι} (h : Undisturbed i u v) (h' : Undisturbed i v w) :
    Undisturbed i u w where
  later := h.later.trans h'.later
  exclusive hu := h'.exclusive (h.exclusive hu)
  shared hu := h'.shared (h.shared hu)
  locked hu := (h'.locked (hu.imp h.shared h.exclusive)).trans (h.locked hu)
  temporaries t ht hi := h'.temporaries t (h.temporaries t ht hi) hi

/-- What thread `i` may do. -/
def Allowed (ft : FloatText) (i : ι) : Request → World ι → Prop
  | .append token _, w | .syncTemporary token, w =>
    ∀ t ∈ w.temporaries, t.token = token → t.owner = i
  | .replace token name, w => w.exclusive = some i ∧ w.madeLasting = true ∧
    ∀ t ∈ w.temporaries, t.token = token → t.owner = i ∧ t.synced = true ∧
      ∃ members, ValidRecord ft name members ∧ t.text = recordText ft members
  | _, _ => True

omit [DecidableEq ι] in
theorem World.temporary_mem {w : World ι} {token : Nat} {t : Temporary ι}
    (h : w.temporary token = some t) : t ∈ w.temporaries ∧ t.token = token :=
  ⟨List.mem_of_find?_eq_some h, by simpa using List.find?_some h⟩

omit [DecidableEq ι] in
theorem World.mem_change {w : World ι} {token : Nat} {f : Temporary ι → Temporary ι} {t : Temporary ι} :
    t ∈ (w.change token f).temporaries ↔
      ∃ u ∈ w.temporaries, (if u.token = token then f u else u) = t := by
  simp [World.change]

omit [DecidableEq ι] in
/-- Writing to a file changes no token. -/
theorem Inv.change {ft : FloatText} {w : World ι} (h : Inv ft w) (token : Nat)
    {f : Temporary ι → Temporary ι} (hf : ∀ t, (f t).token = t.token) : Inv ft (w.change token f) where
  base := h.base
  log := h.log
  lock := h.lock
  tokens t ht := by
    obtain ⟨u, hu, rfl⟩ := World.mem_change.mp ht
    have hu := h.tokens u hu
    split
    · rw [hf]
      exact hu
    · exact hu
  distinct := by
    have heq : (w.change token f).temporaries.map Temporary.token = w.temporaries.map Temporary.token := by
      rw [World.change, List.map_map]
      refine List.map_congr_left fun t _ => ?_
      simp only [Function.comp]
      split
      · exact hf t
      · rfl
    rw [heq]
    exact h.distinct
  directories := h.directories
  lasting := h.lasting

/-- The invariant is kept. -/
theorem Effect.inv {ft : FloatText} {i : ι} {w w' : World ι} {r : Request} (h : Inv ft w)
    (hallowed : Allowed ft i r w) (heffect : Effect i w r w') : Inv ft w' := by
  cases heffect with
  | unchanged => exact h
  | made place =>
    refine { h with
      directories := h.directories.make place
      lasting := fun hnot => h.lasting (World.madeLasting_of_grows (Directories.grows_make _ place) hnot) }
  | synced => exact { h with }
  | lasting place =>
    refine { h with
      directories := h.directories.sync place
      lasting := fun hnot => h.lasting (World.madeLasting_of_grows (Directories.grows_sync _ place) hnot) }
  | «exclusive» free => exact { h with lock := fun _ => free.2 }
  | shared free => exact { h with lock := fun hne => absurd free hne }
  | unlocked =>
    refine { h with lock := fun hne => ?_ }
    have hlocked : w.exclusive ≠ none := by
      intro hnone
      simp [World.unlock, hnone] at hne
    simp [World.unlock, h.lock hlocked]
  | opened name =>
    refine { h with tokens := fun t ht => ?_, distinct := ?_ }
    · rcases List.mem_cons.mp ht with rfl | ht
      · exact Nat.lt_succ_self _
      · exact Nat.lt_succ_of_lt (h.tokens t ht)
    · rw [List.map_cons, List.nodup_cons]
      refine ⟨fun hmem => ?_, h.distinct⟩
      obtain ⟨t, ht, heq⟩ := List.mem_map.mp hmem
      exact absurd (h.tokens t ht) (by rw [heq]; exact Nat.lt_irrefl _)
  | appended token text written => exact h.change token fun _ => rfl
  | fileSynced token => exact h.change token fun _ => rfl
  | replaced token name t found =>
    obtain ⟨hmem, htoken⟩ := World.temporary_mem found
    obtain ⟨-, hlasting, hall⟩ := hallowed
    obtain ⟨-, hsynced, htext⟩ := hall t hmem htoken
    -- the new entry is complete by the permission, and its number is used up
    exact {
      base := fun name e he => ⟨(h.base name e he).1, Nat.lt_succ_of_lt (h.base name e he).2⟩
      log := fun e he => by
        rcases List.mem_append.mp he with he | he
        · exact ⟨(h.log e he).1, Nat.lt_succ_of_lt (h.log e he).2⟩
        · obtain rfl := List.mem_singleton.mp he
          exact ⟨⟨hsynced, htext⟩, Nat.lt_succ_self _⟩
      lock := h.lock
      tokens := fun u hu => h.tokens u (List.mem_of_mem_filter hu)
      distinct := h.distinct.sublist (List.filter_sublist.map _)
      directories := h.directories
      lasting := fun hnot => absurd (hlasting.symm.trans hnot) (by simp) }

/-- The other threads tolerate what a thread may do. -/
theorem Effect.tolerated {ft : FloatText} {i j : ι} {w w' : World ι} {r : Request} (hij : i ≠ j)
    (h : Inv ft w) (hallowed : Allowed ft i r w) (heffect : Effect i w r w') : Undisturbed j w w' := by
  have hlater := heffect.later
  cases heffect with
  | unchanged => exact .refl j w
  | made place => exact ⟨hlater, id, id, fun _ => rfl, fun _ ht _ => ht⟩
  | synced => exact ⟨hlater, id, id, fun _ => rfl, fun _ ht _ => ht⟩
  | lasting place => exact ⟨hlater, id, id, fun _ => rfl, fun _ ht _ => ht⟩
  | «exclusive» free =>
    exact ⟨hlater, fun hj => absurd (free.1.symm.trans hj) (by simp), id, fun _ => rfl, fun _ ht _ => ht⟩
  | shared free =>
    exact ⟨hlater, id, List.mem_cons_of_mem _, fun _ => rfl, fun _ ht _ => ht⟩
  | unlocked =>
    refine ⟨hlater, fun hj => ?_, fun hj => ?_, fun _ => rfl, fun _ ht _ => ht⟩
    · have hne : w.exclusive ≠ some i := fun hi => hij (Option.some.inj (hi.symm.trans hj))
      simpa [World.unlock, hne] using hj
    · simp [World.unlock, hj, Ne.symm hij]
  | opened name => exact ⟨hlater, id, id, fun _ => rfl, fun t ht _ => List.mem_cons_of_mem _ ht⟩
  | appended token text written =>
    refine ⟨hlater, id, id, fun _ => rfl, fun t ht hj => World.mem_change.mpr ⟨t, ht, if_neg ?_⟩⟩
    exact fun htoken => hij ((hallowed t ht htoken).symm.trans hj)
  | fileSynced token =>
    refine ⟨hlater, id, id, fun _ => rfl, fun t ht hj => World.mem_change.mpr ⟨t, ht, if_neg ?_⟩⟩
    exact fun htoken => hij ((hallowed t ht htoken).symm.trans hj)
  | replaced token name t found =>
    obtain ⟨hexclusive, -, hall⟩ := hallowed
    obtain ⟨hmem, htoken⟩ := World.temporary_mem found
    refine ⟨hlater, id, id, fun hlock => ?_, fun u hu hj => ?_⟩
    · -- the thread that replaces holds the exclusive lock, so no other thread holds any
      rcases hlock with hshared | hother
      · rw [h.lock (by rw [hexclusive]; simp)] at hshared
        exact absurd hshared (by simp)
      · exact absurd (Option.some.inj (hexclusive.symm.trans hother)) hij
    · refine List.mem_filter.mpr ⟨hu, ?_⟩
      have hne : u.token ≠ t.token := fun heq =>
        hij ((hall u hu (heq.trans htoken)).1.symm.trans hj)
      simpa using hne

/-- The protocol of the journal. -/
def journalProtocol (ft : FloatText) : Protocol (exec (ι := ι)) where
  inv := Inv ft
  disturb := Undisturbed
  allow := Allowed ft
  refl := .refl
  trans _ _ _ _ := .trans
  keeps i r c w hw hallowed := (exec_effect i r c w).inv hw hallowed
  tolerated i _ r c w hij hw hallowed := (exec_effect i r c w).tolerated hij hw hallowed

end StorageNode.RepairJournal
