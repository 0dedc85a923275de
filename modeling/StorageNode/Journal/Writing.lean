import StorageNode.Journal.Protocol

/-!
# What a completed save leaves behind

The contract of `save`. When it returns, the record stands under its name, and whatever a failure of the
machine leaves there is this record or one that was saved later (`save_triple`).
-/

set_option autoImplicit false

namespace StorageNode.RepairJournal

open StorageNode.Files StorageNode.Json StorageNode.Program

variable {ι : Type} [DecidableEq ι] {ft : FloatText} {i : ι}

/-- The discipline of one thread of the journal. -/
abbrev threadDiscipline (ft : FloatText) (i : ι) : Discipline (exec i) :=
  (journalProtocol ft).discipline i

/-! ## Requests -/

/-- One request: what it establishes, and what its `OSError` leaves. -/
theorem performOr_triple {P : World ι → Prop} {e : Error} {r : Request} {Q : r.Result → World ι → Prop}
    {E : Error → World ι → Prop} (hP : (threadDiscipline ft i).Stable P)
    (hA : ∀ w, Inv ft w → P w → Allowed ft i r w)
    (hQ : ∀ c w, Inv ft w → P w → Inv ft (exec i r c w).2 →
      ∀ a, (exec i r c w).1 = some a → Q a (exec i r c w).2)
    (hE : ∀ w, E e w) : (threadDiscipline ft i).Triple P (performOr e r) Q E := by
  refine Discipline.Triple.bind (M := fun a w => ∀ x, a = some x → Q x w)
    (.ask hP hA fun c w hw hp hw' => hQ c w hw hp hw') fun a => ?_
  exact .orRaise (fun _ w _ _ => hE w) fun x hx w _ h => h x hx

/-- A request that keeps a condition, whatever it answers. -/
theorem perform_keeps {P : World ι → Prop} {r : Request} {E : Error → World ι → Prop}
    (hP : (threadDiscipline ft i).Stable P) (hA : ∀ w, Inv ft w → P w → Allowed ft i r w)
    (hkeep : ∀ w w', Inv ft w → P w → Effect i w r w' → P w') (hE : ∀ w, E .os w) :
    (threadDiscipline ft i).Triple P (perform r) (fun _ => P) E :=
  performOr_triple hP hA (fun c w hw hp _ _ _ => hkeep w _ hw hp (exec_effect i r c w)) hE

/-! ## Conditions that others cannot falsify -/

theorem stable_later (since : World ι) : (threadDiscipline ft i).Stable (Later since) :=
  fun _ _ _ _ hd h => h.trans hd.later

theorem stable_lasting : (threadDiscipline ft i).Stable fun w : World ι => w.madeLasting = true :=
  fun _ _ _ _ hd h => hd.later.lasting h

theorem stable_exclusive : (threadDiscipline ft i).Stable fun w : World ι => w.exclusive = some i :=
  fun _ _ _ _ hd h => hd.exclusive h

/-- A thread's own file, with what has been written to it. -/
def Owns (i : ι) (token : Nat) (text : Text) (synced : Bool) (w : World ι) : Prop :=
  ∃ t ∈ w.temporaries, t.token = token ∧ t.owner = i ∧ t.text = text ∧ t.synced = synced

theorem stable_owns (token : Nat) (text : Text) (synced : Bool) :
    (threadDiscipline ft i).Stable (Owns i token text synced) := by
  rintro w w' _ _ hd ⟨t, ht, htoken, howner, htext⟩
  exact ⟨t, hd.temporaries t ht howner, htoken, howner, htext⟩

omit [DecidableEq ι] in
/-- Behind the token of its own file a thread finds no other file. -/
theorem Owns.only {w : World ι} {token : Nat} {text : Text} {synced : Bool} (hw : Inv ft w)
    (h : Owns i token text synced w) {t : Temporary ι} (ht : t ∈ w.temporaries)
    (htoken : t.token = token) : t.owner = i ∧ t.text = text ∧ t.synced = synced := by
  obtain ⟨u, hu, hutoken, howner, htext, hsynced⟩ := h
  obtain rfl : t = u := List.inj_on_of_nodup_map hw.distinct ht hu (htoken.trans hutoken.symm)
  exact ⟨howner, htext, hsynced⟩

/-- The record of a save, or one that was saved later. -/
def Stands (serial : Nat) (text : Text) (e : Entry ι) : Prop :=
  serial ≤ e.serial ∧ (e.serial = serial → e.text = text)

/-- The replacement with which a thread has given its text a name, since it was started. -/
structure Puts (since : World ι) (i : ι) (name text : Text) (e : Entry ι) (w : World ι) : Prop where
  logged : (name, e) ∈ w.records.log.drop since.records.log.length
  writer : e.writer = i
  text : e.text = text
  serial : e.serial < w.nextSerial

/-- The record of a save stands under its name. -/
def Installed (since : World ι) (i : ι) (name text : Text) (w : World ι) : Prop :=
  ∃ e₀, Puts since i name text e₀ w ∧
    ∃ e, w.records.current.find name = some e ∧ Stands e₀.serial text e

/-- The record of a save stands under its name for good. -/
def Saved (since : World ι) (i : ι) (name text : Text) (w : World ι) : Prop :=
  ∃ e₀, Puts since i name text e₀ w ∧ w.records.Lasting name (Stands e₀.serial text)

omit [DecidableEq ι] in
/-- Later replacements have later numbers. -/
theorem Later.stands {w w' : World ι} (h : Later w w') {serial : Nat} (hserial : serial < w.nextSerial)
    {text name : Text} : ∀ e ∈ w'.records.log.drop w.records.log.length, e.1 = name →
      Stands serial text e.2 := by
  intro e he _
  have hlate := h.fresh e he
  exact ⟨by omega, fun heq => absurd heq (by omega)⟩

omit [DecidableEq ι] in
/-- What was replaced stays replaced. -/
theorem Puts.later {since w w' : World ι} {name text : Text} {e : Entry ι}
    (h : Puts since i name text e w) (hlater : Later w w') : Puts since i name text e w' where
  logged := by
    obtain ⟨more, hmore⟩ := hlater.records.2.1
    rw [← hmore, List.drop_append]
    exact List.mem_append_left _ h.logged
  writer := h.writer
  text := h.text
  serial := Nat.lt_of_lt_of_le h.serial hlater.serial

omit [DecidableEq ι] in
theorem Installed.later {since w w' : World ι} {name text : Text} (h : Installed since i name text w)
    (hlater : Later w w') : Installed since i name text w' := by
  obtain ⟨e₀, hputs, hfound⟩ := h
  exact ⟨e₀, hputs.later hlater,
    hlater.records.find_after (hlater.stands hputs.serial) hfound hlater.records.length_le⟩

omit [DecidableEq ι] in
theorem Saved.later {since w w' : World ι} {name text : Text} (h : Saved since i name text w)
    (hlater : Later w w') : Saved since i name text w' := by
  obtain ⟨e₀, hputs, hlasting⟩ := h
  exact ⟨e₀, hputs.later hlater, hlasting.extends hlater.records (hlater.stands hputs.serial)⟩

theorem stable_installed (since : World ι) (name text : Text) :
    (threadDiscipline ft i).Stable (Installed since i name text) :=
  fun _ _ _ _ hd h => h.later hd.later

/-! ## Preparing and locking -/

/-- A request that is always allowed. -/
def Plain : Request → Prop
  | .append _ _ | .syncTemporary _ | .replace _ _ => False
  | _ => True

omit [DecidableEq ι] in
theorem Plain.allowed {r : Request} (h : Plain r) (w : World ι) : Allowed ft i r w := by
  cases r with
  | append token text => exact h.elim
  | syncTemporary token => exact h.elim
  | replace token name => exact h.elim
  | _ => trivial

/-- A request whose effects all keep what is only added to. -/
theorem perform_plain {P : World ι → Prop} {r : Request} {E : Error → World ι → Prop} (hr : Plain r)
    (hP : ∀ w w', Later w w' → P w → P w') (hE : ∀ w, E .os w) :
    (threadDiscipline ft i).Triple P (perform r) (fun _ => P) E :=
  perform_keeps (fun w w' _ _ hd h => hP w w' hd.later h) (fun w _ _ => hr.allowed w)
    (fun w w' _ h heffect => hP w w' heffect.later h) hE

/-- Making the directory of the records makes the root as well. -/
theorem makeJournal_triple {since : World ι} {E : Error → World ι → Prop} (hE : ∀ w, E .os w) :
    (threadDiscipline ft i).Triple (Later since) (perform (.makeDirectory .journal))
      (fun _ w => Later since w ∧ w.directories.root = true ∧ w.made = true) E := by
  refine performOr_triple (stable_later since) (fun w _ _ => trivial) (fun c w _ hp _ a ha => ?_) hE
  refine ⟨hp.trans (exec_effect i _ c w).later, ?_⟩
  cases hfails : c.fails with
  | true => simp [exec, hfails] at ha
  | false => simp [exec, hfails, World.made, Directories.make]

/-- The directories are there. -/
def Present (since w : World ι) : Prop :=
  Later since w ∧ w.directories.root = true ∧ w.made = true

omit [DecidableEq ι] in
theorem Present.later {since w w' : World ι} (h : Present since w) (hlater : Later w w') :
    Present since w' :=
  ⟨h.1.trans hlater, hlater.directories.root h.2.1, hlater.made h.2.2⟩

/-- The name of the root lasts once the directory above it has been synchronised. -/
theorem syncParent_triple {since : World ι} {E : Error → World ι → Prop} (hE : ∀ w, E .os w) :
    (threadDiscipline ft i).Triple (Present since) (perform (.syncDirectory .rootParent))
      (fun _ w => Present since w ∧ w.directories.rootLasting = true) E := by
  refine performOr_triple (fun w w' _ _ hd h => h.later hd.later) (fun w _ _ => trivial)
    (fun c w _ hp _ a ha => ?_) hE
  refine ⟨hp.later (exec_effect i _ c w).later, ?_⟩
  cases hfails : c.fails with
  | true => simp [exec, hfails] at ha
  | false => simp [exec, hfails, Directories.sync, hp.2.1]

/-- The directory of the records lasts once the root has been synchronised as well. -/
theorem syncRoot_triple {since : World ι} {E : Error → World ι → Prop} (hE : ∀ w, E .os w) :
    (threadDiscipline ft i).Triple (fun w => Present since w ∧ w.directories.rootLasting = true)
      (perform (.syncDirectory .root)) (fun _ w => Later since w ∧ w.madeLasting = true) E := by
  refine performOr_triple (fun w w' _ _ hd h => ⟨h.1.later hd.later, hd.later.directories.rootLasting h.2⟩)
    (fun w _ _ => trivial) (fun c w _ hp _ a ha => ?_) hE
  refine ⟨hp.1.1.trans (exec_effect i _ c w).later, ?_⟩
  obtain ⟨⟨-, -, hmade⟩, hlasting⟩ := hp
  rw [World.made] at hmade
  cases hfails : c.fails with
  | true => simp [exec, hfails] at ha
  | false => simp [exec, hfails, World.madeLasting, Directories.sync, hmade, hlasting]

theorem prepare_triple {since : World ι} {E : Error → World ι → Prop} (hE : ∀ w, E .os w)
    (asRoot : Bool) : (threadDiscipline ft i).Triple (Later since) (prepare asRoot)
      (fun _ w => Later since w ∧ w.madeLasting = true) E := by
  have hlater : ∀ w w' : World ι, Later w w' → Later since w → Later since w' := fun _ _ h h' => h'.trans h
  have hpresent : ∀ w w' : World ι, Later w w' → Present since w → Present since w' :=
    fun _ _ h h' => h'.later h
  -- the directories exist after the first round of the loop
  have hloop : (threadDiscipline ft i).Triple (Later since)
      (Prog.forEach [(Place.journal, 0o700), (Place.staging, 0o711), (Place.backups, 0o700)] fun p =>
        (perform (.makeDirectory p.1)).bind fun _ =>
        (Prog.when (asRoot = true) (perform (.setOwner p.1))).bind fun _ =>
        perform (.setMode p.1 p.2)) (fun _ => Present since) E := by
    refine .bind (M := fun _ => Present since) ?_ fun _ => ?_
    · refine .bind (makeJournal_triple hE) fun _ => ?_
      refine .bind (.when (fun _ => perform_plain trivial hpresent hE) fun _ _ _ h => h) fun _ => ?_
      exact perform_plain trivial hpresent hE
    · refine Discipline.Triple.forEach (I := fun _ => Present since) (fun p _ => ?_) _
      refine .bind (perform_plain trivial hpresent hE) fun _ => ?_
      refine .bind (.when (fun _ => perform_plain trivial hpresent hE) fun _ _ _ h => h) fun _ => ?_
      exact perform_plain trivial hpresent hE
  refine .bind (perform_plain trivial hlater hE) fun _ => ?_
  refine .bind (.when (fun _ => perform_plain trivial hlater hE) fun _ _ _ h => h) fun _ => ?_
  refine .bind (perform_plain trivial hlater hE) fun _ => ?_
  refine .bind hloop fun _ => ?_
  refine .bind (syncParent_triple hE) fun _ => ?_
  exact syncRoot_triple hE

/-- The thread holds the lock in one of its modes. -/
def HoldsLock (i : ι) (exclusive : Bool) (w : World ι) : Prop :=
  if exclusive = true then w.exclusive = some i else i ∈ w.shared

theorem stable_holdsLock (exclusive : Bool) : (threadDiscipline ft i).Stable (HoldsLock i exclusive) := by
  intro w w' _ _ hd h
  cases exclusive with
  | true => exact hd.exclusive h
  | false => exact hd.shared h

theorem waitLock_triple {P : World ι → Prop} {E : Error → World ι → Prop} (exclusive : Bool)
    (hP : ∀ w w', Later w w' → P w → P w') (hE : ∀ w, E .os w) (hwaiting : ∀ w, E .waiting w) :
    ∀ patience, (threadDiscipline ft i).Triple P (waitLock exclusive patience)
      (fun _ w => P w ∧ HoldsLock i exclusive w) E
  | 0 => .raise fun w _ _ => hwaiting w
  | patience + 1 => by
    refine .bind (M := fun granted w => P w ∧ (granted = true → HoldsLock i exclusive w)) ?_ fun granted => ?_
    · refine performOr_triple (fun w w' _ _ hd h => hP w w' hd.later h) (fun w _ _ => trivial)
        (fun c w _ hp _ granted ha => ?_) hE
      refine ⟨hP w _ (exec_effect i _ c w).later hp, fun hgranted => ?_⟩
      subst hgranted
      simp only [exec] at ha ⊢
      cases exclusive with
      | true =>
        simp only [if_true] at ha ⊢
        split_ifs at ha ⊢ with hfails hfree
        · rfl
        · exact absurd ha (by simp)
      | false =>
        simp only [Bool.false_eq_true, if_false] at ha ⊢
        split_ifs at ha ⊢ with hfails hfree
        · exact List.mem_cons_self
        · exact absurd ha (by simp)
    · exact .ite (fun hgranted => .ret fun w _ h => ⟨h.1, h.2 hgranted⟩) fun _ =>
        (waitLock_triple exclusive hP hE hwaiting patience).pre fun w _ h => h.1

theorem lock_triple {since : World ι} {E : Error → World ι → Prop} (hE : ∀ w, E .os w)
    (hwaiting : ∀ w, E .waiting w) (asRoot exclusive : Bool) (patience : Nat) :
    (threadDiscipline ft i).Triple (Later since) (lock asRoot exclusive patience)
      (fun _ w => (Later since w ∧ w.madeLasting = true) ∧ HoldsLock i exclusive w) E := by
  have hkeep : ∀ w w' : World ι, Later w w' → (Later since w ∧ w.madeLasting = true) →
      Later since w' ∧ w'.madeLasting = true := fun _ _ h h' => ⟨h'.1.trans h, h.lasting h'.2⟩
  refine .bind (prepare_triple hE asRoot) fun _ => ?_
  refine .bind (perform_plain trivial hkeep hE) fun _ => ?_
  exact waitLock_triple exclusive hkeep hE hwaiting patience

/-! ## Writing a record -/

/-- The journal is prepared and locked by the thread. -/
def Working (since : World ι) (i : ι) (w : World ι) : Prop :=
  (Later since w ∧ w.madeLasting = true) ∧ w.exclusive = some i

theorem stable_working (since : World ι) : (threadDiscipline ft i).Stable (Working since i) :=
  ((stable_later since).and stable_lasting).and stable_exclusive

/-- Only the lock itself changes who holds it. -/
theorem Effect.working {since w w' : World ι} {r : Request} (h : Effect i w r w')
    (hlock : ∀ exclusive, r ≠ .flock exclusive) (hunlock : r ≠ .closeLock) (hw : Working since i w) :
    Working since i w' := by
  refine ⟨⟨hw.1.1.trans h.later, h.later.lasting hw.1.2⟩, ?_⟩
  have hexclusive := hw.2
  cases h with
  | «exclusive» free => exact absurd rfl (hlock true)
  | shared free => exact absurd rfl (hlock false)
  | unlocked => exact absurd rfl hunlock
  | _ => exact hexclusive

variable {since : World ι}

/-- A fresh file belongs to the thread that opened it. -/
theorem openTemporary_triple (name : Text) :
    (threadDiscipline ft i).Triple (Working since i) (perform (.openTemporary name))
      (fun (token : Nat) w => Working since i w ∧ Owns i token [] false w) fun _ _ => True := by
  refine performOr_triple (stable_working since) (fun w _ _ => trivial) (fun c w _ hp _ token ha => ?_)
    fun _ => trivial
  refine ⟨(exec_effect i _ c w).working (by simp) (by simp) hp, ?_⟩
  cases hfails : c.fails with
  | true => simp [exec, hfails] at ha
  | false =>
    simp only [exec, hfails, Bool.false_eq_true, if_false, Option.some.injEq] at ha ⊢
    exact ⟨_, List.mem_cons_self, ha, rfl, rfl, rfl⟩

omit [DecidableEq ι] in
/-- What a thread writes to its file is in the file. -/
theorem Owns.change {w : World ι} {token : Nat} {text text' : Text} {synced synced' : Bool}
    (h : Owns i token text synced w) {f : Temporary ι → Temporary ι}
    (hf : ∀ t, t.text = text → t.synced = synced → (f t).token = t.token ∧ (f t).owner = t.owner ∧
      (f t).text = text' ∧ (f t).synced = synced') :
    Owns i token text' synced' (w.change token f) := by
  obtain ⟨t, ht, htoken, howner, htext, hsynced⟩ := h
  obtain ⟨hftoken, hfowner, hftext, hfsynced⟩ := hf t htext hsynced
  exact ⟨f t, World.mem_change.mpr ⟨t, ht, if_pos htoken⟩, hftoken.trans htoken, hfowner.trans howner,
    hftext, hfsynced⟩

theorem append_triple (token : Nat) (text more : Text) (synced : Bool) :
    (threadDiscipline ft i).Triple (fun w => Working since i w ∧ Owns i token text synced w)
      (perform (.append token more))
      (fun _ w => Working since i w ∧ Owns i token (text ++ more) false w) fun _ _ => True := by
  refine performOr_triple ((stable_working since).and (stable_owns token text synced))
    (fun w hw hp t ht htoken => (hp.2.only hw ht htoken).1) (fun c w hw hp _ _ ha => ?_) fun _ => trivial
  refine ⟨(exec_effect i _ c w).working (by simp) (by simp) hp.1, ?_⟩
  cases hfails : c.fails with
  | true => simp [exec, hfails] at ha
  | false =>
    simp only [exec, hfails, Bool.false_eq_true, if_false]
    exact hp.2.change fun t htext hsynced => ⟨rfl, rfl, by rw [htext], rfl⟩

theorem syncTemporary_triple (token : Nat) (text : Text) (synced : Bool) :
    (threadDiscipline ft i).Triple (fun w => Working since i w ∧ Owns i token text synced w)
      (perform (.syncTemporary token))
      (fun _ w => Working since i w ∧ Owns i token text true w) fun _ _ => True := by
  refine performOr_triple ((stable_working since).and (stable_owns token text synced))
    (fun w hw hp t ht htoken => (hp.2.only hw ht htoken).1) (fun c w hw hp _ _ ha => ?_) fun _ => trivial
  refine ⟨(exec_effect i _ c w).working (by simp) (by simp) hp.1, ?_⟩
  cases hfails : c.fails with
  | true => simp [exec, hfails] at ha
  | false =>
    simp only [exec, hfails, Bool.false_eq_true, if_false]
    exact hp.2.change fun t htext hsynced => ⟨rfl, rfl, htext, rfl⟩

/-- Giving a file that is complete and synchronised its name installs the record. -/
theorem replace_triple {name : Text} {members : Record} (hvalid : ValidRecord ft name members)
    (token : Nat) :
    (threadDiscipline ft i).Triple
      (fun w => Working since i w ∧ Owns i token (recordText ft members) true w)
      (perform (.replace token name))
      (fun _ w => Installed since i name (recordText ft members) w) fun _ _ => True := by
  refine performOr_triple ((stable_working since).and (stable_owns token _ true))
    (fun w hw hp => ⟨hp.1.2, hp.1.1.2, fun t ht htoken => ?_⟩) (fun c w hw hp _ _ ha => ?_) fun _ => trivial
  · obtain ⟨howner, htext, hsynced⟩ := hp.2.only hw ht htoken
    exact ⟨howner, hsynced, members, hvalid, htext⟩
  · cases hfails : c.fails with
    | true => simp [exec, hfails] at ha
    | false =>
      simp only [exec, hfails, Bool.false_eq_true, if_false] at ha ⊢
      cases hfound : w.temporary token with
      | none => simp [hfound] at ha
      | some t =>
        obtain ⟨hmem, htoken⟩ := World.temporary_mem hfound
        obtain ⟨howner, htext, -⟩ := hp.2.only hw hmem htoken
        -- the replacement is the newest of the log, so it lies behind the start of the save
        have hlength := hp.1.1.1.records.length_le
        have hlogged : (name, (⟨w.nextSerial, t.owner, t.text, t.synced⟩ : Entry ι)) ∈
            (w.replace t name).records.log.drop since.records.log.length := by
          rw [World.replace, Volume.replace, List.drop_append_of_le_length hlength]
          exact List.mem_append_right _ List.mem_cons_self
        refine ⟨⟨w.nextSerial, t.owner, t.text, t.synced⟩,
          ⟨hlogged, howner, htext, Nat.lt_succ_self _⟩, _, ?_, Nat.le_refl _, fun _ => htext⟩
        simp only [World.replace, Volume.current_replace, Directory.find_put, if_true]

/-- Synchronising the directory makes the record last. -/
theorem syncJournal_triple {name text : Text} :
    (threadDiscipline ft i).Triple (Installed since i name text) (perform (.syncDirectory .journal))
      (fun _ w => Saved since i name text w) fun _ _ => True := by
  refine performOr_triple (stable_installed since name text) (fun w _ _ => trivial)
    (fun c w hw hp _ _ ha => ?_) fun _ => trivial
  obtain ⟨e₀, hputs, e, hfound, hstands⟩ := hp
  cases hfails : c.fails with
  | true => simp [exec, hfails] at ha
  | false =>
    simp only [exec, hfails, Bool.false_eq_true, if_false, if_true]
    exact ⟨e₀, ⟨hputs.logged, hputs.writer, hputs.text, hputs.serial⟩, .of_sync hfound hstands⟩

theorem writeJsonAtomic_triple {name : Text} {members : Record} (hvalid : ValidRecord ft name members) :
    (threadDiscipline ft i).Triple (Working since i) (writeJsonAtomic ft name members)
      (fun _ w => Saved since i name (recordText ft members) w) fun _ _ => True := by
  refine .bind (perform_keeps (stable_working since) (fun w _ _ => trivial)
    (fun w w' _ hp h => h.working (by simp) (by simp) hp) fun _ => trivial) fun _ => ?_
  refine .bind (openTemporary_triple name) fun token => ?_
  refine .bind (append_triple token [] _ false) fun _ => ?_
  refine .bind (append_triple token _ ['\n'] false) fun _ => ?_
  refine .bind (syncTemporary_triple token _ false) fun _ => ?_
  refine .bind (M := fun _ w => Working since i w ∧ Owns i token (recordText ft members) true w) ?_
    fun _ => ?_
  · refine performOr_triple ((stable_working since).and (stable_owns token _ true))
      (fun w _ _ => trivial) (fun c w hw hp _ _ ha => ?_) fun _ => trivial
    exact ⟨(exec_effect i _ c w).working (by simp) (by simp) hp.1, hp.2⟩
  · exact .bind (replace_triple hvalid token) fun _ => syncJournal_triple

/-- The contract of `save`. -/
theorem save_triple {name : Text} {members : Record} (hvalid : ValidRecord ft name members)
    (asRoot : Bool) (patience : Nat) :
    (threadDiscipline ft i).Triple (Later since) (save ft asRoot patience members)
      (fun _ w => Saved since i name (recordText ft members) w) fun _ _ => True := by
  refine .bind (lock_triple (fun _ => trivial) (fun _ => trivial) asRoot true patience) fun _ => ?_
  refine .andFinally (M := fun _ w => Saved since i name (recordText ft members) w)
    (F := fun _ _ => True) ?_ (fun _ => ?_) fun _ => ?_
  · rw [hvalid.named]
    exact (writeJsonAtomic_triple hvalid).pre fun w _ h => h
  · exact perform_plain trivial (fun w w' h hp => hp.later h) fun _ => trivial
  · exact perform_plain trivial (fun _ _ _ _ => trivial) fun _ => trivial

end StorageNode.RepairJournal
