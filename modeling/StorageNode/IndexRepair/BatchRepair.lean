import StorageNode.IndexRepair.Stamps
import StorageNode.IndexRepair.Watch

/-!
# A batch of repairs

`repair_detected` repairs every volume of a status, collects the `IndexRepairError`s, and returns when
at least one transaction awaits validation. For one volume there are three ends (`repairOne_ends`):
the candidate is installed; the live files are untouched; or the read-back of the fresh index failed
and the record stays in `installing_candidate`, with the candidate live. The last one is an
`IndexRepairError` like the second, so the batch cannot tell them apart.

A flag in the state records whether a read-back failed (`readBackFails`). Before the installation a
repair leaves live files alone and saves no record in `installing_candidate`; that part is an instance
of `RecordRules`.
-/

set_option autoImplicit false

namespace StorageNode.IndexRepair

open StorageNode.Program StorageNode.IndexHelper RepairProg

variable {D : Type}

/-- The live files are those of `w₀`, and no installation is open. -/
structure LiveKept (w₀ w : World D) : Prop where
  live : ∀ base, w.files (.liveIdx base) = w₀.files (.liveIdx base) ∧
    w.files (.liveSdx base) = w₀.files (.liveSdx base)
  journal : ∀ t ∈ w.journal, OriginOk t ∧ t.phase ≠ .installingCandidate

/-- The volume's index is the candidate of a transaction that awaits validation, and there is no
sorted index. -/
def InstalledAt (sha256 : Bytes → D) (base : Base) (w : World D) : Prop :=
  ∃ t ∈ w.journal, t.id.base = base ∧ t.phase = .awaitingUpstreamValidation ∧
    (∃ digest, t.candidateIdx = some digest ∧ fileDigest sha256 w (.liveIdx base) = some digest) ∧
    w.files (.liveSdx base) = none

variable [DecidableEq D]

/-- Requests in a world with the flag. -/
abbrev watchedExec (sha256 : Bytes → D) :=
  flagged (repairExec sha256) readBackFails

/-- The part of a repair before the installation. -/
def beforeDiscipline (sha256 : Bytes → D) (w₀ : World D) : Discipline (watchedExec sha256) where
  inv s := s.2 = false ∧ LiveKept w₀ s.1
  disturb := Eq
  allow r _ := r.OffLive ∧ ∀ t, r.saves = some t → OriginOk t ∧ t.phase ≠ .installingCandidate
  refl _ := rfl
  trans _ _ _ := Eq.trans
  keeps r c s hs hr := by
    obtain ⟨hflag, hs⟩ := hs
    refine ⟨?_, fun base => ?_, fun t ht => ?_⟩
    · have hread : readBackFails r c s.1 = false :=
        readBackFails_eq_false fun t ht => (hs.journal t ht).2
      simp only [flagged, hread, hflag, Bool.or_self]
    · have hidx := repairExec_files sha256 c s.1 (hr.1 base).1
      have hsdx := repairExec_files sha256 c s.1 (hr.1 base).2
      exact ⟨hidx.trans (hs.live base).1, hsdx.trans (hs.live base).2⟩
    · rcases repairExec_journal sha256 r c s.1 with heq | ⟨u, hu, heq⟩
      · exact hs.journal t (heq ▸ ht)
      · have ht' : t ∈ saveTransaction s.1.journal u := heq ▸ ht
        rcases mem_saveTransaction.1 ht' with ⟨ht', -⟩ | rfl
        · exact hs.journal t ht'
        · exact hr.2 t hu

section

variable {sha256 : Bytes → D} {w₀ : World D}

theorem before_stable (P : World D × Bool → Prop) : (beforeDiscipline sha256 w₀).Stable P := by
  rintro s _ - - rfl h
  exact h

/-- A save of a record whose installation is not open. -/
theorem save_before {kind : SaveKind} {t : Transaction D} (ht : OriginOk t)
    (hphase : t.phase ≠ .installingCandidate) :
    Yields (beforeDiscipline sha256 w₀) (must (trySave kind t)) fun _ => True := by
  refine Yields.bind (Φ := fun _ => True) ?_ fun saved _ => Yields.raiseIf.post fun _ _ => trivial
  refine Discipline.Triple.ask (before_stable _) (fun s _ _ => ⟨fun _ => ⟨id, id⟩, ?_⟩)
    fun _ _ _ _ _ => trivial
  intro u hu
  obtain rfl := Option.some.inj hu
  exact ⟨ht, hphase⟩

theorem look_before {r : RepairReq D} (h : r.looks = true) :
    Yields (beforeDiscipline sha256 w₀) (Prog.ask r) fun _ => True := by
  have hquiet := RepairReq.quiet_of_looks r h
  refine Discipline.Triple.ask (before_stable _) (fun s _ _ => ⟨hquiet.2, fun t ht => ?_⟩)
    fun _ _ _ _ _ => trivial
  exact absurd (hquiet.1.symm.trans ht) (by simp)

theorem beforeRules : RecordRules (beforeDiscipline sha256 w₀) fun _ _ => True where
  quiet r s hr _ := ⟨hr.2, fun t ht => absurd (hr.1.symm.trans ht) (by simp)⟩
  transition t phase ht hphase := by
    refine (look_before (r := .now) rfl).bind fun at_ _ => ?_
    refine Yields.bind (save_before ?_ hphase) fun _ _ => Yields.ret ⟨at_, rfl⟩
    exact ht.moved ⟨rfl, rfl, rfl, rfl⟩
  create authorized base payload hpayload := by
    refine (look_before (r := .now) rfl).bind fun at_ _ => ?_
    refine Yields.bind (Φ := fun id : TxId => id.base = base) ?_ fun id hid => ?_
    · refine Discipline.Triple.ask (before_stable _) (fun s _ _ => ⟨fun _ => ⟨id, id⟩, fun t ht => ?_⟩)
        fun c s _ _ _ => rfl
      -- choosing an identifier saves no record
      exact absurd ht (by simp [RepairReq.saves])
    · obtain ⟨horigin, hphase, -⟩ := hpayload id at_ hid
      refine Yields.bind (save_before horigin ?_) fun _ _ => Yields.ret ⟨id, at_, hid, rfl⟩
      rw [hphase]
      simp
  transactions := by
    refine Discipline.Triple.bind (M := fun answer s => ∀ ts, answer = some ts →
      ∀ t ∈ ts, OriginOk t ∧ True) ?_ fun answer =>
        Discipline.Triple.orRaise (fun _ _ _ _ => trivial) fun ts hts s _ h => h ts hts
    refine Discipline.Triple.ask (before_stable _) (fun s _ _ => ⟨fun _ => ⟨id, id⟩, fun t ht => ?_⟩)
      fun c s hs _ _ ts hts t ht => ?_
    · exact absurd ht (by simp [RepairReq.saves])
    · have hload : (repairExec sha256 .load c s.1).1 = some ts := hts
      -- the records that were loaded are those of the journal
      rw [repairExec_load hload] at ht
      exact ⟨(hs.2.journal t ht).1, trivial⟩
  consume t refusal ht hphase := by
    refine Yields.bind (d := beforeDiscipline sha256 w₀) (Φ := fun _ => True)
      (Yields.raiseIf.post fun _ _ => trivial) fun _ _ => ?_
    refine save_before (ht.moved ⟨rfl, rfl, rfl, rfl⟩) ?_
    rw [hphase]
    simp

end

/-! ## How a repair ends -/

/-- After an `IndexRepairError` nothing has happened to the live files, or a read-back has failed and
the installation is still open. -/
def Lost (w₀ : World D) (e : RepairExc D) (s : World D × Bool) : Prop :=
  e.isRepairError = true → s.2 = false ∧ LiveKept w₀ s.1 ∨
    s.2 = true ∧ ∃ t ∈ s.1.journal, t.phase = .installingCandidate

/-- A contract between worlds in which no read-back has failed. -/
def Ends (sha256 : Bytes → D) (w₀ : World D) {α : Type} (P : World D → Prop) (p : RepairProg D α)
    (Q : α → World D → Prop) : Prop :=
  Hoare (watchedExec sha256) (fun s => s.2 = false ∧ P s.1) p (fun a s => s.2 = false ∧ Q a s.1)
    (Lost w₀)

section

variable {sha256 : Bytes → D} {w₀ : World D} {P : World D → Prop} {α β : Type}

/-- What the rules for records give. -/
theorem Ends.of_yields {p : RepairProg D α} {Φ : α → Prop}
    (h : Yields (beforeDiscipline sha256 w₀) p Φ) :
    Ends sha256 w₀ (LiveKept w₀) p fun a w => Φ a ∧ LiveKept w₀ w :=
  Discipline.Triple.mono h.hoare (fun _ _ h => ⟨h, trivial⟩) (fun _ _ _ h => ⟨h.1.1, h.2, h.1.2⟩)
    fun _ _ _ h _ => .inl h.1

theorem Ends.bind {M : α → World D → Prop} {Q : β → World D → Prop} {p : RepairProg D α}
    {f : α → RepairProg D β} (hp : Ends sha256 w₀ P p M)
    (hf : ∀ a, Ends sha256 w₀ (M a) (f a) Q) : Ends sha256 w₀ P (p.bind f) Q :=
  Unflagged.bind hp hf

/-- A fact about a value moves into the context. -/
theorem Ends.assume {φ : Prop} {p : RepairProg D α} {Q : α → World D → Prop}
    (h : φ → Ends sha256 w₀ P p Q) : Ends sha256 w₀ (fun w => φ ∧ P w) p Q :=
  Unflagged.assume h

theorem Ends.ret {a : α} {Q : α → World D → Prop} (h : ∀ w, P w → Q a w) :
    Ends sha256 w₀ P (.ret a) Q :=
  Unflagged.ret h

theorem Ends.post {p : RepairProg D α} {Q Q' : α → World D → Prop} (h : Ends sha256 w₀ P p Q)
    (hQ : ∀ a w, Q a w → Q' a w) : Ends sha256 w₀ P p Q' :=
  Unflagged.post h hQ

theorem Ends.pre {p : RepairProg D α} {P' : World D → Prop} {Q : α → World D → Prop}
    (h : Ends sha256 w₀ P p Q) (hP : ∀ w, P' w → P w) : Ends sha256 w₀ P' p Q :=
  Unflagged.pre h hP

omit [DecidableEq D] in
/-- The batch does not collect an `OSError`. -/
theorem lost_watching : Watching readBackFails (Lost w₀) where
  checks r c w hr := by
    unfold readBackFails
    split
    · exact absurd hr (by simp [RepairReq.checks])
    · rfl
  reads _ _ _ := rfl
  lenient e s he h := by
    rw [he] at h
    exact absurd h (by simp)

theorem Ends.of_watched {p : RepairProg D α} {Q : α → World D → Prop}
    (h : Watched sha256 readBackFails (Lost w₀) P p Q) : Ends sha256 w₀ P p Q := h

theorem Ends.orRaise {e : RepairExc D} (he : e.isRepairError = false) {o : Option α} :
    Ends sha256 w₀ P (Prog.orRaise e o) fun a w => o = some a ∧ P w :=
  lost_watching.orRaise he

theorem ends_transition {t : Transaction D} {phase : Phase} {Q : Transaction D → World D → Prop}
    (h : ∀ w at_, P w → Q { t with phase := phase, updatedAt := at_ }
      (World.saveRecord { w with clock := at_ } .transition
        { t with phase := phase, updatedAt := at_ })) :
    Ends sha256 w₀ P (transition t phase) Q :=
  lost_watching.transition h

/-! ### Installation -/

omit [DecidableEq D] in
theorem LiveKept.setFile {w : World D} (h : LiveKept w₀ w) {p : Path} (hp : p.OffLive)
    (node : Option Node) : LiveKept w₀ (w.setFile p node) := by
  refine ⟨fun base => ⟨?_, ?_⟩, h.journal⟩
  · rw [World.setFile_of_ne (hp base).1.symm]
    exact (h.live base).1
  · rw [World.setFile_of_ne (hp base).2.symm]
    exact (h.live base).2

/-- A successful repair. -/
def Finished (sha256 : Bytes → D) (base : Base) (w : World D) : Prop :=
  InstalledAt sha256 base w ∧ ∀ t ∈ w.journal, t.phase ≠ .installingCandidate

omit [DecidableEq D] in
theorem OpenInstall.onJournal (t : Transaction D) : OnJournal (OpenInstall t) := by
  rintro w w' heq ⟨hmem, hphase, hothers⟩
  rw [← heq] at hmem hothers
  exact ⟨hmem, hphase, hothers⟩

/-- The last transitions close the installation. -/
theorem recordInstalled_ends {t : Transaction D} {digest : Digest D}
    (hdigest : t.candidateIdx = some digest) :
    Ends sha256 w₀ (fun w => (fileDigest sha256 w t.liveIdx = some digest ∧
        w.files t.liveSdx = none) ∧ OpenInstall t w)
      (recordInstalled t) fun _ w => Finished sha256 t.id.base w := by
  -- the records other than that of `t` are not being installed at any point
  have hlast : ∀ u : Transaction D, u.id = t.id → u.candidateIdx = some digest →
      Ends sha256 w₀ (fun w => (fileDigest sha256 w t.liveIdx = some digest ∧
        w.files t.liveSdx = none) ∧ ∀ v ∈ w.journal, v.id ≠ t.id → v.phase ≠ .installingCandidate)
      (transition u .awaitingUpstreamValidation) fun _ w => Finished sha256 t.id.base w := by
    intro u hid hu
    refine ends_transition fun w at_ hw => ⟨⟨_, mem_saveTransaction.2 (.inr rfl), ?_⟩, fun v hv => ?_⟩
    · exact ⟨congrArg TxId.base hid, rfl, ⟨digest, hu, hw.1.1⟩, hw.1.2⟩
    · rcases mem_saveTransaction.1 hv with ⟨hv, hne⟩ | rfl
      · exact hw.2 v hv fun h => hne (h.trans hid.symm)
      · simp
  refine Ends.bind (M := fun u w => (u.id = t.id ∧ u.candidateIdx = some digest) ∧
    (fileDigest sha256 w t.liveIdx = some digest ∧ w.files t.liveSdx = none) ∧
    ∀ v ∈ w.journal, v.id ≠ t.id → v.phase ≠ .installingCandidate)
    (ends_transition fun w at_ hw => ⟨⟨rfl, hdigest⟩, hw.1, fun v hv hne => ?_⟩)
    fun u => Ends.assume fun hu => ?_
  · rcases mem_saveTransaction.1 hv with ⟨hv, -⟩ | rfl
    · exact hw.2.others v hv hne
    · exact absurd rfl hne
  · exact Ends.bind (hlast u hu.1 hu.2) fun _ => Ends.ret fun _ hw => hw

/-- `_install_candidate`: the volume is repaired, or untouched, or its read-back failed. -/
theorem installCandidate_ends {t : Transaction D} (ht : OriginOk t) :
    Ends sha256 w₀ (LiveKept w₀) (installCandidate t) fun _ w => Finished sha256 t.id.base w := by
  refine Ends.bind (Ends.orRaise rfl) fun candidate => Ends.assume fun _ => ?_
  refine Ends.bind (Ends.orRaise rfl) fun digest => Ends.assume fun hdigest => ?_
  refine Ends.bind (Ends.of_watched (Watching.sameArtifact (fun c w hw =>
    readBackFails_eq_false fun u hu => (hw.journal u hu).2) digest)) fun intact => ?_
  refine Ends.bind (M := fun _ w => fileDigest sha256 w candidate = some digest ∧ LiveKept w₀ w) ?_
    fun _ => ?_
  · cases intact with
    | true => exact Ends.ret fun w hw => ⟨hw.1 rfl, hw.2⟩
    | false =>
        have hrefuse : Yields (beforeDiscipline sha256 w₀)
            ((manual t "candidate artifact no longer matches its journaled hash").bind fun _ =>
              Prog.raise (.manual "candidate artifact is missing or changed") : RepairProg D Unit)
            fun _ => False :=
          (beforeRules.work.manual ht _).bind fun _ _ => Yields.raise
        exact Ends.pre (Ends.post (Ends.of_yields hrefuse) fun _ _ h => h.1.elim) fun _ hw => hw.2
  -- up to the rename, live files are untouched
  refine Ends.bind (Ends.of_watched (lost_watching.stageTemporary fun w node hw =>
    hw.setFile (by simp [Path.OffLive]) node)) fun _ => ?_
  refine Ends.bind (M := fun u w => (u.id = t.id ∧ u.candidateIdx = some digest) ∧
    fileDigest sha256 w (.installing t.id) = some digest ∧ OpenInstall u w)
    (ends_transition fun w at_ hw => ⟨⟨rfl, hdigest⟩, hw.1, mem_saveTransaction.2 (.inr rfl), rfl, ?_⟩)
    fun u => Ends.assume fun hu => ?_
  · intro v hv hne
    rcases mem_saveTransaction.1 hv with ⟨hv, -⟩ | rfl
    · exact (hw.2.journal v hv).2
    · exact absurd rfl hne
  -- from here on the record says that the installation is open
  rw [← hu.1]
  have hopen := OpenInstall.onJournal u
  refine Ends.bind (Ends.of_watched (lost_watching.replaceLive hopen)) fun _ => ?_
  refine Ends.bind (Ends.of_watched (lost_watching.removeStaleSdx hopen)) fun _ => ?_
  refine Ends.bind (Ends.of_watched lost_watching.fsyncDirectory) fun _ => ?_
  refine Discipline.Triple.bind (lost_watching.readBack (fun w hw => ⟨hw.mem, hw.phase⟩)
    (G := fun w => w.files u.liveSdx = none)) fun installed => ?_
  refine Discipline.Triple.bind (M := fun _ (s : World D × Bool) => s.2 = false ∧
    (fileDigest sha256 s.1 u.liveIdx = some digest ∧ s.1.files u.liveSdx = none) ∧ OpenInstall u s.1)
    (Discipline.Triple.raiseIf ?_ ?_) fun _ => recordInstalled_ends hu.2
  · -- the read-back differs: the open record is what a later start repairs
    intro hbad s _ hs _
    refine .inr ⟨?_, u, hs.2.2.mem, hs.2.2.phase⟩
    rw [hs.1]
    exact hbad
  · intro hgood s _ hs
    refine ⟨?_, hs.2⟩
    rw [hs.1]
    simpa using hgood

/-! ### The whole repair -/

/-- A part that refuses the repair. -/
theorem refuse_ends {p : RepairProg D Unit} {e : RepairExc D} {Q : α → World D → Prop}
    (h : Yields (beforeDiscipline sha256 w₀) p fun _ => True) :
    Ends sha256 w₀ (LiveKept w₀) (p.bind fun _ => Prog.raise e) Q :=
  Ends.post (Ends.of_yields (Φ := fun _ => False) (h.bind fun _ _ => Yields.raise))
    fun _ _ hfalse => hfalse.1.elim

/-- A quiet part, as long as no installation is open. -/
theorem quiet_ends {p : RepairProg D α} (h : p.Issues RepairReq.Quiet) :
    Ends sha256 w₀ (LiveKept w₀) p fun _ => LiveKept w₀ :=
  Ends.post (Ends.of_yields (beforeRules.work.yields_quiet h)) fun _ _ hw => hw.2

/-- What a resumed or created record is: a record of the source, or none when the installation is
already done. -/
def Resumed (sha256 : Bytes → D) (w₀ : World D) (base : Base) (next : Option (Transaction D))
    (w : World D) : Prop :=
  match next with
  | none => Finished sha256 base w
  | some t => (OriginOk t ∧ t.id.base = base) ∧ LiveKept w₀ w

theorem resume_ends {t : Transaction D} (ht : OriginOk t) (oldIdx : Artifact D)
    (oldSdx : Option (Artifact D)) :
    Ends sha256 w₀ (LiveKept w₀) (resume t oldIdx oldSdx) (Resumed sha256 w₀ t.id.base) := by
  refine Ends.bind (M := fun _ => LiveKept w₀) ?_ fun _ => ?_
  · exact Ends.post (Ends.of_yields (Yields.refuse (beforeRules.work.manual ht _))) fun _ _ hw => hw.2
  by_cases hbacked : t.phase = .backupCreated
  · rw [if_pos hbacked]
    exact Ends.bind (installCandidate_ends ht) fun _ => Ends.ret fun _ hw => hw
  rw [if_neg hbacked]
  by_cases hbuilt : t.phase = .candidateBuilt
  · rw [if_pos hbuilt]
    refine Ends.bind (Ends.of_yields (beforeRules.work.createBackups ht)) fun u => Ends.assume fun hu => ?_
    rw [← hu.1.id]
    exact Ends.bind (installCandidate_ends (ht.moved hu.1)) fun _ => Ends.ret fun _ hw => hw
  rw [if_neg hbuilt]
  refine Ends.bind (quiet_ends (issues_unlink (quiet_unlink _ (by simp [Path.OffLive])))) fun _ => ?_
  exact Ends.ret fun w hw => ⟨⟨ht, rfl⟩, hw⟩

omit [DecidableEq D] in
/-- Records of the source that a repair works on belong to its files. -/
theorem base_of_source {t : Transaction D} (ht : OriginOk t) {cfg : Config} {transport : String}
    {base : Base} {raw : RawFingerprint D}
    (hsource : t.sourceFingerprint = .known (sourceIdentity cfg transport base) raw) :
    t.id.base = base := by
  rw [ht.base, ← ht.known _ _ hsource]
  rfl

theorem resumeOrCreate_ends (base : Base) (cfg : Config) (transport : String)
    (raw : RawFingerprint D) {same : List (Transaction D)}
    (hsame : ∀ t ∈ same, OriginOk t ∧
      t.sourceFingerprint = .known (sourceIdentity cfg transport base) raw)
    (oldIdx : Artifact D) (oldSdx : Option (Artifact D)) (authorized : Bool) :
    Ends sha256 w₀ (LiveKept w₀) (resumeOrCreate base (sourceIdentity cfg transport base)
      (.known (sourceIdentity cfg transport base) raw) same oldIdx oldSdx authorized)
      (Resumed sha256 w₀ base) := by
  unfold resumeOrCreate
  split
  · next t ht =>
      obtain ⟨horigin, hsource⟩ := hsame t (List.mem_filter.1 (latestOf_mem ht)).1
      rw [← base_of_source horigin hsource]
      exact resume_ends horigin oldIdx oldSdx
  · have horigin : ∀ id at_, id.base = base → OriginOk ({
        id := id, identity := sourceIdentity cfg transport base,
        sourceFingerprint := .known (sourceIdentity cfg transport base) raw,
        oldIdx := some oldIdx, oldSdx := oldSdx,
        attemptCount := attemptsOf same + 1, updatedAt := at_ } : Transaction D) := by
      refine fun id at_ hid => ⟨hid, ?_, fun h => absurd h (by simp)⟩
      rintro identity raw' ⟨rfl, rfl⟩
      rfl
    refine Ends.bind (Ends.of_yields (beforeRules.create _ _ _ fun id at_ hid =>
      ⟨horigin id at_ hid, rfl, rfl⟩)) fun t => Ends.assume ?_
    rintro ⟨id, at_, hid, rfl⟩
    exact Ends.ret fun w hw => ⟨⟨horigin id at_ hid, hid⟩, hw⟩

theorem backUpAndInstall_ends {t : Transaction D} (ht : OriginOk t) :
    Ends sha256 w₀ (LiveKept w₀) (backUpAndInstall t) fun _ w => Finished sha256 t.id.base w := by
  refine Ends.bind (Ends.of_yields (beforeRules.work.moves ht (by simp))) fun u =>
    Ends.assume fun hu => ?_
  refine Ends.bind (Ends.of_yields (beforeRules.work.createBackups (ht.moved hu.1))) fun v =>
    Ends.assume fun hv => ?_
  rw [← hu.1.id, ← hv.1.id]
  exact installCandidate_ends ((ht.moved hu.1).moved hv.1)

theorem finishBuild_ends {t : Transaction D} (ht : OriginOk t) (oldIdx : Artifact D)
    (allowIdentical : Bool) :
    Ends sha256 w₀ (LiveKept w₀) (finishBuild t oldIdx allowIdentical)
      fun _ w => Finished sha256 t.id.base w := by
  refine Ends.bind (quiet_ends (sameArtifact_issues RepairReq.quiet_of_looks _ _)) fun same => ?_
  refine Ends.bind (M := fun _ => LiveKept w₀) ?_ fun _ => ?_
  · exact Ends.post (Ends.of_yields (Yields.refuse (beforeRules.work.recordPreinstallFailure ht _)))
      fun _ _ hw => hw.2
  split
  · split
    · exact backUpAndInstall_ends (t := { t with candidateIdenticalAfterTailRecovery := true })
        (ht.moved ⟨rfl, rfl, rfl, rfl⟩)
    · have hidentical : OriginOk { t with candidateIdenticalToLiveIndex := true } :=
        ht.moved ⟨rfl, rfl, rfl, rfl⟩
      exact refuse_ends (beforeRules.work.manual hidentical _)
  · exact backUpAndInstall_ends ht

theorem failBuild_ends (cfg : Config) {t : Transaction D} (ht : OriginOk t)
    (fingerprint : SourceFingerprint D) {again : RepairProg D Unit} {base : Base}
    (hagain : Ends sha256 w₀ (LiveKept w₀) again fun _ w => Finished sha256 base w)
    (e : RepairExc D) :
    Ends sha256 w₀ (LiveKept w₀) (failBuild cfg t fingerprint again e)
      fun _ w => Finished sha256 base w := by
  cases e with
  | unsafeCandidate message payload =>
      refine Ends.bind (Ends.of_yields (beforeRules.work.recoverIncompleteTail cfg ht fingerprint payload))
        fun recovered => Ends.assume fun _ => ?_
      cases recovered with
      | true => exact hagain
      | false => exact refuse_ends (beforeRules.work.manual ht _)
  | manual message => exact refuse_ends (beforeRules.work.manual ht _)
  | recursion => exact Discipline.Triple.raise fun _ _ hs _ => .inl hs
  | os => exact refuse_ends (beforeRules.work.recordPreinstallFailure ht _)
  | lookup => exact refuse_ends (beforeRules.work.recordPreinstallFailure ht _)
  | repair message => exact refuse_ends (beforeRules.work.recordPreinstallFailure ht _)
  | journal message => exact refuse_ends (beforeRules.work.recordPreinstallFailure ht _)

theorem buildAndInstall_ends (cfg : Config) (identity : SourceIdentity) {t : Transaction D}
    (ht : OriginOk t) (fingerprint : SourceFingerprint D) (oldIdx : Artifact D)
    (allowIdentical : Bool) {again : RepairProg D Unit}
    (hagain : Ends sha256 w₀ (LiveKept w₀) again fun _ w => Finished sha256 t.id.base w) :
    Ends sha256 w₀ (LiveKept w₀)
      (buildAndInstall cfg identity t fingerprint oldIdx allowIdentical again)
      fun _ w => Finished sha256 t.id.base w := by
  refine Ends.bind (Ends.of_yields (beforeRules.work.moves ht (by simp))) fun u => Ends.assume fun hu => ?_
  have hu' := (ht.moved hu.1).moved (.staged u)
  refine Ends.bind (Ends.of_yields (beforeRules.work.moves hu' (by simp))) fun v => Ends.assume fun hv => ?_
  have hv' := hu'.moved hv.1
  refine Ends.bind (Ends.of_yields (beforeRules.work.moves hv' (by simp))) fun x => Ends.assume fun hx => ?_
  have hx' := hv'.moved hx.1
  refine Ends.bind (Ends.of_yields (beforeRules.work.proveBuild identity x fingerprint)) fun result =>
    Ends.assume fun hresult => ?_
  have hsame : result.1.id = t.id := by
    rw [hresult.id, hx.1.id, hv.1.id, hu.1.id]
  rcases result with ⟨y, _ | e⟩
  · rw [← hsame]
    exact finishBuild_ends (hx'.moved hresult) oldIdx allowIdentical
  · exact failBuild_ends cfg (hx'.moved hresult) fingerprint hagain e

/-- `_repair_one`: installed, untouched, or a failed read-back. -/
theorem repairOne_ends (cfg : Config) (args : RepairArgs) : ∀ (fuel : Nat) (allowIdentical : Bool),
    Ends sha256 w₀ (LiveKept w₀) (repairOne cfg args fuel allowIdentical) fun _ w =>
      Finished sha256 ⟨args.collection, args.volumeId⟩ w := by
  intro fuel
  -- the induction is on the fuel: a recovered tail calls the repair again
  induction fuel with
  | zero => exact fun _ => Discipline.Triple.raise fun _ _ hs _ => .inl hs
  | succ fuel ih =>
      intro allowIdentical
      refine Ends.bind (Ends.of_yields Yields.orRaise) fun base => Ends.assume fun hbase => ?_
      rw [← safeBaseName_eq hbase]
      refine Ends.bind (Ends.of_yields (beforeRules.authorizeUnfingerprintedRetry _)) fun retry =>
        Ends.assume fun _ => ?_
      refine Ends.bind (Ends.of_yields (beforeRules.preflightFingerprint base cfg _ retry))
        fun fingerprint => Ends.assume ?_
      rintro ⟨raw, rfl⟩
      refine Ends.bind (Ends.of_yields (beforeRules.admitSource _)) ?_
      rintro ⟨same, authorized⟩
      refine Ends.assume fun hsame => ?_
      refine Ends.bind (Ends.of_yields (beforeRules.closeStale _ _)) fun _ => Ends.assume fun _ => ?_
      refine Ends.bind (Ends.of_yields (beforeRules.work.liveArtifacts base cfg _ raw _ authorized)) ?_
      rintro ⟨oldIdx, oldSdx⟩
      refine Ends.assume fun _ => ?_
      -- up to here nothing was installed; from here on the record is this repair's own
      refine Ends.bind (resumeOrCreate_ends base cfg _ raw hsame oldIdx oldSdx authorized)
        fun next => ?_
      cases next with
      | none => exact Ends.ret fun _ hw => hw
      | some t =>
          refine Ends.assume fun ht => ?_
          rw [← ht.2]
          refine buildAndInstall_ends cfg _ ht.1 _ oldIdx allowIdentical ?_
          rw [ht.2, (safeBaseName_eq hbase)]
          exact ih true

end

/-! ## The batch -/

/-- The volumes that `repair_detected` repairs and their collections, as the status lists them. A
status lists a volume once, and volumes share no file and no transaction, so that every volume has a
world and choices of its own, whether the repairs run in turn or at once. -/
structure Batch where
  volumes : List Int
  collection : Int → String
  activeTransport : String

/-- The repair of one volume of the batch. -/
def Batch.repair (batch : Batch) (cfg : Config) (fuel : Nat) (volumeId : Int) : RepairProg D Unit :=
  repairOne cfg ⟨batch.collection volumeId, volumeId, batch.activeTransport⟩ fuel false

/-- How the repair of a volume ends, and the world it leaves. -/
def Batch.result (batch : Batch) (sha256 : Bytes → D) (cfg : Config) (fuel : Nat)
    (cs : Int → List (RepairChoice D)) (w : Int → World D) (volumeId : Int) :
    Outcome (RepairExc D) Unit × World D :=
  if volumeId ∈ batch.volumes then
    (batch.repair cfg fuel volumeId).run (repairExec sha256) (cs volumeId) (w volumeId)
  else (.ok (), w volumeId)

omit [DecidableEq D] in
/-- The exceptions that `repair_detected` collects. -/
def Collected (outcome : Outcome (RepairExc D) Unit) : Prop :=
  outcome = .ok () ∨ ∃ e : RepairExc D, outcome = .raised e ∧ e.isRepairError = true

instance (outcome : Outcome (RepairExc D) Unit) : Decidable (Collected outcome) :=
  match outcome with
  | .ok () => .isTrue (.inl rfl)
  | .raised e => decidable_of_iff (e.isRepairError = true)
      ⟨fun h => .inr ⟨e, rfl, h⟩, fun h => by
        rcases h with h | ⟨_, he, h⟩
        · exact absurd h (by simp)
        · exact Outcome.raised.inj he ▸ h⟩
  | .crashed => .isFalse fun h => by
      rcases h with h | ⟨_, he, _⟩
      · exact absurd h (by simp)
      · exact absurd he (by simp)

/-- `repair_detected` returns: it met no other exception, and if it collected one, some transaction
awaits validation. -/
def Batch.Returns (batch : Batch) (sha256 : Bytes → D) (cfg : Config) (fuel : Nat)
    (cs : Int → List (RepairChoice D)) (w : Int → World D) : Prop :=
  (∀ v ∈ batch.volumes, Collected (batch.result sha256 cfg fuel cs w v).1) ∧
    ((∃ v ∈ batch.volumes, (batch.result sha256 cfg fuel cs w v).1 ≠ .ok ()) →
      ∃ v, ∃ t ∈ (batch.result sha256 cfg fuel cs w v).2.journal, t.phase.pendingValidation = true)

omit [DecidableEq D] in
/-- The volume is fully installed, or its live files are as they were; and no transaction of it is
left in `installing_candidate`. -/
def AllOrNothing (sha256 : Bytes → D) (base : Base) (w w' : World D) : Prop :=
  (InstalledAt sha256 base w' ∨ ∀ other, w'.files (.liveIdx other) = w.files (.liveIdx other) ∧
      w'.files (.liveSdx other) = w.files (.liveSdx other)) ∧
    ∀ t ∈ w'.journal, t.phase ≠ .installingCandidate

/-- Every read-back of a freshly installed index succeeds. -/
def ReadBacksSucceed (sha256 : Bytes → D) (p : RepairProg D Unit) (cs : List (RepairChoice D))
    (w : World D) : Prop :=
  ∀ y ∈ p.served (repairExec sha256) cs w, readBackFails y.1 y.2.1 y.2.2 = false

/-- One volume of a batch. -/
theorem repair_allOrNothing_iff {sha256 : Bytes → D} {cfg : Config} {args : RepairArgs} {fuel : Nat}
    {cs : List (RepairChoice D)} {w : World D}
    (hw : ∀ t ∈ w.journal, OriginOk t ∧ t.phase ≠ .installingCandidate)
    (hend : Collected ((repairOne cfg args fuel false).run (repairExec sha256) cs w).1) :
    AllOrNothing sha256 ⟨args.collection, args.volumeId⟩ w
        ((repairOne cfg args fuel false).run (repairExec sha256) cs w).2 ↔
      ReadBacksSucceed sha256 (repairOne cfg args fuel false) cs w := by
  have hstart : LiveKept w w := ⟨fun _ => ⟨rfl, rfl⟩, hw⟩
  have hcontract : Ends sha256 w (LiveKept w) (repairOne cfg args fuel false) _ :=
    repairOne_ends cfg args fuel false
  -- the run is repeated under a flag that a failed read-back sets
  have hwatched := run_flagged (repairExec sha256) readBackFails cs (repairOne cfg args fuel false) w
    false
  have hflag : ((repairOne cfg args fuel false).served (repairExec sha256) cs w).any
      (fun y => readBackFails y.1 y.2.1 y.2.2) = false ↔
      ReadBacksSucceed sha256 (repairOne cfg args fuel false) cs w := by
    simp [ReadBacksSucceed, List.any_eq_false]
  rw [← hflag]
  rw [Bool.false_or] at hwatched
  -- from here on only the flag matters
  generalize ((repairOne cfg args fuel false).served (repairExec sha256) cs w).any
    (fun y => readBackFails y.1 y.2.1 y.2.2) = flag at hwatched ⊢
  rcases hend with hok | ⟨e, he, hrepair⟩
  · obtain ⟨s, hs⟩ := exists_state_of_outcome hok
    rw [hs] at hwatched ⊢
    obtain ⟨hclear, hinstalled, hclosed⟩ := Hoare.of_ok hcontract ⟨rfl, hstart⟩ hwatched
    exact ⟨fun _ => hclear, fun _ => ⟨.inl hinstalled, hclosed⟩⟩
  · obtain ⟨s, hs⟩ := exists_state_of_outcome he
    rw [hs] at hwatched ⊢
    rcases Hoare.of_raised hcontract ⟨rfl, hstart⟩ hwatched hrepair with ⟨hclear, hkept⟩ | ⟨hset, hopen⟩
    · exact ⟨fun _ => hclear, fun _ => ⟨.inr hkept.live, fun t ht => (hkept.journal t ht).2⟩⟩
    · -- the read-back failed, and the record is still being installed
      obtain ⟨t, ht, hphase⟩ := hopen
      constructor
      · exact fun hall => absurd hphase (hall.2 t ht)
      · exact fun hclear => absurd (hset.symm.trans hclear) (by simp)

/-- When `repair_detected` returns, every volume is installed or as it was and no installation is left
open, exactly when every read-back of a freshly installed index succeeded. -/
theorem batch_allOrNothing_iff (sha256 : Bytes → D) (files : Int → Path → Option Node)
    (x : Int → Running (RepairReq D) RepairReq.Ans (RepairExc D) (World D))
    (hx : ControllerReachable sha256 False False files x)
    (hprepared : ∀ v, ∀ t ∈ (x v).state.journal, t.phase ≠ .installingCandidate)
    (batch : Batch) (cfg : Config) (fuel : Nat) (cs : Int → List (RepairChoice D))
    (hreturns : batch.Returns sha256 cfg fuel cs fun v => (x v).state) :
    (∀ v, AllOrNothing sha256 ⟨batch.collection v, v⟩ (x v).state
        (batch.result sha256 cfg fuel cs (fun v => (x v).state) v).2) ↔
      ∀ v ∈ batch.volumes,
        ReadBacksSucceed sha256 (batch.repair cfg fuel v) (cs v) (x v).state := by
  have hjournal : ∀ v, ∀ t ∈ (x v).state.journal, OriginOk t ∧ t.phase ≠ .installingCandidate :=
    fun v t ht => ⟨((stampInv_of_reachable (Family.component hx v)).journal t ht).1,
      hprepared v t ht⟩
  -- the repairs of different volumes share nothing, so the batch is a product
  have hvolume : ∀ v ∈ batch.volumes, (AllOrNothing sha256 ⟨batch.collection v, v⟩ (x v).state
      (batch.result sha256 cfg fuel cs (fun v => (x v).state) v).2 ↔
      ReadBacksSucceed sha256 (batch.repair cfg fuel v) (cs v) (x v).state) := by
    intro v hv
    have hend := hreturns.1 v hv
    rw [Batch.result, if_pos hv] at hend ⊢
    exact repair_allOrNothing_iff (hjournal v) hend
  constructor
  · exact fun hall v hv => (hvolume v hv).1 (hall v)
  · intro hread v
    -- a volume outside the batch is left alone
    by_cases hv : v ∈ batch.volumes
    · exact (hvolume v hv).2 (hread v hv)
    · rw [Batch.result, if_neg hv]
      exact ⟨.inr fun _ => ⟨rfl, rfl⟩, hprepared v⟩

/-! Two volumes with an index of one byte. Both candidates are installed; the read-back of the second
one fails. -/

namespace ReadBackSample

def files (volumeId : Int) (p : Path) : Option Node :=
  if p = .liveIdx ⟨"", volumeId⟩ then some (.file [1] 0o644) else none

def worlds (volumeId : Int) : World Bytes := { files := files volumeId }

def batch : Batch := ⟨[1, 2], fun _ => "", ""⟩

/-- The forty-first request is the read-back. -/
def choices (volumeId : Int) : List (RepairChoice Bytes) :=
  if volumeId = 2 then List.replicate 40 Sample.choice ++ [{ Sample.choice with fault := .before }]
  else List.replicate 45 Sample.choice

theorem reachable : ControllerReachable id False False files fun v => ⟨worlds v, none⟩ :=
  .refl

/-- The first volume alone. -/
def single : Batch := ⟨[1], fun _ => "", ""⟩

theorem batch_returns : batch.Returns id Sample.config 2 choices worlds :=
  ⟨by decide +kernel, fun _ => ⟨1, by decide +kernel⟩⟩

theorem single_returns : single.Returns id Sample.config 2 choices worlds :=
  ⟨by decide +kernel, fun _ => ⟨1, by decide +kernel⟩⟩

end ReadBackSample

/-- The batch returns because the first volume awaits validation, and leaves the second one in
`installing_candidate` with a new live index. -/
theorem read_back_leaves_installing :
    ControllerReachable id False False ReadBackSample.files
        (fun v => ⟨ReadBackSample.worlds v, none⟩) ∧
      ReadBackSample.batch.Returns id Sample.config 2 ReadBackSample.choices ReadBackSample.worlds ∧
      ¬ AllOrNothing id ⟨"", 2⟩ (ReadBackSample.worlds 2)
        (ReadBackSample.batch.result id Sample.config 2 ReadBackSample.choices
          ReadBackSample.worlds 2).2 := by
  refine ⟨ReadBackSample.reachable, ReadBackSample.batch_returns, fun hall => ?_⟩
  have hopen : ∃ t ∈ (ReadBackSample.batch.result id Sample.config 2 ReadBackSample.choices
      ReadBackSample.worlds 2).2.journal, t.phase = .installingCandidate := by decide +kernel
  obtain ⟨t, ht, hphase⟩ := hopen
  exact hall.2 t ht hphase

/-- The repair of the first volume alone reads its index back. -/
theorem batch_allOrNothing_iff_single :
    ReadBackSample.single.Returns id Sample.config 2 ReadBackSample.choices ReadBackSample.worlds ∧
      ∀ v, AllOrNothing id ⟨"", v⟩ (ReadBackSample.worlds v)
        (ReadBackSample.single.result id Sample.config 2 ReadBackSample.choices
          ReadBackSample.worlds v).2 :=
  ⟨ReadBackSample.single_returns, (batch_allOrNothing_iff id ReadBackSample.files
    (fun v => ⟨ReadBackSample.worlds v, none⟩) ReadBackSample.reachable
    (fun _ _ ht => absurd ht List.not_mem_nil) ReadBackSample.single Sample.config 2
    ReadBackSample.choices ReadBackSample.single_returns).2
    (show ∀ v ∈ [1], ∀ y ∈ (ReadBackSample.single.repair Sample.config 2 v).served
      (repairExec id) (ReadBackSample.choices v) (ReadBackSample.worlds v),
      readBackFails y.1 y.2.1 y.2.2 = false by decide +kernel)⟩

end StorageNode.IndexRepair
