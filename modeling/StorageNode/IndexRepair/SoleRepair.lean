import StorageNode.IndexRepair.InFlight

/-!
# One transaction at a time

The contracts of the operations that move a transaction under way. Between two saves of one operation
the transaction is the only one under way (`EachUnderway`), so that the next save is permitted.

`prepareOffline_sole` ends with no installation open. `repairOne_sole` starts there, with no installed
candidate either: it finds the transaction that it resumes, or closes what is left and creates one. A
second call after a tail recovery starts with nothing under way.
-/

set_option autoImplicit false

namespace StorageNode.IndexRepair

open StorageNode.Program StorageNode.IndexHelper RepairProg

variable {D : Type} [DecidableEq D] {sha256 : Bytes → D} {v : Int} {t : Transaction D}

/-! ## Saves -/

/-- A save that is permitted wherever the precondition holds. -/
theorem SoleTriple.save {P Q : World D → Prop} {kind : SaveKind}
    (hP : (soleDiscipline sha256 v).Stable P)
    (henters : ∀ w, SoleInv v w → P w → Enters v t w)
    (hQ : ∀ w w', P w → w'.journal = saveTransaction w.journal t → Q w') :
    SoleTriple sha256 v P (must (trySave kind t)) fun _ => Q := by
  refine Discipline.Triple.bind (M := fun saved w => saved = true → Q w)
    (Discipline.Triple.ask hP (fun w hw h => ?_) fun c w _ h _ => ?_) fun saved => ?_
  · rintro u ⟨rfl⟩
    exact henters w hw h
  · simp only [repairExec, attempted]
    cases c.fault with
    | none => exact fun _ => hQ w _ h rfl
    | before => exact fun hsaved => absurd hsaved (by simp)
    | after => exact fun hsaved => absurd hsaved (by simp)
  · exact Discipline.Triple.raiseIf (fun _ _ _ _ => trivial) fun hsaved w _ h => h (by simpa using hsaved)

/-- A record that may be under way. -/
structure Enrolled (v : Int) (t : Transaction D) : Prop where
  volume : t.id.base.volumeId = v
  old : t.oldIdx ≠ none

omit [DecidableEq D] in
theorem Enrolled.enters (ht : Enrolled v t) {w : World D}
    (h : EachUnderway (fun u => u.id = t.id) w) : Enters v t w :=
  ⟨fun _ => ⟨ht.volume, h⟩, fun _ hold => absurd hold ht.old⟩

/-- Reading the clock and other steps before a save. -/
theorem SoleTriple.look {φ : Transaction D → Prop} {r : RepairReq D} (h : r.looks = true) :
    SoleTriple sha256 v (EachUnderway φ) (Prog.ask r) fun _ => EachUnderway φ :=
  SoleTriple.harmless ((Prog.issues_ask r).2 (harmless_of_looks r h))

/-- The only transaction under way stays the only one. -/
theorem transition_sole (ht : Enrolled v t) (phase : Phase) :
    SoleTriple sha256 v (EachUnderway fun u => u.id = t.id) (transition t phase) fun u w =>
      (Enrolled v u ∧ u.id = t.id ∧ u.phase = phase) ∧ EachUnderway (fun x => x = u) w := by
  refine Discipline.Triple.bind (SoleTriple.look (r := .now) rfl) fun at_ => ?_
  refine Discipline.Triple.bind (M := fun _ => EachUnderway fun x =>
    x = { t with phase := phase, updatedAt := at_ }) ?_ fun _ =>
      Discipline.Triple.ret fun w _ h => ⟨⟨⟨ht.volume, ht.old⟩, rfl, rfl⟩, h⟩
  refine SoleTriple.save EachUnderway.stable (fun w _ h => ?_) fun w w' h hw' => ?_
  · exact Enrolled.enters (t := { t with phase := phase, updatedAt := at_ }) ⟨ht.volume, ht.old⟩ h
  · refine (h.saved hw').mono fun u hu => ?_
    rcases hu with rfl | ⟨hid, hne⟩
    · rfl
    · exact absurd hid hne

omit [DecidableEq D] in
/-- What is the only transaction under way is so under its id. -/
theorem eachUnderway_id {w : World D} (h : EachUnderway (fun x => x = t) w) :
    EachUnderway (fun x => x.id = t.id) w :=
  h.mono fun _ hx => hx ▸ rfl

/-- A failure that is recorded before an exception. -/
theorem refuse_sole {φ : Transaction D → Prop} {condition : Prop} [Decidable condition]
    {p : RepairProg D Unit} {e : RepairExc D} (hp : p.Issues Harmless) :
    SoleTriple sha256 v (EachUnderway φ) (Prog.when condition (p.bind fun _ => Prog.raise e))
      fun _ w => ¬ condition ∧ EachUnderway φ w := by
  refine Discipline.Triple.when (fun _ => ?_) fun hc w _ h => ⟨hc, h⟩
  exact Discipline.Triple.bind (SoleTriple.harmless hp) fun _ =>
    Discipline.Triple.raise fun _ _ _ => trivial

/-! ## Installation -/

/-- The transaction `t` awaits validation, and no other is under way. -/
def AwaitsAlone (t : Transaction D) : World D → Prop :=
  EachUnderway fun u => u.id = t.id ∧ u.phase = .awaitingUpstreamValidation

theorem recordInstalled_sole (ht : Enrolled v t) :
    SoleTriple sha256 v (EachUnderway fun u => u.id = t.id) (recordInstalled t)
      fun _ => AwaitsAlone t := by
  refine Discipline.Triple.bind (transition_sole ht _) fun u => Discipline.Triple.assume fun hu => ?_
  refine Discipline.Triple.bind (Discipline.Triple.pre (transition_sole hu.1 _)
    fun w _ h => eachUnderway_id h) fun x => Discipline.Triple.assume fun hx => ?_
  refine Discipline.Triple.ret fun w _ h => h.mono fun y hy => ?_
  obtain rfl := hy
  exact ⟨hx.2.1.trans hu.2.1, hx.2.2⟩

theorem removeStaleSdx_sole {φ : Transaction D → Prop} :
    SoleTriple sha256 v (EachUnderway φ) (removeStaleSdx t) fun _ => EachUnderway φ :=
  SoleTriple.harmless (Prog.Issues.bind (issues_unlink (harmless_of_saves rfl)) fun _ =>
    issues_fsync (harmless_of_looks _ rfl))

theorem fsync_sole {φ : Transaction D → Prop} :
    SoleTriple sha256 v (EachUnderway φ) fsyncDirectory fun _ => EachUnderway φ :=
  SoleTriple.harmless (issues_fsync (harmless_of_looks _ rfl))

theorem sameArtifact_sole {φ : Transaction D → Prop} (p : Path) (expected : Option (Digest D)) :
    SoleTriple sha256 v (EachUnderway φ) (sameArtifact p expected) fun _ => EachUnderway φ :=
  SoleTriple.harmless (sameArtifact_issues harmless_of_looks p expected)

theorem replace_sole {φ : Transaction D → Prop} (source destination : Path) :
    SoleTriple sha256 v (EachUnderway φ) (must <| tryReplace source destination)
      fun _ => EachUnderway φ :=
  SoleTriple.harmless (issues_replace (harmless_of_saves rfl))

theorem unlink_sole {φ : Transaction D → Prop} (p : Path) :
    SoleTriple sha256 v (EachUnderway φ) (must <| tryUnlink p) fun _ => EachUnderway φ :=
  SoleTriple.harmless (issues_unlink (harmless_of_saves rfl))

theorem orRaise_sole {α : Type} {P : World D → Prop} {e : RepairExc D} {o : Option α} :
    SoleTriple sha256 v P (Prog.orRaise e o) fun a w => o = some a ∧ P w :=
  Discipline.Triple.orRaise (fun _ _ _ _ => trivial) fun _ ho _ _ h => ⟨ho, h⟩

theorem raiseIf_sole {P : World D → Prop} {bad : Prop} [Decidable bad] {e : RepairExc D} :
    SoleTriple sha256 v P (Prog.raiseIf bad e) fun _ => P :=
  Discipline.Triple.raiseIf (fun _ _ _ _ => trivial) fun _ _ _ h => h

theorem installCandidate_sole (ht : Enrolled v t) :
    SoleTriple sha256 v (EachUnderway fun u => u.id = t.id) (installCandidate t)
      fun _ => AwaitsAlone t := by
  refine Discipline.Triple.bind orRaise_sole fun candidate => Discipline.Triple.assume fun _ => ?_
  refine Discipline.Triple.bind orRaise_sole fun digest => Discipline.Triple.assume fun _ => ?_
  refine Discipline.Triple.bind (sameArtifact_sole _ _) fun intact => ?_
  refine Discipline.Triple.bind (refuse_sole (manual_harmless _)) fun _ =>
    Discipline.Triple.assume fun _ => ?_
  refine Discipline.Triple.bind (SoleTriple.harmless (stageTemporary_issues harmless_of_looks
    (harmless_of_saves rfl) (fun _ => harmless_of_saves rfl) digest)) fun _ => ?_
  have hstaged : Enrolled v { t with installTempPath := some (.installing t.id) } :=
    ⟨ht.volume, ht.old⟩
  refine Discipline.Triple.bind (transition_sole hstaged _) fun u => Discipline.Triple.assume fun hu => ?_
  refine Discipline.Triple.bind (replace_sole _ _) fun _ => ?_
  refine Discipline.Triple.bind removeStaleSdx_sole fun _ => Discipline.Triple.bind fsync_sole fun _ => ?_
  refine Discipline.Triple.bind (sameArtifact_sole _ _) fun installed =>
    Discipline.Triple.bind raiseIf_sole fun _ => ?_
  refine (recordInstalled_sole hu.1).mono (fun w _ h => eachUnderway_id h) (fun _ w _ h => ?_)
    fun _ _ _ _ => trivial
  exact h.mono fun x hx => ⟨hx.1.trans hu.2.1, hx.2⟩

/-! ## Preparation -/

theorem resumeInstall_sole (ht : Enrolled v t) (temporary : Path) :
    SoleTriple sha256 v (EachUnderway fun u => u.id = t.id) (resumeInstall t temporary)
      fun _ => AwaitsAlone t := by
  refine Discipline.Triple.bind (SoleTriple.harmless
    (usableTemporary_issues harmless_of_looks _ _ _)) fun usable => ?_
  refine Discipline.Triple.ite (fun _ => ?_) fun _ => ?_
  · refine Discipline.Triple.bind (replace_sole _ _) fun _ => ?_
    refine Discipline.Triple.bind removeStaleSdx_sole fun _ => ?_
    exact Discipline.Triple.bind fsync_sole fun _ => recordInstalled_sole ht
  · exact Discipline.Triple.bind (unlink_sole _) fun _ => installCandidate_sole ht

/-- An interrupted installation is completed or closed with an exception. -/
theorem recoverInterruptedInstall_sole (ht : Enrolled v t) :
    SoleTriple sha256 v (EachUnderway fun u => u.id = t.id) (recoverInterruptedInstall t)
      fun _ => AwaitsAlone t := by
  refine Discipline.Triple.bind (sameArtifact_sole _ _) fun isCandidate => ?_
  refine Discipline.Triple.ite (fun _ => ?_) fun _ => ?_
  · exact Discipline.Triple.bind removeStaleSdx_sole fun _ => recordInstalled_sole ht
  · refine Discipline.Triple.bind (sameArtifact_sole _ _) fun isOld => ?_
    refine Discipline.Triple.ite (fun _ => ?_) fun _ => ?_
    · exact Discipline.Triple.bind orRaise_sole fun temporary =>
        Discipline.Triple.assume fun _ => resumeInstall_sole ht temporary
    · exact Discipline.Triple.bind (SoleTriple.harmless (manual_harmless _)) fun _ =>
        Discipline.Triple.raise fun _ _ _ => trivial

/-- An installed candidate awaits its validation, or is closed with an exception. -/
theorem validateInstalledArtifacts_sole {φ : Transaction D → Prop} (ht : Enrolled v t)
    (hid : ∀ u, φ u → u.id = t.id)
    (hnext : ∀ u, u.id = t.id → u.phase = .awaitingUpstreamValidation → φ u) :
    SoleTriple sha256 v (EachUnderway φ) (validateInstalledArtifacts t) fun _ => EachUnderway φ := by
  refine Discipline.Triple.bind (sameArtifact_sole _ _) fun isCandidate => ?_
  refine Discipline.Triple.bind (refuse_sole (manual_harmless _)) fun _ =>
    Discipline.Triple.assume fun _ => ?_
  refine Discipline.Triple.bind (SoleTriple.look (r := .node t.liveSdx) rfl) fun sdx => ?_
  refine Discipline.Triple.bind (refuse_sole (manual_harmless _)) fun _ =>
    Discipline.Triple.assume fun _ => ?_
  refine Discipline.Triple.when (fun _ => ?_) fun _ w _ h => h
  refine Discipline.Triple.bind (Discipline.Triple.pre (transition_sole ht _)
    fun w _ h => h.mono hid) fun u => Discipline.Triple.assume fun hu => ?_
  exact Discipline.Triple.ret fun w _ h => h.mono fun x hx => hx ▸ hnext u hu.2.1 hu.2.2

/-- The loop of `prepareOffline` is over for a transaction that is not installing. -/
def Attended (i : TxId) (rest : List (Transaction D)) (u : Transaction D) : Prop :=
  u.id = i ∧ (u.phase ≠ .installingCandidate ∨ u ∈ rest)

omit [DecidableEq D] in
theorem Attended.next {i : TxId} {rest : List (Transaction D)} {u : Transaction D}
    (h : Attended i (t :: rest) u) (ht : t.phase ≠ .installingCandidate) : Attended i rest u := by
  refine ⟨h.1, ?_⟩
  rcases h.2 with hphase | hmem
  · exact .inl hphase
  · rcases List.mem_cons.1 hmem with rfl | hmem
    · exact .inl ht
    · exact .inr hmem

omit [DecidableEq D] in
/-- A record past its detection and in flight is under way. -/
theorem EarlyOk.underway (h : EarlyOk t) (hflight : t.phase.inFlight = true)
    (hphase : t.phase ≠ .detected) : Underway t :=
  ⟨hflight, fun hold => hphase (h hflight hold)⟩

theorem prepareOne_sole {i : TxId} (hi : i.base.volumeId = v) {rest : List (Transaction D)}
    (hearly : EarlyOk t) (hsole : Underway t → t.id = i) :
    SoleTriple sha256 v (EachUnderway (Attended i (t :: rest))) (prepareOne t)
      fun _ => EachUnderway (Attended i rest) := by
  have henrolled : ∀ (hunder : Underway t), Enrolled v t := fun hunder =>
    ⟨by rw [hsole hunder]; exact hi, hunder.2⟩
  -- records that the loop leaves alone, or closes
  have hskip : ∀ {p : RepairProg D Unit}, p.Issues Harmless → t.phase ≠ .installingCandidate →
      SoleTriple sha256 v (EachUnderway (Attended i (t :: rest))) p
        fun _ => EachUnderway (Attended i rest) := fun hp hphase =>
    (SoleTriple.harmless hp).post fun _ w _ h => h.mono fun u hu => hu.next hphase
  have hvalidate : Underway t → t.phase ≠ .installingCandidate →
      SoleTriple sha256 v (EachUnderway (Attended i (t :: rest))) (validateInstalledArtifacts t)
        fun _ => EachUnderway (Attended i rest) := by
    intro hunder hphase
    refine (validateInstalledArtifacts_sole (φ := Attended i rest) (henrolled hunder) ?_ ?_).pre
      fun w _ h => h.mono fun u hu => hu.next hphase
    · exact fun u hu => hu.1.trans (hsole hunder).symm
    · exact fun u hid hnext => ⟨hid.trans (hsole hunder), .inl (by simp [hnext])⟩
  unfold prepareOne
  split
  · next hphase =>
      have hunder : Underway t := hearly.underway (by simp [hphase, Phase.inFlight]) (by simp [hphase])
      refine (recoverInterruptedInstall_sole (henrolled hunder)).mono (fun w _ h => ?_)
        (fun _ w _ h => ?_) fun _ _ _ _ => trivial
      · exact h.mono fun u hu => hu.1.trans (hsole hunder).symm
      · exact h.mono fun u hu => ⟨hu.1.trans (hsole hunder), .inl (by simp [hu.2])⟩
  · next hphase =>
      exact hvalidate (hearly.underway (by simp [hphase, Phase.inFlight]) (by simp [hphase]))
        (by simp [hphase])
  · next hphase =>
      exact hvalidate (hearly.underway (by simp [hphase, Phase.inFlight]) (by simp [hphase]))
        (by simp [hphase])
  · next hphase =>
      exact hskip ((transition_harmless rfl).bind fun _ => trivial) (by simp [hphase])
  · next hphase => exact hskip (manual_harmless _) (by simp [hphase])
  · next hphase _ _ _ _ => exact Discipline.Triple.ret fun w _ h => h.mono fun u hu => hu.next hphase

/-- What loading the journal tells: one id for everything under way, in the list and in the journal. -/
theorem transactions_sole {φ : Transaction D → Prop} :
    SoleTriple sha256 v (EachUnderway φ) transactions fun ts w =>
      ∃ i : TxId, (i.base.volumeId = v ∧ (∀ t ∈ ts, EarlyOk t) ∧
        ∀ t ∈ ts, Underway t → t.id = i ∧ φ t) ∧
        EachUnderway (fun u => (u.id = i ∧ φ u) ∧ u ∈ ts) w := by
  refine Discipline.Triple.bind (M := fun answer w => ∀ ts, answer = some ts →
      ∃ i : TxId, (i.base.volumeId = v ∧ (∀ t ∈ ts, EarlyOk t) ∧
        ∀ t ∈ ts, Underway t → t.id = i ∧ φ t) ∧
        EachUnderway (fun u => (u.id = i ∧ φ u) ∧ u ∈ ts) w)
    (Discipline.Triple.ask EachUnderway.stable ?_ fun c w hw h _ => ?_) fun answer =>
      Discipline.Triple.orRaise (fun _ _ _ _ => trivial) fun ts hts w _ h => h ts hts
  · exact fun w _ _ t ht => absurd ht (by simp [RepairReq.saves])
  · intro ts hts
    obtain rfl := repairExec_load hts
    obtain ⟨i, hi, hsole⟩ := hw.sole
    refine ⟨i, ⟨hi, hw.early, fun t ht hunder => ⟨hsole t ht hunder, h t ht hunder⟩⟩, ?_⟩
    exact fun u hu hunder => ⟨⟨hsole u hu hunder, h u hu hunder⟩, hu⟩

/-- After the preparation no installation is open. -/
theorem prepareOffline_sole :
    SoleTriple sha256 v (fun _ => True) (prepareOffline : RepairProg D Unit)
      fun _ => EachUnderway fun u => u.phase ≠ .installingCandidate := by
  refine Discipline.Triple.pre (P := EachUnderway fun _ => True) ?_ fun w _ _ t _ _ => trivial
  refine Discipline.Triple.bind fsync_sole fun _ => Discipline.Triple.bind transactions_sole fun ts => ?_
  refine Discipline.Triple.exists_pre fun i => Discipline.Triple.assume fun hts => ?_
  -- the loop invariant says of each element what loading it told
  have hloop : ∀ rest, SoleTriple sha256 v
      (fun w => (∀ t ∈ rest, t ∈ ts) ∧ EachUnderway (Attended i rest) w)
      (Prog.forEach rest prepareOne) fun _ w =>
        (∀ t ∈ ([] : List (Transaction D)), t ∈ ts) ∧ EachUnderway (Attended i []) w :=
    Discipline.Triple.forEach (I := fun rest w => (∀ t ∈ rest, t ∈ ts) ∧
        EachUnderway (Attended i rest) w) fun t rest => Discipline.Triple.assume fun hmem => by
      have ht : t ∈ ts := hmem t List.mem_cons_self
      refine (prepareOne_sole hts.1 (hts.2.1 t ht) fun hunder => (hts.2.2 t ht hunder).1).post ?_
      exact fun _ w _ h => ⟨fun u hu => hmem u (List.mem_cons_of_mem t hu), h⟩
  refine Discipline.Triple.bind ((hloop ts).pre fun w _ h => ⟨fun _ ht => ht, ?_⟩) fun _ => ?_
  · exact h.mono fun u hu => ⟨hu.1.1, .inr hu.2⟩
  · refine Discipline.Triple.assume fun _ => Discipline.Triple.bind
      (SoleTriple.harmless awaiting_harmless) fun _ => Discipline.Triple.ret fun w _ h => ?_
    exact h.mono fun u hu => hu.2.resolve_right (by simp)

/-! ## Building and installing -/

theorem createBackups_sole (ht : Enrolled v t) :
    SoleTriple sha256 v (EachUnderway fun u => u.id = t.id) (createBackups t) fun u w =>
      Enrolled v u ∧ EachUnderway (fun x => x.id = u.id) w := by
  have hbackup : ∀ {φ : Transaction D → Prop} (source destination : Path)
      (expected : Option (Digest D)), SoleTriple sha256 v (EachUnderway φ)
        (backupOne source destination expected) fun _ => EachUnderway φ := fun _ _ expected =>
    SoleTriple.harmless (backupOne_issues harmless_of_looks (harmless_of_saves rfl)
      (fun _ => harmless_of_saves rfl) (fun _ => harmless_of_saves rfl) expected)
  refine Discipline.Triple.bind fsync_sole fun _ => Discipline.Triple.bind (hbackup _ _ _) fun _ => ?_
  refine Discipline.Triple.bind (M := fun u w => (Enrolled v u ∧ u.id = t.id) ∧
    EachUnderway (fun x => x.id = t.id) w) ?_ fun u => Discipline.Triple.assume fun hu => ?_
  · unfold backupSdx
    split
    · exact Discipline.Triple.ret fun w _ h => ⟨⟨⟨ht.volume, ht.old⟩, rfl⟩, h⟩
    · exact Discipline.Triple.bind (hbackup _ _ _) fun _ =>
        Discipline.Triple.ret fun w _ h => ⟨⟨⟨ht.volume, ht.old⟩, rfl⟩, h⟩
  · refine Discipline.Triple.bind fsync_sole fun _ => (transition_sole hu.1 _).mono
      (fun w _ h => h.mono fun x hx => hx.trans hu.2.symm) (fun x w _ h => ?_) fun _ _ _ _ => trivial
    exact ⟨h.1.1, eachUnderway_id h.2⟩

theorem backUpAndInstall_sole (ht : Enrolled v t) :
    SoleTriple sha256 v (EachUnderway fun u => u.id = t.id) (backUpAndInstall t) fun _ _ => True := by
  refine Discipline.Triple.bind (transition_sole ht _) fun u => Discipline.Triple.assume fun hu => ?_
  refine Discipline.Triple.bind (Discipline.Triple.pre (createBackups_sole hu.1)
    fun w _ h => eachUnderway_id h) fun x => Discipline.Triple.assume fun hx => ?_
  exact (installCandidate_sole hx).post fun _ _ _ _ => trivial

theorem finishBuild_sole (ht : Enrolled v t) (oldIdx : Artifact D) (allowIdentical : Bool) :
    SoleTriple sha256 v (EachUnderway fun u => u.id = t.id) (finishBuild t oldIdx allowIdentical)
      fun _ _ => True := by
  refine Discipline.Triple.bind (sameArtifact_sole _ _) fun same => ?_
  refine Discipline.Triple.bind (refuse_sole (recordPreinstallFailure_harmless _)) fun _ =>
    Discipline.Triple.assume fun _ => ?_
  refine Discipline.Triple.ite (fun _ => Discipline.Triple.ite (fun _ => ?_) fun _ => ?_) fun _ => ?_
  · exact backUpAndInstall_sole (t := { t with candidateIdenticalAfterTailRecovery := true })
      ⟨ht.volume, ht.old⟩
  · exact Discipline.Triple.bind (SoleTriple.harmless (manual_harmless _)) fun _ =>
      Discipline.Triple.raise fun _ _ _ => trivial
  · exact backUpAndInstall_sole ht

/-- Judging a build changes no field of the transaction that matters here. -/
theorem acceptBuild_sole {φ : Transaction D → Prop} (ht : Enrolled v t) (identity : SourceIdentity)
    (fingerprint : SourceFingerprint D) (built : HelperPayload D) :
    SoleTriple sha256 v (EachUnderway φ) (acceptBuild identity t fingerprint built) fun result w =>
      (Enrolled v result.1 ∧ result.1.id = t.id) ∧ EachUnderway φ w := by
  have hret : ∀ {u : Transaction D} {failure : Option (RepairExc D)}, u.id = t.id →
      u.oldIdx = t.oldIdx → SoleTriple sha256 v (EachUnderway φ) (pure (u, failure)) fun result w =>
        (Enrolled v result.1 ∧ result.1.id = t.id) ∧ EachUnderway φ w := fun hid hold =>
    Discipline.Triple.ret fun w _ h => ⟨⟨⟨hid ▸ ht.volume, hold ▸ ht.old⟩, hid⟩, h⟩
  unfold acceptBuild
  split
  · exact hret rfl rfl
  · refine Discipline.Triple.ite (fun _ => ?_) fun _ => ?_
    · refine Discipline.Triple.bind (SoleTriple.harmless ?_) fun removed => hret rfl rfl
      unfold discardCandidate
      split
      · exact (Prog.issues_ask _).2 (harmless_of_saves rfl)
      · trivial
    · refine Discipline.Triple.ite (fun _ => hret rfl rfl) fun _ =>
        Discipline.Triple.ite (fun _ => hret rfl rfl) fun _ => ?_
      split
      · exact hret rfl rfl
      · exact hret rfl rfl

theorem proveBuild_sole {φ : Transaction D → Prop} (ht : Enrolled v t) (identity : SourceIdentity)
    (fingerprint : SourceFingerprint D) :
    SoleTriple sha256 v (EachUnderway φ) (proveBuild identity t fingerprint) fun result w =>
      (Enrolled v result.1 ∧ result.1.id = t.id) ∧ EachUnderway φ w := by
  have hbuild : (runBuild t.id fingerprint).Issues Harmless :=
    Prog.Issues.bind ((Prog.issues_ask _).2 (harmless_of_saves rfl)) fun process =>
      helperPayload_issues process
  refine Discipline.Triple.bind (SoleTriple.harmless hbuild.attempt) fun outcome => ?_
  cases outcome with
  | ok built => exact acceptBuild_sole ht identity fingerprint built
  | error e => exact Discipline.Triple.ret fun w _ h => ⟨⟨ht, rfl⟩, h⟩

/-- A recovered tail ends the transaction. -/
theorem recoverIncompleteTail_sole (cfg : Config) (ht : Enrolled v t)
    (fingerprint : SourceFingerprint D) (payload : HelperPayload D) :
    SoleTriple sha256 v (EachUnderway fun u => u.id = t.id)
      (RepairProg.recoverIncompleteTail cfg t fingerprint payload) fun recovered w =>
        recovered = true → EachUnderway (fun _ => False) w := by
  unfold RepairProg.recoverIncompleteTail
  split
  · exact Discipline.Triple.ret fun _ _ _ h => absurd h (by simp)
  · refine Discipline.Triple.bind fsync_sole fun _ => ?_
    refine Discipline.Triple.bind (SoleTriple.harmless ((Prog.issues_ask _).2 (harmless_of_saves rfl)))
      fun process => ?_
    refine Discipline.Triple.bind (SoleTriple.harmless (p := tailPayload process) ?_) fun report => ?_
    · cases process <;> trivial
    · refine Discipline.Triple.bind raiseIf_sole fun _ => Discipline.Triple.bind raiseIf_sole fun _ => ?_
      refine Discipline.Triple.bind (transition_sole (t := { t with
        incompleteTail := some ⟨_, _, report.2.2.1, .incompleteTail t.id, report.2.2.2.1⟩
        recoveredSourceFingerprint := some (enrichFingerprint t.identity report.2.2.2.2) })
        ⟨ht.volume, ht.old⟩ _) fun u => Discipline.Triple.assume fun hu => ?_
      refine Discipline.Triple.ret fun w _ h _ x hx hunder => ?_
      obtain rfl := h x hx hunder
      exact absurd hunder.1 (by simp [hu.2.2, Phase.inFlight])

theorem failBuild_sole (cfg : Config) (ht : Enrolled v t) (fingerprint : SourceFingerprint D)
    {again : RepairProg D Unit}
    (hagain : SoleTriple sha256 v (EachUnderway fun _ => False) again fun _ _ => True)
    (e : RepairExc D) :
    SoleTriple sha256 v (EachUnderway fun u => u.id = t.id) (failBuild cfg t fingerprint again e)
      fun _ _ => True := by
  have hclose : ∀ {p : RepairProg D Unit} {e : RepairExc D}, p.Issues Harmless →
      SoleTriple sha256 v (EachUnderway fun u => u.id = t.id) (p.bind fun _ => Prog.raise e)
        fun (_ : Unit) _ => True := fun hp =>
    Discipline.Triple.bind (SoleTriple.harmless hp) fun _ => Discipline.Triple.raise fun _ _ _ => trivial
  have hfail : ∀ e : RepairExc D, SoleTriple sha256 v (EachUnderway fun u => u.id = t.id)
      ((recordPreinstallFailure t e.text).bind fun _ => Prog.raise (.repair e.text))
        fun (_ : Unit) _ => True := fun e => hclose (recordPreinstallFailure_harmless _)
  cases e with
  | unsafeCandidate message payload =>
      refine Discipline.Triple.bind (M := fun recovered w =>
        (recovered = true → EachUnderway (fun _ => False) w)) ?_ fun recovered => ?_
      · exact recoverIncompleteTail_sole cfg ht fingerprint payload
      · refine Discipline.Triple.ite (fun hrecovered => hagain.pre fun w _ h => h hrecovered) fun _ => ?_
        refine Discipline.Triple.pre (P := EachUnderway fun _ => True) ?_ fun w _ _ u _ _ => trivial
        exact Discipline.Triple.bind (SoleTriple.harmless (manual_harmless _)) fun _ =>
          Discipline.Triple.raise fun _ _ _ => trivial
  | manual message => exact hclose (manual_harmless _)
  | recursion => exact Discipline.Triple.raise fun _ _ _ => trivial
  | os => exact hfail _
  | lookup => exact hfail _
  | repair message => exact hfail _
  | journal message => exact hfail _

theorem buildAndInstall_sole (cfg : Config) (identity : SourceIdentity) (ht : Enrolled v t)
    (fingerprint : SourceFingerprint D) (oldIdx : Artifact D) (allowIdentical : Bool)
    {again : RepairProg D Unit}
    (hagain : SoleTriple sha256 v (EachUnderway fun _ => False) again fun _ _ => True) :
    SoleTriple sha256 v (EachUnderway fun u => u.id = t.id)
      (buildAndInstall cfg identity t fingerprint oldIdx allowIdentical again) fun _ _ => True := by
  refine Discipline.Triple.bind (transition_sole ht _) fun a => Discipline.Triple.assume fun ha => ?_
  have hstaged : Enrolled v { a with stagingDir := some a.staging } := ⟨ha.1.volume, ha.1.old⟩
  refine Discipline.Triple.bind (Discipline.Triple.pre (transition_sole hstaged _)
    fun w _ h => eachUnderway_id (t := a) h) fun b => Discipline.Triple.assume fun hb => ?_
  refine Discipline.Triple.bind (Discipline.Triple.pre (transition_sole hb.1 _)
    fun w _ h => eachUnderway_id h) fun c => Discipline.Triple.assume fun hc => ?_
  refine Discipline.Triple.bind (Discipline.Triple.pre (proveBuild_sole hc.1 identity fingerprint)
    fun w _ h => eachUnderway_id h) fun result => Discipline.Triple.assume fun hresult => ?_
  rcases result with ⟨u, _ | e⟩
  · exact (finishBuild_sole hresult.1 oldIdx allowIdentical).pre fun w _ h =>
      h.mono fun x hx => hx.trans hresult.2.symm
  · exact (failBuild_sole cfg hresult.1 fingerprint hagain e).pre fun w _ h =>
      h.mono fun x hx => hx.trans hresult.2.symm

/-! ## Repair -/

/-- A transaction under way that a repair of the source `F` may find: `same` are the transactions of the
source that it loaded. -/
structure Found (i : TxId) (F : SourceFingerprint D) (same : List (Transaction D))
    (u : Transaction D) : Prop where
  id : u.id = i
  preinstall : u.phase.preinstall = true
  loaded : u.sourceFingerprint = F → u ∈ same

theorem admitSource_sole (F : SourceFingerprint D) :
    SoleTriple sha256 v (EachUnderway fun u => u.phase.preinstall = true) (admitSource F)
      fun result w => ∃ i : TxId, (i.base.volumeId = v ∧ ∀ t ∈ result.1, Underway t → t.id = i) ∧
        EachUnderway (Found i F result.1) w := by
  refine Discipline.Triple.bind transactions_sole fun ts => Discipline.Triple.exists_pre fun i =>
    Discipline.Triple.assume fun hts => ?_
  have hsame : ∀ t, t ∈ sameSource F ts ↔ t ∈ ts ∧ t.sourceFingerprint = F := fun t => by
    simp [sameSource]
  refine Discipline.Triple.bind raiseIf_sole fun _ => ?_
  refine Discipline.Triple.bind (SoleTriple.harmless (consumeLatest_harmless _ _)) fun authorized => ?_
  refine Discipline.Triple.bind (SoleTriple.harmless (refuseExhausted_harmless _).when) fun _ => ?_
  refine Discipline.Triple.ret fun w _ h => ⟨i, ⟨hts.1, fun t ht hunder => ?_⟩, ?_⟩
  · exact (hts.2.2 t ((hsame t).1 ht).1 hunder).1
  · exact h.mono fun u hu => ⟨hu.1.1, hu.1.2, fun hF => (hsame u).2 ⟨hu.2, hF⟩⟩

omit [DecidableEq D] in
/-- A pre-install transaction in flight is open. -/
theorem open_of_preinstall (h : t.phase.preinstall = true) :
    t.phase.terminal = false ∧ t.phase.pendingValidation = false := by
  revert h
  cases t.phase <;> simp [Phase.preinstall, Phase.terminal, Phase.pendingValidation]

/-- Closing a record. -/
theorem manual_sole {φ : Transaction D → Prop} (reason : String) :
    SoleTriple sha256 v (EachUnderway φ) (manual t reason)
      fun _ => EachUnderway fun u => φ u ∧ u.id ≠ t.id := by
  refine Discipline.Triple.bind (M := fun _ => EachUnderway fun u => φ u ∧ u.id ≠ t.id) ?_ fun _ =>
    Discipline.Triple.ret fun w _ h => h
  refine Discipline.Triple.bind (SoleTriple.look (r := .now) rfl) fun at_ => ?_
  refine Discipline.Triple.bind (M := fun _ => EachUnderway fun u => φ u ∧ u.id ≠ t.id) ?_ fun _ =>
    Discipline.Triple.ret fun w _ h => h
  refine SoleTriple.save EachUnderway.stable (fun w _ _ => .closed rfl) fun w w' h hw' u hu hunder => ?_
  rcases h.saved hw' u hu hunder with rfl | hother
  · exact absurd hunder.1 (by simp [Phase.inFlight])
  · exact hother

/-- Afterwards everything under way belongs to the source. -/
theorem closeStale_sole {i : TxId} (hi : i.base.volumeId = v) (F : SourceFingerprint D)
    {same : List (Transaction D)} :
    SoleTriple sha256 v (EachUnderway (Found i F same)) (closeStale v F)
      fun _ => EachUnderway fun u => Found i F same u ∧ u.sourceFingerprint = F := by
  refine Discipline.Triple.bind transactions_sole fun ts => Discipline.Triple.exists_pre fun _ =>
    Discipline.Triple.assume fun _ => ?_
  -- what is under way belongs to the source or is still to be visited
  have hbody : ∀ (t : Transaction D) (rest : List (Transaction D)), SoleTriple sha256 v
      (EachUnderway fun u => Found i F same u ∧ (u.sourceFingerprint = F ∨ u ∈ t :: rest))
      (Prog.when (t.id.base.volumeId = v ∧ t.sourceFingerprint ≠ F ∧ t.phase.terminal = false ∧
          t.phase.pendingValidation = false)
        (manual t "authoritative .dat fingerprint changed before transaction resume"))
      fun _ => EachUnderway fun u => Found i F same u ∧ (u.sourceFingerprint = F ∨ u ∈ rest) := by
    intro t rest
    refine Discipline.Triple.when (fun _ => ?_) fun hkept w _ h u hu hunder => ?_
    · refine (manual_sole _).post fun _ w _ h => h.mono fun u hu => ⟨hu.1.1, ?_⟩
      refine hu.1.2.imp_right fun hmem => (List.mem_cons.1 hmem).resolve_left ?_
      rintro rfl
      exact hu.2 rfl
    · -- a transaction that is skipped belongs to the source
      obtain ⟨hfound, hrest⟩ := h u hu hunder
      refine ⟨hfound, ?_⟩
      rcases hrest with hF | hmem
      · exact .inl hF
      · rcases List.mem_cons.1 hmem with rfl | hmem
        · refine .inl (Decidable.byContradiction fun hF => hkept ⟨?_, hF, open_of_preinstall hfound.2⟩)
          rw [hfound.id]
          exact hi
        · exact .inr hmem
  have hloop := Discipline.Triple.forEach
    (I := fun rest => EachUnderway fun u => Found i F same u ∧ (u.sourceFingerprint = F ∨ u ∈ rest))
    hbody ts
  apply hloop.mono
  · exact fun w _ h => h.mono fun u hu => ⟨hu.1.2, .inr hu.2⟩
  · exact fun _ w _ h => h.mono fun u hu => ⟨hu.1, hu.2.resolve_right (by simp)⟩
  · exact fun _ _ _ h => h

/-- A new transaction, when nothing else is under way. -/
theorem create_sole {authorized : Bool} {base : Base} {payload : TxId → Nat → Transaction D}
    (hbase : base.volumeId = v)
    (hpayload : ∀ id at_, (payload id at_).id = id ∧ (payload id at_).oldIdx ≠ none) :
    SoleTriple sha256 v (EachUnderway fun _ => False) (create authorized base payload) fun t w =>
      Enrolled v t ∧ EachUnderway (fun u => u.id = t.id) w := by
  refine Discipline.Triple.bind (SoleTriple.look (r := .now) rfl) fun at_ => ?_
  refine Discipline.Triple.bind (M := fun id w => id.base = base ∧ EachUnderway (fun _ => False) w)
    (Discipline.Triple.ask EachUnderway.stable ?_ fun c w _ h _ => ⟨rfl, h⟩) fun id =>
      Discipline.Triple.assume fun hid => ?_
  · exact fun w _ _ t ht => absurd ht (by simp [RepairReq.saves])
  · obtain ⟨hpid, hold⟩ := hpayload id at_
    have henrolled : Enrolled v (payload id at_) := ⟨by rw [hpid, hid]; exact hbase, hold⟩
    refine Discipline.Triple.bind (M := fun _ => EachUnderway fun u => u.id = (payload id at_).id) ?_
      fun _ => Discipline.Triple.ret fun w _ h => ⟨henrolled, h⟩
    refine SoleTriple.save EachUnderway.stable (fun w _ h => ?_) fun w w' h hw' => ?_
    · exact henrolled.enters (h.mono fun _ hfalse => hfalse.elim)
    · have hnew : EachUnderway (fun u => u.id = (payload id at_).id) w :=
        h.mono fun _ hfalse => hfalse.elim
      exact hnew.save (fun _ => rfl) hw'

/-- What is known when a build is needed: its transaction is the only one under way. -/
def BuildsAlone (v : Int) (next : Option (Transaction D)) (w : World D) : Prop :=
  ∀ t, next = some t → Enrolled v t ∧ EachUnderway (fun u => u.id = t.id) w

theorem resume_sole (hv : t.oldIdx ≠ none → t.id.base.volumeId = v) (oldIdx : Artifact D)
    (oldSdx : Option (Artifact D)) :
    SoleTriple sha256 v (EachUnderway fun u => t.oldIdx ≠ none → u.id = t.id) (resume t oldIdx oldSdx)
      (BuildsAlone v) := by
  refine Discipline.Triple.bind (refuse_sole (manual_harmless _)) fun _ =>
    Discipline.Triple.assume fun hkept => ?_
  have hold : t.oldIdx ≠ none := by
    intro hnone
    exact hkept (.inl (by simp [hnone]))
  have ht : Enrolled v t := ⟨hv hold, hold⟩
  have hdone : ∀ w : World D, BuildsAlone v none w := fun w t ht => absurd ht (by simp)
  refine Discipline.Triple.pre (P := EachUnderway fun u => u.id = t.id) ?_
    fun w _ h => h.mono fun u hu => hu hold
  refine Discipline.Triple.ite (fun _ => ?_) fun _ => Discipline.Triple.ite (fun _ => ?_) fun _ => ?_
  · exact Discipline.Triple.bind (installCandidate_sole ht) fun _ =>
      Discipline.Triple.ret fun w _ _ => hdone w
  · refine Discipline.Triple.bind (createBackups_sole ht) fun u => Discipline.Triple.assume fun hu => ?_
    exact Discipline.Triple.bind (installCandidate_sole hu) fun _ =>
      Discipline.Triple.ret fun w _ _ => hdone w
  · refine Discipline.Triple.bind (unlink_sole _) fun _ => Discipline.Triple.ret fun w _ h u hu => ?_
    obtain rfl := Option.some.inj hu
    exact ⟨ht, h⟩

theorem resumeOrCreate_sole {i : TxId} (hi : i.base.volumeId = v) {base : Base}
    (hbase : base.volumeId = v) (identity : SourceIdentity) (F : SourceFingerprint D)
    {same : List (Transaction D)} (hsame : ∀ t ∈ same, Underway t → t.id = i) (oldIdx : Artifact D)
    (oldSdx : Option (Artifact D)) (authorized : Bool) :
    SoleTriple sha256 v (EachUnderway fun u => Found i F same u ∧ u.sourceFingerprint = F)
      (resumeOrCreate base identity F same oldIdx oldSdx authorized) (BuildsAlone v) := by
  unfold resumeOrCreate
  split
  · next t ht =>
      obtain ⟨hmem, hphase⟩ := List.mem_filter.1 (latestOf_mem ht)
      have hid : t.oldIdx ≠ none → t.id = i := fun hold => by
        refine hsame t hmem ⟨?_, hold⟩
        revert hphase
        cases t.phase <;> simp [Phase.preinstall, Phase.inFlight]
      refine (resume_sole (fun hold => ?_) oldIdx oldSdx).pre fun w _ h => h.mono fun u hu hold => ?_
      · rw [hid hold]
        exact hi
      · exact hu.1.id.trans (hid hold).symm
  · next hnone =>
      -- nothing of the source can be resumed, so that nothing is under way
      refine Discipline.Triple.pre (P := EachUnderway fun _ => False) ?_ fun w _ h u hu hunder => ?_
      · refine Discipline.Triple.bind (create_sole hbase fun _ _ => ⟨rfl, by simp⟩) fun t =>
          Discipline.Triple.ret fun w _ h u hu => ?_
        obtain rfl := Option.some.inj hu
        exact h
      · obtain ⟨hfound, hF⟩ := h u hu hunder
        have hempty := latestOf_eq_none.1 hnone
        rw [List.filter_eq_nil_iff] at hempty
        refine hempty u (hfound.loaded hF) (decide_eq_true ⟨hfound.preinstall, fun hfailed => ?_⟩)
        exact absurd hunder.1 (by simp [hfailed, Phase.inFlight])

theorem repairOne_sole (cfg : Config) (args : RepairArgs) (hargs : args.volumeId = v) :
    ∀ (fuel : Nat) (allowIdentical : Bool),
      SoleTriple sha256 v (EachUnderway fun u => u.phase.preinstall = true)
        (repairOne cfg args fuel allowIdentical) fun _ _ => True := by
  intro fuel
  -- the induction is on the fuel: after a recovered tail the repair calls itself
  induction fuel with
  | zero => exact fun _ => Discipline.Triple.raise fun _ _ _ => trivial
  | succ fuel ih =>
      intro allowIdentical
      refine Discipline.Triple.bind orRaise_sole fun base => Discipline.Triple.assume fun hbase => ?_
      have hvolume : base.volumeId = v := by
        rw [safeBaseName_eq hbase]
        exact hargs
      refine Discipline.Triple.bind
        (SoleTriple.harmless (authorizeUnfingerprintedRetry_harmless _)) fun retry => ?_
      refine Discipline.Triple.bind
        (SoleTriple.harmless (preflightFingerprint_harmless _ _ _)) fun F => ?_
      -- whatever is under way has one identifier, and keeps it to the end
      refine Discipline.Triple.bind (admitSource_sole F) fun admitted =>
        Discipline.Triple.exists_pre fun i => Discipline.Triple.assume fun hi => ?_
      rw [hargs]
      refine Discipline.Triple.bind (closeStale_sole hi.1 F) fun _ => ?_
      refine Discipline.Triple.bind (SoleTriple.harmless (liveArtifacts_harmless _ _ _ _ _))
        fun live => ?_
      refine Discipline.Triple.bind (resumeOrCreate_sole hi.1 hvolume _ F hi.2 _ _ _) fun next => ?_
      cases next with
      | none => exact Discipline.Triple.ret fun _ _ _ => trivial
      | some t =>
          refine Discipline.Triple.pre (P := fun w => Enrolled v t ∧
            EachUnderway (fun u => u.id = t.id) w) ?_ fun w _ h => h t rfl
          refine Discipline.Triple.assume fun ht => buildAndInstall_sole cfg _ ht F _ _ ?_
          exact (ih true).pre fun w _ h => h.mono fun _ hfalse => hfalse.elim

end StorageNode.IndexRepair
