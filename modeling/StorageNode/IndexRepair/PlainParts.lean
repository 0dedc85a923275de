import StorageNode.IndexRepair.Requests
import StorageNode.Program.Confined

/-!
# Parts of a repair that leave the data file alone

A part of `repairOne` is plain when it changes no data file and never exceeds the recursion limit,
whatever the answers to its requests are. All parts but the tail helper and the second `repairOne` are
plain.
-/

set_option autoImplicit false

namespace StorageNode.IndexRepair

open StorageNode.Program StorageNode.IndexHelper RepairProg

variable {D : Type} {α β : Type}

/-- Requests that leave every data file alone. -/
def RepairReq.OffData (r : RepairReq D) : Prop :=
  ∀ base, ¬ r.Writes (.dat base)

/-- The program leaves every data file alone, its values satisfy `Φ`, and it never exceeds the
recursion limit. -/
def Plain (p : RepairProg D α) (Φ : α → Prop) : Prop :=
  p.Confined RepairReq.OffData Φ fun e => e ≠ .recursion

/-- Paths other than data files. -/
def Path.OffData (p : Path) : Prop :=
  ∀ base, p ≠ .dat base

namespace Plain

theorem bind {p : RepairProg D α} {f : α → RepairProg D β} {Φ : α → Prop} {Ψ : β → Prop}
    (hp : Plain p Φ) (hf : ∀ a, Φ a → Plain (f a) Ψ) : Plain (p.bind f) Ψ :=
  Prog.Confined.bind hf hp

theorem post {p : RepairProg D α} {Φ Φ' : α → Prop} (hp : Plain p Φ) (h : ∀ a, Φ a → Φ' a) :
    Plain p Φ' :=
  Prog.Confined.post h hp

theorem any {p : RepairProg D α} {Φ : α → Prop} (hp : Plain p Φ) : Plain p fun _ => True :=
  hp.post fun _ _ => trivial

theorem look {r : RepairReq D} (h : r.looks = true) : Plain (Prog.ask r) fun _ => True :=
  Prog.Confined.ask fun _ => RepairReq.not_writes_of_looks h _

theorem must {p : RepairProg D Bool} (hp : Plain p fun _ => True) :
    Plain (RepairProg.must p) fun _ => True :=
  hp.bind fun _ _ => Prog.Confined.raiseIf fun _ => by simp

theorem unlink {p : Path} (h : p.OffData) : Plain (RepairProg.must (tryUnlink p) : RepairProg D Unit)
    fun _ => True :=
  must (Prog.Confined.ask fun base hbase => h base hbase.symm)

theorem copy (source : Path) {destination : Path} (mode : Option Nat) (h : destination.OffData) :
    Plain (RepairProg.must (tryCopy source destination mode) : RepairProg D Unit) fun _ => True :=
  must (Prog.Confined.ask fun base hbase => h base hbase.symm)

theorem replace {source destination : Path} (hsource : source.OffData) (h : destination.OffData) :
    Plain (RepairProg.must (tryReplace source destination) : RepairProg D Unit) fun _ => True :=
  must (Prog.Confined.ask fun base hbase =>
    hbase.elim (fun hbase => hsource base hbase.symm) fun hbase => h base hbase.symm)

theorem fsync : Plain (fsyncDirectory : RepairProg D Unit) fun _ => True :=
  must (look rfl)

theorem raiseIf {bad : Prop} [Decidable bad] {e : RepairExc D} (h : e ≠ .recursion) :
    Plain (Prog.raiseIf bad e) fun _ => True :=
  Prog.Confined.raiseIf fun _ => h

theorem raise {e : RepairExc D} {Φ : α → Prop} (h : e ≠ .recursion) : Plain (Prog.raise e) Φ := h

theorem refuse {condition : Prop} [Decidable condition] {p : RepairProg D Unit} {e : RepairExc D}
    (hp : Plain p fun _ => True) (h : e ≠ .recursion) :
    Plain (Prog.when condition (p.bind fun _ => Prog.raise e)) fun _ => True :=
  Prog.Confined.when (hp.bind fun _ _ => raise h)

/-! ## Records -/

theorem save (kind : SaveKind) (t : Transaction D) :
    Plain (RepairProg.must (trySave kind t)) fun _ => True :=
  must (Prog.Confined.ask fun _ => id)

theorem transition (t : Transaction D) (phase : Phase) :
    Plain (RepairProg.transition t phase) fun _ => True :=
  (look rfl).bind fun _ _ => (save _ _).bind fun _ _ => trivial

theorem manual (t : Transaction D) (reason : String) :
    Plain (RepairProg.manual t reason) fun _ => True :=
  (transition _ _).bind fun _ _ => trivial

theorem create (authorized : Bool) (base : Base) (payload : TxId → Nat → Transaction D) :
    Plain (RepairProg.create authorized base payload) fun t => ∃ id at_, t = payload id at_ :=
  (look rfl).bind fun at_ _ => (look rfl).bind fun id _ => (save _ _).bind fun _ _ => ⟨id, at_, rfl⟩

theorem transactions : Plain (RepairProg.transactions : RepairProg D (List (Transaction D)))
    fun _ => True :=
  (look rfl).bind fun _ _ => Plain.any (Prog.Confined.orRaise (by simp))

theorem recordPreinstallFailure (t : Transaction D) (reason : String) :
    Plain (RepairProg.recordPreinstallFailure t reason) fun _ => True :=
  (transition _ _).bind fun _ _ => Prog.Confined.when (manual _ reason)

theorem consumeRetry (t : Transaction D) (refusal : String) :
    Plain (RepairProg.consumeRetry t refusal) fun _ => True :=
  (raiseIf (by simp)).bind fun _ _ => save _ _

/-! ## Before the build -/

theorem helperPayload (process : HelperProcess D) :
    Plain (RepairProg.helperPayload process) fun _ => True := by
  cases process with
  | spawnFailed => exact raise (by simp)
  | timeout => exact raise (by simp)
  | invalid => exact raise (by simp)
  | output returncode payload =>
      simp only [RepairProg.helperPayload]
      split
      · split
        · exact raise (by simp)
        · exact raise (by simp)
      · trivial

theorem authorizeUnfingerprintedRetry (identity : SourceIdentity) :
    Plain (RepairProg.authorizeUnfingerprintedRetry identity : RepairProg D Bool) fun _ => True := by
  refine transactions.bind fun ts _ => ?_
  dsimp only
  split
  · trivial
  · exact (consumeRetry _ _).bind fun _ _ => trivial

theorem recordUnfingerprintedFailure (base : Base) (identity : SourceIdentity) (reason : String)
    (retryAuthorized : Bool) :
    Plain (RepairProg.recordUnfingerprintedFailure base identity reason retryAuthorized :
      RepairProg D Unit) fun _ => True := by
  refine transactions.bind fun ts _ => (raiseIf (by simp)).bind fun _ _ => ?_
  exact (create _ _ _).bind fun t _ => recordPreinstallFailure t reason

theorem preflightFingerprint (base : Base) (identity : SourceIdentity) (retryAuthorized : Bool) :
    Plain (RepairProg.preflightFingerprint base identity retryAuthorized :
      RepairProg D (SourceFingerprint D)) fun _ => True := by
  have hpreflight : Plain (do
      let payload ← RepairProg.runPreflight
      Prog.orRaise .lookup payload.sourceFingerprintBefore : RepairProg D (RawFingerprint D))
      fun _ => True := by
    refine Plain.bind (Φ := fun _ => True) ?_ fun payload _ => Plain.any (Prog.Confined.orRaise (by simp))
    exact (look (r := .preflight) rfl).bind fun process _ => helperPayload process
  refine Plain.bind (Prog.Confined.attempt hpreflight) fun outcome houtcome => ?_
  have hfail : ∀ e : RepairExc D, Plain ((RepairProg.recordUnfingerprintedFailure base identity
      ("source preflight failed: " ++ e.text) retryAuthorized).bind fun _ =>
        Prog.raise (.repair ("source preflight failed: " ++ e.text)) :
          RepairProg D (SourceFingerprint D)) fun _ => True :=
    fun e => (recordUnfingerprintedFailure base identity _ retryAuthorized).bind
      fun _ _ => raise (by simp)
  cases outcome with
  | ok raw => trivial
  | error e =>
      cases e with
      | os => exact raise (by simp)
      | recursion => exact absurd rfl (houtcome.2 _ rfl)
      | lookup => exact hfail _
      | repair message => exact hfail _
      | journal message => exact hfail _
      | manual message => exact hfail _
      | unsafeCandidate message payload => exact hfail _

variable [DecidableEq D]

/-- The admitted transactions are those of the source. -/
theorem admitSource (fingerprint : SourceFingerprint D) :
    Plain (RepairProg.admitSource fingerprint) fun result =>
      ∀ t ∈ result.1, t.sourceFingerprint = fingerprint := by
  refine transactions.bind fun ts _ => (raiseIf (by simp)).bind fun _ _ => ?_
  refine Plain.bind (Φ := fun _ => True) ?_ fun authorized _ => ?_
  · unfold authorizeRetry
    split
    · trivial
    · exact (consumeRetry _ _).bind fun _ _ => trivial
  · have hrefuse : Plain (refuseExhausted (sameSource fingerprint ts)) fun _ => True :=
      Plain.bind (Prog.Confined.forEach (fun latest => manual latest _) _)
        fun _ _ => raise (by simp)
    refine Plain.bind (Prog.Confined.when hrefuse) fun _ _ => ?_
    exact fun t ht => by simpa using (List.mem_filter.1 ht).2

theorem closeStale (volumeId : Int) (fingerprint : SourceFingerprint D) :
    Plain (RepairProg.closeStale volumeId fingerprint) fun _ => True :=
  transactions.bind fun ts _ => Prog.Confined.forEach (fun t => Prog.Confined.when (manual t _)) ts

omit [DecidableEq D] in
theorem recordStructuralFailure (base : Base) (identity : SourceIdentity)
    (fingerprint : SourceFingerprint D) (attemptCount : Nat) (authorized : Bool) (reason : String) :
    Plain (RepairProg.recordStructuralFailure base identity fingerprint attemptCount authorized reason)
      fun _ => True :=
  (create _ _ _).bind fun t _ => manual t reason

omit [DecidableEq D] in
theorem hashOrRaise (p : Path) : Plain (RepairProg.hashOrRaise p : RepairProg D (Artifact D))
    fun _ => True :=
  (look (r := .hash p) rfl).bind fun _ _ => Plain.any (Prog.Confined.orRaise (by simp))

omit [DecidableEq D] in
theorem liveArtifacts (base : Base) (identity : SourceIdentity) (fingerprint : SourceFingerprint D)
    (attemptCount : Nat) (authorized : Bool) :
    Plain (RepairProg.liveArtifacts base identity fingerprint attemptCount authorized)
      fun _ => True := by
  have hfail := fun reason => recordStructuralFailure base identity fingerprint attemptCount
    authorized reason
  refine (look (r := .node (.liveIdx base)) rfl).bind fun idx _ => ?_
  refine (refuse (hfail _) (by simp)).bind fun _ _ => ?_
  refine (look (r := .node (.liveSdx base)) rfl).bind fun sdx _ => ?_
  refine (refuse (hfail _) (by simp)).bind fun _ _ => ?_
  refine (hashOrRaise _).bind fun oldIdx _ => ?_
  refine (look (r := .node (.liveSdx base)) rfl).bind fun sdx _ => ?_
  refine Plain.bind (Φ := fun _ => True) ?_ fun _ _ => trivial
  unfold sortedArtifact
  split
  · exact (hashOrRaise _).bind fun _ _ => trivial
  · trivial

/-! ## Backups and installation -/

theorem sameArtifact (p : Path) (expected : Option (Digest D)) :
    Plain (RepairProg.sameArtifact p expected) fun _ => True := by
  unfold RepairProg.sameArtifact
  cases expected with
  | none => exact (look (r := .node p) rfl).bind fun _ _ => trivial
  | some digest =>
      refine (look (r := .hash p) rfl).bind fun answer _ => ?_
      cases answer <;> trivial

theorem stageTemporary (t : Transaction D) (candidate : Path) (digest : Digest D) :
    Plain (RepairProg.stageTemporary t candidate digest) fun _ => True := by
  refine Plain.bind (Φ := fun _ => True) ?_ fun usable _ => ?_
  · refine (look (r := .node _) rfl).bind fun found _ => ?_
    split
    · exact sameArtifact _ _
    · trivial
  · refine Plain.bind (Prog.Confined.when (unlink (by simp [Path.OffData]))) fun _ _ => ?_
    refine (look (r := .node _) rfl).bind fun found _ => Prog.Confined.when ?_
    refine Plain.bind (Prog.Confined.orRaise (by simp)) fun old _ => ?_
    exact copy candidate _ (by simp [Path.OffData])

theorem installCandidate (t : Transaction D) :
    Plain (RepairProg.installCandidate t) fun _ => True := by
  refine Plain.bind (Prog.Confined.orRaise (by simp)) fun candidate _ => ?_
  refine Plain.bind (Prog.Confined.orRaise (by simp)) fun digest _ => ?_
  refine (sameArtifact _ _).bind fun intact _ => ?_
  refine (refuse (manual t _) (by simp)).bind fun _ _ => ?_
  refine (stageTemporary t candidate digest).bind fun _ _ => (transition _ _).bind fun u _ => ?_
  refine (replace (by simp [Path.OffData]) (by simp [Path.OffData, Transaction.liveIdx])).bind
    fun _ _ => ?_
  refine Plain.bind (Φ := fun _ => True) ?_ fun _ _ => fsync.bind fun _ _ => ?_
  · exact (unlink (by simp [Path.OffData, Transaction.liveSdx])).bind fun _ _ => fsync
  · refine (sameArtifact _ _).bind fun installed _ => (raiseIf (by simp)).bind fun _ _ => ?_
    exact (transition _ _).bind fun v _ => (transition _ _).bind fun _ _ => trivial

theorem backupOne (source : Path) {destination : Path} (h : destination.OffData)
    (expected : Option (Digest D)) :
    Plain (RepairProg.backupOne source destination expected) fun _ => True := by
  refine fsync.bind fun _ _ => (look (r := .node destination) rfl).bind fun found _ => ?_
  dsimp only
  split
  · exact (sameArtifact _ _).bind fun _ _ => raiseIf (by simp)
  · refine Plain.bind (Φ := fun _ => True) (Prog.Confined.ask fun base hbase => h base hbase.symm)
      fun linked _ => ?_
    refine Plain.bind (Prog.Confined.when ?_) fun _ _ => ?_
    · refine (look (r := .scratchName _) rfl).bind fun name _ => ?_
      refine (copy source none (by simp [Path.OffData])).bind fun _ _ => fsync.bind fun _ _ => ?_
      exact replace (by simp [Path.OffData]) h
    · refine (sameArtifact _ _).bind fun _ _ => (raiseIf (by simp)).bind fun _ _ => fsync

theorem createBackups (t : Transaction D) :
    Plain (RepairProg.createBackups t) fun _ => True := by
  refine fsync.bind fun _ _ => (backupOne _ (by simp [Path.OffData]) _).bind fun _ _ => ?_
  refine Plain.bind (Φ := fun _ => True) ?_ fun u _ => fsync.bind fun _ _ => transition u _
  unfold backupSdx
  split
  · trivial
  · exact (backupOne _ (by simp [Path.OffData]) _).bind fun _ _ => trivial

/-- The transaction that is resumed. -/
theorem resume (t : Transaction D) (oldIdx : Artifact D) (oldSdx : Option (Artifact D)) :
    Plain (RepairProg.resume t oldIdx oldSdx) fun next => ∀ u, next = some u → u = t := by
  refine (refuse (manual t _) (by simp)).bind fun _ _ => ?_
  split
  · refine (installCandidate t).bind fun _ _ => ?_
    exact fun u hu => absurd hu (by simp)
  · split
    · refine (createBackups t).bind fun v _ => (installCandidate v).bind fun _ _ => ?_
      exact fun u hu => absurd hu (by simp)
    · refine (unlink (by simp [Path.OffData])).bind fun _ _ => ?_
      exact fun u hu => (Option.some.inj hu).symm

/-- The next transaction is one of the source. -/
theorem resumeOrCreate (base : Base) (identity : SourceIdentity) (fingerprint : SourceFingerprint D)
    {same : List (Transaction D)} (hsame : ∀ t ∈ same, t.sourceFingerprint = fingerprint)
    (oldIdx : Artifact D) (oldSdx : Option (Artifact D)) (authorized : Bool) :
    Plain (RepairProg.resumeOrCreate base identity fingerprint same oldIdx oldSdx authorized)
      fun next => ∀ u, next = some u → u.sourceFingerprint = fingerprint := by
  unfold RepairProg.resumeOrCreate
  split
  · next t ht =>
      refine (resume t oldIdx oldSdx).post fun next hnext u hu => ?_
      rw [hnext u hu]
      exact hsame t (List.mem_filter.1 (latestOf_mem ht)).1
  · refine (create _ _ _).bind ?_
    rintro t ⟨id, at_, rfl⟩
    intro u hu
    rw [← Option.some.inj hu]

/-! ## The build -/

omit [DecidableEq D] in
theorem discardCandidate (id : TxId) (built : HelperPayload D) :
    Plain (RepairProg.discardCandidate id built) fun _ => True := by
  unfold RepairProg.discardCandidate
  split
  · exact Prog.Confined.ask fun base => by simp [RepairReq.Writes]
  · trivial

theorem acceptBuild (identity : SourceIdentity) (t : Transaction D)
    (fingerprint : SourceFingerprint D) (built : HelperPayload D) :
    Plain (RepairProg.acceptBuild identity t fingerprint built) fun result =>
      ∀ e, result.2 = some e → e ≠ .recursion := by
  unfold RepairProg.acceptBuild
  split
  · exact fun e he => by simp [← Option.some.inj he]
  · split
    · refine (discardCandidate _ _).bind fun removed _ => ?_
      rintro e ⟨rfl⟩
      split <;> simp
    · dsimp only
      split
      · exact fun e he => by simp [← Option.some.inj he]
      · split
        · exact fun e he => by simp [← Option.some.inj he]
        · split
          · exact fun e he => absurd he (by simp)
          · exact fun e he => by simp [← Option.some.inj he]

theorem proveBuild (identity : SourceIdentity) (t : Transaction D)
    (fingerprint : SourceFingerprint D) :
    Plain (RepairProg.proveBuild identity t fingerprint) fun result =>
      ∀ e, result.2 = some e → e ≠ .recursion := by
  have hbuild : Plain (runBuild t.id fingerprint) fun _ => True := by
    refine Plain.bind (Φ := fun _ => True) (Prog.Confined.ask fun base => ?_)
      fun process _ => helperPayload process
    simp [RepairReq.Writes]
  refine Plain.bind (Prog.Confined.attempt hbuild) fun outcome houtcome => ?_
  cases outcome with
  | ok built => exact acceptBuild identity t fingerprint built
  | error e =>
      rintro e' ⟨rfl⟩
      exact houtcome.2 _ rfl

theorem backUpAndInstall (t : Transaction D) :
    Plain (RepairProg.backUpAndInstall t) fun _ => True :=
  (transition _ _).bind fun u _ => (createBackups u).bind fun v _ => installCandidate v

theorem finishBuild (t : Transaction D) (oldIdx : Artifact D) (allowIdentical : Bool) :
    Plain (RepairProg.finishBuild t oldIdx allowIdentical) fun _ => True := by
  refine (sameArtifact _ _).bind fun same _ => ?_
  refine (refuse (recordPreinstallFailure t _) (by simp)).bind fun _ _ => ?_
  split
  · split
    · exact backUpAndInstall _
    · exact (manual _ _).bind fun _ _ => raise (by simp)
  · exact backUpAndInstall t

end Plain

end StorageNode.IndexRepair
