import StorageNode.IndexRepair.Requests

/-!
# What operations do to records

The journal is written in three places: `transition`, `create` and `consumeRetry`. `RecordRules`
states what a discipline has to grant to these, and to requests that save nothing and leave live files
alone; the lemmas below then carry it through every operation before an installation. `FullRules`
also grants writes to live files, and covers the rest.

What a program returns is described by facts about the value (`Yields`): a record keeps its origin,
that is the fields that its creation fixes.
-/

set_option autoImplicit false

namespace StorageNode.IndexRepair

open StorageNode.Program StorageNode.IndexHelper RepairProg

variable {D : Type}

/-! ## Origins -/

/-- The record belongs to the files of its source, and has no fingerprint exactly when it says so. -/
structure OriginOk (t : Transaction D) : Prop where
  base : t.id.base = ⟨t.identity.collection, t.identity.volumeId⟩
  known : ∀ identity raw, t.sourceFingerprint = .known identity raw → identity = t.identity
  unavailable : t.fingerprintUnavailable = true → t.sourceFingerprint = .unavailable t.identity

/-- Two versions of one record. -/
structure SameOrigin (t u : Transaction D) : Prop where
  id : u.id = t.id
  identity : u.identity = t.identity
  source : u.sourceFingerprint = t.sourceFingerprint
  unavailable : u.fingerprintUnavailable = t.fingerprintUnavailable

theorem SameOrigin.refl (t : Transaction D) : SameOrigin t t := ⟨rfl, rfl, rfl, rfl⟩

theorem SameOrigin.trans {t u v : Transaction D} (h : SameOrigin t u) (h' : SameOrigin u v) :
    SameOrigin t v :=
  ⟨h'.id.trans h.id, h'.identity.trans h.identity, h'.source.trans h.source,
    h'.unavailable.trans h.unavailable⟩

/-- A record that names its staging directory. -/
theorem SameOrigin.staged (t : Transaction D) :
    SameOrigin t { t with stagingDir := some t.staging } :=
  ⟨rfl, rfl, rfl, rfl⟩

theorem OriginOk.moved {t u : Transaction D} (ht : OriginOk t) (h : SameOrigin t u) : OriginOk u where
  base := by
    rw [h.id, h.identity]
    exact ht.base
  known identity raw hsource := by
    rw [h.identity]
    exact ht.known identity raw (h.source ▸ hsource)
  unavailable hflag := by
    rw [h.source, h.identity]
    exact ht.unavailable (h.unavailable ▸ hflag)

/-- A record of a readable source. -/
theorem OriginOk.of_known {t : Transaction D} {raw : RawFingerprint D}
    (hbase : t.id.base = ⟨t.identity.collection, t.identity.volumeId⟩)
    (hsource : t.sourceFingerprint = .known t.identity raw) (hflag : t.fingerprintUnavailable = false) :
    OriginOk t := by
  refine ⟨hbase, fun identity raw' h => ?_, fun h => absurd (hflag.symm.trans h) (by simp)⟩
  exact (SourceFingerprint.known.inj (hsource.symm.trans h)).1.symm

/-- Requests that leave every live index and sorted index alone. -/
def RepairReq.OffLive (r : RepairReq D) : Prop :=
  ∀ base, ¬ r.Writes (.liveIdx base) ∧ ¬ r.Writes (.liveSdx base)

/-- Requests that save no record and leave live files alone. -/
def RepairReq.Quiet (r : RepairReq D) : Prop :=
  r.saves = none ∧ r.OffLive

theorem RepairReq.quiet_of_looks (r : RepairReq D) (h : r.looks = true) : r.Quiet :=
  ⟨saves_of_looks h, fun _ => ⟨not_writes_of_looks h _, not_writes_of_looks h _⟩⟩

/-- Paths other than live files. -/
def Path.OffLive (p : Path) : Prop :=
  ∀ base, p ≠ .liveIdx base ∧ p ≠ .liveSdx base

theorem quiet_unlink (p : Path) (hp : p.OffLive) : (RepairReq.unlink p : RepairReq D).Quiet :=
  ⟨rfl, fun base => ⟨fun h => (hp base).1 h.symm, fun h => (hp base).2 h.symm⟩⟩

theorem quiet_copy (source destination : Path) (mode : Option Nat) (hp : destination.OffLive) :
    (RepairReq.copy source destination mode : RepairReq D).Quiet :=
  ⟨rfl, fun base => ⟨fun h => (hp base).1 h.symm, fun h => (hp base).2 h.symm⟩⟩

theorem quiet_link (source destination : Path) (hp : destination.OffLive) :
    (RepairReq.link source destination : RepairReq D).Quiet :=
  ⟨rfl, fun base => ⟨fun h => (hp base).1 h.symm, fun h => (hp base).2 h.symm⟩⟩

theorem quiet_replace (source destination : Path) (hsource : source.OffLive)
    (hp : destination.OffLive) : (RepairReq.replace source destination : RepairReq D).Quiet := by
  refine ⟨rfl, fun base => ⟨fun h => ?_, fun h => ?_⟩⟩
  · exact h.elim (fun h => (hsource base).1 h.symm) fun h => (hp base).1 h.symm
  · exact h.elim (fun h => (hsource base).2 h.symm) fun h => (hp base).2 h.symm

theorem quiet_build (id : TxId) (fingerprint : SourceFingerprint D) :
    (RepairReq.build id fingerprint).Quiet :=
  ⟨rfl, fun _ => ⟨by simp [RepairReq.Writes], by simp [RepairReq.Writes]⟩⟩

theorem quiet_recoverTail (id : TxId) (expected : Option (RawFingerprint D)) (maximum : Int) :
    (RepairReq.recoverTail id expected maximum).Quiet :=
  ⟨rfl, fun _ => ⟨by simp [RepairReq.Writes], by simp [RepairReq.Writes]⟩⟩

/-! ## Facts about returned values -/

section

variable {σ C α β : Type} {exec : (r : RepairReq D) → C → σ → r.Ans × σ}

/-- Every value that the program returns satisfies `Φ`. -/
def Yields (d : Discipline exec) (p : RepairProg D α) (Φ : α → Prop) : Prop :=
  d.Triple (fun _ => True) p (fun a _ => Φ a) fun _ _ => True

namespace Yields

variable {d : Discipline exec} {Φ : α → Prop} {Ψ : β → Prop}

theorem bind {p : RepairProg D α} {f : α → RepairProg D β} (hp : Yields d p Φ)
    (hf : ∀ a, Φ a → Yields d (f a) Ψ) : Yields d (p.bind f) Ψ :=
  Discipline.Triple.bind hp fun a s hs ha => hf a ha s hs trivial

theorem ret {a : α} (h : Φ a) : Yields d (.ret a) Φ :=
  Discipline.Triple.ret fun _ _ _ => h

theorem raise {e : RepairExc D} : Yields d (.raise e) Φ :=
  Discipline.Triple.raise fun _ _ _ => trivial

theorem post {Φ' : α → Prop} {p : RepairProg D α} (hp : Yields d p Φ) (h : ∀ a, Φ a → Φ' a) :
    Yields d p Φ' :=
  Discipline.Triple.post hp fun a _ _ ha => h a ha

theorem raiseIf {bad : Prop} [Decidable bad] {e : RepairExc D} :
    Yields d (Prog.raiseIf bad e) fun _ => ¬ bad :=
  Discipline.Triple.raiseIf (fun _ _ _ _ => trivial) fun h _ _ _ => h

theorem when {condition : Prop} [Decidable condition] {p : RepairProg D Unit}
    (hp : condition → Yields d p fun _ => True) : Yields d (Prog.when condition p) fun _ => True :=
  Discipline.Triple.when hp fun _ _ _ _ => trivial

theorem orRaise {e : RepairExc D} {o : Option α} : Yields d (Prog.orRaise e o) fun a => o = some a :=
  Discipline.Triple.orRaise (fun _ _ _ _ => trivial) fun _ h _ _ _ => h

theorem forEach {body : β → RepairProg D Unit} : ∀ {xs : List β},
    (∀ x ∈ xs, Yields d (body x) fun _ => True) → Yields d (Prog.forEach xs body) fun _ => True
  | [], _ => ret trivial
  | _ :: _, h => bind (h _ List.mem_cons_self) fun _ _ =>
      forEach fun y hy => h y (List.mem_cons_of_mem _ hy)

theorem attempt {p : RepairProg D α} (hp : Yields d p Φ) :
    Yields d p.attempt fun outcome => ∀ a, outcome = .ok a → Φ a := by
  refine Discipline.Triple.attempt (Discipline.Triple.mono hp (fun _ _ h => h) ?_ ?_)
  · rintro a s - ha b ⟨rfl⟩
    exact ha
  · intro e s _ _ b hb
    exact absurd hb (by simp)

/-- An exception after a recorded failure. -/
theorem refuse {condition : Prop} [Decidable condition] {p : RepairProg D Unit} {e : RepairExc D}
    (hp : Yields d p fun _ => True) :
    Yields d (Prog.when condition (p.bind fun _ => Prog.raise e)) fun _ => True :=
  when fun _ => bind hp fun _ _ => raise

end Yields

/-- What a discipline grants to the work on one record before an installation. `Ok` selects the records
that are worked on; it depends on their origin only, and holds of new records of a readable source. -/
structure WorkRules (d : Discipline exec) (Ok : Transaction D → Prop) : Prop where
  moved : ∀ {t u : Transaction D}, Ok t → SameOrigin t u → Ok u
  fresh : ∀ t, OriginOk t → t.fingerprintUnavailable = false → Ok t
  quiet : ∀ (r : RepairReq D) s, r.Quiet → d.inv s → d.allow r s
  transition : ∀ t phase, Ok t → phase ≠ .installingCandidate →
    Yields d (RepairProg.transition t phase) fun u =>
      ∃ at_, u = { t with phase := phase, updatedAt := at_ }
  create : ∀ authorized base payload, (∀ id at_, id.base = base →
      Ok (payload id at_) ∧ (payload id at_).phase = .detected ∧
        (payload id at_).updatedAt = at_) →
    Yields d (RepairProg.create authorized base payload) fun t =>
      ∃ id at_, id.base = base ∧ t = payload id at_

namespace WorkRules

variable {d : Discipline exec} {Ok : Transaction D → Prop} (rules : WorkRules d Ok)

include rules

theorem yields_quiet {p : RepairProg D α} (hp : p.Issues RepairReq.Quiet) : Yields d p fun _ => True :=
  Discipline.Triple.of_issues (Discipline.Stable.const True)
    (fun r s hr hs _ => ⟨rules.quiet r s hr hs, fun _ => trivial⟩) hp

theorem fsync : Yields d fsyncDirectory fun _ => True :=
  rules.yields_quiet (issues_fsync (RepairReq.quiet_of_looks _ rfl))

theorem look {r : RepairReq D} (h : r.looks = true) : Yields d (Prog.ask r) fun _ => True :=
  rules.yields_quiet ((Prog.issues_ask r).2 (RepairReq.quiet_of_looks r h))

/-! ### Transitions -/

theorem moves {t : Transaction D} {phase : Phase} (ht : Ok t)
    (hphase : phase ≠ .installingCandidate) :
    Yields d (RepairProg.transition t phase) fun u => SameOrigin t u ∧ u.phase = phase :=
  (rules.transition t phase ht hphase).post fun _ ⟨_, hu⟩ => hu ▸ ⟨⟨rfl, rfl, rfl, rfl⟩, rfl⟩

theorem manual {t : Transaction D} (ht : Ok t) (reason : String) :
    Yields d (RepairProg.manual t reason) fun _ => True :=
  (rules.moves (t := { t with failureReason := reason }) (rules.moved ht ⟨rfl, rfl, rfl, rfl⟩)
    (by simp)).bind fun _ _ => Yields.ret trivial

theorem recordPreinstallFailure {t : Transaction D} (ht : Ok t) (reason : String) :
    Yields d (RepairProg.recordPreinstallFailure t reason) fun _ => True := by
  have hreason : Ok { t with failureReason := reason } := rules.moved ht ⟨rfl, rfl, rfl, rfl⟩
  refine (rules.moves hreason (by simp)).bind fun u hu => Yields.when fun _ => ?_
  exact rules.manual (rules.moved hreason hu.1) reason

/-! ### Looking at the source and at live files -/

theorem runPreflight : Yields d (RepairProg.runPreflight) fun _ => True :=
  (rules.look (r := .preflight) rfl).bind fun process _ =>
    rules.yields_quiet (helperPayload_issues process)

theorem hashOrRaise (p : Path) : Yields d (RepairProg.hashOrRaise p) fun _ => True :=
  (rules.look (r := .hash p) rfl).bind fun _ _ => Yields.orRaise.post fun _ _ => trivial

theorem recordStructuralFailure (base : Base) (cfg : Config) (activeTransport : String)
    (raw : RawFingerprint D) (attemptCount : Nat) (authorized : Bool) (reason : String) :
    Yields d (RepairProg.recordStructuralFailure base (sourceIdentity cfg activeTransport base)
      (.known (sourceIdentity cfg activeTransport base) raw) attemptCount authorized reason)
      fun _ => True := by
  have horigin : ∀ id at_, id.base = base → Ok ({
      id := id, identity := sourceIdentity cfg activeTransport base,
      sourceFingerprint := .known (sourceIdentity cfg activeTransport base) raw,
      attemptCount := attemptCount, updatedAt := at_ } : Transaction D) :=
    fun id at_ hid => rules.fresh _ (.of_known hid rfl rfl) rfl
  refine (rules.create _ _ _ fun id at_ hid => ⟨horigin id at_ hid, rfl, rfl⟩).bind ?_
  rintro t ⟨id, at_, hid, rfl⟩
  exact rules.manual (horigin id at_ hid) reason

theorem liveArtifacts (base : Base) (cfg : Config) (activeTransport : String)
    (raw : RawFingerprint D) (attemptCount : Nat) (authorized : Bool) :
    Yields d (RepairProg.liveArtifacts base (sourceIdentity cfg activeTransport base)
      (.known (sourceIdentity cfg activeTransport base) raw) attemptCount authorized)
      fun _ => True := by
  refine (rules.look (r := .node (.liveIdx base)) rfl).bind fun idx _ => ?_
  refine (Yields.refuse (rules.recordStructuralFailure base cfg activeTransport raw
    attemptCount authorized _)).bind fun _ _ => ?_
  refine (rules.look (r := .node (.liveSdx base)) rfl).bind fun sdx _ => ?_
  refine (Yields.refuse (rules.recordStructuralFailure base cfg activeTransport raw
    attemptCount authorized _)).bind fun _ _ => ?_
  refine (rules.hashOrRaise _).bind fun oldIdx _ => ?_
  refine (rules.look (r := .node (.liveSdx base)) rfl).bind fun sdx _ => ?_
  refine Yields.bind (Φ := fun _ => True) ?_ fun _ _ => Yields.ret trivial
  unfold sortedArtifact
  split
  · exact (rules.hashOrRaise _).bind fun _ _ => Yields.ret trivial
  · exact Yields.ret trivial

/-! ### Building -/

theorem discardCandidate (id : TxId) (built : HelperPayload D) :
    Yields d (RepairProg.discardCandidate id built) fun _ => True := by
  unfold RepairProg.discardCandidate
  split
  · exact rules.yields_quiet ((Prog.issues_ask _).2 (quiet_unlink _ (by simp [Path.OffLive])))
  · exact Yields.ret trivial

variable [DecidableEq D]

theorem acceptBuild (identity : SourceIdentity) (t : Transaction D)
    (fingerprint : SourceFingerprint D) (built : HelperPayload D) :
    Yields d (RepairProg.acceptBuild identity t fingerprint built) fun result =>
      SameOrigin t result.1 := by
  unfold RepairProg.acceptBuild
  split
  · exact Yields.ret ⟨rfl, rfl, rfl, rfl⟩
  · split
    · exact (rules.discardCandidate _ _).bind fun removed _ => Yields.ret ⟨rfl, rfl, rfl, rfl⟩
    · dsimp only
      split
      · exact Yields.ret ⟨rfl, rfl, rfl, rfl⟩
      · split
        · exact Yields.ret ⟨rfl, rfl, rfl, rfl⟩
        · split
          · exact Yields.ret ⟨rfl, rfl, rfl, rfl⟩
          · exact Yields.ret ⟨rfl, rfl, rfl, rfl⟩

theorem proveBuild (identity : SourceIdentity) (t : Transaction D)
    (fingerprint : SourceFingerprint D) :
    Yields d (RepairProg.proveBuild identity t fingerprint) fun result =>
      SameOrigin t result.1 := by
  have hbuild : Yields d (runBuild t.id fingerprint) fun _ => True :=
    Yields.bind (Φ := fun _ => True) (rules.yields_quiet ((Prog.issues_ask _).2 (quiet_build _ _)))
      fun process _ => rules.yields_quiet (helperPayload_issues process)
  refine hbuild.attempt.bind fun outcome _ => ?_
  cases outcome with
  | ok built => exact rules.acceptBuild identity t fingerprint built
  | error e => exact Yields.ret (SameOrigin.refl t)

omit [DecidableEq D] in
theorem recoverIncompleteTail (cfg : Config) {t : Transaction D} (ht : Ok t)
    (fingerprint : SourceFingerprint D) (payload : HelperPayload D) :
    Yields d (RepairProg.recoverIncompleteTail cfg t fingerprint payload) fun _ => True := by
  unfold RepairProg.recoverIncompleteTail
  split
  · exact Yields.ret trivial
  · refine rules.fsync.bind fun _ _ => ?_
    refine Yields.bind (Φ := fun _ => True)
      (rules.yields_quiet ((Prog.issues_ask _).2 (quiet_recoverTail _ _ _))) fun process _ => ?_
    refine Yields.bind (Φ := fun _ => True) (rules.yields_quiet ?_) fun report _ => ?_
    · cases process <;> trivial
    · refine Yields.raiseIf.bind fun _ _ => Yields.raiseIf.bind fun _ _ => ?_
      refine (rules.moves (rules.moved ht ?_) (by simp)).bind fun _ _ => Yields.ret trivial
      exact ⟨rfl, rfl, rfl, rfl⟩

theorem backupOne {source destination : Path} (hquiet : destination.OffLive)
    (expected : Option (Digest D)) :
    Yields d (RepairProg.backupOne source destination expected) fun _ => True :=
  rules.yields_quiet (backupOne_issues RepairReq.quiet_of_looks (quiet_link _ _ hquiet)
    (fun _ => quiet_copy _ _ _ (by simp [Path.OffLive]))
    (fun _ => quiet_replace _ _ (by simp [Path.OffLive]) hquiet) expected)

theorem createBackups {t : Transaction D} (ht : Ok t) :
    Yields d (RepairProg.createBackups t) fun u => SameOrigin t u ∧ u.phase = .backupCreated := by
  refine rules.fsync.bind fun _ _ => (rules.backupOne (by simp [Path.OffLive]) _).bind fun _ _ => ?_
  refine Yields.bind (Φ := SameOrigin t) ?_ fun u hu => rules.fsync.bind fun _ _ => ?_
  · unfold RepairProg.backupSdx
    split
    · exact Yields.ret ⟨rfl, rfl, rfl, rfl⟩
    · exact (rules.backupOne (by simp [Path.OffLive]) _).bind fun _ _ => Yields.ret ⟨rfl, rfl, rfl, rfl⟩
  · exact (rules.moves (rules.moved ht hu) (by simp)).post fun v hv => ⟨hu.trans hv.1, hv.2⟩

end WorkRules

/-- What a discipline grants to all work on one record. -/
structure InstallRules (d : Discipline exec) (Ok : Transaction D → Prop) : Prop
    extends WorkRules d Ok where
  every : ∀ (r : RepairReq D) s, r.saves = none → d.inv s → d.allow r s
  installing : ∀ t, Ok t → Yields d (RepairProg.transition t .installingCandidate) (SameOrigin t)

namespace InstallRules

variable {d : Discipline exec} {Ok : Transaction D → Prop} (rules : InstallRules d Ok)

include rules

/-- A part that saves no record. -/
theorem yields_every {p : RepairProg D α} (hp : p.Issues fun r => r.saves = none) :
    Yields d p fun _ => True :=
  Discipline.Triple.of_issues (Discipline.Stable.const True)
    (fun r s hr hs _ => ⟨rules.every r s hr hs, fun _ => trivial⟩) hp

theorem removeStaleSdx (t : Transaction D) : Yields d (RepairProg.removeStaleSdx t) fun _ => True :=
  rules.yields_every (Prog.Issues.bind (issues_unlink rfl) fun _ => issues_fsync rfl)

theorem recordInstalled {t : Transaction D} (ht : Ok t) :
    Yields d (RepairProg.recordInstalled t) fun _ => True :=
  (rules.moves ht (by simp)).bind fun _ hu =>
    (rules.moves (rules.moved ht hu.1) (by simp)).bind fun _ _ => Yields.ret trivial

variable [DecidableEq D]

theorem sameArtifact (p : Path) (expected : Option (Digest D)) :
    Yields d (RepairProg.sameArtifact p expected) fun _ => True :=
  rules.yields_every (sameArtifact_issues (fun _ h => RepairReq.saves_of_looks h) p expected)

theorem installCandidate {t : Transaction D} (ht : Ok t) :
    Yields d (RepairProg.installCandidate t) fun _ => True := by
  refine Yields.orRaise.bind fun candidate _ => Yields.orRaise.bind fun digest _ => ?_
  refine (rules.sameArtifact _ _).bind fun intact _ => ?_
  refine (Yields.refuse (rules.manual ht _)).bind fun _ _ => ?_
  refine Yields.bind (Φ := fun _ => True) (rules.yields_every
    (stageTemporary_issues (fun _ h => RepairReq.saves_of_looks h) rfl (fun _ => rfl) digest))
    fun _ _ => ?_
  have hstaged : Ok { t with installTempPath := some (.installing t.id) } :=
    rules.moved ht ⟨rfl, rfl, rfl, rfl⟩
  refine (rules.installing _ hstaged).bind fun u hu => ?_
  refine Yields.bind (Φ := fun _ => True) (rules.yields_every (issues_replace rfl)) fun _ _ => ?_
  refine (rules.removeStaleSdx u).bind fun _ _ => rules.fsync.bind fun _ _ => ?_
  refine (rules.sameArtifact _ _).bind fun installed _ => Yields.raiseIf.bind fun _ _ => ?_
  exact rules.recordInstalled (rules.moved hstaged hu)

/-! ### Upkeep -/

theorem resumeInstall {t : Transaction D} (ht : Ok t) (temporary : Path) :
    Yields d (RepairProg.resumeInstall t temporary) fun _ => True := by
  refine Yields.bind (Φ := fun _ => True) (rules.yields_every
    (usableTemporary_issues (fun _ h => RepairReq.saves_of_looks h) _ _ _)) fun usable _ => ?_
  split
  · refine Yields.bind (Φ := fun _ => True) (rules.yields_every (issues_replace rfl)) fun _ _ => ?_
    refine (rules.removeStaleSdx t).bind fun _ _ => rules.fsync.bind fun _ _ => ?_
    exact rules.recordInstalled ht
  · exact Yields.bind (Φ := fun _ => True) (rules.yields_every (issues_unlink rfl)) fun _ _ =>
      rules.installCandidate ht

theorem recoverInterruptedInstall {t : Transaction D} (ht : Ok t) :
    Yields d (RepairProg.recoverInterruptedInstall t) fun _ => True := by
  refine (rules.sameArtifact _ _).bind fun isCandidate _ => ?_
  split
  · exact (rules.removeStaleSdx t).bind fun _ _ => rules.recordInstalled ht
  · refine (rules.sameArtifact _ _).bind fun isOld _ => ?_
    split
    · exact Yields.orRaise.bind fun temporary _ => rules.resumeInstall ht temporary
    · exact (rules.manual ht _).bind fun _ _ => Yields.raise

theorem validateInstalledArtifacts {t : Transaction D} (ht : Ok t) :
    Yields d (RepairProg.validateInstalledArtifacts t) fun _ => True := by
  refine (rules.sameArtifact _ _).bind fun isCandidate _ => ?_
  refine (Yields.refuse (rules.manual ht _)).bind fun _ _ => ?_
  refine (rules.look (r := .node t.liveSdx) rfl).bind fun sdx _ => ?_
  refine (Yields.refuse (rules.manual ht _)).bind fun _ _ => Yields.when fun _ => ?_
  exact (rules.moves ht (by simp)).bind fun _ _ => Yields.ret trivial

theorem prepareOne {t : Transaction D} (ht : Ok t) :
    Yields d (RepairProg.prepareOne t) fun _ => True := by
  unfold RepairProg.prepareOne
  split
  · exact rules.recoverInterruptedInstall ht
  · exact rules.validateInstalledArtifacts ht
  · exact rules.validateInstalledArtifacts ht
  · exact (rules.moves ht (by simp)).bind fun _ _ => Yields.ret trivial
  · exact rules.manual ht _
  · exact Yields.ret trivial

theorem restoreOne (backup destination : Path) (expected : Artifact D) :
    Yields d (RepairProg.restoreOne backup destination expected) fun _ => True :=
  rules.yields_every (restoreOne_issues (fun _ h => RepairReq.saves_of_looks h) backup
    (fun _ _ => rfl) (fun _ => rfl) expected)

theorem rollback (reason : String) {t : Transaction D} (ht : Ok t) :
    Yields d (RepairProg.rollback reason t) fun _ => True := by
  refine Yields.orRaise.bind fun backup _ => Yields.orRaise.bind fun old _ => ?_
  refine (rules.restoreOne _ _ _).bind fun _ _ => ?_
  refine Yields.bind (Φ := fun _ => True) ?_ fun _ _ => rules.fsync.bind fun _ _ => ?_
  · unfold restoreSdx
    split
    · exact Yields.orRaise.bind fun backupSdx _ => rules.restoreOne _ _ _
    · exact rules.yields_every (issues_unlink rfl)
  · have hreason : Ok { t with rolledBack := true, failureReason := reason } :=
      rules.moved ht ⟨rfl, rfl, rfl, rfl⟩
    exact (rules.moves hreason (by simp)).bind fun u hu => rules.manual (rules.moved hreason hu.1) reason

/-! ### Repair -/

theorem resume {t : Transaction D} (ht : Ok t) (oldIdx : Artifact D)
    (oldSdx : Option (Artifact D)) :
    Yields d (RepairProg.resume t oldIdx oldSdx) fun next => ∀ u, next = some u → Ok u := by
  refine (Yields.refuse (rules.manual ht _)).bind fun _ _ => ?_
  split
  · exact (rules.installCandidate ht).bind fun _ _ => Yields.ret (by simp)
  · split
    · refine (rules.createBackups ht).bind fun u hu => ?_
      exact (rules.installCandidate (rules.moved ht hu.1)).bind fun _ _ => Yields.ret (by simp)
    · refine Yields.bind (Φ := fun _ => True) (rules.yields_every (issues_unlink rfl)) fun _ _ => ?_
      exact Yields.ret fun u hu => Option.some.inj hu ▸ ht

theorem resumeOrCreate (base : Base) (cfg : Config) (activeTransport : String)
    (raw : RawFingerprint D) {same : List (Transaction D)} (hsame : ∀ t ∈ same, Ok t)
    (oldIdx : Artifact D) (oldSdx : Option (Artifact D)) (authorized : Bool) :
    Yields d (RepairProg.resumeOrCreate base (sourceIdentity cfg activeTransport base)
      (.known (sourceIdentity cfg activeTransport base) raw) same oldIdx oldSdx authorized)
      fun next => ∀ u, next = some u → Ok u := by
  unfold RepairProg.resumeOrCreate
  split
  · next t ht =>
      exact rules.resume (hsame t (List.mem_filter.1 (latestOf_mem ht)).1) oldIdx oldSdx
  · have horigin : ∀ id at_, id.base = base → Ok ({
        id := id, identity := sourceIdentity cfg activeTransport base,
        sourceFingerprint := .known (sourceIdentity cfg activeTransport base) raw,
        oldIdx := some oldIdx, oldSdx := oldSdx,
        attemptCount := attemptsOf same + 1, updatedAt := at_ } : Transaction D) :=
      fun id at_ hid => rules.fresh _ (.of_known hid rfl rfl) rfl
    refine (rules.create _ _ _ fun id at_ hid => ⟨horigin id at_ hid, rfl, rfl⟩).bind ?_
    rintro t ⟨id, at_, hid, rfl⟩
    exact Yields.ret fun u hu => Option.some.inj hu ▸ horigin id at_ hid

theorem backUpAndInstall {t : Transaction D} (ht : Ok t) :
    Yields d (RepairProg.backUpAndInstall t) fun _ => True := by
  refine (rules.moves ht (by simp)).bind fun u hu => ?_
  refine (rules.createBackups (rules.moved ht hu.1)).bind fun v hv => ?_
  exact rules.installCandidate (rules.moved (rules.moved ht hu.1) hv.1)

theorem finishBuild {t : Transaction D} (ht : Ok t) (oldIdx : Artifact D)
    (allowIdentical : Bool) : Yields d (RepairProg.finishBuild t oldIdx allowIdentical) fun _ => True := by
  refine (rules.sameArtifact _ _).bind fun same _ => ?_
  refine (Yields.refuse (rules.recordPreinstallFailure ht _)).bind fun _ _ => ?_
  split
  · split
    · exact rules.backUpAndInstall (rules.moved ht ⟨rfl, rfl, rfl, rfl⟩)
    · have hidentical : Ok { t with candidateIdenticalToLiveIndex := true } :=
        rules.moved ht ⟨rfl, rfl, rfl, rfl⟩
      exact (rules.manual hidentical _).bind fun _ _ => Yields.raise
  · exact rules.backUpAndInstall ht

omit [DecidableEq D] in
theorem failBuild (cfg : Config) {t : Transaction D} (ht : Ok t)
    (fingerprint : SourceFingerprint D) {again : RepairProg D Unit}
    (hagain : Yields d again fun _ => True) (e : RepairExc D) :
    Yields d (RepairProg.failBuild cfg t fingerprint again e) fun _ => True := by
  have hfail : ∀ e : RepairExc D, Yields d ((RepairProg.recordPreinstallFailure t e.text).bind
      fun _ => Prog.raise (.repair e.text) : RepairProg D Unit) fun _ => True :=
    fun e => (rules.recordPreinstallFailure ht _).bind fun _ _ => Yields.raise
  cases e with
  | unsafeCandidate message payload =>
      refine (rules.recoverIncompleteTail cfg ht fingerprint payload).bind fun recovered _ => ?_
      split
      · exact hagain
      · exact (rules.manual ht _).bind fun _ _ => Yields.raise
  | manual message => exact (rules.manual ht _).bind fun _ _ => Yields.raise
  | recursion => exact Yields.raise
  | os => exact hfail _
  | lookup => exact hfail _
  | repair message => exact hfail _
  | journal message => exact hfail _

theorem buildAndInstall (cfg : Config) (identity : SourceIdentity) {t : Transaction D}
    (ht : Ok t) (fingerprint : SourceFingerprint D) (oldIdx : Artifact D)
    (allowIdentical : Bool) {again : RepairProg D Unit} (hagain : Yields d again fun _ => True) :
    Yields d (RepairProg.buildAndInstall cfg identity t fingerprint oldIdx allowIdentical again)
      fun _ => True := by
  refine (rules.moves ht (by simp)).bind fun u hu => ?_
  have hu' := rules.moved (rules.moved ht hu.1) (.staged u)
  refine (rules.moves hu' (by simp)).bind fun v hv => ?_
  have hv' := rules.moved hu' hv.1
  refine (rules.moves hv' (by simp)).bind fun x hx => ?_
  refine (rules.proveBuild identity x fingerprint).bind fun result hresult => ?_
  have hresult' := rules.moved (rules.moved hv' hx.1) hresult
  rcases result with ⟨y, _ | e⟩
  · exact rules.finishBuild hresult' oldIdx allowIdentical
  · exact rules.failBuild cfg hresult' fingerprint hagain e

end InstallRules

/-! ## Operations before an installation -/

/-- What a discipline grants to the operations before an installation. `known t s` says that `t` was
read from the journal. -/
structure RecordRules (d : Discipline exec) (known : Transaction D → σ → Prop) : Prop where
  quiet : ∀ (r : RepairReq D) s, r.Quiet → d.inv s → d.allow r s
  transition : ∀ t phase, OriginOk t → phase ≠ .installingCandidate →
    Yields d (RepairProg.transition t phase) fun u =>
      ∃ at_, u = { t with phase := phase, updatedAt := at_ }
  create : ∀ authorized base payload, (∀ id at_, id.base = base →
      OriginOk (payload id at_) ∧ (payload id at_).phase = .detected ∧
        (payload id at_).updatedAt = at_) →
    Yields d (RepairProg.create authorized base payload) fun t =>
      ∃ id at_, id.base = base ∧ t = payload id at_
  transactions : d.Triple (fun _ => True) RepairProg.transactions
    (fun ts s => ∀ t ∈ ts, OriginOk t ∧ known t s) fun _ _ => True
  consume : ∀ t refusal, OriginOk t → t.phase = .manualInterventionRequired →
    d.Triple (known t) (consumeRetry t refusal) (fun _ _ => True) fun _ _ => True

namespace RecordRules

variable {d : Discipline exec} {known : Transaction D → σ → Prop} (rules : RecordRules d known)

include rules

theorem work : WorkRules d OriginOk :=
  ⟨fun ht h => ht.moved h, fun _ ht _ => ht, rules.quiet, rules.transition, rules.create⟩

theorem loads : Yields d RepairProg.transactions fun ts => ∀ t ∈ ts, OriginOk t :=
  Discipline.Triple.post rules.transactions fun _ _ _ h t ht => (h t ht).1

theorem recordUnfingerprintedFailure (base : Base) (cfg : Config) (activeTransport : String)
    (reason : String) (retryAuthorized : Bool) :
    Yields d (RepairProg.recordUnfingerprintedFailure base (sourceIdentity cfg activeTransport base)
      reason retryAuthorized) fun _ => True := by
  refine rules.loads.bind fun ts _ => Yields.raiseIf.bind fun _ _ => ?_
  refine (rules.create _ _ _ fun id at_ hid => ⟨⟨?_, ?_, fun _ => rfl⟩, rfl, rfl⟩).bind ?_
  · exact hid
  · exact fun identity raw h => absurd h (by simp)
  · rintro t ⟨id, at_, hid, rfl⟩
    exact rules.work.recordPreinstallFailure
      ⟨hid, fun identity raw h => absurd h (by simp), fun _ => rfl⟩ reason

theorem preflightFingerprint (base : Base) (cfg : Config) (activeTransport : String)
    (retryAuthorized : Bool) :
    Yields d (RepairProg.preflightFingerprint base (sourceIdentity cfg activeTransport base)
      retryAuthorized) fun fingerprint =>
        ∃ raw, fingerprint = SourceFingerprint.known (sourceIdentity cfg activeTransport base) raw := by
  have hpreflight : Yields d (do
      let payload ← RepairProg.runPreflight
      Prog.orRaise .lookup payload.sourceFingerprintBefore : RepairProg D (RawFingerprint D))
      fun _ => True := by
    exact rules.work.runPreflight.bind fun payload _ => Yields.orRaise.post fun _ _ => trivial
  refine hpreflight.attempt.bind fun outcome _ => ?_
  have hfail : ∀ e : RepairExc D, Yields d ((RepairProg.recordUnfingerprintedFailure base
      (sourceIdentity cfg activeTransport base) ("source preflight failed: " ++ e.text)
      retryAuthorized).bind fun _ => Prog.raise (.repair ("source preflight failed: " ++ e.text)))
      fun fingerprint : SourceFingerprint D => ∃ raw,
        fingerprint = .known (sourceIdentity cfg activeTransport base) raw :=
    fun e => (rules.recordUnfingerprintedFailure base cfg activeTransport _ retryAuthorized).bind
      fun _ _ => Yields.raise
  cases outcome with
  | ok raw => exact Yields.ret ⟨raw, rfl⟩
  | error e =>
      cases e with
      | os => exact Yields.raise
      | recursion => exact Yields.raise
      | lookup => exact hfail _
      | repair message => exact hfail _
      | journal message => exact hfail _
      | manual message => exact hfail _
      | unsafeCandidate message payload => exact hfail _

/-- The latest blocked record among loaded ones is used up or refused. -/
theorem consumeLatest {ts : List (Transaction D)} (refusal : String) :
    d.Triple (fun s => ∀ t ∈ ts, OriginOk t ∧ known t s)
      (match latestOf (ts.filter fun t => t.phase = .manualInterventionRequired) with
        | none => pure false
        | some latest => do
          consumeRetry latest refusal
          pure true : RepairProg D Bool)
      (fun _ _ => True) fun _ _ => True := by
  cases hlatest : latestOf (ts.filter fun t => t.phase = .manualInterventionRequired) with
  | none => exact Discipline.Triple.ret fun _ _ _ => trivial
  | some latest =>
      intro s hs h
      have hmem := List.mem_filter.1 (latestOf_mem hlatest)
      obtain ⟨horigin, hknown⟩ := h latest hmem.1
      exact Discipline.Triple.bind (rules.consume latest refusal horigin (by simpa using hmem.2))
        (fun _ => Discipline.Triple.ret fun _ _ _ => trivial) s hs hknown

theorem authorizeUnfingerprintedRetry (identity : SourceIdentity) :
    Yields d (RepairProg.authorizeUnfingerprintedRetry identity) fun _ => True := by
  refine Discipline.Triple.bind rules.transactions fun ts => ?_
  refine Discipline.Triple.pre (rules.consumeLatest _) fun s _ h t ht => ?_
  exact h t (List.mem_filter.1 ht).1

theorem refuseExhausted {same : List (Transaction D)} (hsame : ∀ t ∈ same, OriginOk t) :
    Yields d (RepairProg.refuseExhausted same) fun _ => True := by
  refine Yields.bind (Φ := fun _ => True) (Yields.forEach fun t ht => ?_) fun _ _ => Yields.raise
  obtain hlatest := Option.mem_toList.1 ht
  exact rules.work.manual (hsame t (List.mem_filter.1 (latestOf_mem hlatest)).1) _

variable [DecidableEq D]

theorem admitSource (fingerprint : SourceFingerprint D) :
    Yields d (RepairProg.admitSource fingerprint) fun result =>
      ∀ t ∈ result.1, OriginOk t ∧ t.sourceFingerprint = fingerprint := by
  refine Discipline.Triple.bind rules.transactions fun ts => ?_
  have hsame : ∀ t ∈ sameSource fingerprint ts, t ∈ ts ∧ t.sourceFingerprint = fingerprint :=
    fun t ht => by simpa [sameSource] using ht
  intro s hs hts
  have horigin : ∀ t ∈ sameSource fingerprint ts, OriginOk t := fun t ht => (hts t (hsame t ht).1).1
  refine Discipline.Triple.bind (P := fun s => ∀ t ∈ ts, OriginOk t ∧ known t s)
    (M := fun _ s => ∀ t ∈ ts, OriginOk t ∧ known t s) ?_ (fun _ => ?_) s hs hts
  · exact Discipline.Triple.raiseIf (fun _ _ _ _ => trivial) fun _ _ _ h => h
  · refine Discipline.Triple.bind (M := fun _ _ => True) ?_ fun authorized => ?_
    · exact Discipline.Triple.pre (rules.consumeLatest _) fun s _ h t ht => h t (hsame t ht).1
    · refine Yields.bind (Φ := fun _ => True) (Yields.when fun _ =>
        rules.refuseExhausted horigin) fun _ _ => Yields.ret fun t ht => ?_
      exact ⟨horigin t ht, (hsame t ht).2⟩

theorem closeStale (volumeId : Int) (fingerprint : SourceFingerprint D) :
    Yields d (RepairProg.closeStale volumeId fingerprint) fun _ => True :=
  rules.loads.bind fun _ hts => Yields.forEach fun t ht => Yields.when fun _ =>
    rules.work.manual (hts t ht) _

end RecordRules

/-! ## Every operation -/

/-- What a discipline grants to all operations. -/
structure FullRules (d : Discipline exec) (known : Transaction D → σ → Prop) : Prop
    extends RecordRules d known where
  every : ∀ (r : RepairReq D) s, r.saves = none → d.inv s → d.allow r s
  installing : ∀ t, OriginOk t → Yields d (RepairProg.transition t .installingCandidate) (SameOrigin t)

namespace FullRules

variable {d : Discipline exec} {known : Transaction D → σ → Prop} (rules : FullRules d known)

include rules

theorem install : InstallRules d OriginOk :=
  { rules.work with every := rules.every, installing := rules.installing }

theorem reconcileResolvedPreinstall (resolved : Int → Bool) :
    Yields d (RepairProg.reconcileResolvedPreinstall resolved) fun _ => True := by
  refine rules.loads.bind fun ts hts => Yields.forEach fun t ht => Yields.when fun _ => ?_
  exact (rules.work.moves (hts t ht) (by simp)).bind fun u _ =>
    Yields.when fun _ => rules.install.yields_every ((Prog.issues_ask _).2 rfl)

theorem awaiting : Yields d RepairProg.awaiting fun ts => ∀ t ∈ ts, OriginOk t :=
  rules.loads.bind fun _ hts => Yields.ret fun t ht => hts t (List.mem_filter.1 ht).1

theorem validateUpstream (readonly : Int → Option Bool) :
    Yields d (RepairProg.validateUpstream readonly) fun _ => True := by
  refine rules.awaiting.bind fun ts hts => Yields.forEach fun t ht => ?_
  unfold validateOne
  split
  · exact (rules.work.moves (hts t ht) (by simp)).bind fun _ _ => Yields.ret trivial
  · exact Yields.ret trivial

variable [DecidableEq D]

theorem prepareOffline : Yields d (RepairProg.prepareOffline (D := D)) fun _ => True := by
  refine rules.work.fsync.bind fun _ _ => rules.loads.bind fun ts hts => ?_
  refine (Yields.forEach fun t ht => rules.install.prepareOne (hts t ht)).bind fun _ _ => ?_
  exact rules.awaiting.bind fun _ _ => Yields.ret trivial

theorem rollbackRejected (volumeIds : List Int) (reason : String) :
    Yields d (RepairProg.rollbackRejected volumeIds reason) fun _ => True :=
  rules.awaiting.bind fun _ hts => Yields.forEach fun t ht =>
    rules.install.rollback reason (hts t (List.mem_filter.1 ht).1)

theorem repairOne (cfg : Config) (args : RepairArgs) : ∀ (fuel : Nat) (allowIdentical : Bool),
    Yields d (RepairProg.repairOne cfg args fuel allowIdentical) fun _ => True
  | 0, _ => Yields.raise
  | fuel + 1, allowIdentical => by
      refine Yields.orRaise.bind fun base _ => ?_
      refine (rules.authorizeUnfingerprintedRetry _).bind fun retry _ => ?_
      refine (rules.preflightFingerprint base cfg _ retry).bind ?_
      rintro _ ⟨raw, rfl⟩
      refine (rules.admitSource _).bind ?_
      rintro ⟨same, authorized⟩ hsame
      refine (rules.closeStale _ _).bind fun _ _ => ?_
      refine (rules.work.liveArtifacts base cfg _ raw _ authorized).bind ?_
      rintro ⟨oldIdx, oldSdx⟩ -
      refine (rules.install.resumeOrCreate base cfg _ raw (fun t ht => (hsame t ht).1) oldIdx oldSdx
        authorized).bind fun next hnext => ?_
      cases next with
      | none => exact Yields.ret trivial
      | some t =>
          exact rules.install.buildAndInstall cfg _ (hnext t rfl) _ oldIdx allowIdentical
            (repairOne cfg args fuel true)

end FullRules

end

end StorageNode.IndexRepair
