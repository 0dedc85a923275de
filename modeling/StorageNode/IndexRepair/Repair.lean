import StorageNode.IndexRepair.Programs

/-!
# Repairing one volume

`repairOne` is `_repair_one`: preflight, the checks against the journal, the live index checks,
resume or create, build, prove, back up and install. A rejected candidate may lead to
`recoverIncompleteTail` and to a second `repairOne` on the shortened data file; the fuel argument
bounds that recursion, as the interpreter's recursion limit does.
-/

set_option autoImplicit false

namespace StorageNode.IndexRepair

open StorageNode.Program StorageNode.IndexHelper

variable {D : Type}

namespace RepairProg

/-- `_record_preinstall_failure`. -/
def recordPreinstallFailure (t : Transaction D) (reason : String) : RepairProg D Unit := do
  let t ← transition { t with failureReason := reason } .failedPreinstall
  Prog.when (t.attemptCount ≥ preinstallRetryLimit) (manual t reason)

/-- What `_run_helper` makes of a helper process. -/
def helperPayload : HelperProcess D → RepairProg D (HelperPayload D)
  | .spawnFailed => Prog.raise .os
  | .timeout => Prog.raise (.repair "index repair helper timed out")
  | .invalid => Prog.raise (.repair "index repair helper returned invalid output")
  | .output returncode payload =>
    if returncode ≠ 0 ∨ payload.success = false then
      if payload.manualInterventionRequired then Prog.raise (.unsafeCandidate payload.error payload)
      else Prog.raise (.repair payload.error)
    else pure payload

/-- `_run_helper` with `fingerprint_only=True`. -/
def runPreflight : RepairProg D (HelperPayload D) := do
  helperPayload (← preflight)

/-- `_run_helper` with `fingerprint_only=False`. -/
def runBuild (id : TxId) (fingerprint : SourceFingerprint D) : RepairProg D (HelperPayload D) := do
  helperPayload (← build id fingerprint)

variable [DecidableEq D]

/-- The transactions of an identity whose source had no fingerprint. -/
def unfingerprinted (identity : SourceIdentity) (ts : List (Transaction D)) :
    List (Transaction D) :=
  ts.filter fun t => t.identity = identity ∧ t.fingerprintUnavailable = true

/-- Mark the authorization of `t` as used, or refuse. -/
def consumeRetry (t : Transaction D) (refusal : String) : RepairProg D Unit := do
  Prog.raiseIf (!t.retryAuthorized) (.manual refusal)
  must <| trySave .consume { t with operatorRetryConsumed := true }

/-- `_authorize_unfingerprinted_retry`. -/
def authorizeUnfingerprintedRetry (identity : SourceIdentity) : RepairProg D Bool := do
  let related := unfingerprinted identity (← transactions)
  match latestOf (related.filter fun t => t.phase = .manualInterventionRequired) with
  | none => pure false
  | some latest => do
    consumeRetry latest "source preflight failures require explicit operator retry"
    pure true

/-- `_record_unfingerprinted_failure`. -/
def recordUnfingerprintedFailure (base : Base) (identity : SourceIdentity) (reason : String)
    (retryAuthorized : Bool) : RepairProg D Unit := do
  let related := unfingerprinted identity (← transactions)
  let attempts := maxAttempts related
  Prog.raiseIf (attempts ≥ preinstallRetryLimit ∧ retryAuthorized = false)
    (.manual "bounded automatic source preflight attempts are exhausted")
  let t ← create retryAuthorized base fun id at_ =>
    { id := id, identity := identity, fingerprintUnavailable := true,
      sourceFingerprint := .unavailable identity, attemptCount := attempts + 1, updatedAt := at_ }
  recordPreinstallFailure t reason

/-- The preflight block of `_repair_one`. -/
def preflightFingerprint (base : Base) (identity : SourceIdentity) (retryAuthorized : Bool) :
    RepairProg D (SourceFingerprint D) := do
  let outcome ← Prog.attempt (do
    let payload ← runPreflight
    Prog.orRaise .lookup payload.sourceFingerprintBefore)
  match outcome with
  | .ok raw => pure (enrichFingerprint identity raw)
  | .error .os => Prog.raise .os
  | .error .recursion => Prog.raise .recursion
  | .error e => do
    let reason := "source preflight failed: " ++ e.text
    recordUnfingerprintedFailure base identity reason retryAuthorized
    Prog.raise (.repair reason)

/-- The transactions with a given source fingerprint. -/
def sameSource (fingerprint : SourceFingerprint D) (ts : List (Transaction D)) :
    List (Transaction D) :=
  ts.filter fun t => t.sourceFingerprint = fingerprint

/-- `attempts`: the greatest attempt count of the source, without resolved transactions. -/
def attemptsOf (same : List (Transaction D)) : Nat :=
  maxAttempts (same.filter fun t => t.phase ≠ .resolvedWithoutInstall)

/-- The authorization check of `_repair_one`: a blocked source needs an unused operator request,
which is used up here. -/
def authorizeRetry (same : List (Transaction D)) : RepairProg D Bool :=
  match latestOf (same.filter fun t => t.phase = .manualInterventionRequired) with
  | none => pure false
  | some latest => do
    consumeRetry latest "this authoritative .dat fingerprint requires explicit operator retry"
    pure true

/-- The refusal of `_repair_one` once the automatic attempts are used up: the latest failed
transaction, if there is one, is blocked. -/
def refuseExhausted (same : List (Transaction D)) : RepairProg D Unit := do
  let reason := "bounded automatic repair attempts are exhausted for this .dat"
  Prog.forEach (latestOf (same.filter fun t => t.phase = .failedPreinstall)).toList
    fun latest => manual latest reason
  Prog.raise (.manual reason)

/-- The loop that closes transactions of the volume whose source has changed since. -/
def closeStale (volumeId : Int) (fingerprint : SourceFingerprint D) : RepairProg D Unit := do
  let ts ← transactions
  Prog.forEach ts fun t =>
    Prog.when (t.id.base.volumeId = volumeId ∧ t.sourceFingerprint ≠ fingerprint ∧
        t.phase.terminal = false ∧ t.phase.pendingValidation = false)
      (manual t "authoritative .dat fingerprint changed before transaction resume")

/-- `_record_structural_failure`. -/
def recordStructuralFailure (base : Base) (identity : SourceIdentity)
    (fingerprint : SourceFingerprint D) (attemptCount : Nat) (authorized : Bool) (reason : String) :
    RepairProg D Unit := do
  let t ← create authorized base fun id at_ =>
    { id := id, identity := identity, sourceFingerprint := fingerprint,
      attemptCount := attemptCount, updatedAt := at_ }
  manual t reason

/-- `_hash_file`. -/
def hashOrRaise (p : Path) : RepairProg D (Artifact D) := do
  Prog.orRaise .os (← hashFile p)

/-- The hash of the live sorted index, when there is one. -/
def sortedArtifact (base : Base) (present : Bool) : RepairProg D (Option (Artifact D)) :=
  if present then do
    let artifact ← hashOrRaise (.liveSdx base)
    pure (some artifact)
  else pure none

/-- The checks on the live index and sorted index, and their hashes. -/
def liveArtifacts (base : Base) (identity : SourceIdentity) (fingerprint : SourceFingerprint D)
    (attemptCount : Nat) (authorized : Bool) :
    RepairProg D (Artifact D × Option (Artifact D)) := do
  let idx ← node (.liveIdx base)
  Prog.when (!Node.isFile idx || Node.isSymlink idx) do
    recordStructuralFailure base identity fingerprint attemptCount authorized
      "live index is missing or unsafe"
    Prog.raise (.manual "live index is missing or unsafe")
  let sdx ← node (.liveSdx base)
  Prog.when (Node.isSymlink sdx) do
    recordStructuralFailure base identity fingerprint attemptCount authorized
      "live sorted index is unsafe"
    Prog.raise (.manual "live sorted index is unsafe")
  let oldIdx ← hashOrRaise (.liveIdx base)
  let sdx ← node (.liveSdx base)
  let oldSdx ← sortedArtifact base (Node.isFile sdx)
  pure (oldIdx, oldSdx)

/-- The transaction that `_repair_one` resumes, if there is one. -/
def resumable (same : List (Transaction D)) : Option (Transaction D) :=
  latestOf (same.filter fun t => t.phase.preinstall = true ∧ t.phase ≠ .failedPreinstall)

/-- The resume branch of `_repair_one`. It returns the transaction when a build is still needed. -/
def resume (t : Transaction D) (oldIdx : Artifact D) (oldSdx : Option (Artifact D)) :
    RepairProg D (Option (Transaction D)) := do
  Prog.when (t.oldIdx ≠ some oldIdx ∨ t.oldSdx ≠ oldSdx) do
    manual t "live derived state changed while a repair transaction was pending"
    Prog.raise (.manual "live index state changed during crash recovery")
  if t.phase = .backupCreated then
    installCandidate t
    pure none
  else if t.phase = .candidateBuilt then
    let t ← createBackups t
    installCandidate t
    pure none
  else
    must <| tryUnlink (.candidate t.id)
    pure (some t)

/-- Resume a transaction of the source or create one. -/
def resumeOrCreate (base : Base) (identity : SourceIdentity) (fingerprint : SourceFingerprint D)
    (same : List (Transaction D)) (oldIdx : Artifact D) (oldSdx : Option (Artifact D))
    (authorized : Bool) : RepairProg D (Option (Transaction D)) :=
  match resumable same with
  | some t => resume t oldIdx oldSdx
  | none => do
    let t ← create authorized base fun id at_ =>
      { id := id, identity := identity, sourceFingerprint := fingerprint, oldIdx := some oldIdx,
        oldSdx := oldSdx, attemptCount := attemptsOf same + 1, updatedAt := at_ }
    pure (some t)

/-- Remove the candidate that a rejected helper result names. -/
def discardCandidate (id : TxId) (built : HelperPayload D) : RepairProg D Bool :=
  if built.candidate then tryUnlink (.candidate id) else pure true

/-- The part of the build block that judges the helper's result. It returns the changed transaction
and the exception, if there is one. -/
def acceptBuild (identity : SourceIdentity) (t : Transaction D) (fingerprint : SourceFingerprint D)
    (built : HelperPayload D) : RepairProg D (Transaction D × Option (RepairExc D)) :=
  match built.sourceFingerprintAfter with
  | none => pure (t, some .lookup)
  | some raw =>
    if enrichFingerprint identity raw ≠ fingerprint then do
      let removed ← discardCandidate t.id built
      pure (t, some (if removed then
        .repair "authoritative .dat changed between preflight and candidate reconstruction"
        else .os))
    else
      let t := { t with
        readonlyMountVerified := built.readonlyMountVerified
        writeRejected := built.writeRejected }
      if built.readonlyMountVerified = false ∨ built.writeRejected = false then
        pure (t, some (.repair "read-only source exposure was not proven"))
      else if built.candidate = false then pure (t, some .lookup)
      else
        let t := { t with candidatePath := some (.candidate t.id) }
        match built.candidateSize, built.candidateSha256 with
        | some size, some sha256 => pure ({ t with candidateIdx := some ⟨size, sha256⟩ }, none)
        | _, _ => pure (t, some .lookup)

/-- The build block of `_repair_one`. -/
def proveBuild (identity : SourceIdentity) (t : Transaction D)
    (fingerprint : SourceFingerprint D) : RepairProg D (Transaction D × Option (RepairExc D)) := do
  let outcome ← Prog.attempt (runBuild t.id fingerprint)
  match outcome with
  | .ok built => acceptBuild identity t fingerprint built
  | .error e => pure (t, some e)

/-- Back up the live files and install the candidate. -/
def backUpAndInstall (t : Transaction D) : RepairProg D Unit := do
  let t ← transition t .candidateBuilt
  let t ← createBackups t
  installCandidate t

/-- `_repair_one` after a proven build. -/
def finishBuild (t : Transaction D) (oldIdx : Artifact D) (allowIdentical : Bool) :
    RepairProg D Unit := do
  let same ← sameArtifact (.candidate t.id) t.candidateIdx
  Prog.when (!same) do
    recordPreinstallFailure t "reconstructed candidate does not match its reported size and hash"
    Prog.raise (.repair "reconstructed candidate does not match its reported size and hash")
  if t.candidateIdx = some oldIdx.toDigest then
    if allowIdentical then backUpAndInstall { t with candidateIdenticalAfterTailRecovery := true }
    else
      let reason := "reconstructed candidate is byte-for-byte identical to the live index"
      manual { t with candidateIdenticalToLiveIndex := true } reason
      Prog.raise (.manual reason)
  else backUpAndInstall t

/-- The boundary test of the controller, on the bounds that the helper reported. -/
def tailGate (cfg : Config) (payload : HelperPayload D) : Option Violation := do
  guard cfg.autoTailRecoveryEnabled
  let bounds ← payload.candidateBounds
  let violation ← soleViolation bounds
  guard (boundedTail bounds violation cfg.autoTailRecoveryMaxBytes)
  pure violation

/-- `tail_size` of the controller. -/
def tailSizeOf (payload : HelperPayload D) (violation : Violation) : Nat :=
  (payload.candidateBounds.map Bounds.sourceSize).getD 0 - violation.offset

/-- The fingerprint that the tail helper is given. -/
def SourceFingerprint.raw : SourceFingerprint D → Option (RawFingerprint D)
  | .known _ raw => some raw
  | .unavailable _ => none

/-- What `_run_tail_recovery_helper` makes of a helper process. -/
def tailPayload : TailProcess D → RepairProg D (Nat × Nat × D × Nat × RawFingerprint D)
  | .spawnFailed => Prog.raise .os
  | .timeout => Prog.raise (.repair "tail recovery helper timed out")
  | .invalid => Prog.raise (.repair "tail recovery helper returned invalid output")
  | .failed error => Prog.raise (.repair error)
  | .recovered offset tailSize tailSha256 needleId after =>
      pure (offset, tailSize, tailSha256, needleId, after)

/-- `_recover_incomplete_tail`. -/
def recoverIncompleteTail (cfg : Config) (t : Transaction D) (fingerprint : SourceFingerprint D)
    (payload : HelperPayload D) : RepairProg D Bool :=
  match tailGate cfg payload with
  | none => pure false
  | some violation => do
    let offset := violation.offset
    let tailSize := tailSizeOf payload violation
    fsyncDirectory
    let process ← spawnTailRecovery t.id (SourceFingerprint.raw fingerprint)
      cfg.autoTailRecoveryMaxBytes
    let (reportedOffset, reportedSize, tailHash, needleId, after) ← tailPayload process
    Prog.raiseIf (reportedOffset ≠ offset ∨ reportedSize ≠ tailSize)
      (.manual "tail recovery helper returned an inconsistent boundary")
    Prog.raiseIf (after.size ≠ offset)
      (.manual "incomplete-tail truncation did not reach the proven boundary")
    let _ ← transition { t with
      incompleteTail := some ⟨offset, tailSize, tailHash, .incompleteTail t.id, needleId⟩
      recoveredSourceFingerprint := some (enrichFingerprint t.identity after) } .tailRecovered
    pure true

/-- The exception handlers of the build block. An exception inside `recoverIncompleteTail` leaves
through the handler and is not seen by its siblings. -/
def failBuild (cfg : Config) (t : Transaction D) (fingerprint : SourceFingerprint D)
    (again : RepairProg D Unit) : RepairExc D → RepairProg D Unit
  | .unsafeCandidate message payload => do
    let recovered ← recoverIncompleteTail cfg t fingerprint payload
    if recovered then again
    else
      manual t message
      Prog.raise (.unsafeCandidate message payload)
  | .manual message => do
    manual t message
    Prog.raise (.manual message)
  | .recursion => Prog.raise .recursion
  | e => do
    recordPreinstallFailure t e.text
    Prog.raise (.repair e.text)

/-- `_repair_one` from `writers_stopped` on. -/
def buildAndInstall (cfg : Config) (identity : SourceIdentity) (t : Transaction D)
    (fingerprint : SourceFingerprint D) (oldIdx : Artifact D) (allowIdentical : Bool)
    (again : RepairProg D Unit) : RepairProg D Unit := do
  let t ← transition t .writersStopped
  let t ← transition { t with stagingDir := some t.staging } .sourceMountedReadonly
  let t ← transition t .candidateBuilding
  let (t, failure) ← proveBuild identity t fingerprint
  match failure with
  | some e => failBuild cfg t fingerprint again e
  | none => finishBuild t oldIdx allowIdentical

/-- The journal checks of `_repair_one`: verified and exhausted sources are refused, a blocked one
needs an authorization. It returns the transactions of the source and whether one was used. -/
def admitSource (fingerprint : SourceFingerprint D) :
    RepairProg D (List (Transaction D) × Bool) := do
  let same := sameSource fingerprint (← transactions)
  Prog.raiseIf (∃ t ∈ same, t.phase = .verified)
    (.manual "this authoritative .dat fingerprint was already repaired and verified")
  let authorized ← authorizeRetry same
  Prog.when (attemptsOf same ≥ preinstallRetryLimit ∧ authorized = false) (refuseExhausted same)
  pure (same, authorized)

/-- The identity of the source that a repair works on. -/
def sourceIdentity (cfg : Config) (activeTransport : String) (base : Base) : SourceIdentity :=
  ⟨cfg.sentinelId, activeTransport, base.collection, base.volumeId⟩

/-- The arguments of a repair: the upstream detail and the active transport. -/
structure RepairArgs where
  collection : String
  volumeId : Int
  activeTransport : String

/-- `_repair_one`. -/
def repairOne (cfg : Config) (args : RepairArgs) : Nat → Bool → RepairProg D Unit
  | 0, _ => Prog.raise .recursion
  | fuel + 1, allowIdentical => do
    let base ← Prog.orRaise (.repair "unsafe collection-derived volume filename")
      (safeBaseName args.collection args.volumeId)
    let identity := sourceIdentity cfg args.activeTransport base
    let unfingerprintedRetry ← authorizeUnfingerprintedRetry identity
    let fingerprint ← preflightFingerprint base identity unfingerprintedRetry
    let (same, authorized) ← admitSource fingerprint
    closeStale args.volumeId fingerprint
    let (oldIdx, oldSdx) ← liveArtifacts base identity fingerprint (attemptsOf same + 1) authorized
    let next ← resumeOrCreate base identity fingerprint same oldIdx oldSdx authorized
    match next with
    | none => pure ()
    | some t =>
      buildAndInstall cfg identity t fingerprint oldIdx allowIdentical (repairOne cfg args fuel true)

end RepairProg

end StorageNode.IndexRepair
