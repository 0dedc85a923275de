import StorageNode.IndexRepair.World

/-!
# The repair controller

The operations of `IndexRepairController` on one volume, as programs over `RepairReq`:
`prepareOffline`, `validateUpstream`, `rollbackRejected` and `reconcileResolvedPreinstall`, with the
helpers they share. `IndexRepair.Repair` adds `repairOne`.

A loop over all transactions appears here as a loop over the transactions of the volume. A
transaction is a value: where the source changes the dictionary in place, the program returns the
changed one.
-/

set_option autoImplicit false

namespace StorageNode.IndexRepair

open StorageNode.Program StorageNode.IndexHelper

variable {D : Type}

/-- Exceptions of the controller. All but `os`, `lookup` and `recursion` are subclasses of
`IndexRepairError`, and `unsafeCandidate` is one of `manual`. -/
inductive RepairExc (D : Type) where
  | os
  | lookup
  | repair (message : String)
  | journal (message : String)
  | manual (message : String)
  | unsafeCandidate (message : String) (payload : HelperPayload D)
  | recursion

/-- `str(exc)`. -/
def RepairExc.text : RepairExc D → String
  | .os => "OSError"
  | .lookup => "KeyError"
  | .repair message => message
  | .journal message => message
  | .manual message => message
  | .unsafeCandidate message _ => message
  | .recursion => "maximum recursion depth exceeded"

/-- The settings that the modelled functions read. -/
structure Config where
  sentinelId : String
  autoTailRecoveryEnabled : Bool
  autoTailRecoveryMaxBytes : Int

/-- Controller programs. -/
abbrev RepairProg (D : Type) (α : Type) := Prog (RepairReq D) RepairReq.Ans (RepairExc D) α

namespace RepairProg

/-! One program per request, at its answer type. -/

def now : RepairProg D Nat := Prog.ask RepairReq.now
def uuid (base : Base) : RepairProg D TxId := Prog.ask (RepairReq.uuid base)
def scratchName (base : Base) : RepairProg D TxId := Prog.ask (RepairReq.scratchName base)
def loadAll : RepairProg D (Option (List (Transaction D))) := Prog.ask RepairReq.load
def trySave (kind : SaveKind) (t : Transaction D) : RepairProg D Bool :=
  Prog.ask (RepairReq.save kind t)
def node (p : Path) : RepairProg D (Option Node) := Prog.ask (RepairReq.node p)
def hashFile (p : Path) : RepairProg D (Option (Artifact D)) := Prog.ask (RepairReq.hash p)
def tryUnlink (p : Path) : RepairProg D Bool := Prog.ask (RepairReq.unlink p)
def tryCopy (source destination : Path) (mode : Option Nat) : RepairProg D Bool :=
  Prog.ask (RepairReq.copy source destination mode)
def tryLink (source destination : Path) : RepairProg D Bool :=
  Prog.ask (RepairReq.link source destination)
def tryReplace (source destination : Path) : RepairProg D Bool :=
  Prog.ask (RepairReq.replace source destination)
def trySync : RepairProg D Bool := Prog.ask RepairReq.sync
def removeStaging (id : TxId) : RepairProg D Unit := Prog.ask (RepairReq.removeStaging id)
def preflight : RepairProg D (HelperProcess D) := Prog.ask RepairReq.preflight
def build (id : TxId) (fingerprint : SourceFingerprint D) : RepairProg D (HelperProcess D) :=
  Prog.ask (RepairReq.build id fingerprint)
def spawnTailRecovery (id : TxId) (expected : Option (RawFingerprint D)) (maximumTailBytes : Int) :
    RepairProg D (TailProcess D) :=
  Prog.ask (RepairReq.recoverTail id expected maximumTailBytes)

/-- An operation whose failure is an `OSError`. -/
def must (p : RepairProg D Bool) : RepairProg D Unit := do
  Prog.raiseIf (!(← p)) .os

/-- Directory creation, ownership, modes and directory syncs. -/
def fsyncDirectory : RepairProg D Unit := must trySync

/-- `load_all`. -/
def transactions : RepairProg D (List (Transaction D)) := do
  Prog.orRaise (.journal "repair journal is unreadable") (← loadAll)

/-- `awaiting`. -/
def awaiting : RepairProg D (List (Transaction D)) := do
  let ts ← transactions
  pure (ts.filter fun t => t.phase.pendingValidation)

/-- `RepairJournal.create`. -/
def create (authorized : Bool) (base : Base) (payload : TxId → Nat → Transaction D) :
    RepairProg D (Transaction D) := do
  let at_ ← now
  let id ← uuid base
  let t := payload id at_
  must <| trySave (.create authorized) t
  pure t

/-- `RepairJournal.transition`; `t` already carries the changed values. -/
def transition (t : Transaction D) (phase : Phase) : RepairProg D (Transaction D) := do
  let at_ ← now
  let t := { t with phase := phase, updatedAt := at_ }
  must <| trySave .transition t
  pure t

/-- `_manual`. -/
def manual (t : Transaction D) (reason : String) : RepairProg D Unit := do
  let _ ← transition { t with failureReason := reason } .manualInterventionRequired

variable [DecidableEq D]

/-- `_same_artifact`. -/
def sameArtifact (p : Path) (expected : Option (Digest D)) : RepairProg D Bool := do
  match expected with
  | none =>
    let found ← node p
    pure (!Node.isFile found)
  | some digest =>
    match ← hashFile p with
    | none => pure false
    | some actual => pure (decide (actual.toDigest = digest))

/-! ## Installation -/

/-- `_remove_stale_sdx`. -/
def removeStaleSdx (t : Transaction D) : RepairProg D Unit := do
  must <| tryUnlink t.liveSdx
  fsyncDirectory

/-- The last two transitions of an installation. -/
def recordInstalled (t : Transaction D) : RepairProg D Unit := do
  let t ← transition t .candidateInstalled
  let _ ← transition t .awaitingUpstreamValidation

/-- `_same_artifact` on a temporary file that exists, or `absent`. -/
def usableTemporary (temporary : Path) (expected : Option (Digest D)) (absent : Bool) :
    RepairProg D Bool := do
  let found ← node temporary
  if Node.isFile found then sameArtifact temporary expected else pure absent

/-- The part of `_install_candidate` that puts a copy of the candidate next to the live index. -/
def stageTemporary (t : Transaction D) (candidate : Path) (digest : Digest D) :
    RepairProg D Unit := do
  let temporary := Path.installing t.id
  let usable ← usableTemporary temporary (some digest) true
  Prog.when (!usable) (must <| tryUnlink temporary)
  let present := Node.isFile (← node temporary)
  Prog.when (!present) do
    let old ← Prog.orRaise .lookup t.oldIdx
    must <| tryCopy candidate temporary (some old.mode)

/-- `_install_candidate`. -/
def installCandidate (t : Transaction D) : RepairProg D Unit := do
  let candidate ← Prog.orRaise .lookup t.candidatePath
  let digest ← Prog.orRaise .lookup t.candidateIdx
  let intact ← sameArtifact candidate (some digest)
  Prog.when (!intact) do
    manual t "candidate artifact no longer matches its journaled hash"
    Prog.raise (.manual "candidate artifact is missing or changed")
  stageTemporary t candidate digest
  let t ← transition { t with installTempPath := some (.installing t.id) } .installingCandidate
  must <| tryReplace (.installing t.id) t.liveIdx
  removeStaleSdx t
  fsyncDirectory
  let installed ← sameArtifact t.liveIdx (some digest)
  Prog.raiseIf (!installed) (.repair "live index does not match candidate after atomic installation")
  recordInstalled t

/-- `_recover_interrupted_install` when the live index is still the old one. -/
def resumeInstall (t : Transaction D) (temporary : Path) : RepairProg D Unit := do
  let usable ← usableTemporary temporary t.candidateIdx false
  if usable then
    must <| tryReplace temporary t.liveIdx
    removeStaleSdx t
    fsyncDirectory
    recordInstalled t
  else
    must <| tryUnlink temporary
    installCandidate t

/-- `_recover_interrupted_install`. -/
def recoverInterruptedInstall (t : Transaction D) : RepairProg D Unit := do
  let isCandidate ← sameArtifact t.liveIdx t.candidateIdx
  if isCandidate then
    removeStaleSdx t
    recordInstalled t
  else
    let isOld ← sameArtifact t.liveIdx (t.oldIdx.map Artifact.toDigest)
    if isOld then
      -- without a recorded path the source unlinks the current directory, which fails
      let temporary ← Prog.orRaise .os t.installTempPath
      resumeInstall t temporary
    else
      manual t "interrupted install left an unrecognized live index"
      Prog.raise (.manual "interrupted install cannot be reconciled safely")

/-- `_validate_installed_artifacts`. -/
def validateInstalledArtifacts (t : Transaction D) : RepairProg D Unit := do
  let isCandidate ← sameArtifact t.liveIdx t.candidateIdx
  Prog.when (!isCandidate) do
    manual t "installed live index does not match the journaled candidate"
    Prog.raise (.manual "live index is inconsistent with its repair journal")
  let sdx ← node t.liveSdx
  Prog.when (Node.isFile sdx) do
    manual t "stale .sdx exists after candidate installation"
    Prog.raise (.manual "volume has a stale .sdx after repair installation")
  Prog.when (t.phase ≠ .awaitingUpstreamValidation) do
    let _ ← transition t .awaitingUpstreamValidation

/-- One iteration of `prepare_offline`. -/
def prepareOne (t : Transaction D) : RepairProg D Unit :=
  match t.phase with
  | .installingCandidate => recoverInterruptedInstall t
  | .candidateInstalled => validateInstalledArtifacts t
  | .awaitingUpstreamValidation => validateInstalledArtifacts t
  | .rolledBack => do
    let _ ← transition t .manualInterventionRequired
  | .unknown name => manual t ("unknown crash-recovery phase: " ++ name)
  | _ => pure ()

/-- `prepare_offline`. -/
def prepareOffline : RepairProg D Unit := do
  fsyncDirectory
  let ts ← transactions
  Prog.forEach ts prepareOne
  let _ ← awaiting

/-! ## Backups and rollback -/

/-- The copy that `_backup_one` makes when a hard link is refused. -/
def copyBackup (source destination : Path) : RepairProg D Unit := do
  let name ← scratchName destination.base
  must <| tryCopy source (.scratch name) none
  fsyncDirectory
  must <| tryReplace (.scratch name) destination

/-- `_backup_one`. The controller replaces and unlinks live files and never writes into them, so a
hard link behaves as a copy. -/
def backupOne (source destination : Path) (expected : Option (Digest D)) : RepairProg D Unit := do
  fsyncDirectory
  let present := Node.isFile (← node destination)
  if present then
    let same ← sameArtifact destination expected
    Prog.raiseIf (!same) (.repair "existing repair backup has the wrong hash")
  else
    let linked ← tryLink source destination
    Prog.when (!linked) (copyBackup source destination)
    let same ← sameArtifact destination expected
    Prog.raiseIf (!same) (.repair "repair backup verification failed")
    fsyncDirectory

/-- The sorted-index half of `_create_backups`. -/
def backupSdx (t : Transaction D) : RepairProg D (Transaction D) :=
  match t.oldSdx with
  | none => pure t
  | some old => do
    backupOne t.liveSdx (.backupSdx t.id) (some old.toDigest)
    pure { t with backupSdxPath := some (.backupSdx t.id) }

/-- `_create_backups`. -/
def createBackups (t : Transaction D) : RepairProg D (Transaction D) := do
  fsyncDirectory
  backupOne t.liveIdx (.backupIdx t.id) (t.oldIdx.map Artifact.toDigest)
  let t ← backupSdx { t with backupIdxPath := some (.backupIdx t.id) }
  fsyncDirectory
  transition t .backupCreated

/-- `_restore_one`. -/
def restoreOne (backup destination : Path) (expected : Artifact D) : RepairProg D Unit := do
  let same ← sameArtifact backup (some expected.toDigest)
  Prog.raiseIf (!same) (.manual "repair backup is missing or changed")
  let name ← scratchName destination.base
  must <| tryCopy backup (.scratch name) (some expected.mode)
  must <| tryReplace (.scratch name) destination

/-- The sorted-index half of `_rollback`. -/
def restoreSdx (t : Transaction D) : RepairProg D Unit :=
  match t.oldSdx with
  | some oldSdx => do
    let backupSdx ← Prog.orRaise .lookup t.backupSdxPath
    restoreOne backupSdx t.liveSdx oldSdx
  | none => must <| tryUnlink t.liveSdx

/-- `_rollback`. -/
def rollback (reason : String) (t : Transaction D) : RepairProg D Unit := do
  let backupIdx ← Prog.orRaise .lookup t.backupIdxPath
  let oldIdx ← Prog.orRaise .lookup t.oldIdx
  restoreOne backupIdx t.liveIdx oldIdx
  restoreSdx t
  fsyncDirectory
  let t ← transition { t with rolledBack := true, failureReason := reason } .rolledBack
  manual t reason

/-- `rollback_rejected`. -/
def rollbackRejected (volumeIds : List Int) (reason : String) : RepairProg D Unit := do
  let targets ← awaiting
  Prog.forEach (targets.filter fun t => t.id.base.volumeId ∈ volumeIds) (rollback reason)

/-! ## Upstream validation -/

/-- One iteration of `validate_upstream`: the volume's `readonly` flag, if the status lists it. -/
def validateOne (readonly : Int → Option Bool) (t : Transaction D) : RepairProg D Unit :=
  match readonly t.id.base.volumeId with
  | some false => do
    let _ ← transition t .verified
  | _ => pure ()

/-- `validate_upstream`. -/
def validateUpstream (readonly : Int → Option Bool) : RepairProg D Unit := do
  let ts ← awaiting
  Prog.forEach ts (validateOne readonly)

/-- `reconcile_resolved_preinstall`; `resolved` holds of the volumes that the status lists and does
not report as unexpectedly read-only. -/
def reconcileResolvedPreinstall (resolved : Int → Bool) : RepairProg D Unit := do
  let ts ← transactions
  Prog.forEach ts fun t =>
    Prog.when (t.phase.preinstall = true ∧ resolved t.id.base.volumeId = true) do
      let t ← transition t .resolvedWithoutInstall
      Prog.when (t.staging = .of t.id) (removeStaging t.id)

end RepairProg

end StorageNode.IndexRepair
