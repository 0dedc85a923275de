import StorageNode.IndexHelper.Model

/-!
# Repair transactions

The records of the repair journal, with the fields that the controller reads. A journal holds the
transactions of one volume; `saveTransaction` is the atomic replacement of one journal file, and
`latestOf` is the selection by `updated_at` that the controller uses everywhere.

Transaction ids are unique random names in the source. Here an id is the volume's base name with a
serial number, so that the files of a transaction determine the volume they belong to.
-/

set_option autoImplicit false

namespace StorageNode.IndexRepair

open StorageNode.IndexHelper

variable {D : Type}

/-- The base name of a volume's files: an optional collection and the volume id. -/
structure Base where
  collection : String
  volumeId : Int
  deriving DecidableEq

/-- `_safe_base_name`: the name is refused when it is not a single path component. -/
def safeBaseName (collection : String) (volumeId : Int) : Option Base :=
  if '/' ∈ collection.toList ∨ '\x00' ∈ collection.toList then none
  else some ⟨collection, volumeId⟩

theorem safeBaseName_eq {collection : String} {volumeId : Int} {base : Base}
    (h : safeBaseName collection volumeId = some base) : base = ⟨collection, volumeId⟩ := by
  unfold safeBaseName at h
  split at h
  · exact absurd h (by simp)
  · exact (Option.some.inj h).symm

/-- A transaction id. -/
structure TxId where
  base : Base
  serial : Nat
  deriving DecidableEq

/-- The files that the controller reads and writes. `scratch` stands for the temporary names with a
random part. -/
inductive Path where
  | dat (base : Base)
  | liveIdx (base : Base)
  | liveSdx (base : Base)
  | candidate (tx : TxId)
  | installing (tx : TxId)
  | backupIdx (tx : TxId)
  | backupSdx (tx : TxId)
  | incompleteTail (tx : TxId)
  | scratch (name : TxId)
  deriving DecidableEq

/-- The volume that a file belongs to. A temporary file is named after the file it will replace. -/
def Path.base : Path → Base
  | .dat base | .liveIdx base | .liveSdx base => base
  | .candidate tx | .installing tx | .backupIdx tx | .backupSdx tx | .incompleteTail tx
  | .scratch tx => tx.base

/-- What stands at a path. A symbolic link may point to a file with contents and mode. -/
inductive Node where
  | file (contents : Bytes) (mode : Nat)
  | symlink (target : Option (Bytes × Nat))
  deriving DecidableEq

/-- Contents and mode as `open` and `stat` see them. -/
def Node.read : Node → Option (Bytes × Nat)
  | .file contents mode => some (contents, mode)
  | .symlink target => target

/-- `Path.is_symlink`. -/
def Node.isSymlink : Option Node → Bool
  | some (.symlink _) => true
  | _ => false

/-- `Path.is_file` and `Path.exists`, which follow links. -/
def Node.isFile (node : Option Node) : Bool :=
  (node.bind Node.read).isSome

/-- The size and digest of a file. -/
structure Digest (D : Type) where
  size : Nat
  sha256 : D
  deriving DecidableEq

/-- The value of `_hash_file`. -/
structure Artifact (D : Type) extends Digest D where
  mode : Nat
  deriving DecidableEq

/-- Size and digest of some contents. -/
def digestOf (sha256 : Bytes → D) (contents : Bytes) : Digest D :=
  ⟨contents.length, sha256 contents⟩

/-- The dictionary `source_identity`. -/
structure SourceIdentity where
  datasetSentinelId : String
  activeTransport : String
  collection : String
  volumeId : Int
  deriving DecidableEq

/-- The dictionary `source_fingerprint`: an enriched helper fingerprint, or the marker that no
fingerprint was available. -/
inductive SourceFingerprint (D : Type) where
  | known (identity : SourceIdentity) (raw : RawFingerprint D)
  | unavailable (identity : SourceIdentity)
  deriving DecidableEq

/-- `_enrich_fingerprint`. -/
def enrichFingerprint (identity : SourceIdentity) (raw : RawFingerprint D) : SourceFingerprint D :=
  .known identity raw

/-- The phases of a transaction. -/
inductive Phase where
  | detected
  | writersStopped
  | sourceMountedReadonly
  | candidateBuilding
  | candidateBuilt
  | backupCreated
  | failedPreinstall
  | installingCandidate
  | candidateInstalled
  | awaitingUpstreamValidation
  | verified
  | manualInterventionRequired
  | resolvedWithoutInstall
  | tailRecovered
  | rolledBack
  | unknown (name : String)
  deriving DecidableEq

/-- `TERMINAL_PHASES`. -/
def Phase.terminal : Phase → Bool
  | .verified | .manualInterventionRequired | .resolvedWithoutInstall | .tailRecovered => true
  | _ => false

/-- `PENDING_VALIDATION_PHASES`. -/
def Phase.pendingValidation : Phase → Bool
  | .candidateInstalled | .awaitingUpstreamValidation => true
  | _ => false

/-- `PREINSTALL_PHASES`. -/
def Phase.preinstall : Phase → Bool
  | .detected | .writersStopped | .sourceMountedReadonly | .candidateBuilding | .candidateBuilt
  | .backupCreated | .failedPreinstall => true
  | _ => false

/-- `PREINSTALL_RETRY_LIMIT`. -/
def preinstallRetryLimit : Nat := 2

/-- The record of a removed tail. -/
structure IncompleteTail (D : Type) where
  offset : Nat
  size : Nat
  sha256 : D
  backupPath : Path
  needleId : Nat
  deriving DecidableEq

/-- A staging directory that a record names: that of a transaction, or another place. -/
inductive StagingDir where
  | of (tx : TxId)
  | other (path : String)
  deriving DecidableEq

/-- One journal record. -/
structure Transaction (D : Type) where
  id : TxId
  identity : SourceIdentity
  fingerprintUnavailable : Bool := false
  sourceFingerprint : SourceFingerprint D
  oldIdx : Option (Artifact D) := none
  oldSdx : Option (Artifact D) := none
  attemptCount : Nat
  phase : Phase := .detected
  updatedAt : Nat
  stagingDir : Option StagingDir := none
  readonlyMountVerified : Bool := false
  writeRejected : Bool := false
  candidatePath : Option Path := none
  candidateIdx : Option (Digest D) := none
  candidateIdenticalAfterTailRecovery : Bool := false
  candidateIdenticalToLiveIndex : Bool := false
  installTempPath : Option Path := none
  backupIdxPath : Option Path := none
  backupSdxPath : Option Path := none
  incompleteTail : Option (IncompleteTail D) := none
  recoveredSourceFingerprint : Option (SourceFingerprint D) := none
  failureReason : String := ""
  rolledBack : Bool := false
  operatorRetryRequestedAt : Option Nat := none
  operatorRetryConsumed : Bool := false
  deriving DecidableEq

/-- The live index and sorted index of a transaction's volume. -/
def Transaction.liveIdx (t : Transaction D) : Path := .liveIdx t.id.base
def Transaction.liveSdx (t : Transaction D) : Path := .liveSdx t.id.base

/-- The staging directory of a record: its own one, if it names none. -/
def Transaction.staging (t : Transaction D) : StagingDir := t.stagingDir.getD (.of t.id)

/-- `operator_retry_requested_at and not operator_retry_consumed`. -/
def Transaction.retryAuthorized (t : Transaction D) : Bool :=
  t.operatorRetryRequestedAt.isSome && !t.operatorRetryConsumed

/-! ## The journal -/

/-- Replace or add the record with the id of `t`. -/
def saveTransaction (journal : List (Transaction D)) (t : Transaction D) : List (Transaction D) :=
  journal.filter (fun x => x.id ≠ t.id) ++ [t]

@[simp] theorem mem_saveTransaction {journal : List (Transaction D)} {t x : Transaction D} :
    x ∈ saveTransaction journal t ↔ (x ∈ journal ∧ x.id ≠ t.id) ∨ x = t := by
  simp [saveTransaction]

theorem nodup_saveTransaction {journal : List (Transaction D)} {t : Transaction D}
    (h : (journal.map Transaction.id).Nodup) :
    ((saveTransaction journal t).map Transaction.id).Nodup := by
  rw [saveTransaction, List.map_append, List.nodup_append]
  refine ⟨h.sublist (List.filter_sublist.map _), by simp, ?_⟩
  intro a ha b hb heq
  obtain ⟨u, hu, rfl⟩ := List.mem_map.1 ha
  simp only [List.mem_filter, decide_eq_true_eq] at hu
  simp only [List.map_cons, List.map_nil, List.mem_singleton] at hb
  exact hu.2 (heq.trans hb)

/-- `max(items, key=updated_at)`: the first of the greatest, if there is one. -/
def latestOf : List (Transaction D) → Option (Transaction D)
  | [] => none
  | t :: ts =>
    match latestOf ts with
    | none => some t
    | some u => if u.updatedAt > t.updatedAt then some u else some t

theorem latestOf_eq_none {ts : List (Transaction D)} : latestOf ts = none ↔ ts = [] := by
  cases ts with
  | nil => simp [latestOf]
  | cons t ts =>
      simp only [latestOf, reduceCtorEq, iff_false]
      split
      · simp
      · split <;> simp

theorem latestOf_mem {ts : List (Transaction D)} {t : Transaction D} (h : latestOf ts = some t) :
    t ∈ ts := by
  induction ts generalizing t with
  | nil => exact absurd h (by simp [latestOf])
  | cons u us ih =>
      simp only [latestOf] at h
      split at h
      · exact List.mem_cons.2 (.inl (Option.some.inj h).symm)
      · next v hv =>
          split at h
          · exact List.mem_cons_of_mem _ (Option.some.inj h ▸ ih hv)
          · exact List.mem_cons.2 (.inl (Option.some.inj h).symm)

/-- `max((attempt_count of items), default=0)`. -/
def maxAttempts (ts : List (Transaction D)) : Nat :=
  ts.foldl (fun n t => max n t.attemptCount) 0

theorem foldl_max_le {ts : List (Transaction D)} :
    ∀ n, n ≤ ts.foldl (fun n t => max n t.attemptCount) n ∧
      ∀ t ∈ ts, t.attemptCount ≤ ts.foldl (fun n t => max n t.attemptCount) n := by
  induction ts with
  | nil => simp
  | cons u us ih =>
      intro n
      obtain ⟨hstart, hall⟩ := ih (max n u.attemptCount)
      refine ⟨?_, fun t ht => ?_⟩
      · rw [List.foldl_cons]
        omega
      · rw [List.foldl_cons]
        rcases List.mem_cons.1 ht with rfl | ht
        · omega
        · exact hall t ht

theorem le_maxAttempts {ts : List (Transaction D)} {t : Transaction D} (ht : t ∈ ts) :
    t.attemptCount ≤ maxAttempts ts :=
  (foldl_max_le 0).2 t ht

end StorageNode.IndexRepair
