import StorageNode.IndexRepair.Ledger
import Mathlib.Data.List.Nodup
import StorageNode.Program.Contract

/-!
# Invariants of a volume and the requests that keep them

`RepairInv` collects what holds in every state of a volume: every journaled candidate has a recorded
proof and, from `backup_created` on, verified backups (`RecordsInv`); authorizations are backed by
operator requests (`RetryInv`); attempt counts tell the transactions of one source apart
(`AttemptInv`); removed tails are journaled (`Recorded`). `Permit` says under which facts the controller issues each request, and
`repairDiscipline` packages both with the interference of `request_retry` calls.

Two assumptions appear as parameters, and the parts that need them say so. `clean`: no repair starts
while a transaction of the volume is journaled in `candidate_building`. `tidy`: no operation ends or
is killed between the removal of a tail and the next proven candidate.
-/

set_option autoImplicit false

namespace StorageNode.IndexRepair

open StorageNode.Program StorageNode.IndexHelper

variable {D : Type}

/-! ## Phases -/

/-- Phases before any build. -/
def Phase.unbuilt : Phase → Bool
  | .detected | .writersStopped | .sourceMountedReadonly => true
  | _ => false

/-- Phases in which the old files have verified backups. -/
def Phase.backed : Phase → Bool
  | .backupCreated | .installingCandidate | .candidateInstalled | .awaitingUpstreamValidation => true
  | _ => false

/-- Phases in which the transaction carries a proven candidate. -/
def Phase.proven (phase : Phase) : Bool :=
  phase = .candidateBuilt || phase.backed

/-- Phases of a transaction whose installation has begun and was not ended. -/
def Phase.midInstall : Phase → Bool
  | .installingCandidate | .candidateInstalled | .awaitingUpstreamValidation => true
  | _ => false

/-! ## Facts about one record -/

/-- The digest of the file at a path. -/
def fileDigest (sha256 : Bytes → D) (w : World D) (p : Path) : Option (Digest D) :=
  (w.contents p).map (digestOf sha256)

/-- The helper result that proves a candidate. -/
structure ProofOf (F : SourceFingerprint D) (candidate : Digest D) (payload : HelperPayload D) :
    Prop where
  success : payload.success = true
  readonlyMountVerified : payload.readonlyMountVerified = true
  writeRejected : payload.writeRejected = true
  source : ∃ identity raw, payload.sourceFingerprintAfter = some raw ∧
    enrichFingerprint identity raw = F
  size : payload.candidateSize = some candidate.size
  sha256 : payload.candidateSha256 = some candidate.sha256

/-- The candidate of a transaction came from a helper result that proves it for the source. -/
def ProvenBy (log : List (Event D)) (id : TxId) (F : SourceFingerprint D) (candidate : Digest D) :
    Prop :=
  ∃ payload, Event.built id payload ∈ log ∧ ProofOf F candidate payload

/-- The candidate differs from the old index, unless the exception is recorded. -/
def Differs (t : Transaction D) : Prop :=
  ∃ candidate old, t.candidateIdx = some candidate ∧ t.oldIdx = some old ∧
    (candidate ≠ old.toDigest ∨ t.candidateIdenticalAfterTailRecovery = true)

/-- The recorded paths are the ones the controller derives from the id. -/
def PathsOk (t : Transaction D) : Prop :=
  (∀ p, t.candidatePath = some p → p = .candidate t.id) ∧
    (∀ p, t.installTempPath = some p → p = .installing t.id) ∧
      ∀ d, t.stagingDir = some d → d = .of t.id

/-- A record that names its own staging directory or none. -/
theorem PathsOk.staging_eq {t : Transaction D} (h : PathsOk t) : t.staging = .of t.id := by
  unfold Transaction.staging
  cases hdir : t.stagingDir with
  | none => rfl
  | some d => exact h.2.2 d hdir

/-- Writing the staging directory down. -/
theorem PathsOk.staged {t : Transaction D} (h : PathsOk t) :
    PathsOk { t with stagingDir := some t.staging } :=
  ⟨h.1, h.2.1, fun _ hd => (Option.some.inj hd).symm.trans h.staging_eq⟩

/-- The journal holds a removed tail: its offset, size, digest and backup path. -/
def TailRecord (sha256 : Bytes → D) (w : World D) (id : TxId) (offset : Nat) (tail : Bytes) : Prop :=
  ∃ t ∈ w.journal, t.id = id ∧ t.phase = .tailRecovered ∧ ∃ needleId,
    t.incompleteTail = some ⟨offset, tail.length, sha256 tail, .incompleteTail id, needleId⟩

/-- Every removed tail has a journal record. -/
def Recorded (sha256 : Bytes → D) (w : World D) : Prop :=
  ∀ id offset tail, Event.truncated id offset tail ∈ w.log → TailRecord sha256 w id offset tail

/-- Backups of exactly the old index and, when it existed, the old sorted index are on disk. -/
def Backed (sha256 : Bytes → D) (w : World D) (t : Transaction D) : Prop :=
  ∃ old, t.oldIdx = some old ∧ fileDigest sha256 w (.backupIdx t.id) = some old.toDigest ∧
    ∀ sorted, t.oldSdx = some sorted →
      fileDigest sha256 w (.backupSdx t.id) = some sorted.toDigest

/-! ## Interference -/

/-- What `request_retry` calls do to a volume: they change the operator's fields of blocked records
and add request events. -/
structure Interference (w w' : World D) : Prop where
  files : w'.files = w.files
  nextSerial : w'.nextSerial = w.nextSerial
  kept : ∀ t, t.phase ≠ .manualInterventionRequired → (t ∈ w'.journal ↔ t ∈ w.journal)
  back : ∀ t ∈ w'.journal, ∃ u ∈ w.journal, u.core = t.core
  forth : ∀ u ∈ w.journal, ∃ t ∈ w'.journal, t.core = u.core
  log : ∃ requests, w'.log = requests ++ w.log ∧ ∀ e ∈ requests, ∃ t, e = .saved .retry t

theorem Interference.refl (w : World D) : Interference w w :=
  ⟨rfl, rfl, fun _ _ => Iff.rfl, fun t ht => ⟨t, ht, rfl⟩, fun t ht => ⟨t, ht, rfl⟩, [], rfl,
    fun _ he => absurd he List.not_mem_nil⟩

theorem Interference.trans (a b c : World D) (hab : Interference a b) (hbc : Interference b c) :
    Interference a c where
  files := hbc.files.trans hab.files
  nextSerial := hbc.nextSerial.trans hab.nextSerial
  kept t ht := (hbc.kept t ht).trans (hab.kept t ht)
  back t ht := by
    obtain ⟨u, hu, huc⟩ := hbc.back t ht
    obtain ⟨v, hv, hvc⟩ := hab.back u hu
    exact ⟨v, hv, hvc.trans huc⟩
  forth u hu := by
    obtain ⟨t, ht, htc⟩ := hab.forth u hu
    obtain ⟨v, hv, hvc⟩ := hbc.forth t ht
    exact ⟨v, hv, hvc.trans htc⟩
  log := by
    obtain ⟨r, hr, hall⟩ := hab.log
    obtain ⟨r', hr', hall'⟩ := hbc.log
    refine ⟨r' ++ r, by rw [hr', hr, List.append_assoc], fun e he => ?_⟩
    rcases List.mem_append.1 he with he | he
    · exact hall' e he
    · exact hall e he

variable [DecidableEq D]

/-! ## The invariant -/

/-- Journal records, their proofs and their backups. -/
structure RecordsInv (sha256 : Bytes → D) (w : World D) : Prop where
  nodup : (w.journal.map Transaction.id).Nodup
  serial : ∀ t ∈ w.journal, t.id.serial < w.nextSerial
  operators : ∀ o ∈ w.operators, o.phase = .manualInterventionRequired ∧
    ∃ t ∈ w.journal, t.core = o.core
  proven : ∀ t ∈ w.journal, ∀ d, t.candidateIdx = some d → ProvenBy w.log t.id t.sourceFingerprint d
  differs : ∀ t ∈ w.journal, t.phase.proven = true → Differs t
  backed : ∀ t ∈ w.journal, t.phase.backed = true → Backed sha256 w t
  paths : ∀ t ∈ w.journal, PathsOk t
  refused : ∀ t ∈ w.journal, t.candidateIdenticalToLiveIndex = true →
    t.phase = .manualInterventionRequired

omit [DecidableEq D] in
theorem RecordsInv.unique {sha256 : Bytes → D} {w : World D} (h : RecordsInv sha256 w) :
    ∀ t ∈ w.journal, ∀ u ∈ w.journal, t.id = u.id → t = u :=
  fun _ ht _ hu hid => List.inj_on_of_nodup_map h.nodup ht hu hid

/-- Operator requests, authorizations and builds. -/
structure RetryInv (w : World D) : Prop where
  consumed_le : ∀ F id, (consumed F w.log).count id ≤ (requested F w.log).count id
  flagged : ∀ t ∈ w.journal, t.retryAuthorized = true →
    (consumed t.sourceFingerprint w.log).count t.id + 1 ≤
      (requested t.sourceFingerprint w.log).count t.id
  blocked : ∀ F, EverIn F .manualInterventionRequired w.log →
    ∃ t ∈ w.journal, t.sourceFingerprint = F ∧ t.phase = .manualInterventionRequired
  verified : ∀ F, EverIn F .verified w.log →
    ∃ t ∈ w.journal, t.sourceFingerprint = F ∧ t.phase = .verified
  late : ∀ F, lateBuilds F w.log ≤ (consumed F w.log).length
  matched : ∀ F old, old <:+ w.log → lateBuilds F old ≤ (requested F old).length
  final : ∀ F id old, (Event.build id F :: old) <:+ w.log → ¬ EverIn F .verified old

/-- Attempt counts and builds. -/
structure AttemptInv (clean : Prop) (w : World D) : Prop where
  credit : ∀ F : SourceFingerprint D, F.isKnown = true →
    (authorizedCreations F w.log).length ≤ (consumed F w.log).length
  created : ∀ t ∈ w.journal, t.sourceFingerprint.isKnown = true →
    t.id ∈ authorizedCreations t.sourceFingerprint w.log ∨
      (1 ≤ t.attemptCount ∧ t.attemptCount ≤ preinstallRetryLimit)
  distinct : ∀ t ∈ w.journal, ∀ u ∈ w.journal, t.sourceFingerprint.isKnown = true →
    t.sourceFingerprint = u.sourceFingerprint → t.phase ≠ .resolvedWithoutInstall →
    u.phase ≠ .resolvedWithoutInstall → t.attemptCount = u.attemptCount → t.id = u.id
  charged : ∀ F id, id ∈ builds F w.log →
    F.isKnown = true ∧ ∃ t ∈ w.journal, t.id = id ∧ t.sourceFingerprint = F
  once : clean → ∀ F, (builds F w.log).Nodup
  unbuilt : clean → ∀ t ∈ w.journal, t.phase.unbuilt = true → ∀ F, t.id ∉ builds F w.log

/-- The invariant of a volume. -/
structure RepairInv (sha256 : Bytes → D) (clean tidy : Prop) (w : World D) : Prop where
  records : RecordsInv sha256 w
  retry : RetryInv w
  attempt : AttemptInv clean w
  tail : tidy → interrupted w.log = false → Recorded sha256 w

/-! ## Permitted requests -/

/-- The facts under which a record is saved. -/
structure SaveOk (sha256 : Bytes → D) (clean : Prop) (kind : SaveKind) (t : Transaction D)
    (w : World D) : Prop where
  serial : t.id.serial < w.nextSerial
  operators : ∀ o ∈ w.operators, o.id = t.id → t.core = o.core
  proven : ∀ d, t.candidateIdx = some d → ProvenBy w.log t.id t.sourceFingerprint d
  differs : t.phase.proven = true → Differs t
  backed : t.phase.backed = true → Backed sha256 w t
  paths : PathsOk t
  source : ∀ u ∈ w.journal, u.id = t.id → u.sourceFingerprint = t.sourceFingerprint
  final : ∀ u ∈ w.journal, u.id = t.id → u.phase.terminal = true →
    t.phase = u.phase ∧ t.incompleteTail = u.incompleteTail
  credit : kind = .create true → t.sourceFingerprint.isKnown = true →
    (authorizedCreations t.sourceFingerprint w.log).length + 1 ≤
      (consumed t.sourceFingerprint w.log).length
  created : t.sourceFingerprint.isKnown = true → kind = .create true ∨
    t.id ∈ authorizedCreations t.sourceFingerprint w.log ∨
      (1 ≤ t.attemptCount ∧ t.attemptCount ≤ preinstallRetryLimit)
  distinct : t.sourceFingerprint.isKnown = true → t.phase ≠ .resolvedWithoutInstall →
    ∀ u ∈ w.journal, u.id ≠ t.id → u.sourceFingerprint = t.sourceFingerprint →
      u.phase ≠ .resolvedWithoutInstall → u.attemptCount ≠ t.attemptCount
  unbuilt : clean → t.phase.unbuilt = true → ∀ F, t.id ∉ builds F w.log
  refused : t.candidateIdenticalToLiveIndex = true → t.phase = .manualInterventionRequired

/-- The facts under which the controller saves the operator's fields of a record. -/
structure RetryOk (kind : SaveKind) (t : Transaction D) (w : World D) : Prop where
  kind_ne : kind ≠ .retry
  flagged : t.retryAuthorized = true →
    (consumed t.sourceFingerprint w.log).count t.id + 1 ≤
      (requested t.sourceFingerprint w.log).count t.id
  consume : kind = .consume → t.retryAuthorized = false ∧
    (consumed t.sourceFingerprint w.log).count t.id + 1 ≤
      (requested t.sourceFingerprint w.log).count t.id

/-- The facts under which a full build starts. -/
structure BuildOk (clean : Prop) (id : TxId) (F : SourceFingerprint D) (w : World D) : Prop where
  known : F.isKnown = true
  current : ∃ t ∈ w.journal, t.id = id ∧ t.sourceFingerprint = F ∧ t.phase = .candidateBuilding
  unverified : ∀ t ∈ w.journal, t.sourceFingerprint = F → t.phase ≠ .verified
  authorized : (∃ t ∈ w.journal, t.sourceFingerprint = F ∧
      t.phase = .manualInterventionRequired) →
    lateBuilds F w.log + 1 ≤ (consumed F w.log).length
  first : clean → ∀ G, id ∉ builds G w.log

/-- The candidate in the temporary file of a transaction may become the live index. -/
def InstallOk (sha256 : Bytes → D) (id : TxId) (w : World D) : Prop :=
  ∃ t ∈ w.journal, t.id = id ∧ t.phase = .installingCandidate ∧
    ∃ candidate, t.candidateIdx = some candidate ∧
      fileDigest sha256 w (.installing id) = some candidate

/-- The backups of a transaction are still being made. -/
def BackingUp (id : TxId) (w : World D) : Prop :=
  ∃ t ∈ w.journal, t.id = id ∧ t.phase = .candidateBuilt

/-- Paths other than backups. -/
def Path.isBackupOf (id : TxId) : Path → Bool
  | .backupIdx tx => tx = id
  | .backupSdx tx => tx = id
  | _ => false

/-- A change of a file keeps the backups that the journal promises. -/
def WriteOk (p : Path) (w : World D) : Prop :=
  ∀ id, p.isBackupOf id = true → BackingUp id w

/-- The facts about removed tails under which a transition is saved: a candidate is journaled as built
only when every removal is, and refused for being identical only when no removal is pending. -/
structure TailOk (sha256 : Bytes → D) (t : Transaction D) (w : World D) : Prop where
  built : t.phase = .candidateBuilt → Recorded sha256 w
  refused : t.candidateIdenticalToLiveIndex = true → interrupted w.log = false

/-- Under which facts each request is issued. -/
def Permit (sha256 : Bytes → D) (clean tidy : Prop) : RepairReq D → World D → Prop
  | .save kind t, w => SaveOk sha256 clean kind t w ∧ RetryOk kind t w ∧
      (tidy → kind = .transition → TailOk sha256 t w)
  | .unlink p, w => WriteOk p w
  | .copy _ destination _, w => WriteOk destination w
  | .link _ destination, w => WriteOk destination w
  | .replace source destination, w => WriteOk source w ∧ WriteOk destination w ∧
      ∀ base, destination = .liveIdx base → (∃ serial, source = .scratch serial) ∨
        ∃ id, source = .installing id ∧ base = id.base ∧ InstallOk sha256 id w
  | .preflight, w => tidy → Recorded sha256 w
  | .build id F, w => BuildOk clean id F w
  | _, _ => True

end StorageNode.IndexRepair
