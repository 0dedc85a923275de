import StorageNode.IndexRepair.World
import Mathlib.Data.List.Perm.Subperm

/-!
# What the log says

Counts over the event log, newest event first: operator requests and consumed authorizations of a
source, full builds, builds that started after the source was blocked, and tail removals that are
still waiting for a proven candidate. The `simp` lemmas say how one more event changes each of them.
-/

set_option autoImplicit false

namespace StorageNode.IndexRepair

open StorageNode.IndexHelper

variable {D : Type}

/-- The record without the operator's two fields. -/
def Transaction.core (t : Transaction D) : Transaction D :=
  { t with operatorRetryRequestedAt := none, operatorRetryConsumed := false }

/-- Two records that differ in the operator's fields only. -/
theorem core_eq {t u : Transaction D} (h : t.core = u.core) :
    t.id = u.id ∧ t.phase = u.phase ∧ t.sourceFingerprint = u.sourceFingerprint ∧
      t.attemptCount = u.attemptCount ∧ t.identity = u.identity ∧
      t.candidateIdx = u.candidateIdx ∧ t.oldIdx = u.oldIdx ∧ t.oldSdx = u.oldSdx ∧
      t.candidateIdenticalAfterTailRecovery = u.candidateIdenticalAfterTailRecovery ∧ t.incompleteTail = u.incompleteTail ∧
      t.fingerprintUnavailable = u.fingerprintUnavailable ∧ t.candidatePath = u.candidatePath ∧
      t.installTempPath = u.installTempPath ∧ t.stagingDir = u.stagingDir := by
  simp only [Transaction.core, Transaction.mk.injEq] at h
  tauto

/-- The fingerprints that a build can be charged to. -/
def SourceFingerprint.isKnown : SourceFingerprint D → Bool
  | .known _ _ => true
  | .unavailable _ => false

variable [DecidableEq D]

/-- The transaction of a save event of the given kind and source. -/
def Event.savedId (kind : SaveKind) (F : SourceFingerprint D) : Event D → Option TxId
  | .saved k t => if k = kind ∧ t.sourceFingerprint = F then some t.id else none
  | _ => none

/-- The transaction of a build event of the given source. -/
def Event.buildId (F : SourceFingerprint D) : Event D → Option TxId
  | .build id fingerprint => if fingerprint = F then some id else none
  | _ => none

/-- `request_retry` calls for a source. -/
def requested (F : SourceFingerprint D) (log : List (Event D)) : List TxId :=
  log.filterMap (Event.savedId .retry F)

/-- Authorizations used for a source. -/
def consumed (F : SourceFingerprint D) (log : List (Event D)) : List TxId :=
  log.filterMap (Event.savedId .consume F)

/-- Transactions of a source that were created with an authorization. -/
def authorizedCreations (F : SourceFingerprint D) (log : List (Event D)) : List TxId :=
  log.filterMap (Event.savedId (.create true) F)

/-- Full candidate builds of a source. -/
def builds (F : SourceFingerprint D) (log : List (Event D)) : List TxId :=
  log.filterMap (Event.buildId F)

/-- A transaction of the source was saved in the given phase. -/
def EverIn (F : SourceFingerprint D) (phase : Phase) (log : List (Event D)) : Prop :=
  ∃ kind t, Event.saved kind t ∈ log ∧ t.sourceFingerprint = F ∧ t.phase = phase

/-- The event says that a transaction of the source is in the given phase. -/
def Event.isIn (F : SourceFingerprint D) (phase : Phase) : Event D → Bool
  | .saved _ t => decide (t.sourceFingerprint = F ∧ t.phase = phase)
  | _ => false

theorem Event.isIn_iff {F : SourceFingerprint D} {phase : Phase} {e : Event D} :
    e.isIn F phase = true ↔
      ∃ kind t, e = .saved kind t ∧ t.sourceFingerprint = F ∧ t.phase = phase := by
  cases e with
  | saved kind t => simp [isIn]
  | _ => simp [isIn]

theorem Event.buildId_eq_some {F : SourceFingerprint D} {e : Event D} {id : TxId} :
    e.buildId F = some id ↔ e = .build id F := by
  cases e with
  | build tx G => by_cases hG : G = F <;> simp [buildId, hG]
  | _ => simp [buildId]

theorem everIn_iff {F : SourceFingerprint D} {phase : Phase} {log : List (Event D)} :
    EverIn F phase log ↔ ∃ e ∈ log, e.isIn F phase = true := by
  constructor
  · rintro ⟨kind, t, ht, h⟩
    exact ⟨_, ht, Event.isIn_iff.2 ⟨kind, t, rfl, h⟩⟩
  · rintro ⟨e, he, hin⟩
    obtain ⟨kind, t, rfl, h⟩ := Event.isIn_iff.1 hin
    exact ⟨kind, t, he, h⟩

instance (F : SourceFingerprint D) (phase : Phase) (log : List (Event D)) :
    Decidable (EverIn F phase log) :=
  decidable_of_iff (log.any (Event.isIn F phase) = true) (by rw [List.any_eq_true, everIn_iff])

/-- Builds of a source that started after it was blocked. -/
def lateBuilds (F : SourceFingerprint D) : List (Event D) → Nat
  | [] => 0
  | e :: log =>
    lateBuilds F log +
      if (e.buildId F).isSome = true ∧ EverIn F .manualInterventionRequired log then 1 else 0

/-- A tail was removed and no candidate has been proven since. -/
def interrupted : List (Event D) → Bool
  | [] => false
  | .truncated _ _ _ :: _ => true
  | .saved .transition t :: log => if t.phase = .candidateBuilt then false else interrupted log
  | _ :: log => interrupted log

/-! ## One more event -/

theorem everIn_cons {F : SourceFingerprint D} {phase : Phase} {e : Event D} {log : List (Event D)} :
    EverIn F phase (e :: log) ↔ e.isIn F phase = true ∨ EverIn F phase log := by
  simp [everIn_iff]

section

variable (F : SourceFingerprint D) (t : Transaction D) (kind : SaveKind) (log : List (Event D))

@[simp] theorem requested_saved : requested F (.saved kind t :: log) =
    if kind = .retry ∧ t.sourceFingerprint = F then t.id :: requested F log else requested F log := by
  simp only [requested, List.filterMap_cons, Event.savedId]
  split <;> simp_all

@[simp] theorem consumed_saved : consumed F (.saved kind t :: log) =
    if kind = .consume ∧ t.sourceFingerprint = F then t.id :: consumed F log else consumed F log := by
  simp only [consumed, List.filterMap_cons, Event.savedId]
  split <;> simp_all

@[simp] theorem authorizedCreations_saved : authorizedCreations F (.saved kind t :: log) =
    if kind = .create true ∧ t.sourceFingerprint = F then t.id :: authorizedCreations F log
    else authorizedCreations F log := by
  simp only [authorizedCreations, List.filterMap_cons, Event.savedId]
  split <;> simp_all

@[simp] theorem builds_saved : builds F (.saved kind t :: log) = builds F log := rfl

@[simp] theorem lateBuilds_saved : lateBuilds F (.saved kind t :: log) = lateBuilds F log := by
  simp [lateBuilds, Event.buildId]

variable (id : TxId) (G : SourceFingerprint D)

@[simp] theorem builds_build : builds F (.build id G :: log) =
    if G = F then id :: builds F log else builds F log := by
  simp only [builds, List.filterMap_cons, Event.buildId]
  split <;> simp_all

@[simp] theorem requested_build : requested F (.build id G :: log) = requested F log := rfl
@[simp] theorem consumed_build : consumed F (.build id G :: log) = consumed F log := rfl
@[simp] theorem authorizedCreations_build :
    authorizedCreations F (.build id G :: log) = authorizedCreations F log := rfl

variable (payload : HelperPayload D)

@[simp] theorem requested_built : requested F (.built id payload :: log) = requested F log := rfl
@[simp] theorem consumed_built : consumed F (.built id payload :: log) = consumed F log := rfl
@[simp] theorem authorizedCreations_built :
    authorizedCreations F (.built id payload :: log) = authorizedCreations F log := rfl
@[simp] theorem builds_built : builds F (.built id payload :: log) = builds F log := rfl
@[simp] theorem lateBuilds_built :
    lateBuilds F (.built id payload :: log) = lateBuilds F log := by
  simp [lateBuilds, Event.buildId]

variable (offset : Nat) (tail : Bytes)

@[simp] theorem requested_truncated :
    requested F (.truncated id offset tail :: log) = requested F log := rfl
@[simp] theorem consumed_truncated :
    consumed F (.truncated id offset tail :: log) = consumed F log := rfl
@[simp] theorem authorizedCreations_truncated :
    authorizedCreations F (.truncated id offset tail :: log) = authorizedCreations F log := rfl
@[simp] theorem builds_truncated :
    builds F (.truncated id offset tail :: log) = builds F log := rfl
@[simp] theorem lateBuilds_truncated :
    lateBuilds F (.truncated id offset tail :: log) = lateBuilds F log := by
  simp [lateBuilds, Event.buildId]

end

end StorageNode.IndexRepair
