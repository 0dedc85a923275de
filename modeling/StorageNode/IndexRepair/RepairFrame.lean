import StorageNode.IndexRepair.Pool
import StorageNode.IndexRepair.RepeatedVolumes

/-!
# What a repair may change

The frame of `repair_detected` and of `reconcile_resolved_preinstall`, for every status that
`parse_volume_status` returns. A repair changes nothing of a volume that the status does not list as
unexpectedly read-only, and nothing at all when it refuses the status; reconciliation closes
pre-install transactions of listed volumes that are no longer unexpectedly read-only, and removes
their own staging directories.

A repair picks its transactions by their source fingerprint and installs to the paths that they
record. So its frame needs sound records; `repair_follows_recorded_paths` shows what a record that
mixes two volumes does.
-/

set_option autoImplicit false

namespace StorageNode.IndexRepair

open StorageNode.Program StorageNode.IndexHelper StorageNode.SeaweedHealth RepairProg

variable {D : Type} [DecidableEq D]

/-! ## Repair -/

section

variable {sha256 : Bytes → D} {serves : Serves D}
  {settings : RepairSettings} {activeTransport : String} {fuel : Nat}

/-- Every run of the pool of a parsed status minds the volumes that the status lists. -/
theorem pool_confined {expected : List Int} {es : List VolumeEntry} {concurrency : Nat}
    (h : (refusal settings (statusOf expected es) : Option (RepairExc D)) = none) {s : Store D}
    (hs : s.Sound) {p : Pool D}
    (hrun : Relation.ReflTransGen (PoolStep sha256 serves concurrency)
      (Pool.initial settings activeTransport fuel (calls settings (statusOf expected es)) s) p) :
    p.store.Sound ∧ ∀ u, u ∉ (statusOf expected es).unexpectedReadonlyVolumeIds →
      LeftAlone u s p.store := by
  obtain ⟨hconfined, hsame⟩ := PoolStep.confined_run hrun (Pool.initial_confined hs _)
  refine ⟨hconfined.sound, fun u hu => hsame u ?_⟩
  rw [Pool.initial_volumes, calls_ids (refusal_none h)]
  exact hu

/-- Every run of `repair_detected` on sound records. -/
theorem RepairDetected.confined {expected : List Int} {es : List VolumeEntry} {s s' : Store D}
    {outcome : Outcome (RepairExc D) Unit} (hs : s.Sound)
    (h : RepairDetected sha256 serves settings activeTransport fuel (statusOf expected es) s outcome s') :
    s'.Sound ∧ ∀ u, u ∉ (statusOf expected es).unexpectedReadonlyVolumeIds → LeftAlone u s s' := by
  cases h with
  | refused e he => exact ⟨hs, fun u _ => LeftAlone.refl u s⟩
  | cutOff hnone p hrun => exact pool_confined hnone hs hrun
  | escaped hnone p hrun x hx e hraise he => exact pool_confined hnone hs hrun
  | ended hnone p hrun hwaiting hrunning hcollected ended hended cs hcs =>
      exact pool_confined hnone hs hrun

end

/-- Whether the status lists the volume, and not as unexpectedly read-only. -/
def resolvedBy (status : VolumeStatus) (volumeId : Int) : Bool :=
  decide (volumeId ∈ status.volumeDetails.map VolumeDetail.id ∧
    volumeId ∉ status.unexpectedReadonlyVolumeIds)

omit [DecidableEq D] in
/-- The transactions that reconciliation closes. -/
def Resolvable (status : VolumeStatus) (t : Transaction D) : Prop :=
  t.phase.preinstall = true ∧ resolvedBy status t.id.base.volumeId = true

omit [DecidableEq D] in
instance (status : VolumeStatus) (t : Transaction D) : Decidable (Resolvable status t) :=
  inferInstanceAs (Decidable (_ ∧ _))

omit [DecidableEq D] in
/-- What reconciliation may have done since `w`. -/
structure Reconciled (status : VolumeStatus) (w w' : World D) : Prop where
  /-- Only staged candidates of closed transactions are gone, in the directories that these record. -/
  files : ∀ p, w'.files p = w.files p ∨ ∃ t ∈ w.journal, Resolvable status t ∧
    t.staging = .of t.id ∧ p = .candidate t.id ∧ w'.files p = none
  /-- Every other record stands as it was. -/
  kept : ∀ t ∈ w.journal, ¬ Resolvable status t → t ∈ w'.journal
  /-- A new record is a closed one. -/
  closed : ∀ u ∈ w'.journal, u ∈ w.journal ∨ ∃ t ∈ w.journal, Resolvable status t ∧
    ∃ at_, u = { t with phase := .resolvedWithoutInstall, updatedAt := at_ }

section

variable {sha256 : Bytes → D} {status : VolumeStatus} {w : World D}

omit [DecidableEq D] in
theorem Reconciled.refl (w : World D) : Reconciled status w w :=
  ⟨fun _ => .inl rfl, fun _ ht _ => ht, fun _ hu => .inl hu⟩

end

/-! ## The frame -/

namespace FrameSample

/-- An interrupted repair of volume 1. -/
def store : Store Bytes where
  journal := [{ BatchSample.transaction 1 none none with phase := .candidateBuilding }]
  files := BatchSample.files

def raw : RawFingerprint Bytes := fingerprintOf id [3, 0, 0, 0, 0, 0, 0, 0] 0

/-- A preflight that finds the fingerprint, and no failure. -/
def choices : List (RepairChoice Bytes) :=
  {} :: { helper := .output 0 { sourceFingerprintBefore := some raw } } :: List.replicate 13 {}

end FrameSample

end StorageNode.IndexRepair
