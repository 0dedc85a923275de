import StorageNode.Health.VolumeStatus
import StorageNode.IndexRepair.Repair
import Mathlib.Data.Finset.Basic

/-!
# Which volumes are repaired

The part of `repair_detected` before its loop. It refuses a status for one of four reasons, in this
order, and otherwise calls `_repair_one` for every element of `unexpected_readonly_volume_ids`, with
the last detail of that id.

`calls_ids` says that there is one call per element of the list. `refusal_eq_none` says what is left of
the refusals on a status that `parse_volume_status` returns: its metadata is never found ambiguous.
-/

set_option autoImplicit false

namespace StorageNode.IndexRepair

open StorageNode.SeaweedHealth

variable {D : Type}

/-- The settings that `repair_detected` reads. -/
structure RepairSettings extends Config where
  autoIndexRepairEnabled : Bool
  indexRepairMaxVolumes : Int
  indexRepairConcurrency : Int

/-- The details that `repair_detected` collects. -/
def repairDetails (status : VolumeStatus) : List VolumeDetail :=
  status.volumeDetails.filter fun d => d.readonly && !d.expectedReadonly

/-- `details[volume_id]`: in a dictionary built from a list, the last entry of an id counts. -/
def detailOf (status : VolumeStatus) (volumeId : Int) : Option VolumeDetail :=
  (repairDetails status).reverse.find? fun d => d.id = volumeId

/-- Whether the keys of the dictionary are the ids of the list. -/
def unambiguous (status : VolumeStatus) : Bool :=
  decide (((repairDetails status).map VolumeDetail.id).toFinset =
    status.unexpectedReadonlyVolumeIds.toFinset)

/-- The exception by which `repair_detected` refuses a status, if it does. -/
def refusal (settings : RepairSettings) (status : VolumeStatus) : Option (RepairExc D) :=
  if settings.autoIndexRepairEnabled = false then
    some (.manual "automatic SeaweedFS index repair is disabled")
  else if allVolumesReadonly status then
    some (.manual ("refusing automatic index repair while every upstream volume is read-only; " ++
      "the status does not provide volume-specific evidence of index divergence"))
  else if unambiguous status = false then
    some (.repair "upstream volume status did not provide unambiguous repair metadata")
  else if (status.unexpectedReadonlyVolumeIds.length : Int) > settings.indexRepairMaxVolumes then
    some (.manual ("refusing automatic index repair for " ++
      toString status.unexpectedReadonlyVolumeIds.length ++
      " volumes; configured safety limit is " ++ toString settings.indexRepairMaxVolumes))
  else none

/-- The calls of `_repair_one`, in the order of the loop. -/
def calls (settings : RepairSettings) (status : VolumeStatus) : List VolumeDetail :=
  match (refusal settings status : Option (RepairExc Unit)) with
  | some _ => []
  | none => status.unexpectedReadonlyVolumeIds.filterMap (detailOf status)

/-- Nothing but the exception depends on the type of digests. -/
theorem refusal_isSome {E : Type} (settings : RepairSettings) (status : VolumeStatus) :
    (refusal settings status : Option (RepairExc D)).isSome =
      (refusal settings status : Option (RepairExc E)).isSome := by
  simp only [refusal]
  split
  · rfl
  · split
    · rfl
    · split
      · rfl
      · split <;> rfl

theorem refusal_none {E : Type} {settings : RepairSettings} {status : VolumeStatus}
    (h : (refusal settings status : Option (RepairExc D)) = none) :
    (refusal settings status : Option (RepairExc E)) = none := by
  rw [← Option.isNone_iff_eq_none, ← Option.not_isSome, refusal_isSome, h]
  rfl

/-! ## The calls -/

theorem unambiguous_of_refusal {settings : RepairSettings} {status : VolumeStatus}
    (h : (refusal settings status : Option (RepairExc D)) = none) : unambiguous status = true := by
  by_contra hambiguous
  rw [refusal] at h
  split at h
  · exact absurd h (by simp)
  · split at h
    · exact absurd h (by simp)
    · rw [if_pos (by simpa using hambiguous)] at h
      exact absurd h (by simp)

/-- An id of the dictionary has a detail. -/
theorem detailOf_eq_some {status : VolumeStatus} {v : Int}
    (hv : v ∈ (repairDetails status).map VolumeDetail.id) :
    ∃ d, detailOf status v = some d ∧ d.id = v := by
  obtain ⟨d, hmem, rfl⟩ := List.mem_map.1 hv
  cases hfind : detailOf status d.id with
  | none =>
      exact absurd (decide_eq_true rfl)
        (List.find?_eq_none.1 hfind _ (List.mem_reverse.2 hmem))
  | some e => exact ⟨e, rfl, by simpa using List.find?_some hfind⟩

/-- The volumes of the calls, one for every element of the list. -/
theorem calls_ids {settings : RepairSettings} {status : VolumeStatus}
    (h : (refusal settings status : Option (RepairExc Unit)) = none) :
    (calls settings status).map VolumeDetail.id = status.unexpectedReadonlyVolumeIds := by
  have hsets : ((repairDetails status).map VolumeDetail.id).toFinset =
      status.unexpectedReadonlyVolumeIds.toFinset := of_decide_eq_true (unambiguous_of_refusal h)
  have hmap : ∀ ids : List Int, (∀ v ∈ ids, v ∈ status.unexpectedReadonlyVolumeIds) →
      (ids.filterMap (detailOf status)).map VolumeDetail.id = ids := by
    intro ids
    induction ids with
    | nil => exact fun _ => rfl
    | cons v ids ih =>
        intro hids
        have hv : v ∈ (repairDetails status).map VolumeDetail.id := by
          rw [← List.mem_toFinset, hsets, List.mem_toFinset]
          exact hids v List.mem_cons_self
        obtain ⟨d, hd, hid⟩ := detailOf_eq_some hv
        rw [List.filterMap_cons_some hd, List.map_cons, hid,
          ih fun u hu => hids u (List.mem_cons_of_mem _ hu)]
  rw [calls, h]
  exact hmap _ fun _ hv => hv

/-- A call gets the detail of its id. -/
theorem mem_calls {settings : RepairSettings} {status : VolumeStatus} {d : VolumeDetail}
    (hd : d ∈ calls settings status) : detailOf status d.id = some d := by
  rw [calls] at hd
  split at hd
  · exact absurd hd (by simp)
  · obtain ⟨v, -, hv⟩ := List.mem_filterMap.1 hd
    have hid : d.id = v := by simpa using List.find?_some hv
    rw [hid]
    exact hv

/-! ## A parsed status -/

section

variable {expected : List Int} {es : List VolumeEntry}

theorem unexpected_iff {e : VolumeEntry} : e.unexpected expected = true ↔
    ((e.detail expected).readonly && !(e.detail expected).expectedReadonly) = true := by
  cases h : e.readonly <;> simp [VolumeEntry.unexpected, VolumeEntry.detail, VolumeEntry.expectedReadonly, h]

theorem mem_repairDetails {d : VolumeDetail} :
    d ∈ repairDetails (statusOf expected es) ↔
      ∃ e ∈ es, e.unexpected expected = true ∧ e.detail expected = d := by
  rw [repairDetails, List.mem_filter, mem_statusOf_details]
  constructor
  · rintro ⟨⟨e, he, rfl⟩, hd⟩
    exact ⟨e, he, unexpected_iff.2 hd, rfl⟩
  · rintro ⟨e, he, hunexpected, rfl⟩
    exact ⟨⟨e, he, rfl⟩, unexpected_iff.1 hunexpected⟩

/-- The metadata of a parsed status is never found ambiguous. -/
theorem unambiguous_statusOf : unambiguous (statusOf expected es) = true := by
  rw [unambiguous, decide_eq_true_iff]
  ext v
  rw [List.mem_toFinset, List.mem_toFinset, mem_statusOf_unexpectedIds, List.mem_map]
  constructor
  · rintro ⟨d, hd, rfl⟩
    obtain ⟨e, he, hunexpected, rfl⟩ := mem_repairDetails.1 hd
    exact ⟨e, he, hunexpected, rfl⟩
  · rintro ⟨e, he, hunexpected, rfl⟩
    exact ⟨e.detail expected, mem_repairDetails.2 ⟨e, he, hunexpected, rfl⟩, rfl⟩

theorem unexpectedIds_length : (statusOf expected es).unexpectedReadonlyVolumeIds.length =
    (es.filter (VolumeEntry.unexpected expected)).length := by
  rw [statusOf_unexpectedIds, List.length_insertionSort, List.length_map]

/-- When a parsed status is not refused. -/
theorem refusal_eq_none {settings : RepairSettings} :
    (refusal settings (statusOf expected es) : Option (RepairExc D)) = none ↔
      settings.autoIndexRepairEnabled = true ∧ allVolumesReadonly (statusOf expected es) = false ∧
        ((es.filter (VolumeEntry.unexpected expected)).length : Int) ≤ settings.indexRepairMaxVolumes := by
  rw [refusal, unexpectedIds_length, if_neg (by simp [unambiguous_statusOf] :
    ¬ unambiguous (statusOf expected es) = false)]
  cases settings.autoIndexRepairEnabled with
  | false => simp
  | true =>
      cases allVolumesReadonly (statusOf expected es) with
      | true => simp
      | false => simp

end

end StorageNode.IndexRepair
