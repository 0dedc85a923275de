import StorageNode.Json.Value
import Mathlib.Data.List.Sort

/-!
# Volume status of the upstream server

`parse_volume_status` and `all_volumes_readonly` of `seaweed_health`. The loop over the volumes keeps
lists in which an id may occur more than once. `parseVolumeStatus_eq` takes the loop apart: the result
is a function of the list of parsed entries.
-/

set_option autoImplicit false

namespace StorageNode.SeaweedHealth

open StorageNode.Json

/-- What `parse_volume_status` raises: a `SeaweedHealthError`, or the `OverflowError` of `int` on an
infinite number, which it does not catch. -/
inductive StatusError where
  | health (message : String)
  | overflow
  deriving DecidableEq

/-- The fields of a volume entry that the parser reads. -/
structure VolumeEntry where
  id : Int
  collection : String
  readonly : Bool
  deriving DecidableEq

/-- One element of `volume_details`. -/
structure VolumeDetail where
  id : Int
  collection : String
  readonly : Bool
  expectedReadonly : Bool
  deriving DecidableEq

/-- The counters of a collection. -/
structure Counts where
  total : Nat := 0
  readonly : Nat := 0
  writable : Nat := 0
  deriving DecidableEq

/-- The dictionary that `parse_volume_status` returns. -/
structure VolumeStatus where
  total : Nat
  readonly : Nat
  writable : Nat
  expectedReadonly : Nat
  unexpectedReadonly : Nat
  readonlyVolumeIds : List Int
  unexpectedReadonlyVolumeIds : List Int
  volumeDetails : List VolumeDetail
  collections : List (String × Counts)
  deriving DecidableEq

/-- `all_volumes_readonly`. -/
def allVolumesReadonly (status : VolumeStatus) : Bool :=
  decide (0 < status.total ∧ status.readonly = status.total ∧ status.writable = 0 ∧
    0 < status.unexpectedReadonly)

/-! ## The parser -/

/-- `payload["Volumes"]`, where `None` stands for an empty list. -/
def rawVolumes : Value → Except StatusError (List Value)
  | .object members =>
    match Value.get? members "Volumes" with
    | some .null => .ok []
    | some (.array items) => .ok items
    | _ => .error (.health "SeaweedFS volume status did not contain a Volumes array")
  | _ => .error (.health "SeaweedFS volume status did not contain a Volumes array")

/-- `int(raw["Id"])`. -/
def parseId (conv : Conversions) (members : List (String × Value)) : Except StatusError Int :=
  match (Value.get? members "Id").map (Value.toInt conv) with
  | some (.ok n) => .ok n
  | some (.error .overflow) => .error .overflow
  | _ => .error (.health "SeaweedFS volume status contained an invalid volume Id")

/-- `raw.get("ReadOnly")`, which must be a boolean. -/
def parseReadonly (volumeId : Int) (members : List (String × Value)) : Except StatusError Bool :=
  match Value.get? members "ReadOnly" with
  | some (.bool b) => .ok b
  | _ => .error (.health s!"SeaweedFS volume {volumeId} did not report a boolean ReadOnly state")

/-- `str(raw.get("Collection") or "")`. -/
def parseCollection (conv : Conversions) (members : List (String × Value)) : String :=
  match Value.get? members "Collection" with
  | some v => if v.truthy then v.toStr conv else ""
  | none => ""

/-- The checks on one entry. -/
def parseEntry (conv : Conversions) : Value → Except StatusError VolumeEntry
  | .object members => do
    let id ← parseId conv members
    let readonly ← parseReadonly id members
    pure ⟨id, parseCollection conv members, readonly⟩
  | _ => .error (.health "SeaweedFS volume status contained an invalid volume entry")

/-- The variables of the loop. -/
structure Tally where
  readonlyIds : List Int := []
  unexpectedIds : List Int := []
  volumeDetails : List VolumeDetail := []
  collections : List (String × Counts) := []
  total : Nat := 0
  writable : Nat := 0
  deriving DecidableEq

/-- Whether the operator has declared a read-only volume. -/
def VolumeEntry.expectedReadonly (expected : List Int) (e : VolumeEntry) : Bool :=
  e.readonly && decide (e.id ∈ expected)

/-- Whether the volume counts as unexpectedly read-only. -/
def VolumeEntry.unexpected (expected : List Int) (e : VolumeEntry) : Bool :=
  e.readonly && decide (e.id ∉ expected)

/-- The element of `volume_details`. -/
def VolumeEntry.detail (expected : List Int) (e : VolumeEntry) : VolumeDetail :=
  ⟨e.id, e.collection, e.readonly, e.expectedReadonly expected⟩

/-- `collection_label`. -/
def VolumeEntry.label (e : VolumeEntry) : String :=
  if e.collection = "" then "<default>" else e.collection

/-- The counters with one more entry. -/
def Counts.add (counts : Counts) (readonly : Bool) : Counts :=
  { total := counts.total + 1
    readonly := if readonly then counts.readonly + 1 else counts.readonly
    writable := if readonly then counts.writable else counts.writable + 1 }

/-- Count an entry under its label; `setdefault` adds a new label at the end. -/
def countUnder (label : String) (readonly : Bool) :
    List (String × Counts) → List (String × Counts)
  | [] => [(label, Counts.add {} readonly)]
  | (name, counts) :: rest =>
    if name = label then (name, counts.add readonly) :: rest
    else (name, counts) :: countUnder label readonly rest

/-- The body of the loop after the checks. -/
def Tally.add (expected : List Int) (tally : Tally) (e : VolumeEntry) : Tally where
  readonlyIds := if e.readonly then tally.readonlyIds ++ [e.id] else tally.readonlyIds
  unexpectedIds :=
    if e.unexpected expected then tally.unexpectedIds ++ [e.id] else tally.unexpectedIds
  volumeDetails := tally.volumeDetails ++ [e.detail expected]
  collections := countUnder e.label e.readonly tally.collections
  total := tally.total + 1
  writable := if e.readonly then tally.writable else tally.writable + 1

/-- The loop over the entries. -/
def tallyEach (conv : Conversions) (expected : List Int) :
    List Value → Tally → Except StatusError Tally
  | [], tally => pure tally
  | raw :: rest, tally => do
    let e ← parseEntry conv raw
    tallyEach conv expected rest (tally.add expected e)

/-- The dictionary that is returned, with its sorted lists. -/
def Tally.status (tally : Tally) : VolumeStatus where
  total := tally.total
  readonly := tally.readonlyIds.length
  writable := tally.writable
  expectedReadonly := tally.readonlyIds.length - tally.unexpectedIds.length
  unexpectedReadonly := tally.unexpectedIds.length
  readonlyVolumeIds := tally.readonlyIds.insertionSort (· ≤ ·)
  unexpectedReadonlyVolumeIds := tally.unexpectedIds.insertionSort (· ≤ ·)
  volumeDetails := tally.volumeDetails.insertionSort fun a b => a.id ≤ b.id
  collections := tally.collections

/-- `parse_volume_status`. -/
def parseVolumeStatus (conv : Conversions) (expected : List Int) (payload : Value) :
    Except StatusError VolumeStatus := do
  let raws ← rawVolumes payload
  let tally ← tallyEach conv expected raws {}
  pure tally.status

/-! ## The entries of a payload -/

/-- The entries of a payload that the parser accepts. -/
def entries (conv : Conversions) (payload : Value) : Except StatusError (List VolumeEntry) := do
  let raws ← rawVolumes payload
  raws.mapM (parseEntry conv)

/-- The status of a list of entries. -/
def statusOf (expected : List Int) (es : List VolumeEntry) : VolumeStatus :=
  (es.foldl (Tally.add expected) {}).status

theorem tallyEach_eq (conv : Conversions) (expected : List Int) :
    ∀ (raws : List Value) (tally : Tally), tallyEach conv expected raws tally =
      (raws.mapM (parseEntry conv)).map fun es => es.foldl (Tally.add expected) tally := by
  intro raws
  induction raws with
  | nil => exact fun _ => rfl
  | cons raw rest ih =>
      intro tally
      rw [tallyEach, List.mapM_cons]
      cases parseEntry conv raw with
      | error e => rfl
      | ok e =>
          change tallyEach conv expected rest (tally.add expected e) = _
          rw [ih]
          cases rest.mapM (parseEntry conv) <;> rfl

/-- The parser accepts a payload exactly when it accepts every entry, and returns the status of the
entries. -/
theorem parseVolumeStatus_eq (conv : Conversions) (expected : List Int) (payload : Value) :
    parseVolumeStatus conv expected payload =
      (entries conv payload).map (statusOf expected) := by
  rw [parseVolumeStatus, entries]
  cases rawVolumes payload with
  | error e => rfl
  | ok raws =>
      change (tallyEach conv expected raws {}).bind _ = (raws.mapM (parseEntry conv)).map _
      rw [tallyEach_eq]
      cases raws.mapM (parseEntry conv) <;> rfl

theorem parseVolumeStatus_ok {conv : Conversions} {expected : List Int} {payload : Value}
    {status : VolumeStatus} :
    parseVolumeStatus conv expected payload = .ok status ↔
      ∃ es, entries conv payload = .ok es ∧ status = statusOf expected es := by
  rw [parseVolumeStatus_eq]
  cases entries conv payload with
  | error e => simp [Except.map]
  | ok es => simp [Except.map, eq_comm]

/-! ## The fields of a status -/

/-- The loop by fields, by induction on the entries. -/
theorem foldl_add (expected : List Int) : ∀ (es : List VolumeEntry) (tally : Tally),
    (es.foldl (Tally.add expected) tally).readonlyIds =
        tally.readonlyIds ++ (es.filter VolumeEntry.readonly).map VolumeEntry.id ∧
      (es.foldl (Tally.add expected) tally).unexpectedIds =
        tally.unexpectedIds ++ (es.filter (VolumeEntry.unexpected expected)).map VolumeEntry.id ∧
      (es.foldl (Tally.add expected) tally).volumeDetails =
        tally.volumeDetails ++ es.map (VolumeEntry.detail expected) ∧
      (es.foldl (Tally.add expected) tally).total = tally.total + es.length ∧
      (es.foldl (Tally.add expected) tally).writable =
        tally.writable + (es.filter fun e => !e.readonly).length := by
  intro es
  -- each field of the tally grows by what one entry adds to it
  induction es with
  | nil => simp
  | cons e es ih =>
      intro tally
      obtain ⟨hreadonly, hunexpected, hdetails, htotal, hwritable⟩ := ih (tally.add expected e)
      rw [List.foldl_cons]
      refine ⟨?_, ?_, ?_, ?_, ?_⟩
      · rw [hreadonly]
        cases h : e.readonly <;> simp [Tally.add, h]
      · rw [hunexpected]
        cases h : e.unexpected expected <;> simp [Tally.add, h]
      · rw [hdetails]
        simp [Tally.add]
      · rw [htotal]
        simp [Tally.add]
        omega
      · rw [hwritable]
        cases h : e.readonly <;> simp [Tally.add, h]
        omega

section

variable (expected : List Int) (es : List VolumeEntry)

theorem statusOf_total : (statusOf expected es).total = es.length := by
  simp [statusOf, Tally.status, (foldl_add expected es {}).2.2.2.1]

theorem statusOf_readonly :
    (statusOf expected es).readonly = (es.filter VolumeEntry.readonly).length := by
  simp [statusOf, Tally.status, (foldl_add expected es {}).1]

theorem statusOf_writable :
    (statusOf expected es).writable = (es.filter fun e => !e.readonly).length := by
  simp [statusOf, Tally.status, (foldl_add expected es {}).2.2.2.2]

theorem statusOf_unexpectedReadonly :
    (statusOf expected es).unexpectedReadonly = (es.filter (VolumeEntry.unexpected expected)).length := by
  simp [statusOf, Tally.status, (foldl_add expected es {}).2.1]

theorem statusOf_unexpectedIds :
    (statusOf expected es).unexpectedReadonlyVolumeIds =
      ((es.filter (VolumeEntry.unexpected expected)).map VolumeEntry.id).insertionSort (· ≤ ·) := by
  simp [statusOf, Tally.status, (foldl_add expected es {}).2.1]

theorem statusOf_details :
    (statusOf expected es).volumeDetails =
      (es.map (VolumeEntry.detail expected)).insertionSort fun a b => a.id ≤ b.id := by
  simp [statusOf, Tally.status, (foldl_add expected es {}).2.2.1]

end

/-- A stable sort keeps the order of the elements with one key. -/
theorem filter_insertionSort {α : Type} (key : α → Int) (v : Int) : ∀ l : List α,
    (l.insertionSort fun a b => key a ≤ key b).filter (fun a => decide (key a = v)) =
      l.filter fun a => decide (key a = v) := by
  -- an element is inserted behind smaller keys only
  have hinsert : ∀ (a : α) (l : List α),
      (l.orderedInsert (fun a b => key a ≤ key b) a).filter (fun b => decide (key b = v)) =
        (a :: l).filter fun b => decide (key b = v) := by
    intro a l
    induction l with
    | nil => rfl
    | cons b l ih =>
        by_cases hle : key a ≤ key b
        · rw [List.orderedInsert_cons, if_pos hle]
        · rw [List.orderedInsert_cons, if_neg hle, List.filter_cons, ih]
          by_cases ha : key a = v
          · have hb : key b ≠ v := by omega
            simp [ha, hb]
          · simp [ha, List.filter_cons]
  intro l
  induction l with
  | nil => rfl
  | cons a l ih =>
      rw [List.insertionSort_cons, hinsert, List.filter_cons, List.filter_cons, ih]

/-- The details of one volume, in the order of the payload. -/
theorem statusOf_details_filter (expected : List Int) (es : List VolumeEntry) (v : Int) :
    (statusOf expected es).volumeDetails.filter (fun d => decide (d.id = v)) =
      (es.filter fun e => decide (e.id = v)).map (VolumeEntry.detail expected) := by
  rw [statusOf_details, filter_insertionSort, List.filter_map]
  rfl

theorem mem_statusOf_details {expected : List Int} {es : List VolumeEntry} {d : VolumeDetail} :
    d ∈ (statusOf expected es).volumeDetails ↔ ∃ e ∈ es, e.detail expected = d := by
  rw [statusOf_details, List.mem_insertionSort, List.mem_map]

theorem mem_statusOf_unexpectedIds {expected : List Int} {es : List VolumeEntry} {v : Int} :
    v ∈ (statusOf expected es).unexpectedReadonlyVolumeIds ↔
      ∃ e ∈ es, e.unexpected expected = true ∧ e.id = v := by
  rw [statusOf_unexpectedIds, List.mem_insertionSort, List.mem_map]
  constructor
  · rintro ⟨e, he, hid⟩
    exact ⟨e, (List.mem_filter.1 he).1, (List.mem_filter.1 he).2, hid⟩
  · rintro ⟨e, he, hunexpected, hid⟩
    exact ⟨e, List.mem_filter.2 ⟨he, hunexpected⟩, hid⟩

section

variable (expected : List Int) (es : List VolumeEntry)

/-- Every volume is read-only, and not all of them are declared. -/
theorem allVolumesReadonly_iff : allVolumesReadonly (statusOf expected es) = true ↔
    (∀ e ∈ es, e.readonly = true) ∧ ∃ e ∈ es, e.unexpected expected = true := by
  rw [allVolumesReadonly, decide_eq_true_iff, statusOf_total, statusOf_readonly, statusOf_writable,
    statusOf_unexpectedReadonly]
  constructor
  · rintro ⟨-, hall, -, hsome⟩
    refine ⟨List.length_filter_eq_length_iff.1 hall, ?_⟩
    obtain ⟨e, he⟩ := List.exists_mem_of_length_pos hsome
    exact ⟨e, (List.mem_filter.1 he).1, (List.mem_filter.1 he).2⟩
  · rintro ⟨hall, e, he, hunexpected⟩
    refine ⟨List.length_pos_of_mem he, List.length_filter_eq_length_iff.2 hall, ?_, ?_⟩
    · rw [List.length_eq_zero_iff, List.filter_eq_nil_iff]
      intro e he
      simp [hall e he]
    · exact List.length_pos_of_mem (List.mem_filter.2 ⟨he, hunexpected⟩)

end

end StorageNode.SeaweedHealth
