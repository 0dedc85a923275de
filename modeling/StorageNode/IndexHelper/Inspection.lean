import Mathlib.Order.Bounds.Basic
import Mathlib.Order.MinMax
import StorageNode.IndexHelper.Encoding

/-!
# The exact result of an index inspection

`Bounds` gives what an inspection guarantees to the code that uses it. This module says what the
inspection computes: when it raises (`inspectIndexBounds_error_iff`), and every field of the summary
it returns (`inspectIndexBounds_summary`). The three maxima are greatest elements: each one bounds
the entries it is about, and some entry attains it unless there is none and it is zero.
-/

set_option autoImplicit false

namespace StorageNode.IndexHelper

/-! ## The padded record -/

/-- The local variable `unpadded` of `_needle_actual_size`. -/
def needleUnpaddedSize (size : Int) (version : Nat) : Nat :=
  16 + (if size < 0 then 0 else size.toNat) + (4 + (if version = 3 then 8 else 0))

theorem needleActualSize_eq (size : Int) (version : Nat) :
    needleActualSize size version =
      needleUnpaddedSize size version + (8 - needleUnpaddedSize size version % 8) :=
  rfl

/-- A record is padded to the next multiple of eight, by a whole block if it already is one. -/
theorem needleActualSize_padding (size : Int) (version : Nat) :
    8 ∣ needleActualSize size version ∧
      needleUnpaddedSize size version < needleActualSize size version ∧
      needleActualSize size version ≤ needleUnpaddedSize size version + 8 := by
  rw [needleActualSize_eq]
  generalize needleUnpaddedSize size version = unpadded
  omega

/-! ## When the inspection raises -/

/-- The data file starts with the superblock of a supported version. -/
def SupportedVersion (source : Bytes) : Prop :=
  ∃ version : UInt8, source.head? = some version ∧
    (version.toNat = 1 ∨ version.toNat = 2 ∨ version.toNat = 3)

theorem inspectIndexBounds_error_iff (index source : Bytes) :
    (∃ message, inspectIndexBounds index source = .error message) ↔
      ¬ SupportedVersion source ∨ ¬ 16 ∣ index.length := by
  unfold inspectIndexBounds SupportedVersion
  cases hv : source.head? with
  | none => simp
  | some version =>
      by_cases hversion : version.toNat = 1 ∨ version.toNat = 2 ∨ version.toNat = 3
      · by_cases hlength : index.length % 16 = 0
        · simp [hversion, hlength, Nat.dvd_iff_mod_eq_zero]
        · simp [hversion, hlength, Nat.dvd_iff_mod_eq_zero]
      · simp [hversion]

/-! ## The maxima of the scan -/

/-- A running maximum ends at the greatest of the values and of the start value. -/
theorem isGreatest_foldl_max (values : List Nat) (start : Nat) :
    IsGreatest (insert start {n | n ∈ values}) (values.foldl max start) := by
  induction values generalizing start with
  | nil => simp
  | cons value values ih =>
      obtain ⟨hmem, hupper⟩ := ih (max start value)
      have hstart : max start value ≤ values.foldl max (max start value) :=
        hupper (Set.mem_insert _ _)
      rw [List.foldl_cons]
      constructor
      · rcases hmem with hmem | hmem
        · rcases max_choice start value with h | h
          · left
            rw [hmem, h]
          · right
            rw [hmem, h]
            exact List.mem_cons_self
        · right
          exact List.mem_cons_of_mem value hmem
      · rintro n (rfl | hn)
        · exact (le_max_left n value).trans hstart
        · rcases List.mem_cons.1 hn with rfl | hn
          · exact (le_max_right start n).trans hstart
          · exact hupper (Set.mem_insert_of_mem _ hn)

/-- An entry the scan counts and finds inside the data file. -/
def Entry.contained (version sourceSize : Nat) (e : Entry) : Bool :=
  e.counted && decide (e.endOffset version ≤ sourceSize)

/-- Each maximum of the scan is a running maximum over the entries it is about. -/
structure ScanMaxima (version sourceSize : Nat) (s : Scan) (es : List Entry) (t : Scan) : Prop where
  entryCount : t.entryCount = s.entryCount + es.length
  maxEnd : t.maxEnd = ((es.filter Entry.counted).map (Entry.endOffset version)).foldl max s.maxEnd
  maxEntryOffset : t.maxEntryOffset =
    ((es.filter Entry.counted).map Entry.offset).foldl max s.maxEntryOffset
  maxValidEnd : t.maxValidEnd =
    ((es.filter (Entry.contained version sourceSize)).map (Entry.endOffset version)).foldl max
      s.maxValidEnd

theorem visit_entryCount (version sourceSize : Nat) (s : Scan) (e : Entry) :
    (s.visit version sourceSize e).entryCount = s.entryCount + 1 := by
  unfold Scan.visit
  dsimp only
  split
  · rfl
  · split <;> rfl

theorem scan_maxima (version sourceSize : Nat) (es : List Entry) (s : Scan) :
    ScanMaxima version sourceSize s es (es.foldl (Scan.visit version sourceSize) s) := by
  induction es generalizing s with
  | nil => exact ⟨rfl, rfl, rfl, rfl⟩
  | cons e es ih =>
      obtain ⟨hEnd, hOff, hValid, -⟩ := visit_fields version sourceSize s e
      obtain ⟨iCount, iEnd, iOff, iValid⟩ := ih (s.visit version sourceSize e)
      rw [List.foldl_cons]
      constructor
      · rw [iCount, visit_entryCount, List.length_cons]
        omega
      · rw [iEnd, hEnd]
        by_cases hc : e.counted = true <;> simp [hc]
      · rw [iOff, hOff]
        by_cases hc : e.counted = true <;> simp [hc]
      · rw [iValid, hValid]
        by_cases hc : e.counted = true ∧ e.endOffset version ≤ sourceSize
        · simp [Entry.contained, hc]
        · have hnot : e.contained version sourceSize = false := by
            simpa [Entry.contained] using hc
          simp [hnot, hc]

/-! ## The summary -/

/-- The values of a measure over the entries that a test keeps, and zero. -/
def measured (index : Bytes) (keeps : Entry → Bool) (measure : Entry → Nat) : Set Nat :=
  insert 0 {n | ∃ e ∈ entries index, keeps e = true ∧ measure e = n}

theorem isGreatest_measured (index : Bytes) (keeps : Entry → Bool) (measure : Entry → Nat) :
    IsGreatest (measured index keeps measure)
      ((((entries index).filter keeps).map measure).foldl max 0) := by
  have h := isGreatest_foldl_max (((entries index).filter keeps).map measure) 0
  simp only [List.mem_map, List.mem_filter, and_assoc] at h
  exact h

/-- Every field of the summary of an index, in terms of the entries that the index encodes. -/
structure Summary (index source : Bytes) (b : Bounds) : Prop where
  version : source.head?.map UInt8.toNat = some b.version
  sourceSize : b.sourceSize = source.length
  indexSize : b.indexSize = index.length
  entryCount : b.entryCount = index.length / 16
  encoded : (entries index).length = b.entryCount ∧ (∀ e ∈ entries index, e.Encodable) ∧
    (entries index).flatMap encodeEntry = index
  violations : b.violations =
    ((entries index).filter (Entry.overruns b.version source.length)).map
      (Entry.violation b.version source.length)
  valid : b.valid = true ↔
    ∀ e ∈ entries index, e.offset ≠ 0 → 0 < e.size →
      e.offset + needleActualSize e.size b.version ≤ source.length
  maximumNeedleEnd :
    IsGreatest (measured index Entry.counted (Entry.endOffset b.version)) b.maximumNeedleEnd
  maximumValidNeedleEnd :
    IsGreatest (measured index (Entry.contained b.version source.length) (Entry.endOffset b.version))
      b.maximumValidNeedleEnd
  maximumEntryOffset :
    IsGreatest (measured index Entry.counted Entry.offset) b.maximumEntryOffset

/-- No violation is reported exactly when every counted entry lies inside the data file. -/
theorem Inspected.valid_iff {index source : Bytes} {b : Bounds} (h : Inspected index source b) :
    b.valid = true ↔
      ∀ e ∈ entries index, e.offset ≠ 0 → 0 < e.size →
        e.offset + needleActualSize e.size b.version ≤ source.length := by
  rw [h.valid, h.violations, List.isEmpty_map, List.isEmpty_iff, List.filter_eq_nil_iff]
  apply forall₂_congr
  intro e _
  rw [overruns_iff, counted_iff, Entry.endOffset, not_and, Nat.not_lt, and_imp]

theorem inspectIndexBounds_summary {index source : Bytes} {b : Bounds}
    (h : inspectIndexBounds index source = .ok b) : Summary index source b := by
  have inspected := inspectIndexBounds_ok h
  -- an answer means that version and length were accepted
  have haccepted : ¬ ∃ message, inspectIndexBounds index source = .error message := by
    simp [h]
  rw [inspectIndexBounds_error_iff, not_or, not_not, not_not] at haccepted
  obtain ⟨⟨version, hv, hversion⟩, hlength⟩ := haccepted
  have hmod : index.length % 16 = 0 := Nat.mod_eq_zero_of_dvd hlength
  -- the fold over all entries computes each of the three maxima
  have maxima := scan_maxima version.toNat source.length (entries index) {}
  have hcount : (entries index).length = index.length / 16 := length_entries index
  simp only [inspectIndexBounds, hv, hversion, hmod, if_true, ne_eq, not_true_eq_false, if_false,
    Except.ok.injEq] at h
  subst h
  exact {
    version := inspected.version
    sourceSize := rfl
    indexSize := rfl
    entryCount := by
      rw [maxima.entryCount, hcount]
      exact Nat.zero_add _
    encoded := by
      refine ⟨?_, fun e he => encodable_of_mem_entries he, flatMap_encodeEntry_entries hmod⟩
      rw [maxima.entryCount]
      exact (Nat.zero_add _).symm
    violations := inspected.violations
    valid := inspected.valid_iff
    maximumNeedleEnd := by
      rw [maxima.maxEnd]
      exact isGreatest_measured index Entry.counted _
    maximumValidNeedleEnd := by
      rw [maxima.maxValidEnd]
      exact isGreatest_measured index (Entry.contained _ _) _
    maximumEntryOffset := by
      rw [maxima.maxEntryOffset]
      exact isGreatest_measured index Entry.counted _ }

/-- An inspection raises exactly on an unsupported version or a ragged index, and otherwise returns
the exact summary of the entries that the index encodes. -/
theorem inspection_sound_and_complete (index source : Bytes) :
    ((∃ message, inspectIndexBounds index source = .error message) ↔
        ¬ SupportedVersion source ∨ ¬ 16 ∣ index.length) ∧
      (∀ b, inspectIndexBounds index source = .ok b → Summary index source b) ∧
      (∀ e : Entry, e.Encodable → decodeEntry (encodeEntry e) = e) ∧
      (∀ record : Bytes, record.length = 16 →
        (decodeEntry record).Encodable ∧ encodeEntry (decodeEntry record) = record) ∧
      (∀ (size : Int) (version : Nat),
        8 ∣ needleActualSize size version ∧
          needleUnpaddedSize size version < needleActualSize size version ∧
          needleActualSize size version ≤ needleUnpaddedSize size version + 8) :=
  ⟨inspectIndexBounds_error_iff index source, fun _ h => inspectIndexBounds_summary h,
    fun _ h => decodeEntry_encodeEntry h,
    fun _ h => ⟨decodeEntry_encodable h, encodeEntry_decodeEntry h⟩, needleActualSize_padding⟩

example : inspectIndexBounds
    (encodeEntry ⟨7, 8, 1⟩ ++ encodeEntry ⟨99, 16, 1⟩) (3 :: List.replicate 39 0) =
      .ok {
        version := 3
        sourceSize := 40
        indexSize := 32
        entryCount := 2
        maximumNeedleEnd := 48
        maximumValidNeedleEnd := 40
        maximumEntryOffset := 16
        violations := [⟨99, 16, 1, 48, 8⟩]
        valid := false } := by
  decide +kernel

end StorageNode.IndexHelper
