import Mathlib.Algebra.Group.Nat.Defs
import Mathlib.Algebra.Ring.Int.Defs
import Mathlib.Data.List.Basic

/-!
# Physical bounds of an index file

An index file is a sequence of 16-byte entries: an unsigned 64-bit needle id, an unsigned 32-bit
offset in units of eight bytes, and a signed 32-bit size, all big-endian. `inspectIndexBounds` scans
the entries against the size of the data file. It skips tombstones, zero-sized entries and
offset-zero markers, and summarises the remaining ones: the greatest end, the greatest end inside
the data file, the greatest offset, and the list of entries that end past the data file.

`inspectIndexBounds_ok` states what the summary says about the entries of the index. A single
reported violation leaves every other counted entry inside the data file
(`Inspected.others_contained`); entries of size zero or below are not counted at all.
-/

set_option autoImplicit false

namespace StorageNode.IndexHelper

/-- File contents. -/
abbrev Bytes := List UInt8

/-- One index entry, with the offset in bytes. -/
structure Entry where
  needleId : Nat
  offset : Nat
  size : Int
  deriving DecidableEq, Repr

/-- One entry that ends past the data file. -/
structure Violation where
  needleId : Nat
  offset : Nat
  size : Int
  «end» : Nat
  bytesPastEof : Nat
  deriving DecidableEq, Repr

/-- The summary that `inspect_index_bounds` returns. -/
structure Bounds where
  version : Nat
  sourceSize : Nat
  indexSize : Nat
  entryCount : Nat
  maximumNeedleEnd : Nat
  maximumValidNeedleEnd : Nat
  maximumEntryOffset : Nat
  violations : List Violation
  valid : Bool
  deriving DecidableEq, Repr

/-- `int.from_bytes(raw, "big", signed=False)`. -/
def fromBytesBig (raw : Bytes) : Nat :=
  raw.foldl (fun n b => n * 256 + b.toNat) 0

/-- `int.from_bytes(raw, "big", signed=True)` on four bytes. -/
def fromBytesBigSigned32 (raw : Bytes) : Int :=
  let n := fromBytesBig raw
  if n < 2 ^ 31 then n else (n : Int) - 2 ^ 32

/-- The three fields of a 16-byte record. -/
def decodeEntry (record : Bytes) : Entry where
  needleId := fromBytesBig (record.take 8)
  offset := fromBytesBig ((record.drop 8).take 4) * 8
  size := fromBytesBigSigned32 ((record.drop 12).take 4)

/-- `n` consecutive 16-byte reads. -/
def readRecords : Nat → Bytes → List Bytes
  | 0, _ => []
  | n + 1, raw => raw.take 16 :: readRecords n (raw.drop 16)

/-- The entries of an index whose length is a multiple of sixteen. -/
def entries (index : Bytes) : List Entry :=
  (readRecords (index.length / 16) index).map decodeEntry

/-- `_needle_actual_size`: header, payload, checksum, the version-3 timestamp, and one to eight
bytes of padding. -/
def needleActualSize (size : Int) (version : Nat) : Nat :=
  let payloadSize := if size < 0 then 0 else size.toNat
  let trailerSize := 4 + (if version = 3 then 8 else 0)
  let unpadded := 16 + payloadSize + trailerSize
  let padding := 8 - unpadded % 8
  unpadded + padding

/-- The entries the scan counts: neither an offset-zero marker nor a tombstone or empty entry. -/
def Entry.counted (e : Entry) : Bool :=
  !(e.offset == 0 || decide (e.size ≤ 0))

/-- The first byte after the record of an entry. -/
def Entry.endOffset (version : Nat) (e : Entry) : Nat :=
  e.offset + needleActualSize e.size version

/-- A counted entry that ends past a data file of the given size. -/
def Entry.overruns (version sourceSize : Nat) (e : Entry) : Bool :=
  e.counted && decide (sourceSize < e.endOffset version)

/-- What is reported about an entry that ends past the data file. -/
def Entry.violation (version sourceSize : Nat) (e : Entry) : Violation where
  needleId := e.needleId
  offset := e.offset
  size := e.size
  «end» := e.endOffset version
  bytesPastEof := e.endOffset version - sourceSize

/-- The local variables of the scan. -/
structure Scan where
  entryCount : Nat := 0
  maxEnd : Nat := 0
  maxValidEnd : Nat := 0
  maxEntryOffset : Nat := 0
  violations : List Violation := []
  deriving DecidableEq, Repr

/-- The loop body of the scan. -/
def Scan.visit (version sourceSize : Nat) (s : Scan) (e : Entry) : Scan :=
  let s := { s with entryCount := s.entryCount + 1 }
  if e.offset = 0 ∨ e.size ≤ 0 then s
  else
    let finish := e.endOffset version
    let s := { s with
      maxEntryOffset := max s.maxEntryOffset e.offset
      maxEnd := max s.maxEnd finish }
    if finish > sourceSize then
      { s with violations := s.violations ++ [e.violation version sourceSize] }
    else { s with maxValidEnd := max s.maxValidEnd finish }

/-- `inspect_index_bounds` on the contents of the index and of the data file. The source also raises
on a short last read; a length that is a multiple of sixteen excludes it. -/
def inspectIndexBounds (index source : Bytes) : Except String Bounds :=
  match source.head? with
  | none => .error "unsupported or missing SeaweedFS superblock"
  | some versionRaw =>
    let version := versionRaw.toNat
    if version = 1 ∨ version = 2 ∨ version = 3 then
      if index.length % 16 ≠ 0 then 
        .error ("candidate index size " ++ toString index.length ++ " is not a multiple of 16")
      else
        let s := (entries index).foldl (Scan.visit version source.length) {}
        .ok {
          version := version
          sourceSize := source.length
          indexSize := index.length
          entryCount := s.entryCount
          maximumNeedleEnd := s.maxEnd
          maximumValidNeedleEnd := s.maxValidEnd
          maximumEntryOffset := s.maxEntryOffset
          violations := s.violations
          valid := s.violations.isEmpty }
    else .error "unsupported or missing SeaweedFS superblock"

/-! ## One loop iteration -/

theorem counted_iff (e : Entry) : e.counted = true ↔ e.offset ≠ 0 ∧ 0 < e.size := by
  simp [Entry.counted]

theorem overruns_iff (version sourceSize : Nat) (e : Entry) :
    e.overruns version sourceSize = true ↔
      e.counted = true ∧ sourceSize < e.endOffset version := by
  simp [Entry.overruns]

/-- The fields after one iteration, with the skipped entries contributing nothing. -/
theorem visit_fields (version sourceSize : Nat) (s : Scan) (e : Entry) :
    (s.visit version sourceSize e).maxEnd =
        (if e.counted then max s.maxEnd (e.endOffset version) else s.maxEnd) ∧
      (s.visit version sourceSize e).maxEntryOffset =
        (if e.counted then max s.maxEntryOffset e.offset else s.maxEntryOffset) ∧
      (s.visit version sourceSize e).maxValidEnd =
        (if e.counted ∧ e.endOffset version ≤ sourceSize then
          max s.maxValidEnd (e.endOffset version) else s.maxValidEnd) ∧
      (s.visit version sourceSize e).violations =
        s.violations ++ (if e.overruns version sourceSize then [e.violation version sourceSize]
          else []) := by
  by_cases hskip : e.offset = 0 ∨ e.size ≤ 0
  · have hc : e.counted = false := by
      rcases hskip with h | h <;> simp [Entry.counted, h]
    simp [Scan.visit, Entry.overruns, hskip, hc]
  · have hc : e.counted = true := by
      rw [counted_iff]
      omega
    by_cases hend : e.endOffset version ≤ sourceSize
    · have hend' : ¬ sourceSize < e.endOffset version := by omega
      simp [Scan.visit, Entry.overruns, hskip, hc, hend, hend']
    · have hend' : sourceSize < e.endOffset version := by omega
      simp [Scan.visit, Entry.overruns, hskip, hc, hend, hend']

/-! ## The whole scan -/

/-- What a scan that started from `s` reports about the entries it visited. -/
structure ScanFacts (version sourceSize : Nat) (s : Scan) (es : List Entry) (t : Scan) : Prop where
  violations : t.violations =
    s.violations ++ (es.filter (Entry.overruns version sourceSize)).map
      (Entry.violation version sourceSize)
  end_le : ∀ e ∈ es, e.counted = true → e.endOffset version ≤ t.maxEnd
  offset_le : ∀ e ∈ es, e.counted = true → e.offset ≤ t.maxEntryOffset
  valid_le : ∀ e ∈ es, e.counted = true → e.endOffset version ≤ sourceSize →
    e.endOffset version ≤ t.maxValidEnd
  maxEnd_mono : s.maxEnd ≤ t.maxEnd
  maxEntryOffset_mono : s.maxEntryOffset ≤ t.maxEntryOffset
  maxValidEnd_mono : s.maxValidEnd ≤ t.maxValidEnd

theorem scan_facts (version sourceSize : Nat) (es : List Entry) :
    ∀ s : Scan, ScanFacts version sourceSize s es (es.foldl (Scan.visit version sourceSize) s) := by
  induction es with
  | nil => exact fun s => ⟨by simp, by simp, by simp, by simp, Nat.le_refl _, Nat.le_refl _,
      Nat.le_refl _⟩
  | cons e es ih =>
      intro s
      -- one visit raises each bound to cover its entry, and the rest of the scan only raises them
      obtain ⟨hEnd, hOff, hValid, hViol⟩ := visit_fields version sourceSize s e
      obtain ⟨iv, ie, io, il, me, mo, ml⟩ := ih (s.visit version sourceSize e)
      rw [List.foldl_cons]
      refine ⟨?_, ?_, ?_, ?_, ?_, ?_, ?_⟩
      · rw [iv, hViol]
        by_cases h : e.overruns version sourceSize = true <;> simp [h]
      · intro x hx hc
        rcases List.mem_cons.1 hx with rfl | hx
        · rw [hEnd, if_pos hc] at me
          omega
        · exact ie x hx hc
      · intro x hx hc
        rcases List.mem_cons.1 hx with rfl | hx
        · rw [hOff, if_pos hc] at mo
          omega
        · exact io x hx hc
      · intro x hx hc hle
        rcases List.mem_cons.1 hx with rfl | hx
        · rw [hValid, if_pos ⟨hc, hle⟩] at ml
          omega
        · exact il x hx hc hle
      · rw [hEnd] at me
        split at me <;> omega
      · rw [hOff] at mo
        split at mo <;> omega
      · rw [hValid] at ml
        split at ml <;> omega

/-- What a successful inspection says about the entries of the index. -/
structure Inspected (index source : Bytes) (b : Bounds) : Prop where
  sourceSize : b.sourceSize = source.length
  violations : b.violations =
    ((entries index).filter (Entry.overruns b.version source.length)).map
      (Entry.violation b.version source.length)
  valid : b.valid = b.violations.isEmpty
  end_le : ∀ e ∈ entries index, e.counted = true → e.endOffset b.version ≤ b.maximumNeedleEnd
  offset_le : ∀ e ∈ entries index, e.counted = true → e.offset ≤ b.maximumEntryOffset
  valid_le : ∀ e ∈ entries index, e.counted = true → e.endOffset b.version ≤ source.length →
    e.endOffset b.version ≤ b.maximumValidNeedleEnd
  version : source.head?.map UInt8.toNat = some b.version

theorem inspectIndexBounds_ok {index source : Bytes} {b : Bounds}
    (h : inspectIndexBounds index source = .ok b) : Inspected index source b := by
  unfold inspectIndexBounds at h
  cases hv : source.head? with
  | none => simp [hv] at h
  | some versionRaw =>
      simp only [hv] at h
      split at h
      · split at h
        · simp at h
        · simp only [Except.ok.injEq] at h
          have facts := scan_facts versionRaw.toNat source.length (entries index) {}
          subst h
          exact ⟨rfl, by simpa using facts.violations, rfl, facts.end_le, facts.offset_le,
            facts.valid_le, by simp [hv]⟩
      · simp at h

/-- With one reported violation, the index splits at the entry that causes it, and every other
counted entry lies inside the data file. -/
theorem Inspected.others_contained {index source : Bytes} {b : Bounds}
    (h : Inspected index source b) {v : Violation} (hv : b.violations = [v]) :
    ∃ pre post : List Entry, ∃ e : Entry, entries index = pre ++ e :: post ∧
      e.overruns b.version source.length = true ∧ v = e.violation b.version source.length ∧
      ∀ x ∈ pre ++ post, x.counted = true →
        x.endOffset b.version ≤ source.length ∧ x.endOffset b.version ≤ b.maximumValidNeedleEnd := by
  have hfil := h.violations
  rw [hv] at hfil
  obtain ⟨e, he, hve⟩ := List.map_eq_singleton_iff.1 hfil.symm
  have hmem : e ∈ (entries index).filter (Entry.overruns b.version source.length) := by
    rw [he]
    exact List.mem_singleton_self e
  obtain ⟨hin, hover⟩ := List.mem_filter.1 hmem
  obtain ⟨pre, post, hsplit⟩ := List.append_of_mem hin
  refine ⟨pre, post, e, hsplit, hover, hve.symm, ?_⟩
  intro x hx hc
  -- the filter of the whole index is `[e]`, so neither side of `e` keeps an element
  have hside : (pre ++ post).filter (Entry.overruns b.version source.length) = [] := by
    rw [hsplit, List.filter_append, List.filter_cons, if_pos hover] at he
    have hlen := congrArg List.length he
    simp only [List.length_append, List.length_cons, List.length_nil] at hlen
    rw [List.filter_append, List.append_eq_nil_iff]
    exact ⟨List.length_eq_zero_iff.1 (by omega), List.length_eq_zero_iff.1 (by omega)⟩
  have hnot : x.overruns b.version source.length = false := by
    have := List.filter_eq_nil_iff.1 hside x hx
    simpa using this
  have hle : x.endOffset b.version ≤ source.length := by
    by_contra hgt
    have : x.overruns b.version source.length = true :=
      (overruns_iff _ _ _).2 ⟨hc, by omega⟩
    rw [this] at hnot
    exact Bool.noConfusion hnot
  have hxin : x ∈ entries index := by
    rw [hsplit]
    rcases List.mem_append.1 hx with hx | hx
    · exact List.mem_append_left _ hx
    · exact List.mem_append_right _ (List.mem_cons_of_mem _ hx)
  exact ⟨hle, h.valid_le x hxin hc hle⟩

/-- A valid index with a bounded greatest end lies below that bound. -/
theorem Inspected.all_below {index source : Bytes} {b : Bounds} (h : Inspected index source b)
    {limit : Nat} (hmax : b.maximumNeedleEnd ≤ limit) :
    ∀ x ∈ entries index, x.counted = true → x.endOffset b.version ≤ limit :=
  fun x hx hc => Nat.le_trans (h.end_le x hx hc) hmax

/-- The record of an entry is never empty, so it ends after its offset. -/
theorem Entry.offset_lt_endOffset (version : Nat) (e : Entry) : e.offset < e.endOffset version := by
  unfold Entry.endOffset needleActualSize
  simp only
  omega

end StorageNode.IndexHelper
