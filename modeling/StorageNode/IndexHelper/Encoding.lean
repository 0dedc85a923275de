import Mathlib.Data.List.Induction
import StorageNode.IndexHelper.Bounds

/-!
# The encoding of an index entry

An index record is the big-endian encoding of an unsigned 64-bit needle id, of an unsigned 32-bit
offset in units of eight bytes, and of a signed 32-bit size. `encodeEntry` writes it. Decoding is
its inverse in both directions: an encodable entry survives writing and reading
(`decodeEntry_encodeEntry`), and a record of sixteen bytes is what its decoded entry is written as
(`encodeEntry_decodeEntry`). An index whose length is a multiple of sixteen is the concatenation
of its encoded entries (`flatMap_encodeEntry_entries`).
-/

set_option autoImplicit false

namespace StorageNode.IndexHelper

/-! ## Unsigned integers -/

/-- `n.to_bytes(width, "big")`. -/
def toBytesBig : Nat → Nat → Bytes
  | 0, _ => []
  | width + 1, n => toBytesBig width (n / 256) ++ [UInt8.ofNat n]

@[simp] theorem length_toBytesBig (width n : Nat) : (toBytesBig width n).length = width := by
  induction width generalizing n with
  | zero => rfl
  | succ width ih => simp [toBytesBig, ih]

@[simp] theorem fromBytesBig_nil : fromBytesBig [] = 0 := rfl

@[simp] theorem fromBytesBig_concat (raw : Bytes) (b : UInt8) :
    fromBytesBig (raw ++ [b]) = fromBytesBig raw * 256 + b.toNat := by
  simp [fromBytesBig]

theorem fromBytesBig_lt (raw : Bytes) : fromBytesBig raw < 256 ^ raw.length := by
  induction raw using List.reverseRecOn with
  | nil => decide
  | append_singleton raw b ih =>
      have hb : b.toNat < 256 := b.toNat_lt
      rw [fromBytesBig_concat, List.length_append, List.length_singleton, Nat.pow_succ]
      omega

theorem fromBytesBig_toBytesBig {width n : Nat} (h : n < 256 ^ width) :
    fromBytesBig (toBytesBig width n) = n := by
  induction width generalizing n with
  | zero =>
      rw [Nat.pow_zero] at h
      rw [toBytesBig, fromBytesBig_nil]
      omega
  | succ width ih =>
      rw [Nat.pow_succ] at h
      have hhigh : n / 256 < 256 ^ width := Nat.div_lt_of_lt_mul (by omega)
      rw [toBytesBig, fromBytesBig_concat, ih hhigh, UInt8.toNat_ofNat']
      omega

theorem toBytesBig_fromBytesBig (raw : Bytes) :
    toBytesBig raw.length (fromBytesBig raw) = raw := by
  induction raw using List.reverseRecOn with
  | nil => rfl
  | append_singleton raw b ih =>
      have hb : b.toNat < 256 := b.toNat_lt
      have hhigh : (fromBytesBig raw * 256 + b.toNat) / 256 = fromBytesBig raw := by omega
      have hlow : UInt8.ofNat (fromBytesBig raw * 256 + b.toNat) = b := by
        apply UInt8.toNat_inj.1
        rw [UInt8.toNat_ofNat']
        omega
      rw [List.length_append, List.length_singleton, fromBytesBig_concat, toBytesBig, hhigh, hlow,
        ih]

/-! ## Signed integers of four bytes -/

/-- `size.to_bytes(4, "big", signed=True)`: two's complement. -/
def toBytesBigSigned32 (size : Int) : Bytes :=
  toBytesBig 4 (size % 2 ^ 32).toNat

@[simp] theorem length_toBytesBigSigned32 (size : Int) :
    (toBytesBigSigned32 size).length = 4 :=
  length_toBytesBig 4 _

theorem fromBytesBigSigned32_toBytesBigSigned32 {size : Int} (hlow : -2 ^ 31 ≤ size)
    (hhigh : size < 2 ^ 31) : fromBytesBigSigned32 (toBytesBigSigned32 size) = size := by
  have hlt : (size % 2 ^ 32).toNat < 256 ^ 4 := by omega
  rw [fromBytesBigSigned32, toBytesBigSigned32, fromBytesBig_toBytesBig hlt]
  split <;> omega

theorem fromBytesBigSigned32_range {raw : Bytes} (h : raw.length = 4) :
    -2 ^ 31 ≤ fromBytesBigSigned32 raw ∧ fromBytesBigSigned32 raw < 2 ^ 31 := by
  have hlt := fromBytesBig_lt raw
  rw [h] at hlt
  rw [fromBytesBigSigned32]
  split <;> omega

theorem toBytesBigSigned32_fromBytesBigSigned32 {raw : Bytes} (h : raw.length = 4) :
    toBytesBigSigned32 (fromBytesBigSigned32 raw) = raw := by
  have hlt := fromBytesBig_lt raw
  rw [h] at hlt
  -- the two's complement of the signed value is the unsigned value of the same bytes
  have hmod : (fromBytesBigSigned32 raw % 2 ^ 32).toNat = fromBytesBig raw := by
    rw [fromBytesBigSigned32]
    split <;> omega
  rw [toBytesBigSigned32, hmod, ← h, toBytesBig_fromBytesBig]

/-! ## Entries -/

/-- `struct.pack(">QIi", needle_id, offset // 8, size)`. -/
def encodeEntry (e : Entry) : Bytes :=
  toBytesBig 8 e.needleId ++ toBytesBig 4 (e.offset / 8) ++ toBytesBigSigned32 e.size

/-- An entry whose fields fit the three integers of a record. -/
structure Entry.Encodable (e : Entry) : Prop where
  needleId : e.needleId < 2 ^ 64
  aligned : 8 ∣ e.offset
  offset : e.offset / 8 < 2 ^ 32
  size_low : -2 ^ 31 ≤ e.size
  size_high : e.size < 2 ^ 31

@[simp] theorem length_encodeEntry (e : Entry) : (encodeEntry e).length = 16 := by
  simp [encodeEntry]

theorem decodeEntry_encodeEntry {e : Entry} (h : e.Encodable) : decodeEntry (encodeEntry e) = e := by
  have hid : (encodeEntry e).take 8 = toBytesBig 8 e.needleId := by
    simp [encodeEntry]
  have hoffset : ((encodeEntry e).drop 8).take 4 = toBytesBig 4 (e.offset / 8) := by
    simp [encodeEntry]
  have hsize : ((encodeEntry e).drop 12).take 4 = toBytesBigSigned32 e.size := by
    have hfront : (toBytesBig 8 e.needleId ++ toBytesBig 4 (e.offset / 8)).length = 12 := by simp
    rw [encodeEntry, List.drop_left' hfront, List.take_of_length_le (by simp)]
  have hn : e.needleId < 256 ^ 8 := h.needleId
  have ho : e.offset / 8 < 256 ^ 4 := h.offset
  rw [decodeEntry, hid, hoffset, hsize, fromBytesBig_toBytesBig hn, fromBytesBig_toBytesBig ho,
    fromBytesBigSigned32_toBytesBigSigned32 h.size_low h.size_high, Nat.div_mul_cancel h.aligned]

theorem decodeEntry_encodable {record : Bytes} (h : record.length = 16) :
    (decodeEntry record).Encodable := by
  have hid := fromBytesBig_lt (record.take 8)
  have hoffset := fromBytesBig_lt ((record.drop 8).take 4)
  have hsize : ((record.drop 12).take 4).length = 4 := by simp [h]
  obtain ⟨hlow, hhigh⟩ := fromBytesBigSigned32_range hsize
  simp only [List.length_take, List.length_drop, h] at hid hoffset
  exact {
    needleId := hid
    aligned := Nat.dvd_mul_left 8 _
    offset := by
      rw [decodeEntry, Nat.mul_div_cancel _ (by omega)]
      exact hoffset
    size_low := hlow
    size_high := hhigh }

theorem encodeEntry_decodeEntry {record : Bytes} (h : record.length = 16) :
    encodeEntry (decodeEntry record) = record := by
  have hid : (record.take 8).length = 8 := by simp [h]
  have hoffset : ((record.drop 8).take 4).length = 4 := by simp [h]
  have hsize : ((record.drop 12).take 4).length = 4 := by simp [h]
  have hfirst : toBytesBig 8 (fromBytesBig (record.take 8)) = record.take 8 := by
    simpa only [hid] using toBytesBig_fromBytesBig (record.take 8)
  have hsecond : toBytesBig 4 (fromBytesBig ((record.drop 8).take 4)) = (record.drop 8).take 4 := by
    simpa only [hoffset] using toBytesBig_fromBytesBig ((record.drop 8).take 4)
  have hlast : (record.drop 12).take 4 = record.drop 12 :=
    List.take_of_length_le (by simp [h])
  calc encodeEntry (decodeEntry record)
      = record.take 8 ++ (record.drop 8).take 4 ++ (record.drop 12).take 4 := by
        rw [encodeEntry, decodeEntry, Nat.mul_div_cancel _ (by omega), hfirst, hsecond,
          toBytesBigSigned32_fromBytesBigSigned32 hsize]
    _ = record.take 12 ++ record.drop 12 := by rw [← List.take_add, hlast]
    _ = record := List.take_append_drop 12 record

/-! ## The whole index -/

@[simp] theorem length_readRecords (n : Nat) (raw : Bytes) : (readRecords n raw).length = n := by
  induction n generalizing raw with
  | zero => rfl
  | succ n ih => simp [readRecords, ih]

/-- Every read returns sixteen bytes as long as that many are left. -/
theorem length_of_mem_readRecords {n : Nat} {raw record : Bytes} (hraw : 16 * n ≤ raw.length)
    (h : record ∈ readRecords n raw) : record.length = 16 := by
  induction n generalizing raw with
  | zero => simp [readRecords] at h
  | succ n ih =>
      rcases List.mem_cons.1 h with rfl | h
      · rw [List.length_take]
        omega
      · apply ih _ h
        rw [List.length_drop]
        omega

/-- The reads return the bytes in order and leave none out. -/
theorem flatten_readRecords (n : Nat) (raw : Bytes) :
    (readRecords n raw).flatten = raw.take (16 * n) := by
  induction n generalizing raw with
  | zero => simp [readRecords]
  | succ n ih =>
      rw [readRecords, List.flatten_cons, ih, ← List.take_add]
      congr 1
      omega

@[simp] theorem length_entries (index : Bytes) : (entries index).length = index.length / 16 := by
  simp [entries]

theorem encodable_of_mem_entries {index : Bytes} {e : Entry} (h : e ∈ entries index) :
    e.Encodable := by
  obtain ⟨record, hrecord, rfl⟩ := List.mem_map.1 h
  exact decodeEntry_encodable (length_of_mem_readRecords (by omega) hrecord)

theorem flatMap_encodeEntry_entries {index : Bytes} (h : index.length % 16 = 0) :
    (entries index).flatMap encodeEntry = index := by
  have hback : ∀ record ∈ readRecords (index.length / 16) index,
      encodeEntry (decodeEntry record) = record :=
    fun record hrecord =>
      encodeEntry_decodeEntry (length_of_mem_readRecords (by omega) hrecord)
  have hall : 16 * (index.length / 16) = index.length := by omega
  calc (entries index).flatMap encodeEntry
      = ((readRecords (index.length / 16) index).map
          (fun record => encodeEntry (decodeEntry record))).flatten := by
        rw [List.flatMap_def, entries, List.map_map]
        rfl
    _ = (readRecords (index.length / 16) index).flatten := by
        rw [List.map_congr_left hback, List.map_id']
    _ = index := by rw [flatten_readRecords, hall, List.take_length]

/-- The decoded entries are the only encodable ones that are written as the index. -/
theorem entries_flatMap_encodeEntry {es : List Entry} (h : ∀ e ∈ es, e.Encodable) :
    entries (es.flatMap encodeEntry) = es := by
  have hlength : (es.flatMap encodeEntry).length = 16 * es.length := by
    induction es with
    | nil => rfl
    | cons e es ih =>
        rw [List.flatMap_cons, List.length_append, length_encodeEntry, List.length_cons,
          ih fun x hx => h x (List.mem_cons_of_mem e hx)]
        omega
  rw [entries, hlength, Nat.mul_div_cancel_left _ (by omega)]
  clear hlength
  induction es with
  | nil => rfl
  | cons e es ih =>
      have htake : (encodeEntry e ++ es.flatMap encodeEntry).take 16 = encodeEntry e :=
        List.take_left' (length_encodeEntry e)
      have hdrop : (encodeEntry e ++ es.flatMap encodeEntry).drop 16 = es.flatMap encodeEntry :=
        List.drop_left' (length_encodeEntry e)
      rw [List.flatMap_cons, List.length_cons, readRecords, htake, hdrop, List.map_cons,
        decodeEntry_encodeEntry (h e List.mem_cons_self),
        ih fun x hx => h x (List.mem_cons_of_mem e hx)]

end StorageNode.IndexHelper
