import Mathlib.Data.List.Basic
import Mathlib.Data.List.DropRight

/-!
# Text

Strings as lists of characters, with the string methods that programs apply to them. `strip` removes
white space as `str.isspace` knows it.

Case mapping is a parameter (`CaseMapping`): all that is known of it is what it does to ASCII text.

The main fact is `splitOn_intercalate_flatMap`: a list of texts joined with a separator and split again
gives the pieces of each text in turn.
-/

set_option autoImplicit false

namespace StorageNode

/-- A string. -/
abbrev Text := List Char

instance : Coe String Text := ⟨String.toList⟩

instance : LawfulBEq Text := inferInstance

/-- A message that is never empty, such as the text of an exception of the operating system. -/
abbrev Message := { text : Text // text ≠ [] }

namespace Text

/-- White space as `str.isspace` knows it. -/
def isSpace (c : Char) : Bool :=
  let n := c.toNat
  (decide (0x09 ≤ n) && decide (n ≤ 0x0D)) || (decide (0x1C ≤ n) && decide (n ≤ 0x20)) ||
    (decide (0x2000 ≤ n) && decide (n ≤ 0x200A)) ||
    n ∈ [0x85, 0xA0, 0x1680, 0x2028, 0x2029, 0x202F, 0x205F, 0x3000]

/-- `str.strip`. -/
def strip (t : Text) : Text :=
  (t.dropWhile isSpace).rdropWhile isSpace

/-- `str.partition(separator)[0]`. -/
def before (separator : Char) (t : Text) : Text :=
  t.takeWhile (· ≠ separator)

/-- `str.partition(separator)[2]`. -/
def past (separator : Char) (t : Text) : Text :=
  (t.dropWhile (· ≠ separator)).drop 1

/-- `str.removeprefix`. -/
def removeStart (t start : Text) : Text :=
  if start.isPrefixOf t then t.drop start.length else t

/-- The lines of a text, each with its line feed. -/
def splitLines : Text → List Text
  | [] => []
  | c :: rest =>
    if c = '\n' then ['\n'] :: splitLines rest
    else match splitLines rest with
      | [] => [[c]]
      | line :: lines => (c :: line) :: lines

/-- `str` of an integer. -/
def ofInt (n : Int) : Text :=
  if n < 0 then '-' :: Nat.toDigits 10 n.natAbs else Nat.toDigits 10 n.natAbs

/-- The decimal text of an integer holds a sign and digits only. -/
theorem mem_ofInt {n : Int} {c : Char} (h : c ∈ ofInt n) : c = '-' ∨ c.isDigit = true := by
  have hdigit : ∀ m : Nat, c ∈ Nat.toDigits 10 m → c.isDigit = true := fun m hm =>
    Nat.isDigit_of_mem_toDigits (by omega) (by omega) hm
  unfold ofInt at h
  split at h
  · obtain rfl | hc := List.mem_cons.mp h
    · exact .inl rfl
    · exact .inr (hdigit _ hc)
  · exact .inr (hdigit _ h)

end Text

/-- `str.lower`. Outside ASCII it is left open. -/
structure CaseMapping where
  lower : Text → Text
  lower_ascii : ∀ t : Text, (∀ c ∈ t, c.toNat < 128) → lower t = t.map Char.toLower

/-- The mapping that changes ASCII letters only. -/
def CaseMapping.ascii : CaseMapping where
  lower := List.map Char.toLower
  lower_ascii := fun _ _ => rfl

/-! ## Joining and splitting -/

section Split

variable {α : Type*} [DecidableEq α] (separator : α)

/-- A text joined from parts splits into the pieces of its parts. -/
theorem splitOn_intercalate_flatMap (parts : List (List α)) (h : parts ≠ []) :
    ([separator].intercalate parts).splitOn separator =
      parts.flatMap (List.splitOn separator) := by
  induction parts with
  | nil => exact absurd rfl h
  | cons part parts ih =>
    cases parts with
    | nil => simp [List.intercalate]
    | cons next rest =>
      rw [List.intercalate_cons_cons, List.append_assoc, List.singleton_append,
        List.splitOn_append_cons_self, ih (List.cons_ne_nil _ _), List.flatMap_cons,
        List.flatMap_cons, List.flatMap_cons]

/-- A start without the separator belongs to the first piece. -/
theorem splitOn_append_of_not_mem {xs : List α} (h : separator ∉ xs) (ys : List α) :
    (xs ++ ys).splitOn separator = (ys.splitOn separator).modifyHead (xs ++ ·) := by
  induction xs with
  | nil => cases hsplit : ys.splitOn separator <;> simp [hsplit]
  | cons x xs ih =>
    have hx : (x == separator) = false := by
      rw [beq_eq_false_iff_ne]
      exact fun heq => h (heq ▸ List.mem_cons_self)
    have hxs : separator ∉ xs := fun hmem => h (List.mem_cons_of_mem x hmem)
    rw [List.cons_append, List.splitOn_cons_eq_if_modifyHead, hx, ih hxs]
    cases ys.splitOn separator <;> simp

/-- A piece never holds the separator. -/
theorem not_mem_of_mem_splitOn {xs piece : List α} (h : piece ∈ xs.splitOn separator) :
    separator ∉ piece := by
  induction xs generalizing piece with
  | nil =>
    obtain rfl : piece = [] := by simpa using h
    exact List.not_mem_nil
  | cons x xs ih =>
    rw [List.splitOn_cons_eq_if_modifyHead] at h
    split at h
    · obtain rfl | h := List.mem_cons.mp h
      · exact List.not_mem_nil
      · exact ih h
    · rename_i hx
      cases hsplit : xs.splitOn separator with
      | nil => exact absurd hsplit (List.splitOn_ne_nil _ xs)
      | cons first rest =>
        rw [hsplit] at h ih
        obtain rfl | h := List.mem_cons.mp h
        · have hfirst := ih List.mem_cons_self
          have hne : separator ≠ x := fun heq => hx (by simp [heq])
          simp [hfirst, hne]
        · exact ih (List.mem_cons_of_mem _ h)

omit [DecidableEq α] in
/-- Besides the separator, a joined text holds what its parts hold. -/
theorem mem_intercalate_iff {c : α} (hc : c ≠ separator) (parts : List (List α)) :
    c ∈ [separator].intercalate parts ↔ ∃ part ∈ parts, c ∈ part := by
  induction parts with
  | nil => simp [List.intercalate]
  | cons part parts ih =>
    cases parts with
    | nil => simp [List.intercalate]
    | cons next rest =>
      rw [List.intercalate_cons_cons, List.mem_append, List.mem_append, ih]
      simp [hc]

/-- What a piece holds, the text holds. -/
theorem mem_of_mem_splitOn {c : α} {xs piece : List α} (hpiece : piece ∈ xs.splitOn separator)
    (hc : c ∈ piece) : c ∈ xs := by
  by_cases hseparator : c = separator
  · exact absurd (hseparator ▸ hc) (not_mem_of_mem_splitOn separator hpiece)
  · have hjoin := (mem_intercalate_iff separator hseparator _).mpr ⟨piece, hpiece, hc⟩
    rwa [List.intercalate_splitOn] at hjoin

/-- Parts without the separator split into themselves. -/
theorem flatMap_splitOn_of_not_mem {parts : List (List α)} (h : ∀ part ∈ parts, separator ∉ part) :
    parts.flatMap (List.splitOn separator) = parts := by
  induction parts with
  | nil => rfl
  | cons part parts ih =>
    rw [List.flatMap_cons, List.splitOn_eq_singleton (h part List.mem_cons_self),
      ih fun other hother => h other (List.mem_cons_of_mem _ hother)]
    rfl

end Split

end StorageNode
