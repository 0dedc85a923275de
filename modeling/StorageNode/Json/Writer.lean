import StorageNode.Json.Members
import StorageNode.Text.Basic
import Mathlib.Data.List.Sort

/-!
# Writing JSON

The text that `json.dumps` gives with `sort_keys=True`. The names of every object are sorted by code
point first (`sortKeys`), and the value is then written as it stands (`write`). Characters outside
printable ASCII are escaped, those beyond the basic plane as a pair of surrogates.

The gap is what stands behind a comma and a colon: a blank by default, nothing with the compact
separators. The digits of floating-point numbers are a parameter (`FloatText`).
-/

set_option autoImplicit false

namespace StorageNode.Json

open StorageNode.Text

/-- The texts of finite floating-point numbers: `float.__repr__`, and `float` of a text. -/
structure FloatText where
  repr : Int → Int → Text
  parse : Text → Number

/-! ## Strings -/

/-- `"\\u{0:04x}".format(n)`. -/
def unitEscape (n : Nat) : Text :=
  ['\\', 'u', Nat.digitChar (n / 4096 % 16), Nat.digitChar (n / 256 % 16),
    Nat.digitChar (n / 16 % 16), Nat.digitChar (n % 16)]

/-- A character as `ESCAPE_DCT` and `py_encode_basestring_ascii` write it. -/
def escapeChar (c : Char) : Text :=
  if c = '"' then ['\\', '"']
  else if c = '\\' then ['\\', '\\']
  else if c = '\n' then ['\\', 'n']
  else if c = '\r' then ['\\', 'r']
  else if c = '\t' then ['\\', 't']
  else if c.toNat = 0x0C then ['\\', 'f']
  else if c.toNat = 0x08 then ['\\', 'b']
  else if 0x20 ≤ c.toNat ∧ c.toNat ≤ 0x7E then [c]
  else if c.toNat < 0x10000 then unitEscape c.toNat
  else unitEscape (0xD800 + (c.toNat - 0x10000) / 0x400) ++
    unitEscape (0xDC00 + (c.toNat - 0x10000) % 0x400)

/-- The text of a string, without the opening quotation mark. -/
def quoteRest (t : Text) : Text :=
  t.flatMap escapeChar ++ ['"']

/-! ## Values -/

/-- The text of a floating-point number. -/
def writeNumber (ft : FloatText) : Number → Text
  | .finite significand exponent => ft.repr significand exponent
  | .infinite false => "Infinity"
  | .infinite true => "-Infinity"
  | .nan => "NaN"

section

variable (ft : FloatText) (gap : Text)

mutual

/-- The text of a value. -/
def write : Value → Text
  | .null => "null"
  | .bool true => "true"
  | .bool false => "false"
  | .int n => ofInt n
  | .float x => writeNumber ft x
  | .str s => '"' :: quoteRest s.toList
  | .array items => '[' :: (writeItems items ++ [']'])
  | .object members => '{' :: (writeMembers members ++ ['}'])

/-- The items of an array, with commas between them. -/
def writeItems : List Value → Text
  | [] => []
  | v :: vs => write v ++ (if vs = [] then [] else ',' :: gap) ++ writeItems vs

/-- The members of an object, with commas between them. -/
def writeMembers : List (String × Value) → Text
  | [] => []
  | (name, v) :: ms =>
    '"' :: (quoteRest name.toList ++ ':' :: gap ++ write v ++
      (if ms = [] then [] else ',' :: gap) ++ writeMembers ms)

end

end

mutual

/-- Every object with its names in order. -/
def sortKeys : Value → Value
  | .array items => .array (sortItems items)
  | .object members => .object ((sortMembers members).insertionSort fun a b => a.1 ≤ b.1)
  | .null => .null
  | .bool b => .bool b
  | .int n => .int n
  | .float x => .float x
  | .str s => .str s

def sortItems : List Value → List Value
  | [] => []
  | v :: vs => sortKeys v :: sortItems vs

def sortMembers : List (String × Value) → List (String × Value)
  | [] => []
  | (name, v) :: ms => (name, sortKeys v) :: sortMembers ms

end

/-- `json.dumps(value, sort_keys=True)`. -/
def dumps (ft : FloatText) (gap : Text) (v : Value) : Text :=
  write ft gap (sortKeys v)

end StorageNode.Json
