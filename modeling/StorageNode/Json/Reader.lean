import StorageNode.Json.Writer

/-!
# Reading JSON

`json.loads` of a text: the scanner of the decoder, by recursive descent. `none` is an exception. An
integer of more than 4300 digits is refused, as `int` refuses it. A lone surrogate is refused here: the
decoder makes a string of it that `String` cannot hold. The depth of nesting is not bounded.

Every recursive call takes fuel; `loads` gives as much as no text uses up (`loads_eq_of_le`, in
`Json.Fuel`).
-/

set_option autoImplicit false

namespace StorageNode.Json

open StorageNode.Text

/-- `WHITESPACE`. -/
def isBlank (c : Char) : Bool :=
  c = ' ' || c = '\t' || c = '\n' || c = '\r'

def skipBlanks (t : Text) : Text :=
  t.dropWhile isBlank

/-! ## Strings -/

/-- The value of a hexadecimal digit. -/
def hexValue (c : Char) : Option Nat :=
  if c.isDigit then some (c.toNat - 0x30)
  else if 'a' ≤ c ∧ c ≤ 'f' then some (c.toNat - 0x57)
  else if 'A' ≤ c ∧ c ≤ 'F' then some (c.toNat - 0x37)
  else none

/-- `_decode_uXXXX`. -/
def scanUnit : Text → Option (Nat × Text)
  | a :: b :: c :: d :: rest =>
    match hexValue a, hexValue b, hexValue c, hexValue d with
    | some a, some b, some c, some d => some (a * 4096 + b * 256 + c * 16 + d, rest)
    | _, _, _, _ => none
  | _ => none

/-- The character behind `\u`. A high surrogate is joined with the low one that follows it. -/
def scanUnicode (t : Text) : Option (Char × Text) :=
  match scanUnit t with
  | none => none
  | some (n, rest) =>
    if 0xD800 ≤ n ∧ n ≤ 0xDFFF then
      match rest with
      | '\\' :: 'u' :: rest =>
        match scanUnit rest with
        | none => none
        | some (m, rest) =>
          if n ≤ 0xDBFF ∧ 0xDC00 ≤ m ∧ m ≤ 0xDFFF then
            some (Char.ofNat (0x10000 + (n - 0xD800) * 0x400 + (m - 0xDC00)), rest)
          else none
      | _ => none
    else some (Char.ofNat n, rest)

/-- The character behind a backslash. -/
def scanEscape : Text → Option (Char × Text)
  | [] => none
  | c :: rest =>
    if c = 'u' then scanUnicode rest
    else if c = '"' ∨ c = '\\' ∨ c = '/' then some (c, rest)
    else if c = 'n' then some ('\n', rest)
    else if c = 'r' then some ('\r', rest)
    else if c = 't' then some ('\t', rest)
    else if c = 'f' then some (Char.ofNat 0x0C, rest)
    else if c = 'b' then some (Char.ofNat 0x08, rest)
    else none

/-- `scanstring`, behind the opening quotation mark. Control characters are refused. -/
def scanString : Nat → Text → Option (Text × Text)
  | 0, _ => none
  | _ + 1, [] => none
  | fuel + 1, c :: rest =>
    if c = '"' then some ([], rest)
    else if c = '\\' then
      (scanEscape rest).bind fun d => (scanString fuel d.2).map fun r => (d.1 :: r.1, r.2)
    else if c.toNat < 0x20 then none
    else (scanString fuel rest).map fun r => (c :: r.1, r.2)

/-! ## Numbers -/

/-- The digits at the front of a text. -/
def scanDigits (t : Text) : Text × Text :=
  t.span Char.isDigit

/-- `0|[1-9][0-9]*`. -/
def scanNatural : Text → Option (Text × Text)
  | '0' :: rest => some (['0'], rest)
  | t => if (scanDigits t).1 = [] then none else some (scanDigits t)

/-- `-?(?:0|[1-9][0-9]*)`. -/
def scanInteger : Text → Option (Text × Text)
  | '-' :: rest => (scanNatural rest).map fun r => ('-' :: r.1, r.2)
  | t => scanNatural t

/-- `(\.[0-9]+)?`. -/
def scanFraction : Text → Text × Text
  | '.' :: rest =>
    if (scanDigits rest).1 = [] then ([], '.' :: rest)
    else ('.' :: (scanDigits rest).1, (scanDigits rest).2)
  | t => ([], t)

/-- `[-+]?`. -/
def scanSign : Text → Text × Text
  | '+' :: rest => (['+'], rest)
  | '-' :: rest => (['-'], rest)
  | t => ([], t)

/-- `([eE][-+]?[0-9]+)?`. -/
def scanExponent : Text → Text × Text
  | [] => ([], [])
  | c :: rest =>
    if (c = 'e' ∨ c = 'E') ∧ (scanDigits (scanSign rest).2).1 ≠ [] then
      (c :: ((scanSign rest).1 ++ (scanDigits (scanSign rest).2).1), (scanDigits (scanSign rest).2).2)
    else ([], c :: rest)

/-- The most digits that `int` takes. -/
def maxDigits : Nat := 4300

/-- `int` of a text that the scanner has found. -/
def readInteger : Text → Option Int
  | '-' :: digits =>
    if digits.length ≤ maxDigits then some (-(Nat.ofDigitChars 10 digits 0 : Nat)) else none
  | digits => if digits.length ≤ maxDigits then some (Nat.ofDigitChars 10 digits 0 : Nat) else none

/-- `match_number` and the conversions behind it. -/
def scanNumber (ft : FloatText) (t : Text) : Option (Value × Text) :=
  (scanInteger t).bind fun integer =>
    let fraction := scanFraction integer.2
    let exponent := scanExponent fraction.2
    if fraction.1 = [] ∧ exponent.1 = [] then
      (readInteger integer.1).map fun n => (.int n, exponent.2)
    else some (.float (ft.parse (integer.1 ++ fraction.1 ++ exponent.1)), exponent.2)

/-! ## Values -/

/-- The rest of a text behind a word. -/
def behind (word t : Text) : Option Text :=
  if word.isPrefixOf t then some (t.drop word.length) else none

/-- The values that are neither strings nor containers. -/
def scanPlain (ft : FloatText) (t : Text) : Option (Value × Text) :=
  match behind "null" t with
  | some rest => some (.null, rest)
  | none =>
  match behind "true" t with
  | some rest => some (.bool true, rest)
  | none =>
  match behind "false" t with
  | some rest => some (.bool false, rest)
  | none =>
  match behind "NaN" t with
  | some rest => some (.float .nan, rest)
  | none =>
  match behind "Infinity" t with
  | some rest => some (.float (.infinite false), rest)
  | none =>
  match behind "-Infinity" t with
  | some rest => some (.float (.infinite true), rest)
  | none => scanNumber ft t

/-- The colon behind a name, with blanks around it. -/
def scanColon (t : Text) : Option Text :=
  match skipBlanks t with
  | ':' :: rest => some (skipBlanks rest)
  | _ => none

section

variable (ft : FloatText)

mutual

/-- `scan_once`. -/
def scanValue : Nat → Text → Option (Value × Text)
  | 0, _ => none
  | fuel + 1, t =>
    match t with
    | '"' :: rest => (scanString (rest.length + 1) rest).map fun r => (.str (String.ofList r.1), r.2)
    | '[' :: rest =>
      match skipBlanks rest with
      | ']' :: rest => some (.array [], rest)
      | rest => (scanItems fuel rest).map fun r => (.array r.1, r.2)
    | '{' :: rest =>
      match skipBlanks rest with
      | '}' :: rest => some (.object [], rest)
      | rest => (scanMembers fuel rest).map fun r => (.object r.1, r.2)
    | t => scanPlain ft t

/-- The loop of `JSONArray`. -/
def scanItems : Nat → Text → Option (List Value × Text)
  | 0, _ => none
  | fuel + 1, t =>
    match scanValue fuel t with
    | none => none
    | some (v, rest) =>
      match skipBlanks rest with
      | ']' :: rest => some ([v], rest)
      | ',' :: rest => (scanItems fuel (skipBlanks rest)).map fun r => (v :: r.1, r.2)
      | _ => none

/-- The loop of `JSONObject`. -/
def scanMembers : Nat → Text → Option (List (String × Value) × Text)
  | 0, _ => none
  | fuel + 1, t =>
    match t with
    | '"' :: rest =>
      match scanString (rest.length + 1) rest with
      | none => none
      | some (name, rest) =>
        match (scanColon rest).bind (scanValue fuel) with
        | none => none
        | some (v, rest) =>
          match skipBlanks rest with
          | '}' :: rest => some ([(String.ofList name, v)], rest)
          | ',' :: rest =>
            (scanMembers fuel (skipBlanks rest)).map fun r => ((String.ofList name, v) :: r.1, r.2)
          | _ => none
    | _ => none

end

/-- `json.loads` with a given amount of fuel. -/
def loadsWith (fuel : Nat) (t : Text) : Option Value :=
  if t.head? = some (Char.ofNat 0xFEFF) then none
  else match scanValue ft fuel (skipBlanks t) with
    | some (v, rest) => if skipBlanks rest = [] then some v else none
    | none => none

/-- `json.loads`. -/
def loads (t : Text) : Option Value :=
  loadsWith ft (2 * t.length + 1) t

end

end StorageNode.Json
