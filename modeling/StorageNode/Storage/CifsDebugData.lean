import StorageNode.Text.Scan
import Mathlib.Data.List.Infix

/-!
# The debug data of the CIFS client

`parse_cifs_debug_data` of `cifs_transport`, without the version of the client, which nothing reads.
The file describes all servers of the host. Its patterns are searched for in the whole text, and a share
takes in everything up to the next numbered line.

A text in which whole sections follow each other is read section by section (`signals_append`,
`shares_append`).
-/

set_option autoImplicit false

namespace StorageNode.CifsTransport

open StorageNode.Text

section

variable (a : Alphabet)

/-! ## Patterns -/

/-- `\b` in front of a letter. -/
def wordStart : Option Char → Bool
  | none => true
  | some c => !a.isWordChar c

/-- `(?:\s+|:)`. -/
def dialectGap : Text → Option Text
  | [] => none
  | c :: rest =>
    if isSpace c then some (rest.dropWhile isSpace) else if c = ':' then some rest else none

/-- A hexadecimal digit. -/
def isHex (c : Char) : Bool :=
  c.isDigit || c.toLower ∈ ['a', 'b', 'c', 'd', 'e', 'f']

/-- `[0-9.]`. -/
def isVersionChar (c : Char) : Bool :=
  c.isDigit || c = '.'

/-- `(0x[0-9a-fA-F]+|[0-9.]+)`. -/
def dialectValue (t : Text) : Option (Text × Text) :=
  match (literal "0x" t).bind (run isHex) with
  | some (digits, rest) => some (t.take 2 ++ digits, rest)
  | none => run isVersionChar t

/-- `\bDialect(?:\s+|:)(0x[0-9a-fA-F]+|[0-9.]+)`. -/
def dialectPattern : Matcher Text :=
  labelled (wordStart a) "dialect" dialectGap dialectValue

/-- `int` of a run of decimal digits. -/
def intOf (digits : Text) : Nat :=
  digits.foldl (fun n c => 10 * n + a.decimalValue c) 0

/-- A label and a decimal number, as in `Allocated channels:\s*(\d+)`. -/
def numberPattern (before : Option Char → Bool) (label : Text) : Matcher Text :=
  labelled before label anySpace (run a.isDecimal)

/-- `Allocated channels:\s*(\d+)`. -/
def allocatedPattern : Matcher Text :=
  numberPattern a (fun _ => true) "allocated channels:"

/-- `TCP status:\s*(\d+)`. -/
def tcpPattern : Matcher Text :=
  numberPattern a (fun _ => true) "tcp status:"

/-- `\bStatus:\s*(\d+)`. -/
def statusPattern : Matcher Text :=
  numberPattern a (wordStart a) "status:"

/-- `\[CONNECTED\]`. -/
def connectedPattern : Matcher Unit :=
  labelled (fun _ => true) "[connected]" some fun t => some ((), t)

/-! ## Shares -/

/-- `\s*\d+\)` before white space, and what follows it. -/
def numberedTail (t : Text) : Option Text :=
  (run a.isDecimal (t.dropWhile isSpace)).bind fun q =>
    (literal ")" q.2).bind fun rest => if rest.head?.any isSpace then some rest else none

/-- `\s*\d+\)\s+`, and what follows it. -/
def numbered (t : Text) : Option Text :=
  (numberedTail a t).map (List.dropWhile isSpace)

/-- `\s*\d+\)\s+(\\\\\S+)`, and what follows it. -/
def shareSource (t : Text) : Option (Text × Text) :=
  (numbered a t).bind fun w => (literal ['\\', '\\'] w).bind fun rest =>
    (run (fun c => !isSpace c) rest).map fun q => ('\\' :: '\\' :: q.1, q.2)

/-- A text up to its next numbered line; the flag says whether it begins a line. -/
def splitBlock : Bool → Text → Text × Text
  | _, [] => ([], [])
  | start, c :: rest =>
    if start && (numbered a (c :: rest)).isSome then ([], c :: rest)
    else
      let q := splitBlock (c = '\n') rest
      (c :: q.1, q.2)

/-- An element of `shares`. -/
structure Share where
  source : Text
  status : Option Nat
  deriving DecidableEq

/-- `^` in the multi-line mode. -/
def lineStart (prev : Option Char) : Bool :=
  prev = none || prev = some '\n'

/-- The pattern of a share with its block, and the status in the block. -/
def sharePattern : Matcher Share := fun prev t =>
  if lineStart prev then
    (shareSource a t).map fun q =>
      let rest := (splitBlock a false q.2).2
      let block := t.take (t.length - rest.length)
      (⟨q.1, (findAll (statusPattern a) block).head?.map (intOf a)⟩, rest)
  else none

/-! ## The parser -/

/-- What the parser reads off the whole text, besides the shares. -/
structure Signals where
  dialects : List Text
  allocated : List Nat
  connected : Nat
  tcp : List Nat
  deriving DecidableEq

/-- The matches of the four patterns. -/
def signals (t : Text) : Signals where
  dialects := findAll (dialectPattern a) t
  allocated := (findAll (allocatedPattern a) t).map (intOf a)
  connected := (findAll connectedPattern t).length
  tcp := (findAll (tcpPattern a) t).map (intOf a)

/-- The shares of the text. -/
def shares (t : Text) : List Share :=
  findAll (sharePattern a) t

end

/-! ## Sections -/

/-- A text of whole lines, of which the last one is not blank and none ends in a label whose number is
missing. -/
structure Complete (x : Text) : Prop where
  ended : Ended x
  filled : x.all isSpace = false
  lines : ∀ s, '\n' :: s <:+ x → s ≠ [] → s.all isSpace = false
  dialect : ¬ Dangling "dialect" x
  allocated : ¬ Dangling "allocated channels:" x
  tcp : ¬ Dangling "tcp status:" x

section

variable {a : Alphabet} {x : Text}

/-- What follows is no part of the last line: it is blank to its end, or begins with a numbered line. -/
def Follows (a : Alphabet) (y : Text) : Prop :=
  y.all isSpace = true ∨ (numbered a y).isSome = true

end

end StorageNode.CifsTransport
