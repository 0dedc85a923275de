import StorageNode.Text.Basic

/-!
# Reading comma-separated values

The record reader of the `csv` module in its default dialect (commas, double quotes, doubled quotes
inside quoted fields, not strict) and `csv.DictReader` over it. The reader is a machine that takes one
character at a time, and the end of each line once; a record may span several lines inside quotes.

Records are read one by one: what was read before an error is still seen by the program. The result is
therefore the records before the first error, with that error.
-/

set_option autoImplicit false

namespace StorageNode.Csv

/-- The two reasons for a `csv.Error` of a reader that is not strict. -/
inductive CsvError where
  | fieldTooLarge
  | strayNewline
  deriving DecidableEq

/-- Where the reader stands. -/
inductive Phase where
  | startRecord
  | startField
  | inField
  | inQuotedField
  | quoteInQuotedField
  | eatNewline
  deriving DecidableEq

/-- The reader inside a record: the fields read so far and the current one. -/
structure Reader where
  phase : Phase := .startRecord
  fields : List Text := []
  field : Text := []
  deriving DecidableEq

/-- `csv.field_size_limit()`. -/
def fieldLimit : Nat := 131072

namespace Reader

/-- Add a character to the current field. -/
def addChar (r : Reader) (c : Char) (next : Phase) : Except CsvError Reader :=
  if fieldLimit ≤ r.field.length then .error .fieldTooLarge
  else .ok { r with field := r.field ++ [c], phase := next }

/-- End the current field. -/
def saveField (r : Reader) (next : Phase) : Reader :=
  { phase := next, fields := r.fields ++ [r.field], field := [] }

/-- A character where a field may begin. -/
def beginField (r : Reader) (c : Char) : Except CsvError Reader :=
  if c = '\n' ∨ c = '\r' then .ok (r.saveField .eatNewline)
  else if c = '"' then .ok { r with phase := .inQuotedField }
  else if c = ',' then .ok (r.saveField .startField)
  else r.addChar c .inField

/-- One character. -/
def step (r : Reader) (c : Char) : Except CsvError Reader :=
  match r.phase with
  | .startRecord =>
    if c = '\n' ∨ c = '\r' then .ok { r with phase := .eatNewline } else r.beginField c
  | .startField => r.beginField c
  | .inField =>
    if c = '\n' ∨ c = '\r' then .ok (r.saveField .eatNewline)
    else if c = ',' then .ok (r.saveField .startField)
    else r.addChar c .inField
  | .inQuotedField =>
    if c = '"' then .ok { r with phase := .quoteInQuotedField } else r.addChar c .inQuotedField
  | .quoteInQuotedField =>
    if c = '"' then r.addChar c .inQuotedField
    else if c = ',' then .ok (r.saveField .startField)
    else if c = '\n' ∨ c = '\r' then .ok (r.saveField .eatNewline)
    else r.addChar c .inField
  | .eatNewline => if c = '\n' ∨ c = '\r' then .ok r else .error .strayNewline

/-- The end of a line. A quoted field goes on in the next line. -/
def endLine (r : Reader) : Reader :=
  match r.phase with
  | .startRecord | .inQuotedField => r
  | .startField | .inField | .quoteInQuotedField => r.saveField .startRecord
  | .eatNewline => { r with phase := .startRecord }

/-- One line with its end. -/
def line (r : Reader) (text : Text) : Except CsvError Reader := do
  let r ← text.foldlM step r
  pure r.endLine

end Reader

/-- The records of a list of lines. Input that ends inside quotes still gives its record. -/
def records : List Text → Reader → List (List Text) × Option CsvError
  | [], r =>
    if r.field ≠ [] ∨ r.phase = .inQuotedField then ([r.fields ++ [r.field]], none) else ([], none)
  | text :: rest, r =>
    match r.line text with
    | .error e => ([], some e)
    | .ok r =>
      if r.phase = .startRecord then
        let later := records rest {}
        (r.fields :: later.1, later.2)
      else records rest r

/-- A row of `csv.DictReader`: an absent value is `None`. The last member of a name counts. Values past
the header stand under the key `None`, which no text equals. -/
abbrev Row := List (Text × Option Text)

/-- The row for a record. -/
def mkRow (header record : List Text) : Row :=
  (header.zip record).map (fun m => (m.1, some m.2)) ++
    (header.drop record.length).map fun name => (name, none)

/-- `row.get`; the outer option says whether the row has the key. -/
def Row.get? (row : Row) (name : Text) : Option (Option Text) :=
  (row.reverse.find? fun m => m.1 = name).map Prod.snd

/-- The rows of `csv.DictReader`, which skips empty records after the header. -/
def dictRows (text : Text) : List Row × Option CsvError :=
  match records text.splitLines {} with
  | ([], e) => ([], e)
  | (header :: rest, e) => ((rest.filter (· ≠ [])).map (mkRow header), e)

example : dictRows "a,b\r\n1,\"x,\"\"y\"\r\n\r\n2\r\n".toList =
    ([[(['a'], some ['1']), (['b'], some "x,\"y".toList)], [(['a'], some ['2']), (['b'], none)]],
      none) := by
  decide +kernel

end StorageNode.Csv
