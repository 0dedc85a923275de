import StorageNode.Text.PosixPath
import StorageNode.Text.Shlex

/-!
# Reading configuration values

TOML values as `tomllib` returns them and the accessors of `config_helpers`. A key is absent where the
program sees `None`; TOML has no null.

`Raised` is what a loader can raise: a `ConfigError`, the `ValueError` of `shlex.split`, which the
loader lets through, or an error of the file system.
-/

set_option autoImplicit false

namespace StorageNode.Config

open StorageNode.Shlex

/-- A TOML value. The contents of floats and of dates and times are never read. -/
inductive Value where
  | str (text : Text)
  | int (n : Int)
  | float
  | bool (b : Bool)
  | datetime
  | array (items : List Value)
  | table (members : List (Text × Value))

/-- A TOML table. -/
abbrev Table := List (Text × Value)

/-- `dict.get`. -/
def Table.get? (table : Table) (key : Text) : Option Value :=
  (table.find? fun m => m.1 = key).map Prod.snd

/-- `key in table`. -/
def Table.has (table : Table) (key : Text) : Bool :=
  (table.get? key).isSome

/-- The table with one key set. -/
def Table.set (table : Table) (key : Text) (value : Value) : Table :=
  (key, value) :: table.filter fun m => m.1 ≠ key

/-- The table without a key. -/
def Table.erase (table : Table) (key : Text) : Table :=
  table.filter fun m => m.1 ≠ key

theorem Table.get?_erase (table : Table) (key other : Text) :
    (table.erase key).get? other = if other = key then none else table.get? other := by
  unfold Table.erase Table.get?
  rw [List.find?_filter]
  by_cases hother : other = key
  · rw [if_pos hother, hother, List.find?_eq_none.mpr (by simp)]
    rfl
  · rw [if_neg hother]
    congr 2
    funext m
    by_cases hm : m.1 = other
    · simp [hm, hother]
    · simp [hm]

theorem Table.get?_set (table : Table) (key other : Text) (value : Value) :
    (table.set key value).get? other = if other = key then some value else table.get? other := by
  by_cases hother : other = key
  · simp [Table.set, Table.get?, hother]
  · have hne : ¬ key = other := fun h => hother h.symm
    have herase := Table.get?_erase table key other
    simpa [Table.set, Table.erase, Table.get?, hother, hne] using herase

/-- What a loader can raise. -/
inductive Raised where
  | config (message : String)
  | shlex (error : ShlexError)
  | host (message : String)
  deriving DecidableEq

/-- `raise ConfigError(message)` unless the condition holds. -/
def require (condition : Bool) (message : String) : Except Raised Unit :=
  if condition then .ok () else .error (.config message)

/-- `_table`. -/
def table (data : Table) (key : String) : Except Raised Table :=
  match data.get? key with
  | none => .ok []
  | some (.table members) => .ok members
  | some _ => .error (.config s!"[{key}] must be a table")

/-- `_string`. -/
def string (value : Option Value) (name : String) (default : Text) : Except Raised Text :=
  match value with
  | none => .ok default
  | some (.str text) => .ok text
  | some _ => .error (.config s!"{name} must be a string")

/-- `_int`. -/
def int (value : Option Value) (name : String) (default : Int) : Except Raised Int :=
  match value with
  | none => .ok default
  | some (.int n) => .ok n
  | some _ => .error (.config s!"{name} must be an integer")

/-- `_bool`. -/
def bool (value : Option Value) (name : String) (default : Bool) : Except Raised Bool :=
  match value with
  | none => .ok default
  | some (.bool b) => .ok b
  | some _ => .error (.config s!"{name} must be true or false")

/-- The texts of a list of strings. -/
def texts : List Value → Option (List Text)
  | [] => some []
  | .str text :: rest => (texts rest).map (text :: ·)
  | _ :: _ => none

/-- The numbers of a list of integers. -/
def integers : List Value → Option (List Int)
  | [] => some []
  | .int n :: rest => (integers rest).map (n :: ·)
  | _ :: _ => none

/-- `_string_list`. -/
def stringList (value : Option Value) (name : String) : Except Raised (List Text) :=
  match value with
  | none => .ok []
  | some (.str text) => match split text with
    | .ok words => .ok words
    | .error e => .error (.shlex e)
  | some (.array items) => match texts items with
    | some items => .ok items
    | none => .error (.config s!"{name} must be an array of strings")
  | some _ => .error (.config s!"{name} must be an array of strings")

/-- `_int_list`. -/
def intList (value : Option Value) (name : String) : Except Raised (List Int) :=
  match value with
  | none => .ok []
  | some (.array items) => match integers items with
    | some items => .ok items
    | none => .error (.config s!"{name} must be an array of integers")
  | some _ => .error (.config s!"{name} must be an array of integers")

/-- A relative path without `..`. -/
def isPlainRelative (text : Text) : Bool :=
  !(PosixPath.parse text).isAbsolute && decide (PosixPath.up ∉ (PosixPath.parse text).parts)

/-- `_relative_path`. -/
def relativePath (value : Option Value) (name : String) (default : Text) : Except Raised Text := do
  let result ← string value name default
  require (decide (result ≠ []) && isPlainRelative result)
    s!"{name} must be a non-empty relative path without '..'"
  pure result

/-- `_positive`. -/
def positive (value : Int) (name : String) : Except Raised Unit :=
  require (decide (0 < value)) s!"{name} must be greater than zero"

/-- `_positive` with `allow_zero`. -/
def positiveOrZero (value : Int) (name : String) : Except Raised Unit :=
  require (decide (0 ≤ value)) s!"{name} must be zero or greater"

/-! ## Taking a loader apart -/

theorem bind_eq_ok {ε α β : Type} {x : Except ε α} {f : α → Except ε β} {b : β} :
    x >>= f = .ok b ↔ ∃ a, x = .ok a ∧ f a = .ok b := by
  cases x with
  | error e => simp [Bind.bind, Except.bind]
  | ok a => simp [Bind.bind, Except.bind]

theorem map_eq_ok {ε α β : Type} {x : Except ε α} {f : α → β} {b : β} (h : x.map f = .ok b) :
    ∃ a, x = .ok a ∧ f a = b := by
  cases x with
  | error e => cases h
  | ok a => exact ⟨a, rfl, Except.ok.inj h⟩

theorem toOption_eq_some {ε α : Type} {x : Except ε α} {a : α} (h : x.toOption = some a) :
    x = .ok a := by
  cases x with
  | error e => cases h
  | ok b => rw [Option.some.inj h]

theorem require_eq_ok {condition : Bool} {message : String} {u : Unit} :
    require condition message = .ok u ↔ condition = true := by
  cases condition <;> simp [require]

/-- A required condition holds in what follows. -/
theorem require_bind_eq_ok {β : Type} {condition : Bool} {message : String}
    {f : Unit → Except Raised β} {b : β} :
    require condition message >>= f = .ok b ↔ condition = true ∧ f () = .ok b := by
  cases condition <;> simp [require, Bind.bind, Except.bind]

/-- A relative path without `..` has the components it is written with, and no root. -/
theorem isPlainRelative_iff {text : Text} : isPlainRelative text = true ↔
    (PosixPath.parse text).root = [] ∧ PosixPath.up ∉ (PosixPath.parse text).components := by
  simp only [isPlainRelative, PosixPath.isAbsolute, Bool.and_eq_true, Bool.not_eq_true',
    decide_eq_false_iff_not, decide_eq_true_eq, not_not]
  constructor
  · rintro ⟨hroot, hup⟩
    exact ⟨hroot, by simpa [PosixPath.parts, hroot] using hup⟩
  · rintro ⟨hroot, hup⟩
    exact ⟨hroot, by simpa [PosixPath.parts, hroot] using hup⟩

theorem relativePath_eq_ok {value : Option Value} {name : String} {default result : Text}
    (h : relativePath value name default = .ok result) :
    result ≠ [] ∧ isPlainRelative result = true := by
  obtain ⟨result', -, h⟩ := bind_eq_ok.mp h
  obtain ⟨hcondition, h⟩ := require_bind_eq_ok.mp h
  obtain rfl := Except.ok.inj h
  simpa using hcondition

end StorageNode.Config
