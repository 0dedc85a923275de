import StorageNode.Config.Helpers
import StorageNode.Json.Dumpable

/-!
# The generation history

`GenerationHistory` of `generation_history`: the record of why generations turn over, and whether the
indexes of the volumes are trusted.

`load` checks the types of four fields and of nothing inside them. `State` is the dictionary behind the
class once it is loaded; members that no operation reads are kept in `others`. Texts of the interpreter
are parameters (`Interpreter`): `json.loads`, `int` and `float` of a string, and the subtraction of two
clock readings.
-/

set_option autoImplicit false

namespace StorageNode.GenerationHistory

open StorageNode.Json
open StorageNode.Json.Value (get? getD put update)

/-- How `json.loads` fails. -/
inductive LoadsError where
  | malformed
  /-- A `ValueError` or `RecursionError`: an integer with too many digits, or a document that is nested
  too deeply for the interpreter to read it, or to write it again with its active generation in the
  history. -/
  | beyondLimits
  deriving DecidableEq

/-- The parts of the interpreter that are left open. The integers that `json.loads` reads have no more
digits than `json.dump` writes. -/
structure Interpreter where
  loads : String → Except LoadsError Value
  loads_dumpable : ∀ text v, loads text = .ok v → v.dumpable = true
  conv : Conversions
  floatOfStr : String → Option Number
  /-- An integer that is too large for a float overflows. -/
  floatOfInt : Int → Option Number
  /-- `max(0.0, ended - started)`. -/
  elapsed : Number → Number → Number

/-- What a history raises. -/
inductive HistoryError where
  | unicodeDecode
  | beyondLimits
  | conversion (e : IntError)
  deriving DecidableEq

/-- `0.0`. -/
def zero : Number := .finite 0 0

/-- `float(value)`. -/
def toFloat (env : Interpreter) : Value → Except IntError Number
  | .bool b => .ok (.finite b.toNat 0)
  | .int n => match env.floatOfInt n with
    | some x => .ok x
    | none => .error .overflow
  | .float x => .ok x
  | .str s => match env.floatOfStr s with
    | some x => .ok x
    | none => .error .valueError
  | .null | .array _ | .object _ => .error .typeError

/-- A conversion inside an operation. -/
def convert {α : Type} : Except IntError α → Except HistoryError α
  | .ok a => .ok a
  | .error e => .error (.conversion e)

/-! ## Loading -/

/-- What reading the file gives. -/
inductive Reading where
  | missing
  /-- An `OSError` other than that of a missing file. -/
  | failed
  | notUtf8
  | loaded (result : Except LoadsError Value)

/-- `json.loads(self.path.read_text(encoding="utf-8"))`, where no content means that there is no
file. -/
def readText (env : Interpreter) : Option ByteArray → Reading
  | none => .missing
  | some bytes => match String.fromUTF8? bytes with
    | none => .notUtf8
    | some text => .loaded (env.loads text)

/-- The members of the dictionary that operations read or write. -/
def fieldNames : List String :=
  ["counters", "history", "active", "indexes_certified", "index_certification_reason",
    "index_certified_at"]

/-- `self._state`. -/
structure State where
  counters : List (String × Value)
  history : List Value
  active : Option (List (String × Value))
  indexesCertified : Bool
  certificationReason : Value
  certifiedAt : Value
  others : List (String × Value)
  others_unread : ∀ m ∈ others, m.1 ∉ fieldNames

section

variable (members : List (String × Value))

/-- `payload.get("counters", {})`, where it is a dictionary. -/
def countersField : Option (List (String × Value)) :=
  match get? members "counters" with
  | none => some []
  | some (.object counters) => some counters
  | some _ => none

/-- `payload.get("history", [])`, where it is a list. -/
def historyField : Option (List Value) :=
  match get? members "history" with
  | none => some []
  | some (.array history) => some history
  | some _ => none

/-- `payload.get("active")`, where it is `None` or a dictionary. -/
def activeField : Option (Option (List (String × Value))) :=
  match get? members "active" with
  | none | some .null => some none
  | some (.object active) => some (some active)
  | some _ => none

/-- `payload["indexes_certified"]`, `True` by default, where it is a boolean. -/
def certifiedField : Option Bool :=
  match get? members "indexes_certified" with
  | none => some true
  | some (.bool certified) => some certified
  | some _ => none

/-- All four fields have the types that `_load` asks for. -/
def wellTyped : Bool :=
  (countersField members).isSome && (historyField members).isSome &&
    (activeField members).isSome && (certifiedField members).isSome

/-- The members that are kept as they are, with the default of `version`. -/
def otherMembers : List (String × Value) :=
  let rest := members.filter fun m => m.1 ∉ fieldNames
  if (get? rest "version").isNone then put rest "version" (.int 1) else rest

theorem otherMembers_unread : ∀ m ∈ otherMembers members, m.1 ∉ fieldNames := by
  have hrest : ∀ m ∈ members.filter (fun m => m.1 ∉ fieldNames), m.1 ∉ fieldNames := by
    intro m hm
    exact of_decide_eq_true (List.mem_filter.mp hm).2
  intro m hm
  rw [otherMembers] at hm
  split at hm
  · obtain hm | hm := List.mem_append.mp hm
    · exact hrest m (List.mem_filter.mp hm).1
    · rw [List.mem_singleton.mp hm]
      decide
  · exact hrest m hm

/-- The checks and defaults of `_load`, on a dictionary that was read with or without an error. -/
def fromMembers (readable : Bool) : State :=
  let certain := readable && wellTyped members
  { counters := (countersField members).getD []
    history := (historyField members).getD []
    active := (activeField members).getD none
    indexesCertified := certain && (certifiedField members).getD false
    certificationReason :=
      if certain then
        getD members "index_certification_reason" (.str "no unclean generation recorded")
      else .str "generation history was unreadable"
    certifiedAt := if certain then getD members "index_certified_at" (.float zero) else .float zero
    others := otherMembers members
    others_unread := otherMembers_unread members }

end

/-- `_load`. Only a missing file, an `OSError` and a `JSONDecodeError` are caught. -/
def load : Reading → Except HistoryError State
  | .missing => .ok (fromMembers [] true)
  | .failed => .ok (fromMembers [] false)
  | .notUtf8 => .error .unicodeDecode
  | .loaded (.error .malformed) => .ok (fromMembers [] false)
  | .loaded (.error .beyondLimits) => .error .beyondLimits
  | .loaded (.ok (.object members)) => .ok (fromMembers members true)
  | .loaded (.ok _) => .ok (fromMembers [] false)

/-- The document that `_persist` writes. -/
def State.payload (s : State) : Value :=
  .object (s.others ++
    [("counters", .object s.counters), ("history", .array s.history),
      ("active", (s.active.map Value.object).getD .null),
      ("indexes_certified", .bool s.indexesCertified),
      ("index_certification_reason", s.certificationReason),
      ("index_certified_at", s.certifiedAt)])

/-! ## Operations -/

/-- `MAX_HISTORY`. -/
def maxHistory : Nat := 64

/-- `entries[-n:]` for a positive `n`. -/
def lastEntries {α : Type} (n : Nat) (entries : List α) : List α :=
  entries.drop (entries.length - n)

/-- How a generation ended, as `finish` is told. -/
structure Outcome where
  cause : String
  reason : String
  phase : String
  cleanShutdown : Bool
  fenceVerified : Bool
  deriving DecidableEq

/-- The outcome of a generation that a new guardian finds active. -/
def interrupted : Outcome where
  cause := "guardian_restart_detected"
  reason := "guardian restarted before the prior generation recorded an outcome"
  phase := "startup"
  cleanShutdown := false
  fenceVerified := false

/-- The outcome of a generation that is active when the next one starts. -/
def superseded : Outcome where
  cause := "superseded_without_outcome"
  reason := "a replacement generation started without a recorded prior outcome"
  phase := "creating_generation"
  cleanShutdown := false
  fenceVerified := false

section

variable (env : Interpreter)

/-- `_increment`. -/
def increment (name : String) (s : State) : Except HistoryError State := do
  let value ← convert ((getD s.counters name (.int 0)).toInt env.conv)
  pure { s with counters := put s.counters name (.int (value + 1)) }

/-- The record of a generation that has ended. -/
def closedRecord (active : List (String × Value)) (outcome : Outcome) (endedAt startedAt : Number) :
    List (String × Value) :=
  update active
    [("ended_at", .float endedAt), ("duration_seconds", .float (env.elapsed endedAt startedAt)),
      ("cause", .str outcome.cause), ("reason", .str outcome.reason), ("phase", .str outcome.phase),
      ("clean_shutdown", .bool outcome.cleanShutdown),
      ("fence_verified", .bool outcome.fenceVerified)]

/-- Why the indexes are not trusted after an unclean end. -/
def distrustReason (record : List (String × Value)) (outcome : Outcome) : String :=
  let generation := (getD record "generation" (.int 0)).toStr env.conv
  s!"generation {generation} ended uncleanly: {outcome.reason}"

/-- The counter of a shutdown, and what an unclean one does to the trust in the indexes. -/
def countShutdown (record : List (String × Value)) (outcome : Outcome) (s : State) :
    Except HistoryError State := do
  if outcome.cleanShutdown then increment env "clean_shutdowns_total" s
  else
    let s ← increment env "unclean_shutdowns_total" s
    pure { s with
      indexesCertified := false
      certificationReason := .str (distrustReason env record outcome)
      certifiedAt := .float zero }

/-- `_finish_active`. -/
def finishActive (outcome : Outcome) (endedAt : Number) (s : State) : Except HistoryError State := do
  let active := s.active.getD []
  let startedAt ← convert (toFloat env (getD active "started_at" (.float endedAt)))
  let record := closedRecord env active outcome endedAt startedAt
  let s := { s with
    history := lastEntries maxHistory (s.history ++ [.object record])
    active := none }
  let s ← increment env "generations_completed_total" s
  let s ← increment env s!"cause:{outcome.cause}" s
  let s ← countShutdown env record outcome s
  if outcome.fenceVerified then increment env "verified_fences_total" s
  else increment env "unverified_fences_total" s

/-- The operations that change the history return with the new state and tell whether they go on to call
`_persist`. -/
abbrev Result := Except HistoryError (State × Bool)

/-- `finish`, a no-op without an active generation. -/
def finish (outcome : Outcome) (endedAt : Number) (s : State) : Result :=
  match s.active with
  | none => pure (s, false)
  | some _ => do
    let s ← finishActive env outcome endedAt s
    pure (s, true)

/-- `recover_interrupted_active`. -/
def recoverInterruptedActive (endedAt : Number) (s : State) : Result :=
  finish env interrupted endedAt s

/-- `start`. The clock is read once for a generation that is superseded and once for the new one. -/
def start (generation : Int) (transport mode : String) (endedAt startedAt : Number) (s : State) :
    Result := do
  let s ← if s.active.isSome then finishActive env superseded endedAt s else pure s
  let s ← increment env "generations_created_total" s
  pure ({ s with active := some [("generation", .int generation), ("transport", .str transport),
    ("mode", .str mode), ("started_at", .float startedAt)] }, true)

/-- `certify_indexes`. -/
def certifyIndexes (reason : String) (now : Number) (s : State) : Result := do
  let s := { s with
    indexesCertified := true
    certificationReason := .str reason
    certifiedAt := .float now }
  let s ← increment env "index_certifications_total" s
  pure (s, true)

/-- What `snapshot` returns. -/
structure Snapshot where
  indexesCertified : Bool
  certificationReason : String
  certifiedAt : Number
  counters : List (String × Value)
  active : Option (List (String × Value))
  recent : List Value

/-- `snapshot`. -/
def snapshot (s : State) : Except HistoryError Snapshot := do
  let certifiedAt ← convert (toFloat env s.certifiedAt)
  pure {
    indexesCertified := s.indexesCertified
    certificationReason := s.certificationReason.toStr env.conv
    certifiedAt := certifiedAt
    counters := s.counters
    active := s.active
    recent := lastEntries 10 s.history }

end

/-- A call of a method, with the readings of the clock that it sees. -/
inductive Operation where
  | recoverInterruptedActive (endedAt : Number)
  | start (generation : Int) (transport mode : String) (endedAt startedAt : Number)
  | finish (outcome : Outcome) (endedAt : Number)
  | certifyIndexes (reason : String) (now : Number)
  | snapshot

/-- One call, up to its `_persist`. A snapshot leaves the state as it is. -/
def Operation.perform (env : Interpreter) : Operation → State → Result
  | .recoverInterruptedActive endedAt, s => GenerationHistory.recoverInterruptedActive env endedAt s
  | .start generation transport mode endedAt startedAt, s =>
    GenerationHistory.start env generation transport mode endedAt startedAt s
  | .finish outcome endedAt, s => GenerationHistory.finish env outcome endedAt s
  | .certifyIndexes reason now, s => GenerationHistory.certifyIndexes env reason now s
  | .snapshot, s => do
    let _ ← GenerationHistory.snapshot env s
    pure (s, false)

/-- `_persist`, as far as `json.dump` goes, of a call that has come to it. -/
def persist (r : State × Bool) : Result :=
  if r.2 && !r.1.payload.dumpable then .error .beyondLimits else pure r

/-- One call with its `_persist`. -/
def Operation.call (env : Interpreter) (operation : Operation) (s : State) : Result := do
  let r ← operation.perform env s
  persist r

end StorageNode.GenerationHistory
