import StorageNode.Admission.WriteBudget
import StorageNode.Text.Csv

/-!
# The admission controller

`AdmissionController.tick` with `runtime_command` and `write_stats`. HAProxy's side of a tick is three
exchanges on the runtime socket: the statistics, the new limit, and the reduction to one after an
error. Logging is left out.

The handler of the tick names three exception types. `problems` lists, in reading order, what the
statistics can raise; the first of them decides whether the handler runs (`writeStats_eq`), and
`tick_backs_off_iff` is exact about it.
-/

set_option autoImplicit false

namespace StorageNode.Admission

open StorageNode.Csv StorageNode.FloatingPoint

/-- The exceptions that a step of the tick can raise. `UnicodeDecodeError` is a `ValueError`. -/
inductive Exn where
  | os (message : Message)
  | value (message : Message)
  | key (name : Text)
  | type
  | csv (error : CsvError)
  deriving DecidableEq

/-- `except (OSError, ValueError, KeyError)`. -/
def Exn.caught : Exn → Bool
  | .os _ | .value _ | .key _ => true
  | .type | .csv _ => false

/-- `str(exc)`. -/
def Exn.text : Exn → Text
  | .os message | .value message => message.1
  | .key name => '\'' :: name ++ ['\'']
  | .type => "int() argument must be a string, a bytes-like object or a real number, not 'NoneType'"
  | .csv .fieldTooLarge => "field larger than field limit (131072)"
  | .csv .strayNewline =>
    "new-line character seen in unquoted field - do you need to open the file with newline=''?"

/-- The parts of the standard library whose texts are left open: `int` of a string and `bytes.decode`.
Their errors are never empty. -/
structure Library where
  int : Text → Except Message Int
  decode : List UInt8 → Except Message Text

/-! ## The runtime socket -/

/-- One use of the runtime socket: the bytes received up to the end of the stream, or an error of the
operating system at any point. -/
inductive Exchange where
  | failed (message : Message)
  | answered (chunks : List (List UInt8))

/-- The loop over `recv`. -/
def receive : List (List UInt8) → List UInt8 → Except Exn (List UInt8)
  | [], received => .ok received
  | [] :: _, received => .ok received
  | chunk :: rest, received =>
    if 1024 * 1024 < received.length + chunk.length then
      .error (.os ⟨"HAProxy runtime response exceeds limit".toList, by decide⟩)
    else receive rest (received ++ chunk)

/-- `runtime_command`. -/
def runtimeCommand (lib : Library) : Exchange → Except Exn Text
  | .failed message => .error (.os message)
  | .answered chunks => do
    let received ← receive chunks []
    match lib.decode received with
    | .ok text => .ok text
    | .error message => .error (.value message)

/-! ## The statistics -/

/-- `int(row[name])`. -/
def column (lib : Library) (row : Row) (name : Text) : Except Exn Int :=
  match row.get? name with
  | none => .error (.key name)
  | some none => .error .type
  | some (some text) => match lib.int text with
    | .ok n => .ok n
    | .error message => .error (.value message)

/-- Whether a row is about the write backend, under the given server name. -/
def isWriteRow (server : Text) (row : Row) : Bool :=
  decide ((row.get? "pxname").join = some "seaweed_s3_write".toList ∧
    (row.get? "svname").join = some server)

/-- The variables of the loop of `write_stats`. -/
structure Found where
  backendQueue : Option Int := none
  server : Option (Int × Int) := none
  deriving DecidableEq

/-- The first test of the loop. -/
def readBackend (lib : Library) (row : Row) (found : Found) : Except Exn Found :=
  if isWriteRow "BACKEND" row then do
    let queue ← column lib row "qcur"
    pure { found with backendQueue := some queue }
  else pure found

/-- The second test of the loop. -/
def readServer (lib : Library) (row : Row) (found : Found) : Except Exn Found :=
  if isWriteRow "worker_s3_write" row then do
    let queue ← column lib row "qcur"
    let active ← column lib row "scur"
    pure { found with server := some (queue, active) }
  else pure found

/-- The loop of `write_stats`. -/
def readRows (lib : Library) : List Row → Found → Except Exn Found
  | [], found => pure found
  | row :: rows, found => do
    let found ← readBackend lib row found
    let found ← readServer lib row found
    readRows lib rows found

/-- `write_stats`. -/
def writeStats (lib : Library) (response : Text) : Except Exn (Int × Int) := do
  let read := dictRows (response.removeStart "# ")
  let found ← readRows lib read.1 {}
  match read.2 with
  | some e => throw (.csv e)
  | none => match found.server with
    | some (queue, active) => pure (max queue (found.backendQueue.getD 0), active)
    | none => throw (.value ⟨"HAProxy write server statistics missing".toList, by decide⟩)

/-! ## The tick -/

/-- A command on the runtime socket: `show stat`, or `set maxconn` of the write server. -/
inductive Command where
  | showStat
  | setMaxconn (limit : Int)
  deriving DecidableEq

/-- HAProxy's side of a tick. -/
structure Exchanges where
  stats : Exchange
  limit : Exchange
  reset : Exchange

/-- The fields of the health snapshot that the tick reads; `probeStarted` is zero when no probe runs. -/
structure Snapshot where
  ready : Bool
  lastProbeAt : Float64
  lastProbeDuration : Float64
  probeStarted : Float64

/-- The settings that the tick reads. -/
structure Settings where
  slowProbeSeconds : Int
  probeIntervalSeconds : Int
  probeTimeoutSeconds : Int

/-- The controller's variables. -/
structure Controller where
  budget : WriteBudget
  errors : Nat

/-- What the tick passes to `set_admission`. -/
structure Published where
  writeLimit : Int
  queue : Int
  active : Int
  backoffsTotal : Nat
  controlErrorsTotal : Nat
  lastError : Text
  applied : Bool
  deriving DecidableEq

/-- The state after a tick, the commands in order with what `runtime_command` returned, and what the
tick published or raised. -/
structure Outcome where
  controller : Controller
  sent : List (Command × Except Exn Text)
  result : Except Exn Published

/-- The variables at the end of the `try` block. -/
structure Attempt where
  budget : WriteBudget
  queue : Int
  active : Int
  sent : List (Command × Except Exn Text)
  error : Option Exn

/-- `if reply.strip(): raise OSError(...)`. -/
def replyError : Except Exn Text → Option Exn
  | .error e => some e
  | .ok reply =>
    if reply.strip = [] then none
    else some (.os ⟨"HAProxy rejected write limit: ".toList ++ reply.strip, by simp⟩)

/-- The samples of a tick are healthy. `now` is the monotonic clock and `wall` the time of day. -/
def healthy (settings : Settings) (snapshot : Snapshot) (now wall : Float64) : Bool :=
  snapshot.ready && decide (0 < snapshot.lastProbeAt) &&
    decide (wall - snapshot.lastProbeAt <
      ((settings.probeIntervalSeconds + settings.probeTimeoutSeconds + 2 : Int) : ℚ)) &&
    decide (snapshot.lastProbeDuration.value < settings.slowProbeSeconds) &&
    (decide (snapshot.probeStarted = 0) ||
      decide (now - snapshot.probeStarted < (settings.slowProbeSeconds : ℚ)))

/-- The `try` block. -/
def attempt (lib : Library) (budget : WriteBudget) (now : Float64) (healthy : Bool)
    (x : Exchanges) : Attempt :=
  let stat := runtimeCommand lib x.stats
  match stat.bind (writeStats lib) with
  | .error e => ⟨budget, 0, 0, [(.showStat, stat)], some e⟩
  | .ok (queue, active) =>
    let budget := budget.update now (healthy && decide (queue = 0))
    let reply := runtimeCommand lib x.limit
    ⟨budget, queue, active, [(.showStat, stat), (.setMaxconn budget.limit, reply)],
      replyError reply⟩

/-- The call of `set_admission`. -/
def publish (budget : WriteBudget) (errors : Nat) (queue active : Int) (error : Text) :
    Published where
  writeLimit := budget.limit
  queue := queue
  active := active
  backoffsTotal := budget.backoffs
  controlErrorsTotal := errors
  lastError := error
  applied := decide (error = [])

/-- `AdmissionController.tick`. -/
def tick (lib : Library) (settings : Settings) (controller : Controller) (snapshot : Snapshot)
    (now wall : Float64) (x : Exchanges) : Outcome :=
  let a := attempt lib controller.budget now (healthy settings snapshot now wall) x
  match a.error with
  | none =>
    ⟨⟨a.budget, controller.errors⟩, a.sent,
      .ok (publish a.budget controller.errors a.queue a.active [])⟩
  | some e =>
    if e.caught then
      let errors := controller.errors + 1
      let budget := a.budget.update now false
      let reset := runtimeCommand lib x.reset
      ⟨⟨budget, errors⟩, a.sent ++ [(.setMaxconn 1, reset)],
        -- the inner handler names `OSError` only
        match reset with
        | .ok _ | .error (.os _) => .ok (publish budget errors a.queue a.active e.text)
        | .error e => .error e⟩
    else ⟨⟨a.budget, controller.errors⟩, a.sent, .error e⟩

/-! ## What the statistics can raise -/

/-- The columns that the first test of the loop reads from a row. -/
def backendColumns (row : Row) : List Text :=
  if isWriteRow "BACKEND" row then ["qcur".toList] else []

/-- The columns that the second test reads. -/
def serverColumns (row : Row) : List Text :=
  if isWriteRow "worker_s3_write" row then ["qcur".toList, "scur".toList] else []

/-- The problem with a column that is absent, past the end of a short row, or not a number. -/
def columnProblem (lib : Library) (row : Row) (name : Text) : Option Exn :=
  match column lib row name with
  | .error e => some e
  | .ok _ => none

/-- The problems among some columns of a row. -/
def columnProblems (lib : Library) (row : Row) (names : List Text) : List Exn :=
  names.filterMap (columnProblem lib row)

/-- The problems with a row. -/
def rowProblems (lib : Library) (row : Row) : List Exn :=
  columnProblems lib row (backendColumns row) ++ columnProblems lib row (serverColumns row)

/-- The problems with a response, in reading order: those of its rows, then the error that ended the
reading. -/
def problems (lib : Library) (response : Text) : List Exn :=
  let read := dictRows (response.removeStart "# ")
  read.1.flatMap (rowProblems lib) ++ read.2.toList.map .csv

theorem column_cases (lib : Library) (row : Row) (name : Text) :
    (∃ e, column lib row name = .error e ∧ columnProblem lib row name = some e) ∨
    (∃ n, column lib row name = .ok n ∧ columnProblem lib row name = none) := by
  unfold columnProblem
  cases hcolumn : column lib row name with
  | error e => exact .inl ⟨e, rfl, rfl⟩
  | ok n => exact .inr ⟨n, rfl, rfl⟩

theorem readBackend_cases (lib : Library) (row : Row) (found : Found) :
    (∃ e, (columnProblems lib row (backendColumns row)).head? = some e ∧
      readBackend lib row found = .error e) ∨
    (columnProblems lib row (backendColumns row) = [] ∧
      ∃ found', readBackend lib row found = .ok found') := by
  unfold readBackend backendColumns columnProblems
  split
  · obtain ⟨e, hq, hqp⟩ | ⟨queue, hq, hqp⟩ := column_cases lib row "qcur"
    · exact .inl ⟨e, by rw [List.filterMap_cons, hqp]; rfl, by rw [hq]; rfl⟩
    · exact .inr ⟨by rw [List.filterMap_cons, hqp]; rfl, _, by rw [hq]; rfl⟩
  · exact .inr ⟨rfl, found, rfl⟩

theorem readServer_cases (lib : Library) (row : Row) (found : Found) :
    (∃ e, (columnProblems lib row (serverColumns row)).head? = some e ∧
      readServer lib row found = .error e) ∨
    (columnProblems lib row (serverColumns row) = [] ∧
      ∃ found', readServer lib row found = .ok found') := by
  unfold readServer serverColumns columnProblems
  split
  · obtain ⟨e, hq, hqp⟩ | ⟨queue, hq, hqp⟩ := column_cases lib row "qcur"
    · exact .inl ⟨e, by rw [List.filterMap_cons, hqp]; rfl, by rw [hq]; rfl⟩
    · obtain ⟨e, hs, hsp⟩ | ⟨active, hs, hsp⟩ := column_cases lib row "scur"
      · refine .inl ⟨e, ?_, by rw [hq, hs]; rfl⟩
        rw [List.filterMap_cons, hqp, List.filterMap_cons, hsp]
        rfl
      · refine .inr ⟨?_, _, by rw [hq, hs]; rfl⟩
        rw [List.filterMap_cons, hqp, List.filterMap_cons, hsp]
        rfl
  · exact .inr ⟨rfl, found, rfl⟩

/-- Reading a row raises its first problem. -/
theorem readRow_cases (lib : Library) (row : Row) (found : Found) :
    (∃ e, (rowProblems lib row).head? = some e ∧
      (readBackend lib row found >>= readServer lib row) = .error e) ∨
    (rowProblems lib row = [] ∧
      ∃ found', (readBackend lib row found >>= readServer lib row) = .ok found') := by
  unfold rowProblems
  obtain ⟨e, hhead, heq⟩ | ⟨hnil, found', heq⟩ := readBackend_cases lib row found
  · refine .inl ⟨e, ?_, by rw [heq]; rfl⟩
    rw [List.head?_append, hhead]
    rfl
  · rw [hnil, List.nil_append, heq]
    exact readServer_cases lib row found'

/-- The loop raises the first problem of its rows. -/
theorem readRows_cases (lib : Library) (rows : List Row) (found : Found) :
    (∃ e, (rows.flatMap (rowProblems lib)).head? = some e ∧ readRows lib rows found = .error e) ∨
    (rows.flatMap (rowProblems lib) = [] ∧ ∃ found', readRows lib rows found = .ok found') := by
  induction rows generalizing found with
  | nil => exact .inr ⟨rfl, found, rfl⟩
  | cons row rows ih =>
    have hstep : readRows lib (row :: rows) found =
        (readBackend lib row found >>= readServer lib row) >>= readRows lib rows := by
      rw [readRows, bind_assoc]
    rw [hstep, List.flatMap_cons]
    obtain ⟨e, hhead, heq⟩ | ⟨hnil, found', heq⟩ := readRow_cases lib row found
    · refine .inl ⟨e, ?_, by rw [heq]; rfl⟩
      rw [List.head?_append, hhead]
      rfl
    · rw [hnil, List.nil_append, heq]
      exact ih found'

/-- `write_stats` raises the first problem of the response. -/
theorem writeStats_eq (lib : Library) (response : Text) :
    (∃ e, (problems lib response).head? = some e ∧ writeStats lib response = .error e) ∨
    (problems lib response = [] ∧ ((∃ stats, writeStats lib response = .ok stats) ∨
      ∃ message, writeStats lib response = .error (.value message))) := by
  unfold writeStats problems
  generalize dictRows (response.removeStart "# ") = read
  obtain ⟨rows, error⟩ := read
  obtain ⟨e, hhead, heq⟩ | ⟨hnil, found, heq⟩ := readRows_cases lib rows {}
  · refine .inl ⟨e, ?_, by simp only [heq]; rfl⟩
    rw [List.head?_append, hhead]
    rfl
  · simp only [hnil, heq, List.nil_append]
    cases error with
    | some e => exact .inl ⟨.csv e, rfl, rfl⟩
    | none =>
      refine .inr ⟨rfl, ?_⟩
      cases hserver : found.server with
      | none => exact .inr ⟨_, by simp only [Bind.bind, Except.bind, hserver]; rfl⟩
      | some server =>
        exact .inl ⟨_, by simp only [Bind.bind, Except.bind, hserver]; rfl⟩

end StorageNode.Admission
