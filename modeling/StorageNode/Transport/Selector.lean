import Mathlib.Data.List.AList
import Mathlib.Data.List.Sort
import Mathlib.Data.Rat.Floor

/-!
# The transport selector

`TransportSelector` keeps one JSON record per target, shared by the guardian and the operator
commands. Each operation holds the file lock while it reads, decides and writes, so that it is one
function of the file here. It reads the file anew every time: a restart changes nothing but the
configuration.

Fingerprints of the startup verification are values of a type `F`; `none` is the empty string.
Times are rational numbers of seconds.
-/

set_option autoImplicit false

namespace StorageNode.Transport

variable {F α : Type}

/-! ## Configuration -/

inductive AuthMode where
  | key
  | password
  deriving DecidableEq

/-- An SSHFS transport. -/
structure SshfsTransport where
  name : String
  priority : Nat
  source : String
  authMode : AuthMode
  knownHostsFile : String
  identityFile : String := ""
  credentialsFile : String := ""
  port : Nat := 22
  mountOptions : List String := []
  deriving DecidableEq

/-- The part of an accepted failover configuration that the selector reads, with what
`load_exclusive_failover` checks of it: names are not empty and differ, the cooldown is positive, and
there is a transport besides the primary one. -/
structure FailoverConfig where
  primaryName : String
  primaryPriority : Nat
  failureCooldownSeconds : Nat
  transports : List SshfsTransport
  named : ∀ name ∈ primaryName :: transports.map SshfsTransport.name, name ≠ ""
  distinct : (primaryName :: transports.map SshfsTransport.name).Nodup
  cooldown : 0 < failureCooldownSeconds
  fallback : transports ≠ []

/-- The order of `sorted(ordered, key=lambda item: (item[0], item[1]))`. -/
def routeLe (a b : Nat × String) : Prop :=
  a.1 < b.1 ∨ a.1 = b.1 ∧ a.2 ≤ b.2

instance : DecidableRel routeLe := fun a b =>
  inferInstanceAs (Decidable (a.1 < b.1 ∨ a.1 = b.1 ∧ a.2 ≤ b.2))

namespace FailoverConfig

/-- `ordered_names`. -/
def orderedNames (cfg : FailoverConfig) : List String :=
  (((cfg.primaryPriority, cfg.primaryName) ::
    cfg.transports.map fun t => (t.priority, t.name)).insertionSort routeLe).map Prod.snd

/-- `contains`. -/
def contains (cfg : FailoverConfig) (name : String) : Prop :=
  name ∈ cfg.orderedNames

instance (cfg : FailoverConfig) (name : String) : Decidable (cfg.contains name) :=
  inferInstanceAs (Decidable (name ∈ cfg.orderedNames))

theorem contains_iff (cfg : FailoverConfig) (name : String) :
    cfg.contains name ↔ name ∈ cfg.primaryName :: cfg.transports.map SshfsTransport.name := by
  simp only [contains, orderedNames, List.mem_map, List.mem_insertionSort]
  simp [List.mem_cons, eq_comm]

theorem ne_empty_of_contains {cfg : FailoverConfig} {name : String} (h : cfg.contains name) :
    name ≠ "" :=
  cfg.named name ((cfg.contains_iff name).1 h)

end FailoverConfig

/-! ## State -/

/-- The entry of a failed or quarantined transport. -/
structure Entry where
  at_ : Rat
  reason : String

/-- The entries of `failed` or `quarantined`, by transport. -/
abbrev Entries := AList fun _ : String => Entry

/-- The dictionary that `_load` returns. -/
structure SelectorState (F : Type) where
  active : String := ""
  requested : String := ""
  failed : Entries := ∅
  quarantined : Entries := ∅
  lastSuccessAt : Rat := 0
  startupVerificationFingerprint : Option F := none
  startupVerifiedAt : Rat := 0
  startupVerifiedTransports : List String := []
  updatedAt : Rat := 0

/-- The state file. `corrupt` is a file that `_load` refuses. -/
inductive StateFile (F : Type) where
  | missing
  | corrupt
  | stored (state : SelectorState F)

/-- The errors of the selector. `os` is the failure of a write. -/
inductive SelectorError where
  | unreadable
  | os
  | unknown (name : String)
  | quarantined (name : String)
  | notConfigured (name : String)
  | allQuarantined
  | cooling (name : String) (remaining : Int)
  deriving DecidableEq

/-- The text of an error. -/
def SelectorError.message : SelectorError → String
  | .unreadable => "cannot safely read transport state"
  | .os => "OSError"
  | .unknown name => "unknown transport: " ++ name
  | .quarantined name => "transport " ++ name ++ " is quarantined; explicitly clear quarantine first"
  | .notConfigured name => "requested transport is no longer configured: " ++ name
  | .allQuarantined => "all configured transports are quarantined; operator clearance required"
  | .cooling name remaining => "all configured transports are cooling down; next eligible transport " ++
      name ++ " in " ++ toString remaining ++ " seconds"

/-- `_load`. -/
def StateFile.load : StateFile F → Except SelectorError (SelectorState F)
  | .missing => .ok {}
  | .corrupt => .error .unreadable
  | .stored state => .ok state

/-- The circumstances of an operation: whether reading and writing succeed, and `time.time()` when it
saves. A failed write leaves the file as it was, or has replaced it and then failed to synchronise its
directory. -/
structure Io where
  readable : Bool := true
  writable : Bool := true
  replaced : Bool := false
  now : Rat := 0

/-- The state that a decision saves. -/
def SelectorState.saved (state : SelectorState F) (io : Io) : StateFile F :=
  .stored { state with updatedAt := io.now }

/-- An operation under the lock: load, decide, and save the new state if there is one. -/
def locked (io : Io) (file : StateFile F)
    (decision : SelectorState F → Except SelectorError (α × Option (SelectorState F))) :
    Except SelectorError α × StateFile F :=
  match if io.readable then file.load else .error .unreadable with
  | .error e => (.error e, file)
  | .ok state =>
    match decision state with
    | .error e => (.error e, file)
    | .ok (a, none) => (.ok a, file)
    | .ok (a, some state) =>
      if io.writable then (.ok a, state.saved io)
      else (.error .os, if io.replaced then state.saved io else file)

/-! ## Selection -/

/-- What the scan of `select` makes of a transport. -/
inductive Eligibility where
  | quarantined
  | candidate
  | cooling (availableAt : Rat)
  deriving DecidableEq

def eligibility (cfg : FailoverConfig) (now : Rat) (s : SelectorState F) (name : String) :
    Eligibility :=
  if name ∈ s.quarantined then .quarantined
  else
    match s.failed.lookup name with
    | none => .candidate
    | some failure =>
      let availableAt := failure.at_ + cfg.failureCooldownSeconds
      if availableAt ≤ now then .candidate else .cooling availableAt

def candidates (cfg : FailoverConfig) (now : Rat) (s : SelectorState F) : List String :=
  cfg.orderedNames.filter fun name => eligibility cfg now s name = .candidate

def cooling (cfg : FailoverConfig) (now : Rat) (s : SelectorState F) : List (Rat × String) :=
  cfg.orderedNames.filterMap fun name =>
    match eligibility cfg now s name with
    | .cooling availableAt => some (availableAt, name)
    | _ => none

/-- `min(cooling)`: the first of the least pairs. -/
def earliest : List (Rat × String) → Option (Rat × String)
  | [] => none
  | x :: xs =>
    match earliest xs with
    | none => some x
    | some y => if y.1 < x.1 ∨ y.1 = x.1 ∧ y.2 < x.2 then some y else some x

/-- The scan of `select` by priority. -/
def scan (cfg : FailoverConfig) (now : Rat) (s : SelectorState F) : Except SelectorError String :=
  match candidates cfg now s with
  | name :: _ => .ok name
  | [] =>
    match earliest (cooling cfg now s) with
    | none => .error .allQuarantined
    | some (availableAt, name) =>
      .error (.cooling name (max 1 (availableAt - now + 999 / 1000).floor))

/-- The active transport may be kept. -/
def Usable (cfg : FailoverConfig) (s : SelectorState F) (name : String) : Prop :=
  name ≠ "" ∧ cfg.contains name ∧ name ∉ s.failed ∧ name ∉ s.quarantined

instance (cfg : FailoverConfig) (s : SelectorState F) (name : String) :
    Decidable (Usable cfg s name) :=
  inferInstanceAs (Decidable (_ ∧ _ ∧ _ ∧ _))

/-- The decision of `select`. -/
def choose (cfg : FailoverConfig) (now : Rat) (s : SelectorState F) :
    Except SelectorError (String × Option (SelectorState F)) :=
  if s.requested ≠ "" then
    if s.requested ∈ s.quarantined then .error (.quarantined s.requested)
    else if ¬ cfg.contains s.requested then .error (.notConfigured s.requested)
    else .ok (s.requested, some { s with active := s.requested, requested := "" })
  else if Usable cfg s s.active then .ok (s.active, none)
  else
    match scan cfg now s with
    | .error e => .error e
    | .ok selected => .ok (selected, some { s with active := selected })

/-- `select`. -/
def select (cfg : FailoverConfig) (now : Rat) (io : Io) (file : StateFile F) :
    Except SelectorError String × StateFile F :=
  locked io file (choose cfg now)

/-! ## Updates -/

/-- An operation that refuses an unknown transport. -/
def known (cfg : FailoverConfig) (name : String) (file : StateFile F)
    (operation : Except SelectorError Unit × StateFile F) : Except SelectorError Unit × StateFile F :=
  if cfg.contains name then operation else (.error (.unknown name), file)

/-- An operation that saves a changed state. -/
def update (io : Io) (file : StateFile F) (change : SelectorState F → SelectorState F) :
    Except SelectorError Unit × StateFile F :=
  locked io file fun s => .ok ((), some (change s))

/-- `record_failure`. -/
def recordFailure (cfg : FailoverConfig) (name reason : String) (now : Rat) (io : Io)
    (file : StateFile F) : Except SelectorError Unit × StateFile F :=
  if cfg.contains name then
    update io file fun s => { s with
      failed := s.failed.insert name ⟨now, (reason.take 1000).toString⟩
      active := name }
  else (.ok (), file)

/-- `quarantine`. -/
def quarantine (cfg : FailoverConfig) (name reason : String) (now : Rat) (io : Io)
    (file : StateFile F) : Except SelectorError Unit × StateFile F :=
  known cfg name file <| update io file fun s => { s with
    quarantined := s.quarantined.insert name ⟨now, (reason.take 1000).toString⟩
    startupVerificationFingerprint := none }

/-- `clear_quarantine`. -/
def clearQuarantine (cfg : FailoverConfig) (name : String) (io : Io) (file : StateFile F) :
    Except SelectorError Unit × StateFile F :=
  known cfg name file <| update io file fun s => { s with
    quarantined := s.quarantined.erase name
    startupVerificationFingerprint := none }

/-- `record_success`. It does not ask for a configured transport. -/
def recordSuccess (name : String) (now : Rat) (io : Io) (file : StateFile F) :
    Except SelectorError Unit × StateFile F :=
  update io file fun s => { s with
    failed := s.failed.erase name
    active := name
    lastSuccessAt := now }

/-- `request`. -/
def request (cfg : FailoverConfig) (name : String) (io : Io) (file : StateFile F) :
    Except SelectorError Unit × StateFile F :=
  known cfg name file <| locked io file fun s =>
    if name ∈ s.quarantined then .error (.quarantined name)
    else .ok ((), some { s with requested := if s.active = name then "" else name })

/-- `record_startup_verification`. -/
def recordStartupVerification (fingerprint : F) (transports : List String) (now : Rat) (io : Io)
    (file : StateFile F) : Except SelectorError Unit × StateFile F :=
  update io file fun s => { s with
    startupVerificationFingerprint := some fingerprint
    startupVerifiedAt := now
    startupVerifiedTransports := transports }

/-- `startup_verification_required`. -/
def startupVerificationRequired [DecidableEq F] (fingerprint : F) (io : Io) (file : StateFile F) :
    Except SelectorError Bool :=
  (locked io file fun s =>
    .ok (decide (s.startupVerificationFingerprint ≠ some fingerprint), none)).1

/-! ## Runs -/

/-- The operations that write. -/
inductive Op (F : Type) where
  | select (now : Rat)
  | request (name : String)
  | quarantine (name reason : String) (now : Rat)
  | clearQuarantine (name : String)
  | recordFailure (name reason : String) (now : Rat)
  | recordSuccess (name : String) (now : Rat)
  | recordStartupVerification (fingerprint : F) (transports : List String) (now : Rat)

/-- One operation of a process, under the configuration that the process has loaded. -/
structure Step (F : Type) where
  cfg : FailoverConfig
  op : Op F
  io : Io := {}

/-- The file after an operation. -/
def Step.apply (step : Step F) (file : StateFile F) : StateFile F :=
  match step.op with
  | .select now => (Transport.select step.cfg now step.io file).2
  | .request name => (Transport.request step.cfg name step.io file).2
  | .quarantine name reason now => (Transport.quarantine step.cfg name reason now step.io file).2
  | .clearQuarantine name => (Transport.clearQuarantine step.cfg name step.io file).2
  | .recordFailure name reason now => (Transport.recordFailure step.cfg name reason now step.io file).2
  | .recordSuccess name now => (Transport.recordSuccess name now step.io file).2
  | .recordStartupVerification fingerprint transports now =>
      (Transport.recordStartupVerification fingerprint transports now step.io file).2

/-- The file after the operations of any processes, in the order in which they hold the lock. -/
def applyAll (steps : List (Step F)) (file : StateFile F) : StateFile F :=
  steps.foldl (fun file step => step.apply file) file

/-- The state that a file holds. -/
def StateFile.state : StateFile F → SelectorState F
  | .stored state => state
  | _ => {}

end StorageNode.Transport
