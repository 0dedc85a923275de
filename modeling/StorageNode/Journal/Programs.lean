import StorageNode.Journal.World
import StorageNode.Program.Contract

/-!
# The methods of the repair journal

`RepairJournal` of `index_repair`, with `_write_json_atomic`. A record is a dictionary. `patience` is how
often a thread tries to take the lock before it is given up; a thread that waits forever is one that is
killed while it waits.
-/

set_option autoImplicit false

namespace StorageNode.RepairJournal

open StorageNode.Json StorageNode.Program

/-- Why a record is unreadable. -/
inductive Cause where
  | os
  | decode
  deriving DecidableEq

/-- The exceptions: an `OSError`, the two kinds of `IndexRepairJournalError`, and the exceptions of a
record without an id or with a history that is no list. -/
inductive Error where
  | os
  | unreadable (name : Text) (cause : Cause)
  | invalid (name : Text)
  | keyError
  | attributeError
  | waiting
  deriving DecidableEq

abbrev Prog (α : Type) := Program.Prog Request Answer Error α

/-- A request whose `OSError` is turned into another exception. -/
def performOr (e : Error) (r : Request) : Prog r.Result :=
  (Prog.ask r).bind (Prog.orRaise e)

/-- A request whose `OSError` is not handled. -/
abbrev perform (r : Request) : Prog r.Result :=
  performOr .os r

/-- The members of a record. -/
abbrev Record := List (String × Value)

/-! ## Records -/

/-- `Path.stem`. -/
def stem (name : Text) : Text :=
  let front := (name.rdropWhile (· ≠ '.')).dropLast
  if front ≠ [] ∧ (name.rtakeWhile (· ≠ '.')) ≠ [] then front else name

/-- The names that a record must have. -/
def requiredNames : List String :=
  ["version", "transaction_id", "volume_id", "collection", "phase", "phase_history"]

/-- The two checks of `load_all`. -/
def wellFormed (name : Text) : Value → Bool
  | .object members =>
    (match Value.get? members "transaction_id" with
      | some (.str id) => id.toList = stem name
      | _ => false) &&
    requiredNames.all (fun required => (Value.get? members required).isSome) &&
    (match Value.get? members "phase_history" with
      | some (.array _) => true
      | _ => false)
  | _ => false

/-- `dict.setdefault`. -/
def setDefault (members : Record) (name : String) (v : Value) : Record :=
  if (Value.get? members name).isSome then members else Value.put members name v

/-- An entry of `phase_history`. -/
def phaseEntry (phase : String) (now : Value) : Value :=
  .object [("phase", .str phase), ("at", now)]

/-- The record that `create` makes of its argument. -/
def created (payload : Record) (uuid : String) (now : Value) : Record :=
  let transaction := setDefault payload "version" (.int 1)
  let transaction := setDefault transaction "transaction_id" (.str uuid)
  let transaction := setDefault transaction "phase" (.str "detected")
  let transaction := setDefault transaction "phase_history" (.array [phaseEntry "detected" now])
  let transaction := setDefault transaction "created_at" now
  Value.put transaction "updated_at" now

/-- The record that `transition` saves, unless its history is no list. -/
def transitioned (transaction : Record) (phase : String) (values : Record) (now : Value) :
    Option Record :=
  let transaction := Value.update transaction values
  let transaction := Value.put transaction "phase" (.str phase)
  let transaction := Value.put transaction "updated_at" now
  match Value.get? transaction "phase_history" with
  | none => some (Value.put transaction "phase_history" (.array [phaseEntry phase now]))
  | some (.array history) =>
    some (Value.put transaction "phase_history" (.array (history ++ [phaseEntry phase now])))
  | some _ => none

/-! ## Methods -/

/-- `prepare`. -/
def prepare (asRoot : Bool) : Prog Unit :=
  (perform (.makeDirectory .root)).bind fun _ =>
  (Prog.when (asRoot = true) (perform (.setOwner .root))).bind fun _ =>
  (perform (.setMode .root 0o711)).bind fun _ =>
  (Prog.forEach [(Place.journal, 0o700), (Place.staging, 0o711), (Place.backups, 0o700)] fun p =>
    (perform (.makeDirectory p.1)).bind fun _ =>
    (Prog.when (asRoot = true) (perform (.setOwner p.1))).bind fun _ =>
    perform (.setMode p.1 p.2)).bind fun _ =>
  (perform (.syncDirectory .rootParent)).bind fun _ =>
  perform (.syncDirectory .root)

/-- `fcntl.flock`, which waits for the lock. -/
def waitLock (exclusive : Bool) : Nat → Prog Unit
  | 0 => .raise .waiting
  | patience + 1 => (perform (.flock exclusive)).bind fun (granted : Bool) =>
    if granted = true then .ret () else waitLock exclusive patience

/-- `_lock`. -/
def lock (asRoot exclusive : Bool) (patience : Nat) : Prog Unit :=
  (prepare asRoot).bind fun _ =>
  (perform .openLock).bind fun _ =>
  waitLock exclusive patience

/-- `json.dump(payload, handle, sort_keys=True)` and `handle.write("\n")`. -/
def recordText (ft : FloatText) (members : Record) : Text :=
  dumps ft [' '] (.object members) ++ ['\n']

/-- `_write_json_atomic`. -/
def writeJsonAtomic (ft : FloatText) (name : Text) (members : Record) : Prog Unit :=
  (perform (.makeDirectory .journal)).bind fun _ =>
  (perform (.openTemporary name)).bind fun (token : Nat) =>
  (perform (.append token (dumps ft [' '] (.object members)))).bind fun _ =>
  (perform (.append token ['\n'])).bind fun _ =>
  (perform (.syncTemporary token)).bind fun _ =>
  (perform (.setTemporaryMode token 0o600)).bind fun _ =>
  (perform (.replace token name)).bind fun _ =>
  perform (.syncDirectory .journal)

/-- `f"{transaction['transaction_id']}.json"`, for an id that is a string. -/
def recordName (members : Record) : Option Text :=
  match Value.get? members "transaction_id" with
  | some (.str id) => some (id.toList ++ ".json".toList)
  | _ => none

/-- `save`. -/
def save (ft : FloatText) (asRoot : Bool) (patience : Nat) (members : Record) : Prog Unit :=
  (lock asRoot true patience).bind fun _ =>
  ((Prog.orRaise .keyError (recordName members)).bind fun name =>
    writeJsonAtomic ft name members).andFinally (perform .closeLock)

/-- `create`. -/
def create (ft : FloatText) (asRoot : Bool) (patience : Nat) (payload : Record) (uuid : String)
    (now : Value) : Prog Record :=
  (save ft asRoot patience (created payload uuid now)).bind fun _ =>
  .ret (created payload uuid now)

/-- `transition`, up to the event that it logs. -/
def transition (ft : FloatText) (asRoot : Bool) (patience : Nat) (transaction : Record) (phase : String)
    (values : Record) (now : Value) : Prog Record :=
  (Prog.orRaise .attributeError (transitioned transaction phase values now)).bind fun members =>
  (save ft asRoot patience members).bind fun _ =>
  .ret members

/-- The body of the loop of `load_all`. -/
def readRecord (ft : FloatText) (name : Text) : Prog Value :=
  (performOr (.unreadable name .os) (.read name)).bind fun (text : Text) =>
  (Prog.orRaise (.unreadable name .decode) (loads ft text)).bind fun v =>
  (Prog.raiseIf (wellFormed name v = false) (.invalid name)).bind fun _ =>
  .ret v

/-- The loop of `load_all`. -/
def readRecords (ft : FloatText) : List Text → Prog (List Value)
  | [] => .ret []
  | name :: names => (readRecord ft name).bind fun v =>
    (readRecords ft names).bind fun vs => .ret (v :: vs)

/-- `load_all`. -/
def loadAll (ft : FloatText) (asRoot : Bool) (patience : Nat) : Prog (List Value) :=
  (lock asRoot false patience).bind fun _ =>
  ((perform .list).bind fun (names : List Text) => readRecords ft names).andFinally
    (perform .closeLock)

/-- `load_all_readonly`. -/
def loadAllReadonly (ft : FloatText) : Prog (List Value) :=
  (perform .journalExists).bind fun (present : Bool) =>
  if present = true then
    (perform .list).bind fun (names : List Text) => readRecords ft names
  else .ret []

end StorageNode.RepairJournal
