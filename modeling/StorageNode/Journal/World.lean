import StorageNode.Files.Volume
import StorageNode.Json.RoundTrip
import StorageNode.Program.Core

/-!
# The directory of the repair journal

What `RepairJournal` works on: the directory with the records, temporary files that are still being
written, and the lock. Any number of threads of any process use it; each request says which thread
issues it.

A request can fail with an `OSError`; what is appended to a temporary file may then be cut short. The
lock of `flock` is taken by trying: a blocked call is one that keeps trying.
-/

set_option autoImplicit false

namespace StorageNode.RepairJournal

open StorageNode.Files StorageNode.Json StorageNode.Program

variable {ι : Type}

/-! ## State -/

/-- The content of a record file, whether it was synchronised before the file got its name, and the
number of the replacement that put it there, with the thread that made it. -/
structure Entry (ι : Type) where
  serial : Nat
  writer : ι
  text : Text
  synced : Bool

/-- A file that has not got its name yet. -/
structure Temporary (ι : Type) where
  token : Nat
  owner : ι
  name : Text
  text : Text
  synced : Bool

/-- The directories that the journal prepares. -/
inductive Place where
  | rootParent
  | root
  | journal
  | staging
  | backups
  deriving DecidableEq

/-- Whether the root and the directory of the records exist, and whether their names have been
synchronised. -/
structure Directories where
  root : Bool
  rootLasting : Bool
  journal : Bool
  journalLasting : Bool

namespace Directories

/-- `mkdir(parents=True, exist_ok=True)`. -/
def make (d : Directories) : Place → Directories
  | .rootParent => d
  | .journal => { d with root := true, journal := true }
  | .root | .staging | .backups => { d with root := true }

/-- A directory that is synchronised makes the names in it last. -/
def sync (d : Directories) : Place → Directories
  | .rootParent => { d with rootLasting := d.root || d.rootLasting }
  | .root => { d with journalLasting := d.journal || d.journalLasting }
  | .journal | .staging | .backups => d

end Directories

/-- The files under the root of the journal. -/
structure World (ι : Type) where
  records : Volume Text (Entry ι)
  temporaries : List (Temporary ι)
  nextToken : Nat
  nextSerial : Nat
  directories : Directories
  exclusive : Option ι
  shared : List ι

/-- `f".{path.name}.{uuid.uuid4().hex}.tmp"`; the token stands for the random part. -/
def temporaryName (name : Text) (token : Nat) : Text :=
  '.' :: (name ++ '.' :: (Nat.toDigits 16 token ++ ".tmp".toList))

def Temporary.fileName (t : Temporary ι) : Text :=
  temporaryName t.name t.token

/-- `glob("*.json")`. -/
def isRecordName (name : Text) : Bool :=
  ".json".toList.isSuffixOf name

/-- `sorted(self.journal_dir.glob("*.json"))`. -/
def recordNames (names : List Text) : List Text :=
  (names.filter isRecordName).insertionSort fun a b => String.ofList a ≤ String.ofList b

namespace World

variable (w : World ι)

/-- The directory of the records exists. -/
def made : Bool := w.directories.journal

/-- A failure of the machine cannot take the directory of the records away. -/
def madeLasting : Bool := w.directories.rootLasting && w.directories.journalLasting

/-- Every name in the directory. -/
def names : List Text :=
  w.records.current.names ++ w.temporaries.map Temporary.fileName

/-- The temporary file behind a token. -/
def temporary (token : Nat) : Option (Temporary ι) :=
  w.temporaries.find? fun t => t.token = token

/-- Change a temporary file. -/
def change (token : Nat) (f : Temporary ι → Temporary ι) : World ι :=
  { w with temporaries := w.temporaries.map fun t => if t.token = token then f t else t }

end World

/-! ## Requests -/

inductive Request where
  | makeDirectory (place : Place)
  | setOwner (place : Place)
  | setMode (place : Place) (mode : Nat)
  | syncDirectory (place : Place)
  | openLock
  | flock (exclusive : Bool)
  | closeLock
  | openTemporary (name : Text)
  | append (token : Nat) (text : Text)
  | syncTemporary (token : Nat)
  | setTemporaryMode (token : Nat) (mode : Nat)
  | replace (token : Nat) (name : Text)
  | journalExists
  | list
  | read (name : Text)
  deriving DecidableEq

/-- What a request returns when it raises no `OSError`. -/
abbrev Request.Result : Request → Type
  | .flock _ | .journalExists => Bool
  | .openTemporary _ => Nat
  | .list => List Text
  | .read _ => Text
  | _ => Unit

/-- `none` is an `OSError`. -/
abbrev Answer (r : Request) : Type := Option r.Result

/-- The choice of the environment: whether the request fails, and how much of a text is written then. -/
structure Choice where
  fails : Bool
  written : Nat

variable [DecidableEq ι]

/-- `os.replace`, which gives a temporary file its name. -/
def World.replace (w : World ι) (t : Temporary ι) (name : Text) : World ι :=
  { w with
    records := w.records.replace name ⟨w.nextSerial, t.owner, t.text, t.synced⟩
    temporaries := w.temporaries.filter fun u => u.token ≠ t.token
    nextSerial := w.nextSerial + 1 }

/-- What the kernel takes back when a handle of the lock is closed. -/
def World.unlock (w : World ι) (i : ι) : World ι :=
  { w with
    exclusive := if w.exclusive = some i then none else w.exclusive
    shared := w.shared.filter (· ≠ i) }

/-- One request of thread `i`. -/
def exec (i : ι) : (r : Request) → Choice → World ι → Answer r × World ι
  | .makeDirectory place, c, w =>
    if c.fails then (none, w)
    else (some (), { w with directories := w.directories.make place })
  | .setOwner _, c, w => (if c.fails then none else some (), w)
  | .setMode _ _, c, w => (if c.fails then none else some (), w)
  | .syncDirectory place, c, w =>
    if c.fails then (none, w)
    else (some (),
      if place = .journal then { w with records := w.records.sync }
      else { w with directories := w.directories.sync place })
  | .openLock, c, w => (if c.fails then none else some (), w)
  | .flock exclusive, c, w =>
    if c.fails then (none, w)
    else if exclusive then
      if w.exclusive = none ∧ w.shared = [] then (some true, { w with exclusive := some i })
      else (some false, w)
    else if w.exclusive = none then (some true, { w with shared := i :: w.shared })
    else (some false, w)
  | .closeLock, c, w => (if c.fails then none else some (), w.unlock i)
  | .openTemporary name, c, w =>
    if c.fails then (none, w)
    else (some w.nextToken, { w with
      temporaries := ⟨w.nextToken, i, name, [], false⟩ :: w.temporaries
      nextToken := w.nextToken + 1 })
  | .append token text, c, w =>
    let written := if c.fails then text.take c.written else text
    (if c.fails then none else some (),
      w.change token fun t => { t with text := t.text ++ written, synced := false })
  | .syncTemporary token, c, w =>
    if c.fails then (none, w) else (some (), w.change token fun t => { t with synced := true })
  | .setTemporaryMode _ _, c, w => (if c.fails then none else some (), w)
  | .replace token name, c, w =>
    if c.fails then (none, w)
    else match w.temporary token with
      | none => (none, w)
      | some t => (some (), w.replace t name)
  | .journalExists, c, w => (if c.fails then none else some w.made, w)
  | .list, c, w => (if c.fails then none else some (recordNames w.names), w)
  | .read name, c, w =>
    (if c.fails then none else (w.records.current.find name).map Entry.text, w)

/-- What a failure of the machine makes of a content. -/
def Entry.Decays (e e' : Entry ι) : Prop :=
  e'.serial = e.serial ∧ e'.synced = e.synced ∧ (e.synced = true → e'.text = e.text)

/-- A failure of the machine. Each name is left with a content that it had since the directory was last
synchronised; a content that was not itself synchronised may be anything. A directory that is not lasting
may be gone with all that is in it. -/
structure Fails (w w' : World ι) : Prop where
  records : ∃ d, w'.records = Volume.start d ∧
    (w.records.Survives Entry.Decays d ∨ (w.madeLasting = false ∧ d = []))
  root : w.directories.rootLasting = true → w'.directories.root = true
  made : w.madeLasting = true → w'.made = true
  found : w'.directories.rootLasting = w'.directories.root ∧
    w'.directories.journalLasting = w'.directories.journal ∧
    (w'.directories.journal = true → w'.directories.root = true)
  tokens : w.nextToken ≤ w'.nextToken ∧ w'.nextSerial = w.nextSerial
  temporaries : ∀ t ∈ w'.temporaries, t.token < w.nextToken
  distinct : (w'.temporaries.map Temporary.token).Nodup
  unlocked : w'.exclusive = none ∧ w'.shared = []

end StorageNode.RepairJournal
