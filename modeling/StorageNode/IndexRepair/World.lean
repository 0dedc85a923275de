import StorageNode.IndexRepair.Transaction

/-!
# The world of one volume

The state that the repair controller works on, for one volume: its journal records, its files, a
clock, and the copies that `request_retry` calls have loaded and not saved yet. `repairExec` says
what each request of the controller does. Every request may fail, before or after its effect; a
build helper may return anything, and the tail helper runs `recoverIncompleteTail` and may be killed
at any of its steps. `log` records what happened and is read by no program.

Volumes share no transaction and no file, so the controller's whole state is one such world per
volume (`IndexRepair.Controller`).
-/

set_option autoImplicit false

namespace StorageNode.IndexRepair

open StorageNode.Program StorageNode.IndexHelper

variable {D : Type}

/-- The fields of a helper's JSON output that the controller reads. `candidate` says that the output
names the staged candidate. -/
structure HelperPayload (D : Type) where
  success : Bool := true
  manualInterventionRequired : Bool := false
  error : String := ""
  readonlyMountVerified : Bool := true
  writeRejected : Bool := true
  sourceFingerprintBefore : Option (RawFingerprint D) := none
  sourceFingerprintAfter : Option (RawFingerprint D) := none
  candidate : Bool := true
  candidateSize : Option Nat := none
  candidateSha256 : Option D := none
  candidateBounds : Option Bounds := none

/-- How a helper process ended. `invalid` is output that is not a JSON object. -/
inductive HelperProcess (D : Type) where
  | spawnFailed
  | timeout
  | invalid
  | output (returncode : Int) (payload : HelperPayload D)

/-- How a tail helper process ended. -/
inductive TailProcess (D : Type) where
  | spawnFailed
  | timeout
  | invalid
  | failed (error : String)
  | recovered (offset tailSize : Nat) (tailSha256 : D) (needleId : Nat)
      (sourceFingerprintAfter : RawFingerprint D)

/-- What a journal save is for. A new record carries whether the repair that creates it consumed an
operator authorization. -/
inductive SaveKind where
  | create (authorized : Bool)
  | transition
  | consume
  | retry
  deriving DecidableEq

/-- What happened, newest first. -/
inductive Event (D : Type) where
  | saved (kind : SaveKind) (t : Transaction D)
  | build (id : TxId) (fingerprint : SourceFingerprint D)
  | built (id : TxId) (payload : HelperPayload D)
  | truncated (id : TxId) (offset : Nat) (tail : Bytes)

/-- The state of one volume. -/
structure World (D : Type) where
  journal : List (Transaction D) := []
  files : Path → Option Node
  clock : Nat := 0
  nextSerial : Nat := 0
  operators : List (Transaction D) := []
  log : List (Event D) := []

/-- Set one file. -/
def World.setFile (w : World D) (p : Path) (node : Option Node) : World D :=
  { w with files := fun q => if q = p then node else w.files q }

/-- Write one journal record. -/
def World.saveRecord (w : World D) (kind : SaveKind) (t : Transaction D) : World D :=
  { w with journal := saveTransaction w.journal t, log := .saved kind t :: w.log }

/-- The contents of a file. -/
def World.contents (w : World D) (p : Path) : Option Bytes :=
  ((w.files p).bind Node.read).map Prod.fst

theorem World.contents_congr {w w' : World D} {p : Path} (h : w'.files p = w.files p) :
    w'.contents p = w.contents p := by
  simp only [World.contents, h]

/-- The requests of the controller. -/
inductive RepairReq (D : Type) where
  | now
  | uuid (base : Base)
  | scratchName (base : Base)
  | load
  | save (kind : SaveKind) (t : Transaction D)
  | node (p : Path)
  | hash (p : Path)
  | unlink (p : Path)
  | copy (source destination : Path) (mode : Option Nat)
  | link (source destination : Path)
  | replace (source destination : Path)
  | sync
  | removeStaging (id : TxId)
  | preflight
  | build (id : TxId) (fingerprint : SourceFingerprint D)
  | recoverTail (id : TxId) (expected : Option (RawFingerprint D)) (maximumTailBytes : Int)
  deriving DecidableEq

/-- Answer types. `none` and `false` stand for an `OSError`. -/
def RepairReq.Ans : RepairReq D → Type
  | .now => Nat
  | .uuid _ => TxId
  | .scratchName _ => TxId
  | .load => Option (List (Transaction D))
  | .save _ _ => Bool
  | .node _ => Option Node
  | .hash _ => Option (Artifact D)
  | .unlink _ => Bool
  | .copy _ _ _ => Bool
  | .link _ _ => Bool
  | .replace _ _ => Bool
  | .sync => Bool
  | .removeStaging _ => Unit
  | .preflight => HelperProcess D
  | .build _ _ => HelperProcess D
  | .recoverTail _ _ _ => TailProcess D

/-- Whether a request fails, and whether it took effect first. -/
inductive Fault where
  | none
  | before
  | after
  deriving DecidableEq

/-- What happens to the report of a tail helper: nothing, no process was started, or it was lost. -/
inductive TailFault where
  | none
  | spawnFailed
  | lost
  deriving DecidableEq

/-- One decision of the environment. -/
structure RepairChoice (D : Type) where
  fault : Fault := .none
  torn : Nat := 0
  elapsed : Nat := 0
  helper : HelperProcess D := .timeout
  staged : Option Node := none
  tailMtimeNs : Nat := 0
  tailChoices : List (HelperChoice D) := []
  tailFault : TailFault := .none

/-- A change of the world that may fail before or after it happens. -/
def attempted (c : RepairChoice D) (w w' : World D) : Bool × World D :=
  match c.fault with
  | .none => (true, w')
  | .before => (false, w)
  | .after => (false, w')

/-- `copyfileobj` into a new file. A failed copy leaves a part of the contents. -/
def copied (c : RepairChoice D) (w : World D) (source destination : Path) (mode : Option Nat) :
    Bool × World D :=
  match (w.files source).bind Node.read, w.files destination with
  | some (contents, sourceMode), none =>
    let write (bytes : Bytes) := w.setFile destination (some (.file bytes (mode.getD sourceMode)))
    match c.fault with
    | .none => (true, write contents)
    | .before => (false, write (contents.take c.torn))
    | .after => (false, write contents)
  | _, _ => (false, w)

/-- The state in which the tail helper starts. -/
def tailStart (w : World D) (c : RepairChoice D) (id : TxId) (source : Bytes) : HelperState D where
  source := source
  mtimeNs := c.tailMtimeNs
  liveIndex := w.contents (.liveIdx id.base)
  candidate := w.contents (.candidate id)
  tailBackup := (w.files (.incompleteTail id)).map fun node => match node with
    | .file contents _ => .file contents
    | .symlink _ => .symlink

/-- The answer that corresponds to the outcome of the tail helper. A helper that is cut off was
killed at the timeout. -/
def tailAnswer : Outcome HelperExc (TailResult D) → TailProcess D
  | .ok (.recovered offset tailSize tailSha256 needleId after) =>
      .recovered offset tailSize tailSha256 needleId after
  | .ok (.failed error) => .failed error
  | .raised _ => .invalid
  | .crashed => .timeout

/-- The world after the tail helper: the data file, the tail backup and the staged candidate are
those of the helper's final state. -/
def tailEnd (w : World D) (id : TxId) (mode : Nat) (before after : HelperState D) : World D :=
  let backup := after.tailBackup.map fun node => match node with
    | .file contents => Node.file contents 0o600
    | .symlink => .symlink none
    | .special => .symlink none
  let w := w.setFile (.dat id.base) (some (.file after.source mode))
  let w := if after.tailBackup = before.tailBackup then w else w.setFile (.incompleteTail id) backup
  let w := w.setFile (.candidate id) (after.candidate.map fun contents => .file contents 0o644)
  if after.source = before.source then w
  else { w with
    log := .truncated id after.source.length (before.source.drop after.source.length) :: w.log }

variable [DecidableEq D]

/-- The effect of a request. -/
def repairExec (sha256 : Bytes → D) :
    (r : RepairReq D) → RepairChoice D → World D → r.Ans × World D
  | .now, c, w => (w.clock + 1 + c.elapsed, { w with clock := w.clock + 1 + c.elapsed })
  | .uuid base, _, w => (⟨base, w.nextSerial⟩, { w with nextSerial := w.nextSerial + 1 })
  | .scratchName base, _, w => (⟨base, w.nextSerial⟩, { w with nextSerial := w.nextSerial + 1 })
  | .load, c, w => (if c.fault = .none then some w.journal else none, w)
  | .save kind t, c, w => attempted c w (w.saveRecord kind t)
  | .node p, _, w => (w.files p, w)
  | .hash p, c, w =>
      (if c.fault = .none then
        ((w.files p).bind Node.read).map fun (contents, mode) => ⟨digestOf sha256 contents, mode⟩
        else none, w)
  | .unlink p, c, w => attempted c w (w.setFile p none)
  | .copy source destination mode, c, w => copied c w source destination mode
  | .link source destination, c, w =>
      match w.files source, w.files destination with
      | some node, none => attempted c w (w.setFile destination (some node))
      | _, _ => (false, w)
  | .replace source destination, c, w =>
      match w.files source with
      | some node => attempted c w ((w.setFile destination (some node)).setFile source none)
      | none => (false, w)
  | .sync, c, w => (decide (c.fault = .none), w)
  | .removeStaging id, c, w =>
      ((), if c.fault = .none then w.setFile (.candidate id) none else w)
  | .preflight, c, w => (c.helper, w)
  | .build id fingerprint, c, w =>
      let w := w.setFile (.candidate id) c.staged
      let w := { w with log := .build id fingerprint :: w.log }
      (c.helper, match c.helper with
        | .output _ payload => { w with log := .built id payload :: w.log }
        | _ => w)
  | .recoverTail id expected maximumTailBytes, c, w =>
      match c.tailFault, (w.files (.dat id.base)).bind Node.read with
      | .spawnFailed, _ => (.spawnFailed, w)
      | _, none => (.invalid, w)
      | fault, some (source, mode) =>
        let before := tailStart w c id source
        let finish := (recoverIncompleteTail sha256 ⟨expected, maximumTailBytes⟩).run
          (helperExec sha256) c.tailChoices before
        (if fault = .lost then .timeout else tailAnswer finish.1, tailEnd w id mode before finish.2)

/-! ## Steps that are not the controller's -/

/-- One half of a `request_retry` call: it loads the latest blocked record, and later saves its
copy with the request set. -/
inductive OperatorStep : World D → World D → Prop
  | load (w : World D) (t : Transaction D)
      (h : latestOf (w.journal.filter fun x => x.phase = .manualInterventionRequired) = some t) :
      OperatorStep w { w with operators := t :: w.operators }
  | save (w : World D) (t : Transaction D) (elapsed : Nat) (others later : List (Transaction D))
      (h : w.operators = others ++ t :: later) :
      OperatorStep w (World.saveRecord
        { w with clock := w.clock + 1 + elapsed, operators := others ++ later } .retry
        { t with
          operatorRetryRequestedAt := some (w.clock + 1 + elapsed)
          operatorRetryConsumed := false })

/-- An undisturbed `request_retry` call. -/
def requestRetry (w : World D) : Option (World D) :=
  (latestOf (w.journal.filter fun x => x.phase = .manualInterventionRequired)).map fun t =>
    World.saveRecord { w with clock := w.clock + 1 } .retry
      { t with operatorRetryRequestedAt := some (w.clock + 1), operatorRetryConsumed := false }

omit [DecidableEq D] in
theorem requestRetry_steps {w w' : World D} (h : requestRetry w = some w') :
    Relation.ReflTransGen OperatorStep w w' := by
  obtain ⟨t, ht, rfl⟩ := Option.map_eq_some_iff.1 h
  exact .tail (.single (.load w t ht)) (.save { w with operators := t :: w.operators } t 0 [] w.operators rfl)

/-- SeaweedFS writes its own files while no controller operation runs. -/
inductive OutsideWrite : World D → World D → Prop
  | write (w : World D) (p : Path) (node : Option Node)
      (h : ∃ base, p = .dat base ∨ p = .liveIdx base ∨ p = .liveSdx base) :
      OutsideWrite w (w.setFile p node)

end StorageNode.IndexRepair
