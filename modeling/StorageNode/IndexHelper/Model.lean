import StorageNode.IndexHelper.Bounds
import StorageNode.Program.Safety

/-!
# The index repair helper process

The helper runs in a mount namespace of its own. `buildCandidate` exposes one data file read-only,
runs the external index builder, and inspects the rebuilt index; `recoverIncompleteTail` repeats the
build, decides whether the data file ends in one incomplete record, copies that record to a backup
file and truncates the data file.

The state holds the data file, the live index, the rebuilt index and the tail backup, with what a
failure of the machine cannot take from that backup, together with the local variables of the process.
The environment decides the outcome of every mount command, what the builder leaves behind, and which
file operation fails; a run that is cut off between two requests is a helper killed at that point.
`sha256` is a parameter.
-/

set_option autoImplicit false

namespace StorageNode.IndexHelper

open StorageNode.Program

variable {D : Type}

/-- `FINGERPRINT_REGION_BYTES`. -/
def fingerprintRegionBytes : Nat := 1024 * 1024

/-- The value of `fingerprint`: size, modification time, and digests of the first and the last
region of the file. -/
structure RawFingerprint (D : Type) where
  size : Nat
  mtimeNs : Nat
  headBytes : Nat
  headSha256 : D
  tailOffset : Nat
  tailBytes : Nat
  tailSha256 : D
  deriving DecidableEq, Repr

/-- `fingerprint` of a file that does not change while it is read. -/
def fingerprintOf (sha256 : Bytes → D) (contents : Bytes) (mtimeNs : Nat) : RawFingerprint D :=
  let head := contents.take fingerprintRegionBytes
  let tailOffset := contents.length - fingerprintRegionBytes
  let tail := (contents.drop tailOffset).take fingerprintRegionBytes
  { size := contents.length, mtimeNs := mtimeNs, headBytes := head.length, headSha256 := sha256 head,
    tailOffset := tailOffset, tailBytes := tail.length, tailSha256 := sha256 tail }

/-- Exceptions inside the helper: `OSError`, `RepairHelperError`, and the lookup errors that the
source does not handle in `build_candidate`. -/
inductive HelperExc where
  | os
  | helper (message : String)
  | lookup
  deriving DecidableEq, Repr

/-- The parts of `stat` that the helper compares. -/
structure SourceStat where
  regular : Bool := true
  mode : Nat := 0o644
  uid : Nat := 0
  gid : Nat := 0
  deriving DecidableEq, Repr

/-- The external commands of the helper. -/
inductive Command where
  | bindMount
  | remountReadonly
  | findmnt
  | bindfs
  | umount
  | writeProbe
  | weedFix
  deriving DecidableEq, Repr

/-- The result of a command. `mountState` is the last output line of `findmnt`, absent when the
command printed nothing. -/
structure CommandResult where
  returncode : Int := 0
  mountState : Option (String × List String) := some ("fuse", ["ro"])
  stderr : String := ""
  deriving DecidableEq, Repr

/-- File operations on the staging area and on directories. They may fail; what they leave behind
is never read back. `syncBackup` is the `fsync` of a new tail backup and of its directory. -/
inductive FsStep where
  | prepareStaging
  | unlinkStale
  | makePrivateDirs
  | touchMountpoint
  | syncCandidate
  | unlinkMountpoint
  | removePrivateDir
  | prepareBackupDir
  | syncBackup
  | syncSource
  deriving DecidableEq, Repr

/-- What stands at the tail-backup path. -/
inductive TailNode where
  | symlink
  | special
  | file (contents : Bytes)
  deriving DecidableEq, Repr

/-- The dictionary `result` of `build_candidate`. -/
structure BuildResult (D : Type) where
  readonlyMountVerified : Bool := false
  writeRejected : Bool := false
  sourceFingerprintBefore : Option (RawFingerprint D) := none
  sourceStatBefore : SourceStat := {}
  sourceFingerprintAfter : Option (RawFingerprint D) := none
  candidateBounds : Option Bounds := none
  manualInterventionRequired : Bool := false
  candidateSize : Option Nat := none
  candidateSha256 : Option D := none
  success : Bool := false
  error : String := ""
  deriving DecidableEq, Repr

/-- The local variables that outlive an exception in `build_candidate`. -/
structure Locals (D : Type) where
  result : BuildResult D := {}
  sourceMounted : Bool := false
  maskedMounted : Bool := false
  stagedMounted : Bool := false
  deriving DecidableEq, Repr

/-- The helper's files and local variables. `rebuilt` is the last index the builder left, and
`durableBackup` what is found at the tail-backup path after a failure of the machine. -/
structure HelperState (D : Type) where
  source : Bytes
  mtimeNs : Nat := 0
  stat : SourceStat := {}
  liveIndex : Option Bytes
  candidate : Option Bytes := none
  rebuilt : Option Bytes := none
  tailBackup : Option TailNode := none
  durableBackup : Option Bytes := none
  locals : Locals D := {}

/-- The contents of a regular tail backup. -/
def TailNode.contents : TailNode → Option Bytes
  | .file contents => some contents
  | .symlink | .special => none

/-- The requests of the helper. -/
inductive HelperReq (D : Type) where
  | locals
  | assign (f : Locals D → Locals D)
  | sourceIsSymlink
  | stagingIsSymlink
  | stat
  | fs (step : FsStep)
  | command (c : Command)
  | fingerprintSource
  | fingerprintStaged
  | candidateIsRegular
  | unlinkCandidate
  | readCandidate
  | readLiveIndex
  | readSource
  | readTail (offset count : Nat)
  | tailBackup
  | writeTailBackup (contents : Bytes)
  | truncate (offset : Nat)

/-- Answer types. `none` and `false` stand for an `OSError`. -/
def HelperReq.Ans : HelperReq D → Type
  | .locals => Locals D
  | .assign _ => Unit
  | .sourceIsSymlink => Bool
  | .stagingIsSymlink => Bool
  | .stat => Option SourceStat
  | .fs _ => Bool
  | .command _ => CommandResult
  | .fingerprintSource => Except HelperExc (RawFingerprint D)
  | .fingerprintStaged => Except HelperExc (RawFingerprint D)
  | .candidateIsRegular => Bool
  | .unlinkCandidate => Bool
  | .readCandidate => Option Bytes
  | .readLiveIndex => Option Bytes
  | .readSource => Option Bytes
  | .readTail _ _ => Option Bytes
  | .tailBackup => Option (Option TailNode)
  | .writeTailBackup _ => Bool
  | .truncate _ => Bool

/-- One decision of the environment. -/
structure HelperChoice (D : Type) where
  fault : Bool := false
  changed : Bool := false
  symlink : Bool := false
  command : CommandResult := {}
  stat : Option SourceStat := none
  staged : Option (RawFingerprint D) := none
  candidate : Option Bytes := none
  torn : Option Nat := none
  mtimeNs : Nat := 0

/-- The effect of a request. No request but `truncate` changes the data file, no request but
`writeTailBackup` changes the tail backup, and no request but `syncBackup` makes it durable. -/
def helperExec (sha256 : Bytes → D) :
    (r : HelperReq D) → HelperChoice D → HelperState D → r.Ans × HelperState D
  | .locals, _, h => (h.locals, h)
  | .assign f, _, h => ((), { h with locals := f h.locals })
  | .sourceIsSymlink, c, h => (c.symlink, h)
  | .stagingIsSymlink, c, h => (c.symlink, h)
  | .stat, c, h => (if c.fault then none else some (c.stat.getD h.stat), h)
  | .fs .syncBackup, c, h =>
      if c.fault then (false, h)
      else (true, { h with durableBackup := h.tailBackup.bind TailNode.contents })
  | .fs _, c, h => (!c.fault, h)
  | .command .weedFix, c, h => (c.command, { h with candidate := c.candidate, rebuilt := c.candidate })
  | .command _, c, h => (c.command, h)
  | .fingerprintSource, c, h =>
      (if c.fault then .error .os
        else if c.changed then .error (.helper "repair source changed while fingerprinting")
        else .ok (fingerprintOf sha256 h.source h.mtimeNs), h)
  | .fingerprintStaged, c, h =>
      (if c.fault then .error .os
        else .ok (c.staged.getD (fingerprintOf sha256 h.source h.mtimeNs)), h)
  | .candidateIsRegular, c, h => (h.candidate.isSome && !c.symlink, h)
  | .unlinkCandidate, c, h =>
      if c.fault then (false, h) else (true, { h with candidate := none })
  | .readCandidate, c, h => (if c.fault then none else h.candidate, h)
  | .readLiveIndex, c, h => (if c.fault then none else h.liveIndex, h)
  | .readSource, c, h => (if c.fault then none else some h.source, h)
  | .readTail offset count, c, h =>
      let raw := (h.source.drop offset).take count
      (if c.fault then none else some (match c.torn with
        | none => raw
        | some n => raw.take n), h)
  | .tailBackup, c, h => (if c.fault then none else some h.tailBackup, h)
  | .writeTailBackup contents, c, h =>
      match h.tailBackup, c.torn with
      | some _, _ => (false, h)
      | none, some n => (false, { h with tailBackup := some (.file (contents.take n)) })
      | none, none => (true, { h with tailBackup := some (.file contents) })
  | .truncate offset, c, h =>
      if c.fault then (false, h)
      else (true, { h with source := h.source.take offset, mtimeNs := c.mtimeNs })

/-- Helper programs. -/
abbrev HelperProg (D : Type) (α : Type) := Prog (HelperReq D) HelperReq.Ans HelperExc α

namespace HelperProg

/-! One program per request, at its answer type. -/

def locals : HelperProg D (Locals D) := Prog.ask HelperReq.locals
def assign (f : Locals D → Locals D) : HelperProg D Unit := Prog.ask (HelperReq.assign f)
def sourceIsSymlink : HelperProg D Bool := Prog.ask HelperReq.sourceIsSymlink
def stagingIsSymlink : HelperProg D Bool := Prog.ask HelperReq.stagingIsSymlink
def stat : HelperProg D (Option SourceStat) := Prog.ask HelperReq.stat
def tryFs (step : FsStep) : HelperProg D Bool := Prog.ask (HelperReq.fs step)
def command (c : Command) : HelperProg D CommandResult := Prog.ask (HelperReq.command c)
def fingerprintSource : HelperProg D (Except HelperExc (RawFingerprint D)) :=
  Prog.ask HelperReq.fingerprintSource
def fingerprintStaged : HelperProg D (Except HelperExc (RawFingerprint D)) :=
  Prog.ask HelperReq.fingerprintStaged
def candidateIsRegular : HelperProg D Bool := Prog.ask HelperReq.candidateIsRegular
def tryUnlinkCandidate : HelperProg D Bool := Prog.ask HelperReq.unlinkCandidate
def readCandidate : HelperProg D (Option Bytes) := Prog.ask HelperReq.readCandidate
def readLiveIndex : HelperProg D (Option Bytes) := Prog.ask HelperReq.readLiveIndex
def readSource : HelperProg D (Option Bytes) := Prog.ask HelperReq.readSource
def readTail (offset count : Nat) : HelperProg D (Option Bytes) :=
  Prog.ask (HelperReq.readTail offset count)
def tailBackup : HelperProg D (Option (Option TailNode)) := Prog.ask HelperReq.tailBackup
def writeTailBackup (contents : Bytes) : HelperProg D Bool :=
  Prog.ask (HelperReq.writeTailBackup contents)
def truncate (offset : Nat) : HelperProg D Bool := Prog.ask (HelperReq.truncate offset)

/-- An operation whose failure is an `OSError`. -/
def must (p : HelperProg D Bool) : HelperProg D Unit := do
  Prog.raiseIf (!(← p)) .os

/-- A read whose failure is an `OSError`. -/
def orOs {α : Type} (a : Option α) : HelperProg D α :=
  Prog.orRaise .os a

/-- A computation that raises `RepairHelperError`. -/
def orHelper {α : Type} : Except String α → HelperProg D α
  | .ok a => pure a
  | .error message => Prog.raise (.helper message)

/-- A fingerprint, or the exception it raised. -/
def orRaise {α : Type} : Except HelperExc α → HelperProg D α
  | .ok a => pure a
  | .error e => Prog.raise e

/-- Change the dictionary `result`. -/
def setResult (f : BuildResult D → BuildResult D) : HelperProg D Unit :=
  assign fun l => { l with result := f l.result }

/-- `_mount_readonly`. -/
def mountReadonly : HelperProg D Unit := do
  let bound ← command .bindMount
  Prog.raiseIf (bound.returncode ≠ 0) (.helper "unable to bind-mount repair source")
  let remounted ← command .remountReadonly
  Prog.when (remounted.returncode ≠ 0) do
    let _ ← command .umount
    Prog.raise (.helper "unable to remount repair source read-only")
  let found ← command .findmnt
  Prog.when (found.returncode ≠ 0) do
    let _ ← command .umount
    Prog.raise (.helper "unable to inspect repair source mount")
  match found.mountState with
  | none => Prog.raise .lookup
  | some (_, options) =>
    if "ro" ∈ options then pure ()
    else
      let _ ← command .umount
      Prog.raise (.helper "staged repair source is not read-only")

/-- `_mount_masked_view`. -/
def mountMaskedView : HelperProg D Unit := do
  let bound ← command .bindfs
  Prog.raiseIf (bound.returncode ≠ 0) (.helper "unable to create permission-masked repair view")
  let found ← command .findmnt
  Prog.when (found.returncode ≠ 0) do
    let _ ← command .umount
    Prog.raise (.helper "unable to inspect permission-masked repair view")
  match found.mountState with
  | none => Prog.raise .lookup
  | some (fstype, options) =>
    if fstype = "fuse" ∧ "ro" ∈ options then pure ()
    else
      let _ ← command .umount
      Prog.raise (.helper "permission-masked repair view is not read-only FUSE")

/-- `_prove_write_rejected`. -/
def proveWriteRejected : HelperProg D Unit := do
  let probe ← command .writeProbe
  Prog.raiseIf (probe.returncode = 0)
    (.helper "write unexpectedly succeeded through staged read-only .dat exposure")

/-- `inspect_index_bounds` on an index that was read and on the current data file. -/
def inspect (index : Option Bytes) : HelperProg D Bounds := do
  let source ← readSource
  let source ← orOs source
  let index ← orOs index
  orHelper (inspectIndexBounds index source)

variable [DecidableEq D]

/-- The part of `build_candidate` that exposes the data file read-only and proves it. It returns
the fingerprint seen through the exposure. -/
def exposeSource : HelperProg D (RawFingerprint D) := do
  Prog.raiseIf (← sourceIsSymlink) (.helper "repair source may not be a symlink")
  let info ← stat
  let info ← orOs info
  Prog.raiseIf (!info.regular) (.helper "repair source is not a regular file")
  must <| tryFs .prepareStaging
  Prog.raiseIf (← stagingIsSymlink) (.helper "unsafe stale repair path")
  must <| tryFs .unlinkStale
  must <| tryFs .makePrivateDirs
  let before ← fingerprintSource
  let before ← orRaise before
  setResult fun r => { r with sourceFingerprintBefore := some before, sourceStatBefore := info }
  mountReadonly
  assign fun l => { l with sourceMounted := true }
  mountMaskedView
  assign fun l => { l with maskedMounted := true }
  must <| tryFs .touchMountpoint
  mountReadonly
  assign fun l => { l with stagedMounted := true }
  setResult fun r => { r with readonlyMountVerified := true }
  proveWriteRejected
  setResult fun r => { r with writeRejected := true }
  let staged ← fingerprintStaged
  let staged ← orRaise staged
  Prog.raiseIf (staged ≠ before)
    (.helper "staged read-only view does not match the authoritative .dat fingerprint")
  pure staged

/-- Record the fingerprint after the build and check that ownership and mode are unchanged. -/
def checkUnchanged (message : String) (cleanup : HelperProg D Unit) :
    HelperProg D (RawFingerprint D) := do
  let after ← fingerprintSource
  let after ← orRaise after
  setResult fun r => { r with sourceFingerprintAfter := some after }
  let info ← stat
  let info ← orOs info
  let l ← locals
  let before := l.result.sourceStatBefore
  Prog.when (info.mode ≠ before.mode ∨ info.uid ≠ before.uid ∨ info.gid ≠ before.gid) do
    cleanup
    Prog.raise (.helper message)
  pure after

/-- `candidate.unlink(missing_ok=True)`. -/
def unlinkCandidate : HelperProg D Unit :=
  must tryUnlinkCandidate

/-- The part of `build_candidate` that runs the builder and inspects what it left. -/
def reconstruct (sha256 : Bytes → D) (before : RawFingerprint D) : HelperProg D Unit := do
  let weed ← command .weedFix
  let after ← checkUnchanged
    "authoritative .dat ownership or permissions changed during reconstruction" unlinkCandidate
  Prog.when (before ≠ after) do
    unlinkCandidate
    Prog.raise (.helper "authoritative .dat changed during candidate reconstruction")
  Prog.when (weed.returncode ≠ 0) do
    unlinkCandidate
    Prog.raise (.helper "weed fix failed")
  Prog.raiseIf (!(← candidateIsRegular)) (.helper "weed fix did not create the expected candidate")
  let candidate ← readCandidate
  let bounds ← inspect candidate
  setResult fun r => { r with candidateBounds := some bounds }
  Prog.when (!bounds.valid) do
    unlinkCandidate
    setResult fun r => { r with manualInterventionRequired := true }
    Prog.raise (.helper "candidate index references bytes past authoritative .dat EOF")
  let contents ← orOs candidate
  must <| tryFs .syncCandidate
  setResult fun r => { r with
    candidateSize := some contents.length
    candidateSha256 := some (sha256 contents)
    success := true }

/-- A failed unmount or removal in the `finally` block of `build_candidate`. -/
def spoil (message : String) : HelperProg D Unit :=
  setResult fun r => { r with success := false, error := message }

/-- Unmount in the `finally` block. -/
def release (mounted : Bool) (message : String) : HelperProg D Unit := do
  Prog.when mounted do
    let unmounted ← command .umount
    Prog.when (unmounted.returncode ≠ 0) (spoil message)

/-- The `finally` block of `build_candidate`. -/
def unstage : HelperProg D Unit := do
  let l ← locals
  release l.stagedMounted "unable to unmount staged repair source"
  must <| tryFs .unlinkMountpoint
  release l.maskedMounted "unable to unmount permission-masked repair view"
  release l.sourceMounted "unable to unmount authoritative repair source"
  must <| tryFs .unlinkMountpoint
  Prog.forEach ["unable to remove private repair mount directory: .masked",
      "unable to remove private repair mount directory: .source"] fun message => do
    let removed ← tryFs .removePrivateDir
    Prog.when (!removed) (spoil message)

end HelperProg

open HelperProg

variable [DecidableEq D]

/-- `build_candidate`. `OSError` and `RepairHelperError` end in a result without `success`; other
exceptions escape, after the `finally` block. -/
def buildCandidate (sha256 : Bytes → D) (fingerprintOnly : Bool) : HelperProg D (BuildResult D) := do
  assign fun _ => {}
  let body : HelperProg D Unit := do
    let before ← exposeSource
    if fingerprintOnly then
      let _ ← checkUnchanged
        "authoritative .dat ownership or permissions changed during staging" (pure ())
      setResult fun r => { r with success := true }
    else reconstruct sha256 before
  (body.catchWith fun e => match e with
    | .os => setResult fun r => { r with success := false, error := "OSError" }
    | .helper message => setResult fun r => { r with success := false, error := message }
    | .lookup => Prog.raise .lookup).andFinally unstage
  let l ← locals
  pure l.result

/-- The arguments of a tail recovery. `expected` is absent when the argument is not a fingerprint
object. -/
structure TailArgs (D : Type) where
  expected : Option (RawFingerprint D)
  maximumTailBytes : Int
  deriving DecidableEq, Repr

/-- The dictionary that `recover_incomplete_tail` prints. -/
inductive TailResult (D : Type) where
  | recovered (offset tailSize : Nat) (tailSha256 : D) (needleId : Nat) (after : RawFingerprint D)
  | failed (error : String)
  deriving DecidableEq, Repr

/-- The violation of a candidate that has exactly one. -/
def soleViolation (b : Bounds) : Option Violation :=
  match b.violations with
  | [violation] => some violation
  | _ => none

/-- The boundary test that the helper and the controller share: a positive offset inside the file,
within the byte limit, at the greatest counted offset, with every contained entry below it. -/
def boundedTail (b : Bounds) (violation : Violation) (maximumTailBytes : Int) : Bool :=
  let tailSize : Int := (b.sourceSize : Int) - violation.offset
  !(decide (violation.offset ≤ 0) || decide (tailSize ≤ 0) || decide (tailSize > maximumTailBytes) ||
    decide (b.maximumEntryOffset ≠ violation.offset) ||
    decide (b.maximumValidNeedleEnd > violation.offset))

/-- Copy the tail to the backup path, or accept a file with the same length and digest. -/
def storeTail (sha256 : Bytes → D) (tail : Bytes) : HelperProg D Unit := do
  match ← orOs (← tailBackup) with
  | some .symlink => Prog.raise (.helper "tail backup may not be a symlink")
  | some .special => Prog.raise (.helper "tail backup is not a regular file")
  | some (.file existing) =>
    Prog.raiseIf (existing.length ≠ tail.length ∨ sha256 existing ≠ sha256 tail)
      (.helper "existing tail backup does not match the authoritative tail")
  | none =>
    must <| writeTailBackup tail
    must <| tryFs .syncBackup

/-- Read the tail backup back and compare digests. -/
def verifyTail (sha256 : Bytes → D) (tail : Bytes) : HelperProg D Unit := do
  match ← orOs (← tailBackup) with
  | some (.file written) =>
    Prog.raiseIf (sha256 written ≠ sha256 tail) (.helper "tail backup hash verification failed")
  | _ => Prog.raise .os

/-- Check that the data file still has the expected fingerprint. -/
def requireFingerprint (expected : RawFingerprint D) (message : String) : HelperProg D Unit := do
  let current ← orRaise (← fingerprintSource)
  Prog.raiseIf (current ≠ expected) (.helper message)

/-- `recover_incomplete_tail` after the build: prove the boundary, preserve the tail, truncate. -/
def truncateTail (sha256 : Bytes → D) (args : TailArgs D) (result : BuildResult D) :
    HelperProg D (TailResult D) := do
  let expected ← Prog.orRaise (.helper "expected source fingerprint is not an object") args.expected
  Prog.raiseIf (result.success ∨ !result.manualInterventionRequired)
    (.helper "source does not contain a rejected incomplete-tail candidate")
  let bounds ← Prog.orRaise (.helper "candidate bounds are unavailable") result.candidateBounds
  let violation ← Prog.orRaise (.helper "candidate does not contain exactly one incomplete record")
    (soleViolation bounds)
  Prog.raiseIf (!boundedTail bounds violation args.maximumTailBytes)
    (.helper "candidate does not prove a bounded final-record tail")
  let offset := violation.offset
  let tailSize := bounds.sourceSize - offset
  let liveBounds ← inspect (← readLiveIndex)
  Prog.raiseIf (!liveBounds.valid ∨ liveBounds.maximumNeedleEnd > offset)
    (.helper "live index is inconsistent with the proven tail boundary")
  requireFingerprint expected "authoritative source fingerprint changed before tail recovery"
  let tail ← orOs (← readTail offset (tailSize + 1))
  Prog.raiseIf (tail.length ≠ tailSize)
    (.helper "could not read the complete incomplete-record tail")
  must <| tryFs .prepareBackupDir
  storeTail sha256 tail
  verifyTail sha256 tail
  requireFingerprint expected "authoritative source fingerprint changed after tail backup"
  must <| truncate offset
  must <| tryFs .syncSource
  let recovered ← orRaise (← fingerprintSource)
  Prog.raiseIf (recovered.size ≠ offset)
    (.helper "incomplete-tail truncation did not reach the proven boundary")
  pure (.recovered offset tailSize (sha256 tail) violation.needleId recovered)

/-- `recover_incomplete_tail`. The build runs outside the handler, as in the source. -/
def recoverIncompleteTail (sha256 : Bytes → D) (args : TailArgs D) : HelperProg D (TailResult D) := do
  let result ← buildCandidate sha256 false
  (truncateTail sha256 args result).catchWith fun e => match e with
    | .os => pure (.failed "OSError")
    | .helper message => pure (.failed message)
    | .lookup => pure (.failed "KeyError")

end StorageNode.IndexHelper
