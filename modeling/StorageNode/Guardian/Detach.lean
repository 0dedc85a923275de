import Mathlib.Data.List.Basic

/-!
# Detaching a storage target

`unmount_target`, which a storage helper runs. It tries the clean command of the target's type first
and lazy commands after it. The caller learns only whether the target was detached in the end:
`unmountTarget` keeps the way in which it happened, and the helper's exit code does not.
-/

set_option autoImplicit false

namespace StorageNode.Guardian

/-- The types of storage targets. -/
inductive TargetType where
  | path
  | cifs
  | sshfs
  | block
  deriving DecidableEq

/-- How a target came to be detached. -/
inductive Detach where
  | path
  | notMounted
  | clean
  | lazy
  deriving DecidableEq

/-- One unmount command: its exit status, its output, and whether the mount was gone afterwards. -/
structure UnmountCommand where
  succeeded : Bool := true
  detail : String := ""
  gone : Bool := true

/-- What the steps of `unmount_target` meet. `cleanup` is the error of `_stop_sshfs_process` or
`prepare_barrier`, if there is one. -/
structure UnmountOutcomes where
  type : TargetType := .cifs
  mounted : Bool := true
  clean : UnmountCommand := {}
  lazyFuse : UnmountCommand := {}
  lazyUmount : UnmountCommand := {}
  cleanup : Option String := none

/-- A command that detached the target. -/
def UnmountCommand.detached (c : UnmountCommand) : Bool :=
  c.succeeded && c.gone

/-- `errors.append(detail)`, if there is any. -/
def UnmountCommand.note (c : UnmountCommand) : List String :=
  if c.detail = "" then [] else [c.detail]

/-- The lazy commands of a type, in order. -/
def UnmountOutcomes.lazyCommands (o : UnmountOutcomes) : List UnmountCommand :=
  (if o.type = .sshfs then [o.lazyFuse] else []) ++ [o.lazyUmount]

/-- The loop over the lazy commands: the errors so far, or success. -/
def tryLazily : List UnmountCommand → List String → Except (List String) Unit
  | [], errors => .error errors
  | c :: cs, errors => if c.detached then .ok () else tryLazily cs (errors ++ c.note)

/-- The end of `unmount_target`. -/
def UnmountOutcomes.cleanUp (o : UnmountOutcomes) (how : Detach) : Except String Detach :=
  match o.cleanup with
  | none => .ok how
  | some error => .error error

/-- `unmount_target`. -/
def unmountTarget (mountpoint : String) (o : UnmountOutcomes) : Except String Detach :=
  if o.type = .path then .ok .path
  else if o.mounted = false then o.cleanUp .notMounted
  else if o.clean.detached then o.cleanUp .clean
  else
    match tryLazily o.lazyCommands o.clean.note with
    | .ok () => o.cleanUp .lazy
    | .error [] => .error ("failed to unmount " ++ mountpoint)
    | .error errors => .error ("; ".intercalate errors)

end StorageNode.Guardian
