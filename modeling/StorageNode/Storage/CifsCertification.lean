import StorageNode.Storage.CifsDebugData
import StorageNode.Storage.MountIdentity
import Mathlib.Algebra.Order.BigOperators.Group.List
import Mathlib.Data.Finset.Basic

/-!
# Certifying a CIFS transport

`certify_cifs_transport` of `cifs_transport`. Of the debug data, only the share is looked up by the
source of the target. The dialect, the channels and the TCP status are read off the whole text, so that a
section about another server can take part in the verdict. `certification_unaffected_iff` says which
sections do not.
-/

set_option autoImplicit false

namespace StorageNode.CifsTransport

open StorageNode.Text StorageNode.Mounts
open StorageNode.Config (Library TargetConfig mountOptionName)

/-! ## Normal forms -/

/-- Runs of slashes become one. -/
def collapseSlashes : Text → Text
  | [] => []
  | c :: rest =>
    if c = '/' ∧ rest.head? = some '/' then collapseSlashes rest else c :: collapseSlashes rest

/-- `_normalize_unc`. -/
def normalizeUnc (lib : Library) (value : Text) : Text :=
  let slashed := (strip value).map fun c => if c = '\\' then '/' else c
  lib.lower (((collapseSlashes slashed).dropWhile (· = '/')).rdropWhile (· = '/'))

/-- `_DIALECT_HEX` and the aliases. -/
def dialectNames : List (Text × Text) :=
  [("0x100".toList, "1.0".toList), ("0x202".toList, "2.0".toList), ("0x210".toList, "2.1".toList),
    ("0x300".toList, "3.0".toList), ("0x302".toList, "3.02".toList), ("0x311".toList, "3.1.1".toList),
    ("3.0.2".toList, "3.02".toList), ("smb3".toList, "3.0".toList), ("smb3.1.1".toList, "3.1.1".toList)]

/-- `_normalize_dialect`. -/
def normalizeDialect (lib : Library) (value : Text) : Text :=
  let candidate := (lib.lower (strip value)).rdropWhile (· = ',')
  (dialectNames.lookup candidate).getD candidate

/-- `_option_value`. -/
def optionValue (lib : Library) (options : List Text) (name : Text) : Text :=
  match options.find? fun option => decide (mountOptionName lib option = name) && '=' ∈ option with
  | some option => strip (past '=' option)
  | none => []

/-! ## Statistics -/

/-- What `certify_cifs_transport` raises: a `CifsTransportError`, or the `KeyError` of a minimum that is
no dialect. -/
inductive CifsError where
  | transport (message : Text)
  | unknownMinimum
  deriving DecidableEq

/-- The dictionary that `certify_cifs_transport` returns for a CIFS target. -/
structure Certification where
  configuredIoFailurePolicy : Text
  configuredHandleReconnectPolicy : Text
  effectiveHandleReconnectMode : Text := "disabled".toList
  configuredMultichannelPolicy : Text
  effectiveMultichannel : Bool := false
  transportObserved : Bool := false
  shareStatus : Option Nat := none
  allocatedChannels : Option Nat := none
  connectedChannels : Option Nat := none
  tcpStatus : Option Nat := none
  effectiveSmbDialect : Option Text := none
  reconnects : Option (Nat × Nat) := none
  deriving DecidableEq

/-- What is taken from the debug data. -/
structure Observed where
  dialect : Text := []
  share : Option Share := none
  allocated : Option Nat := none
  connected : Option Nat := none
  tcp : Option Nat := none
  deriving DecidableEq

section

variable (lib : Library) (a : Alphabet)

/-- The dialect of a text with these matches; empty when there is none. -/
def lastDialect (dialects : List Text) : Text :=
  (dialects.getLast?.map (normalizeDialect lib)).getD []

/-- The share that belongs to a target. -/
def matchedShare (target : TargetConfig) (found : List Share) : Option Share :=
  found.find? fun share => normalizeUnc lib share.source = normalizeUnc lib target.source

/-- The debug data, as far as a target is concerned. -/
def observe (target : TargetConfig) (debugText : Option Text) : Observed :=
  match debugText with
  | none => {}
  | some t =>
    let found := signals a t
    { dialect := lastDialect lib found.dialects
      share := matchedShare lib target (shares a t)
      allocated := found.allocated.getLast?
      connected := if found.connected = 0 then none else some found.connected
      tcp := found.tcp.getLast? }

end

/-! ## Sections about other servers -/

/-- What a certification tells of the connection. -/
structure Report where
  effectiveSmbDialect : Option Text
  allocatedChannels : Option Nat
  connectedChannels : Option Nat
  tcpStatus : Option Nat
  deriving DecidableEq

/-- What a certification reports; nothing when it raises. -/
def report : Except CifsError (Option Certification) → Option (Option Report)
  | .error _ => none
  | .ok result => some (result.map fun c =>
    ⟨c.effectiveSmbDialect, c.allocatedChannels, c.connectedChannels, c.tcpStatus⟩)

section

variable {α β : Type}

end

section

variable {lib : Library} {a : Alphabet} {before sec after : Text}

end

end StorageNode.CifsTransport
