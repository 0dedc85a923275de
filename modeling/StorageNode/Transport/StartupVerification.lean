import StorageNode.Transport.SelectorSafety
import StorageNode.Program.Machine

/-!
# Startup verification of all transports

Before the guardian mounts its storage it verifies every transport that is not quarantined, and
records the fingerprint of the configuration under which it did (`verifyAllTransportsOnStartup`).
Each call of the selector is atomic, but the pass as a whole holds no lock, so that operator commands
land between any two of its steps (`verificationMachine`).

`log` records what happened and is read by no program.
-/

set_option autoImplicit false

namespace StorageNode.Transport

open StorageNode.Program

variable {F D : Type}

/-! ## Fingerprints -/

/-- `_file_fingerprint`. -/
inductive FileFingerprint (D : Type) where
  | absent
  | missing
  | content (sha256 : D)
  deriving DecidableEq

/-- The primary target, as far as it enters the fingerprint. -/
structure PrimaryTarget where
  source : String
  credentialsFile : String
  mountOptions : List String
  ioFailurePolicy : String
  minimumSmbDialect : String
  handleReconnectPolicy : String
  multichannelPolicy : String
  maxChannels : Nat
  deriving DecidableEq

/-- The entry of an SSHFS transport in the fingerprint. -/
structure TransportPayload (D : Type) where
  name : String
  source : String
  authMode : AuthMode
  identity : FileFingerprint D
  credentials : FileFingerprint D
  knownHosts : FileFingerprint D
  port : Nat
  mountOptions : List String
  deriving DecidableEq

/-- The dictionary that `startup_verification_fingerprint` encodes. The primary target stands without
its credentials file, whose contents count. -/
structure FingerprintPayload (D : Type) where
  target : String
  primaryName : String
  primary : PrimaryTarget
  primaryCredentials : FileFingerprint D
  transports : List (TransportPayload D)
  deriving DecidableEq

/-- A configuration with the files that it names. -/
structure Deployment where
  target : String
  primary : PrimaryTarget
  failover : FailoverConfig
  read : String → Option (List UInt8)

namespace Deployment

def fileFingerprint (sha256 : List UInt8 → D) (d : Deployment) (path : String) : FileFingerprint D :=
  if path = "" then .absent
  else
    match d.read path with
    | none => .missing
    | some contents => .content (sha256 contents)

def transportPayload (sha256 : List UInt8 → D) (d : Deployment) (t : SshfsTransport) :
    TransportPayload D where
  name := t.name
  source := t.source
  authMode := t.authMode
  identity := d.fileFingerprint sha256 t.identityFile
  credentials := d.fileFingerprint sha256 t.credentialsFile
  knownHosts := d.fileFingerprint sha256 t.knownHostsFile
  port := t.port
  mountOptions := t.mountOptions

def payload (sha256 : List UInt8 → D) (d : Deployment) : FingerprintPayload D where
  target := d.target
  primaryName := d.failover.primaryName
  primary := { d.primary with credentialsFile := "" }
  primaryCredentials := d.fileFingerprint sha256 d.primary.credentialsFile
  transports := d.failover.transports.map (d.transportPayload sha256)

/-- `startup_verification_fingerprint`; `digest` is the hash of the encoded dictionary. -/
def fingerprint (sha256 : List UInt8 → D) (digest : FingerprintPayload D → F) (d : Deployment) : F :=
  digest (d.payload sha256)

/-- Deployments with the same fingerprint have the same transports. -/
theorem contains_of_fingerprint {sha256 : List UInt8 → D} {digest : FingerprintPayload D → F}
    (hdigest : Function.Injective digest) {d d' : Deployment}
    (h : d.fingerprint sha256 digest = d'.fingerprint sha256 digest) {name : String}
    (hname : d.failover.contains name) : d'.failover.contains name := by
  have hpayload := hdigest h
  have hnames : d.failover.transports.map SshfsTransport.name =
      d'.failover.transports.map SshfsTransport.name := by
    have := congrArg (fun p => p.transports.map TransportPayload.name) hpayload
    simpa [payload, transportPayload, Function.comp_def] using this
  have hprimary : d.failover.primaryName = d'.failover.primaryName :=
    congrArg FingerprintPayload.primaryName hpayload
  rw [FailoverConfig.contains_iff] at hname ⊢
  rwa [← hprimary, ← hnames]

end Deployment

/-! ## The pass -/

/-- The storage helpers that verify a transport. -/
inductive RouteCheck where
  | mount
  | prepare
  | probe
  | unmount
  deriving DecidableEq

/-- What happened, newest first. -/
inductive VerifyEvent (F : Type) where
  | began
  | checked (name : String)
  | passed (check : RouteCheck) (name : String) (fingerprint : F)
  | cleared (name : String)

/-- The state file, and what happened. -/
structure VerifyState (F : Type) where
  file : StateFile F := .missing
  log : List (VerifyEvent F) := []

/-- The requests of the pass. `pending` reads the flag that asks for it, `status` the quarantine set
before a transport is verified. -/
inductive VerifyReq (F : Type) where
  | pending
  | status (name : String)
  | publish
  | helper (check : RouteCheck) (name : String) (fingerprint : F)
  | record (fingerprint : F) (transports : List String)

/-- Answer types. `none` and `false` stand for an exception, except for `pending`. -/
def VerifyReq.Ans : VerifyReq F → Type
  | .pending => Bool
  | .status _ => Option (List String)
  | .publish => Bool
  | .helper _ _ _ => Bool
  | .record _ _ => Bool

/-- One decision of the environment. -/
structure VerifyChoice where
  ok : Bool := true
  now : Rat := 0
  io : Io := {}

/-- The effect of a request. -/
def verifyExec : (r : VerifyReq F) → VerifyChoice → VerifyState F → r.Ans × VerifyState F
  | .pending, c, s => (c.ok, { s with log := .began :: s.log })
  | .status name, c, s =>
      match if c.io.readable then s.file.load else .error .unreadable with
      | .error _ => (none, s)
      | .ok state => (some state.quarantined.keys, { s with log := .checked name :: s.log })
  | .publish, c, s => (c.ok, s)
  | .helper check name fingerprint, c, s =>
      (c.ok, if c.ok then { s with log := .passed check name fingerprint :: s.log } else s)
  | .record fingerprint transports, c, s =>
      let result := recordStartupVerification fingerprint transports c.now c.io s.file
      (result.1.isOk, { s with file := result.2 })

/-- Exceptions: of a storage helper, or of the selector. -/
inductive VerifyExc where
  | storage
  | selector

abbrev VerifyProg (F : Type) (α : Type) := Prog (VerifyReq F) VerifyReq.Ans VerifyExc α

namespace VerifyProg

def pending : VerifyProg F Bool := Prog.ask VerifyReq.pending
def status (name : String) : VerifyProg F (Option (List String)) := Prog.ask (VerifyReq.status name)
def tryPublish : VerifyProg F Bool := Prog.ask VerifyReq.publish
def tryHelper (check : RouteCheck) (name : String) (fingerprint : F) : VerifyProg F Bool :=
  Prog.ask (VerifyReq.helper check name fingerprint)
def tryRecord (fingerprint : F) (transports : List String) : VerifyProg F Bool :=
  Prog.ask (VerifyReq.record fingerprint transports)

/-- `_run_helper`. -/
def runHelper (check : RouteCheck) (name : String) (fingerprint : F) : VerifyProg F Unit := do
  Prog.raiseIf (!(← tryHelper check name fingerprint)) .storage

/-- `_publish_transport`. -/
def publishTransport : VerifyProg F Unit := do
  Prog.raiseIf (!(← tryPublish)) .selector

/-- `_verify_transport_on_startup`. -/
def verifyTransportOnStartup (fingerprint : F) (name : String) : VerifyProg F Unit := do
  publishTransport
  let verified ← Prog.attempt (do
    runHelper .mount name fingerprint
    runHelper .prepare name fingerprint
    runHelper .probe name fingerprint)
  let detached ← Prog.attempt (runHelper .unmount name fingerprint)
  match verified, detached with
  | .error e, _ => Prog.raise e
  | .ok (), .error e => Prog.raise e
  | .ok (), .ok () => pure ()

/-- The loop of `_verify_all_transports_on_startup`, with its record. -/
def verifyEach (fingerprint : F) : List String → List String → VerifyProg F Unit
  | [], verified => do
    Prog.raiseIf (!(← tryRecord fingerprint verified)) .selector
  | name :: names, verified => do
    let quarantined ← Prog.orRaise .selector (← status name)
    if name ∈ quarantined then verifyEach fingerprint names verified
    else
      verifyTransportOnStartup fingerprint name
      verifyEach fingerprint names (verified ++ [name])

/-- `_verify_all_transports_on_startup`. -/
def verifyAllTransportsOnStartup (fingerprint : F) (cfg : FailoverConfig) : VerifyProg F Unit := do
  let required ← pending
  Prog.when required <| (verifyEach fingerprint cfg.orderedNames []).andFinally publishTransport

end VerifyProg

/-! ## Runs -/

/-- The transports whose quarantine the latest pass has checked. -/
def checkedNames : List (VerifyEvent F) → List String
  | [] => []
  | .began :: _ => []
  | .checked name :: log => name :: checkedNames log
  | _ :: log => checkedNames log

/-- A clearance that takes effect: it returns, or it has replaced the file and raises after that. -/
inductive Clearance (permitted : String → VerifyState F → Prop) : VerifyState F → VerifyState F → Prop
  | clear (s : VerifyState F) (cfg : FailoverConfig) (name : String) (io : Io)
      (h : (clearQuarantine cfg name { io with writable := io.writable || io.replaced } s.file).1 =
        .ok ()) (hname : permitted name s) :
      Clearance permitted s ⟨(clearQuarantine cfg name io s.file).2, .cleared name :: s.log⟩

/-- What operators and other parts of the guardian do at any time: clearances, and every operation of
the selector besides clearances and the record of a pass. With `calm`, a transport that the latest
pass has checked is not cleared. -/
inductive Meddling (calm : Prop) : VerifyState F → VerifyState F → Prop
  | clearance (s s' : VerifyState F)
      (h : Clearance (fun name s => calm → name ∉ checkedNames s.log) s s') : Meddling calm s s'
  | operation (s : VerifyState F) (step : Step F) (hclear : ∀ name, step.op ≠ .clearQuarantine name)
      (hrecord : ∀ f ts now, step.op ≠ .recordStartupVerification f ts now) :
      Meddling calm s { s with file := step.apply s.file }

/-- Verification passes under any deployment, each cut off at any of its steps. Between two passes
transports are cleared freely. Runs of the source are the ones with `calm` set to `False`. -/
def verificationMachine (sha256 : List UInt8 → D) (digest : FingerprintPayload D → F) (calm : Prop) :
    Machine (VerifyReq F) VerifyReq.Ans VerifyExc (VerifyState F) VerifyChoice where
  exec := verifyExec
  start _ p := ∃ d : Deployment,
    p = VerifyProg.verifyAllTransportsOnStartup (d.fingerprint sha256 digest) d.failover
  stop _ := True
  meanwhile := Meddling calm
  idle := Clearance fun _ _ => True

end StorageNode.Transport
