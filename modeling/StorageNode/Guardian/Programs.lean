import StorageNode.Guardian.World

/-!
# The guardian

`Guardian.run` of the transport guardian with the methods it inherits, as programs over `GuardReq`.
An overridden method carries the suffix `Base`, and takes the overridden methods that it calls as
arguments where both guardian classes are of interest. Loops that the source leaves unbounded take
fuel, and `cutOff`, which no handler catches, marks the end of it; a run of the source is a run for
some fuel.

Worker fencing is in namespace mode.
-/

set_option autoImplicit false

namespace StorageNode.Guardian

open StorageNode.Program StorageNode.FloatingPoint

/-- Exceptions, by class. -/
inductive GuardExc where
  | keyboardInterrupt
  | cutOff
  | os
  | value
  | runtime
  | storage
  | process
  | canary
  | generation
  | transportFailover
  | transportSwitch
  | seaweedHealth
  | unexpectedReadonly (status : VolumeStatus)
  | validationRequired (status : VolumeStatus)
  | repairError
  | manualIntervention
  | overflow

/-- Whether `except Exception` catches it. -/
def GuardExc.isException : GuardExc → Bool
  | .keyboardInterrupt => false
  | .cutOff => false
  | _ => true

/-- Guardian programs. -/
abbrev GuardProg (α : Type) := Prog GuardReq GuardReq.Ans GuardExc α

namespace GuardProg

variable {α : Type}

/-- `try p except Exception as e: h e`. -/
def tryExcept (p : GuardProg α) (h : GuardExc → GuardProg α) : GuardProg α :=
  p.catchWith fun e => if e.isException then h e else Prog.raise e

/-! One program per request, at its answer type. -/

def view : GuardProg Self := Prog.ask GuardReq.view
def stopRequested : GuardProg Bool := Prog.ask GuardReq.stopRequested
def assign (a : Assignment) : GuardProg Unit := Prog.ask (GuardReq.assign a)
def setHealth (phase : HealthPhase) (ready : Bool) : GuardProg Unit :=
  Prog.ask (GuardReq.setHealth phase ready)
def publishHistory : GuardProg Unit := Prog.ask GuardReq.publishHistory
def publishVolumes (status : VolumeStatus) (orphanDeletionSafe : Bool) : GuardProg Unit :=
  Prog.ask (GuardReq.publishVolumes status orphanDeletionSafe)
def clock : GuardProg Float64 := Prog.ask GuardReq.clock
def sleep : GuardProg Unit := Prog.ask GuardReq.sleep
def expired : GuardProg Bool := Prog.ask GuardReq.expired
def setup : GuardProg Bool := Prog.ask GuardReq.setup
def haproxy : GuardProg Bool := Prog.ask GuardReq.haproxy
def haproxyRunning : GuardProg Bool := Prog.ask GuardReq.haproxyRunning
def buildProcesses : GuardProg (Option (List Proc)) := Prog.ask GuardReq.buildProcesses
def start (p : Proc) : GuardProg Bool := Prog.ask (GuardReq.start p)
def waitForTcp (p : Proc) : GuardProg Bool := Prog.ask (GuardReq.waitForTcp p)
def stopUntil (p : Proc) : GuardProg StopAnswer := Prog.ask (GuardReq.stopUntil p)
def running (p : Proc) : GuardProg Bool := Prog.ask (GuardReq.running p)
def helperRunning (h : Nat) : GuardProg Bool := Prog.ask (GuardReq.helperRunning h)
def helper (op : HelperOp) (target : Option Target) (full : Bool) : GuardProg HelperAnswer :=
  Prog.ask (GuardReq.helper op target full)
def inspect : GuardProg (Option VolumeStatus) := Prog.ask GuardReq.inspect
def canary : GuardProg Bool := Prog.ask GuardReq.canary
def nextGeneration : GuardProg (Option Nat) := Prog.ask GuardReq.nextGeneration
def spawnNamespace (g : Nat) : GuardProg Bool := Prog.ask (GuardReq.spawnNamespace g)
def configureNamespace (g : Nat) : GuardProg Bool := Prog.ask (GuardReq.configureNamespace g)
def generationFenced (g : Nat) : GuardProg Bool := Prog.ask (GuardReq.generationFenced g)
def deleteLink (g : Nat) (setup : Bool) : GuardProg Bool := Prog.ask (GuardReq.deleteLink g setup)
def markFenced (g : Nat) : GuardProg Unit := Prog.ask (GuardReq.markFenced g)
def persistGeneration (g : Nat) : GuardProg Bool := Prog.ask (GuardReq.persistGeneration g)
def stopKeeper (g : Nat) : GuardProg Unit := Prog.ask (GuardReq.stopKeeper g)
def historyView : GuardProg History := Prog.ask GuardReq.historyView
def historyRecover : GuardProg Bool := Prog.ask GuardReq.historyRecover
def historyStart : GuardProg Bool := Prog.ask GuardReq.historyStart
def historyFinish (cleanShutdown : Bool) : GuardProg Bool :=
  Prog.ask (GuardReq.historyFinish cleanShutdown)
def historyCertify : GuardProg Bool := Prog.ask GuardReq.historyCertify
def hasAwaiting : GuardProg (Option Bool) := Prog.ask GuardReq.hasAwaiting
def selectTransport : GuardProg (Option String) := Prog.ask GuardReq.selectTransport
def verificationRequired : GuardProg (Option Bool) := Prog.ask GuardReq.verificationRequired
def quarantinedTransports : GuardProg (Option (List String)) := Prog.ask GuardReq.quarantinedTransports
def updateTransports : GuardProg Bool := Prog.ask GuardReq.updateTransports
def recordFailure (name : String) : GuardProg Bool := Prog.ask (GuardReq.recordFailure name)
def recordSuccess (name : String) : GuardProg Bool := Prog.ask (GuardReq.recordSuccess name)
def cleanUpSshfs (name : String) : GuardProg Unit := Prog.ask (GuardReq.cleanUpSshfs name)
def pendingRequest : GuardProg TransportPoll := Prog.ask GuardReq.pendingRequest

/-- A call whose failure is an exception. -/
def must (e : GuardExc) (p : GuardProg Bool) : GuardProg Unit := do
  Prog.raiseIf (!(← p)) e

/-- An operation of the repair controller. -/
def repairCall (answer : RepairAnswer) : GuardProg Unit :=
  match answer with
  | .ok => pure ()
  | .repairError => Prog.raise .repairError
  | .manualIntervention => Prog.raise .manualIntervention
  | .os => Prog.raise .os

def prepareOffline : GuardProg Unit := do
  repairCall (← (Prog.ask GuardReq.prepareOffline : GuardProg RepairAnswer))
def repairDetected (status : VolumeStatus) : GuardProg Unit := do
  repairCall (← (Prog.ask (GuardReq.repairDetected status) : GuardProg RepairAnswer))
def rollbackRejected (volumeIds : List Nat) : GuardProg Unit := do
  repairCall (← (Prog.ask (GuardReq.rollbackRejected volumeIds) : GuardProg RepairAnswer))
def reconcileResolvedPreinstall (status : VolumeStatus) : GuardProg Unit := do
  repairCall (← (Prog.ask (GuardReq.reconcile status) : GuardProg RepairAnswer))
def validateUpstream (status : VolumeStatus) : GuardProg (List Nat) := do
  let rejected ← (Prog.ask (GuardReq.validateUpstream status) : GuardProg (Option (List Nat)))
  Prog.orRaise .repairError rejected
def unresolvedUnexpected (status : VolumeStatus) : GuardProg (List Nat) := do
  let unresolved ← (Prog.ask (GuardReq.unresolvedUnexpected status) : GuardProg (Option (List Nat)))
  Prog.orRaise .repairError unresolved

/-- `has_awaiting_validation`. -/
def hasAwaitingValidation : GuardProg Bool := do
  Prog.orRaise .repairError (← hasAwaiting)

/-! ## Processes and helpers -/

/-- The processes of a list that still run. -/
def aliveProcesses : List Proc → GuardProg (List Proc)
  | [] => pure []
  | p :: ps => do
    let alive ← running p
    let rest ← aliveProcesses ps
    pure (if alive then p :: rest else rest)

/-- The helpers of a list that still run. -/
def aliveHelpers : List Nat → GuardProg (List Nat)
  | [] => pure []
  | h :: hs => do
    let alive ← helperRunning h
    let rest ← aliveHelpers hs
    pure (if alive then h :: rest else rest)

/-- `_ensure_no_lingering_processes`. -/
def ensureNoLingeringProcesses : GuardProg Unit := do
  let alive ← aliveProcesses (← view).lingeringProcesses
  assign (.lingeringProcesses alive)
  Prog.raiseIf (alive ≠ []) .process

/-- `_reap_helper_children`. -/
def reapHelperChildren : GuardProg Unit := do
  let alive ← aliveHelpers (← view).helperChildren
  assign (.helperChildren alive)

/-- `_run_helper` of the generation guardian. -/
def runHelperBase (op : HelperOp) (target : Option Target) (full : Bool) : GuardProg Unit := do
  reapHelperChildren
  let self ← view
  Prog.raiseIf (op ≠ .unmount ∧ self.helperChildren ≠ []) .storage
  match ← helper op target full with
  | .ok => pure ()
  | .failed => Prog.raise .storage
  | .invalid => Prog.raise .value
  | .timeout => Prog.raise .storage
  | .unavailable => Prog.raise .generation
  | .unstarted => Prog.raise .os

/-- Whether a failure of an operation is charged to the active transport. -/
def chargesTransport (cfg : Config) (op : HelperOp) (target : Option Target) : Bool :=
  match cfg.failover, target with
  | some failover, some target =>
      decide (target.name = failover.target) && (op = .mount || op = .prepare || op = .probe)
  | _, _ => false

/-- `a or b` on names. -/
def firstName (a b : String) : String :=
  if a = "" then b else a

/-- `_run_helper`. -/
def runHelper (cfg : Config) (op : HelperOp) (target : Option Target) (full : Bool) :
    GuardProg Unit :=
  tryExcept (runHelperBase op target full) fun e => do
    Prog.when (chargesTransport cfg op target) do
      let t := (← view).transport
      assign (.transport { t with
        failure := true, failureName := firstName t.verificationTransport t.active })
    Prog.raise e

/-- `_probe_targets`. -/
def probeTargets (cfg : Config) (full : Bool) : GuardProg Unit :=
  Prog.forEach cfg.activeTargets fun target => runHelper cfg .probe (some target) full

/-- Note a process that did not stop. -/
def addLingering (p : Proc) : GuardProg Unit := do
  let lingering := (← view).lingeringProcesses
  Prog.when (p ∉ lingering) (assign (.lingeringProcesses (lingering ++ [p])))

/-- The loop of `_stop_seaweed`. -/
def stopEach : List Proc → Bool → GuardProg Bool
  | [], allStopped => pure allStopped
  | p :: ps, allStopped => do
    match ← stopUntil p with
    | .stopped => stopEach ps allStopped
    | .stuck =>
      addLingering p
      stopEach ps false
    | .raised =>
      let alive ← running p
      Prog.when alive (addLingering p)
      stopEach ps false

/-- `_stop_seaweed`. -/
def stopSeaweed : GuardProg Bool := do
  setHealth .draining false
  let allStopped ← stopEach (← view).processes.reverse true
  assign (.processes [])
  pure allStopped

/-- The loop of `_repair_targets`. -/
def detachEach (unmount : Target → GuardProg Unit) (unmountAll timed : Bool) :
    List Target → Bool → GuardProg Bool
  | [], detached => pure detached
  | target :: targets, detached => do
    if target.isPath ∧ unmountAll = false then
      detachEach unmount unmountAll timed targets detached
    else
      let late ← (if timed then expired else pure false)
      if late then detachEach unmount unmountAll timed targets false
      else
        let outcome ← Prog.attempt (unmount target)
        match outcome with
        | .ok () => detachEach unmount unmountAll timed targets detached
        | .error _ => detachEach unmount unmountAll timed targets false

/-- `_repair_targets` of the base guardian. -/
def repairTargetsBase (cfg : Config) (unmount : Target → GuardProg Unit) (unmountAll timed : Bool) :
    GuardProg Bool := do
  setHealth .recovering false
  detachEach unmount unmountAll timed cfg.activeTargets.reverse true

/-- `_repair_targets`. -/
def repairTargets (cfg : Config) (unmountAll timed : Bool) : GuardProg Bool := do
  let t := (← view).transport
  if t.controlledDetached ∧ unmountAll = false then
    assign (.transport { t with controlledDetached := false })
    pure true
  else
    let route := firstName t.failureName t.active
    Prog.when (route ≠ "") (assign (.transport { t with environ := route }))
    (repairTargetsBase cfg (fun target => runHelper cfg .unmount (some target) false) unmountAll
      timed).andFinally do
        let now := (← view).transport
        assign (.transport { now with environ := t.environ })

/-! ## Transports -/

/-- `_publish_transport`. Only its failure matters here. -/
def publishTransport (cfg : Config) : GuardProg Unit :=
  match cfg.failover with
  | none => pure ()
  | some _ => must .transportFailover updateTransports

/-- The two attempts of `_verify_transport_on_startup`. -/
def verifyMounted (cfg : Config) (target : Target) : GuardProg Unit := do
  runHelper cfg .mount (some target) false
  runHelper cfg .prepare (some target) false
  runHelper cfg .probe (some target) true

/-- `_verify_transport_on_startup`. -/
def verifyTransportOnStartup (cfg : Config) (failover : Failover) (name : String) :
    GuardProg Unit := do
  let t := (← view).transport
  assign (.transport { t with environ := name, verificationTransport := name })
  setHealth .verifyingTransports false
  publishTransport cfg
  let target : Target := ⟨failover.target, false⟩
  let verified ← Prog.attempt (verifyMounted cfg target)
  let detached ← Prog.attempt (runHelper cfg .unmount (some target) false)
  match verified, detached with
  | .error e, _ => Prog.raise e
  | .ok (), .error e => Prog.raise e
  | .ok (), .ok () => pure ()

/-- The verification loop, with its record. -/
def verifyEach (cfg : Config) (failover : Failover) : GuardProg Unit := do
  Prog.forEach failover.orderedNames fun name => do
    let quarantined ← quarantinedTransports
    let quarantined ← Prog.orRaise .transportFailover quarantined
    Prog.when (name ∉ quarantined) (verifyTransportOnStartup cfg failover name)
  must .transportFailover updateTransports
  let t := (← view).transport
  assign (.transport { t with verificationPending := false })

/-- `_verify_all_transports_on_startup`. -/
def verifyAllTransportsOnStartup (cfg : Config) : GuardProg Unit := do
  match cfg.failover with
  | none => pure ()
  | some failover =>
    let selected := (← view).transport
    Prog.when selected.verificationPending <| (verifyEach cfg failover).andFinally do
      let t := (← view).transport
      assign (.transport { t with environ := selected.active, verificationTransport := "" })
      publishTransport cfg

/-- `_mount_and_enroll_targets`. -/
def mountAndEnrollTargets (cfg : Config) : GuardProg Unit := do
  verifyAllTransportsOnStartup cfg
  ensureNoLingeringProcesses
  Prog.forEach cfg.activeTargets fun target => do
    runHelper cfg .mount (some target) false
    runHelper cfg .prepare (some target) false
  runHelper cfg .prepareLayout none false

/-- The loop of `_interruptible_sleep` while online: an operator's request for another transport ends
it. -/
def watchRequests : Nat → GuardProg Unit
  | 0 => Prog.raise .cutOff
  | fuel + 1 => do
    let self ← view
    Prog.when (!self.stopping) do
      match ← pendingRequest with
      | .failed => Prog.raise .transportFailover
      | .requested name =>
        if name ≠ "" ∧ name ≠ self.transport.active then
          assign (.transport { self.transport with controlledSwitch := true })
          setHealth .suspect false
          Prog.raise .transportSwitch
        else
          let late ← expired
          Prog.when (!late) do
            sleep
            watchRequests fuel

/-- `_interruptible_sleep`. -/
def interruptibleSleep (cfg : Config) (fuel : Nat) : GuardProg Unit := do
  let t := (← view).transport
  if t.onlineWatch = true ∧ cfg.failover.isSome = true then watchRequests fuel
  else sleep

/-! ## Generations -/

/-- `WorkerGeneration.fence`. -/
def fence (g : Nat) (setup : Bool) : GuardProg Unit := do
  let fenced ← generationFenced g
  Prog.when (!fenced) do
    let remains ← deleteLink g setup
    Prog.raiseIf (remains = true) .generation
    markFenced g
    must .os (persistGeneration g)

/-- `WorkerGeneration.start`. -/
def startGeneration (g : Nat) : GuardProg Unit := do
  must .generation (spawnNamespace g)
  let configured ← configureNamespace g
  Prog.when (!configured) do
    fence g true
    stopKeeper g
    Prog.raise .generation
  must .os (persistGeneration g)

/-- `GenerationFactory.create`. -/
def createGeneration : GuardProg Nat := do
  let g ← Prog.orRaise .os (← nextGeneration)
  must .os setup
  startGeneration g
  pure g

/-- `WorkerGeneration.retire`. -/
def retire (g : Nat) : GuardProg Unit := do
  (fence g false).andFinally (stopKeeper g)
  must .os (persistGeneration g)

/-- `_retire_generation`. -/
def retireGeneration : GuardProg Unit := do
  match (← view).generation with
  | none => pure ()
  | some g =>
    (tryExcept (retire g) fun _ => do
      assign .fatalFenceFailure
      stopKeeper g
      setHealth .fenceFailed false).andFinally (assign (.generation none))

/-- The history of a generation that could not be created. -/
def recordFailedCreation : GuardProg Unit := do
  let allocated := (← view).allocated
  Prog.when allocated do
    must .os historyStart
    must .os (historyFinish false)
    publishHistory

/-- `_begin_generation` of the generation guardian. -/
def beginGenerationBase : GuardProg Unit := do
  ensureNoLingeringProcesses
  let current := (← view).generation
  Prog.when (current.isSome = true) retireGeneration
  setHealth .creatingGeneration false
  let g ← tryExcept createGeneration fun e => do
    recordFailedCreation
    Prog.raise e
  assign (.generation (some g))
  must .os historyStart
  publishHistory

/-- Transport selection in `_begin_generation`. -/
def chooseTransport (cfg : Config) : GuardProg Unit := do
  match cfg.failover with
  | none =>
    let t := (← view).transport
    assign (.transport { t with environ := "", active := "", verificationPending := false })
  | some failover =>
    setHealth .selectingTransport false
    let name ← Prog.orRaise .transportFailover (← selectTransport)
    let t := (← view).transport
    assign (.transport { t with environ := name, active := name })
    let required ← (if failover.verifyAllTransportsOnStartup then verificationRequired
      else pure (some false))
    let required ← Prog.orRaise .transportFailover required
    let t := (← view).transport
    assign (.transport { t with verificationPending := required })

/-- `_begin_generation`. -/
def beginGeneration (cfg : Config) : GuardProg Unit := do
  let t := (← view).transport
  assign (.transport { t with
    failure := false, failureName := "", controlledSwitch := false, controlledDetached := false,
    verificationTransport := "" })
  ensureNoLingeringProcesses
  reapHelperChildren
  let children := (← view).helperChildren
  Prog.raiseIf (children ≠ []) .storage
  chooseTransport cfg
  beginGenerationBase
  publishTransport cfg

/-- `_fence_generation` of the generation guardian. -/
def fenceGenerationBase : GuardProg Bool := do
  match (← view).generation with
  | none => pure true
  | some g =>
    setHealth .fencing false
    tryExcept (do fence g false; pure true) fun _ => do
      assign .fatalFenceFailure
      setHealth .fenceFailed false
      pure false

/-- `_fence_generation`: the SSHFS process of the transport is stopped, and a failure that is charged
to a transport is recorded. -/
def fenceGeneration (cfg : Config) : GuardProg Bool := do
  let fenced ← fenceGenerationBase
  let t := (← view).transport
  let name := firstName t.failureName t.active
  Prog.when (fenced = true ∧ cfg.failover.isSome = true ∧ name ≠ "") (cleanUpSshfs name)
  let self ← view
  Prog.when (fenced = true ∧ cfg.failover.isSome = true ∧ name ≠ "" ∧ self.stopping = false ∧
      self.transport.controlledSwitch = false ∧ self.transport.failure = true) do
    must .transportFailover (recordFailure name)
    publishTransport cfg
  Prog.when (fenced = true) (publishTransport cfg)
  pure fenced

/-- `_terminate_generation` of the generation guardian. -/
def terminateGenerationBase (repairTargets : Bool → Bool → GuardProg Bool)
    (fenceGeneration : GuardProg Bool) (unmountAll : Bool) : GuardProg Bool := do
  match (← view).generation with
  | none =>
    let _ ← stopSeaweed
    let _ ← repairTargets unmountAll false
    pure true
  | some _ =>
    let processesStopped ← stopSeaweed
    let detached ← (if processesStopped then repairTargets unmountAll true else pure false)
    let cleanShutdown := processesStopped && detached
    let fenced ← fenceGeneration
    Prog.when (!cleanShutdown) do
      let _ ← repairTargets unmountAll false
    must .os (historyFinish cleanShutdown)
    publishHistory
    pure fenced

/-- The part of `_terminate_generation` that quarantines a transport whose tasks stay blocked. -/
def quarantineBlocked (cfg : Config) (t : Transport) (fenced : Bool) : GuardProg Bool := do
  let alive ← aliveProcesses (← view).lingeringProcesses
  let helpers ← aliveHelpers (← view).helperChildren
  Prog.when (fenced = true ∧ firstName t.failureName t.active ≠ "" ∧ cfg.failover.isSome = true ∧
      (alive ≠ [] ∨ helpers ≠ [])) do
    must .transportFailover updateTransports
    publishTransport cfg
  pure fenced

/-- `_terminate_generation`. -/
def terminateGeneration (cfg : Config) (unmountAll : Bool) : GuardProg Bool := do
  let t := (← view).transport
  let fenced ← terminateGenerationBase (repairTargets cfg) (fenceGeneration cfg) unmountAll
  quarantineBlocked cfg t fenced

/-- `_wait_for_blocked_cleanup`. -/
def waitForBlockedCleanup (cfg : Config) : Nat → GuardProg Unit
  | 0 => Prog.raise .cutOff
  | fuel + 1 => do
    let stopping ← stopRequested
    Prog.when (!stopping) do
      let alive ← aliveProcesses (← view).lingeringProcesses
      reapHelperChildren
      let helpers ← aliveHelpers (← view).helperChildren
      Prog.when (alive ≠ [] ∨ helpers ≠ []) do
        setHealth .hostRecoveryRequired false
        interruptibleSleep cfg fuel
        waitForBlockedCleanup cfg fuel

/-! ## SeaweedFS -/

/-- `_run_s3_canary`. -/
def runS3Canary : GuardProg Unit := must .canary canary

/-- `_inspect_seaweed_volumes`; without volume health there is no status. -/
def inspectSeaweedVolumes (cfg : Config) : GuardProg (Option VolumeStatus) := do
  if cfg.volumeHealthEnabled then
    let status ← Prog.orRaise .seaweedHealth (← inspect)
    pure (some status)
  else pure none

/-- The certification of `_certify_indexes_from_result`. -/
def certifiedIndexes : GuardProg Bool := do
  let history ← historyView
  if history.indexesCertified then pure true
  else
    must .os historyCertify
    let history ← historyView
    publishHistory
    pure history.indexesCertified

/-- `_certify_indexes_from_result`. -/
def certifyIndexesFromResult (status : VolumeStatus) : GuardProg Unit := do
  let certified ← certifiedIndexes
  publishVolumes status certified

/-- `_accept_seaweed_volume_status`. -/
def acceptSeaweedVolumeStatus (result : Option VolumeStatus) : GuardProg Unit := do
  match result with
  | none => pure ()
  | some status =>
    let indexRepair := (← view).indexRepair
    if status.unexpectedIds ≠ [] then
      let pending ← (if indexRepair then hasAwaitingValidation else pure false)
      Prog.raise (if pending then .validationRequired status else .unexpectedReadonly status)
    else
      Prog.when indexRepair do
        reconcileResolvedPreinstall status
        let pending ← hasAwaitingValidation
        Prog.raiseIf (pending = true) (.validationRequired status)
      certifyIndexesFromResult status

/-- `_check_seaweed_volumes`. -/
def checkSeaweedVolumes (cfg : Config) : GuardProg Unit := do
  acceptSeaweedVolumeStatus (← inspectSeaweedVolumes cfg)

/-- The observation that `_wait_for_stable_seaweed_volumes` carries from sample to sample. -/
structure Sample where
  signature : Option (List VolumeDetail) := none
  stableSince : Float64 := 0
  successes : Nat := 0

/-- The next observation. -/
def Sample.next (s : Sample) (status : VolumeStatus) (now : Float64) : Sample :=
  if s.signature = some status.details then { s with successes := s.successes + 1 }
  else ⟨some status.details, now, 1⟩

/-- Whether a status was stable for long enough. -/
def Sample.settled (cfg : Config) (s : Sample) (status : VolumeStatus) (now : Float64) : Bool :=
  let seconds := if status.allReadonly then cfg.allReadonlyWaitSeconds else cfg.recoveryStabilitySeconds
  decide (cfg.recoverySuccessesRequired ≤ s.successes) &&
    decide (((seconds : ℚ) : Extended) ≤ now - s.stableSince)

/-- `time.monotonic() + seconds`. -/
def secondsAfter (now : Float64) (seconds : Nat) : GuardProg Extended :=
  Prog.orRaise .overflow ((binary64.ofInt seconds).map (now + ·))

/-- The end of an iteration of `_wait_for_stable_seaweed_volumes` without a stable status. -/
def retryStatus (cfg : Config) (deadline : Extended) (fuel : Nat) (again : GuardProg Unit) :
    GuardProg Unit := do
  let now ← clock
  Prog.raiseIf (now.subFrom deadline ≤ ((0 : ℚ) : Extended)) .seaweedHealth
  interruptibleSleep cfg fuel
  again

/-- The loop of `_wait_for_stable_seaweed_volumes`. -/
def awaitStableStatus (cfg : Config) (deadline : Extended) : Nat → Sample → GuardProg Unit
  | 0, _ => Prog.raise .cutOff
  | fuel + 1, sample => do
    let stopping ← stopRequested
    Prog.raiseIf (stopping = true) .keyboardInterrupt
    match ← inspect with
    | none => retryStatus cfg deadline fuel (awaitStableStatus cfg deadline fuel {})
    | some status =>
      let now ← clock
      let sample := sample.next status now
      if sample.settled cfg status now then
        Prog.raiseIf (status.allReadonly = true) .seaweedHealth
        acceptSeaweedVolumeStatus (some status)
      else retryStatus cfg deadline fuel (awaitStableStatus cfg deadline fuel sample)

/-- `_wait_for_stable_seaweed_volumes`. -/
def waitForStableSeaweedVolumes (cfg : Config) (fuel : Nat) : GuardProg Unit := do
  Prog.when cfg.volumeHealthEnabled do
    let now ← clock
    let deadline ← secondsAfter now (max cfg.startupTimeoutSeconds (cfg.allReadonlyWaitSeconds +
      cfg.recoveryStabilitySeconds + cfg.recoveryProbeIntervalSeconds * cfg.recoverySuccessesRequired))
    setHealth .verifyingSeaweedStatus false
    awaitStableStatus cfg deadline fuel {}

/-- `_start_seaweed`. -/
def startSeaweed (cfg : Config) (fuel : Nat) : GuardProg Unit := do
  setHealth .startingSeaweed false
  let processes ← Prog.orRaise .generation (← buildProcesses)
  assign (.processes processes)
  Prog.forEach processes fun p => do
    must .os (start p)
    must .process (waitForTcp p)
  waitForStableSeaweedVolumes cfg fuel
  Prog.when cfg.s3CanaryEnabled runS3Canary

/-- Stop all writers before live index files are touched. -/
def stopWriters : GuardProg Unit := do
  let stopped ← stopSeaweed
  Prog.raiseIf (!stopped) .repairError
  ensureNoLingeringProcesses

/-- `_finish_index_validation`. -/
def finishIndexValidation (cfg : Config) (status : VolumeStatus) : GuardProg Unit := do
  let rejected ← validateUpstream status
  let unresolved ← unresolvedUnexpected status
  Prog.when (rejected ≠ [] ∨ unresolved ≠ []) do
    stopWriters
    Prog.when (rejected ≠ []) (rollbackRejected rejected)
    Prog.raise .manualIntervention
  certifyIndexesFromResult status
  Prog.when cfg.s3CanaryEnabled runS3Canary

/-- The part of `_start_seaweed_with_index_recovery` that repairs and starts again. -/
def repairAndRestart (cfg : Config) (fuel : Nat) (status : VolumeStatus) : GuardProg Unit := do
  let self ← view
  Prog.raiseIf (self.indexRepair = false ∨ cfg.autoIndexRepairEnabled = false)
    (.unexpectedReadonly status)
  setHealth .repairingIndexes false
  stopWriters
  repairDetected status
  let outcome ← Prog.attempt (startSeaweed cfg fuel)
  match outcome with
  | .error (.validationRequired status) => finishIndexValidation cfg status
  | .error (.unexpectedReadonly _) => Prog.raise .manualIntervention
  | .error e => Prog.raise e
  | .ok () => Prog.raise .repairError

/-- `_start_seaweed_with_index_recovery`. -/
def startSeaweedWithIndexRecovery (cfg : Config) (fuel : Nat) : GuardProg Unit := do
  let outcome ← Prog.attempt (startSeaweed cfg fuel)
  match outcome with
  | .ok () => pure ()
  | .error (.validationRequired status) => finishIndexValidation cfg status
  | .error (.unexpectedReadonly status) => repairAndRestart cfg fuel status
  | .error e => Prog.raise e

/-- `_prepare_index_repair_offline`. -/
def prepareIndexRepairOffline : GuardProg Unit := do
  assign .indexRepair
  prepareOffline

/-- One round of `_stabilize_recovery`. -/
def stabilizeRound (cfg : Config) : GuardProg Unit := do
  probeTargets cfg true
  checkSeaweedVolumes cfg
  Prog.when cfg.s3CanaryEnabled runS3Canary

/-- The loop of `_stabilize_recovery`. -/
def stabilizeLoop (cfg : Config) (stableSince : Float64) : Nat → Nat → GuardProg Unit
  | 0, _ => Prog.raise .cutOff
  | fuel + 1, successes => do
    let stopping ← stopRequested
    Prog.raiseIf (stopping = true) .keyboardInterrupt
    stabilizeRound cfg
    let now ← clock
    if cfg.recoverySuccessesRequired ≤ successes + 1 ∧
        ((cfg.recoveryStabilitySeconds : ℚ) : Extended) ≤ now - stableSince then pure ()
    else
      interruptibleSleep cfg fuel
      stabilizeLoop cfg stableSince fuel (successes + 1)

/-- `_stabilize_recovery`. -/
def stabilizeRecovery (cfg : Config) (fuel : Nat) : GuardProg Unit := do
  let stableSince ← clock
  setHealth .verifyingRecovery false
  stabilizeLoop cfg stableSince fuel 0
  let t := (← view).transport
  Prog.when (cfg.failover.isSome = true ∧ t.active ≠ "") do
    must .transportFailover (recordSuccess t.active)
    assign (.transport { t with failure := false, failureName := "" })
    publishTransport cfg

/-- The checks of one iteration of `_online_loop`, with the time of the next full probe. -/
def onlineChecks (cfg : Config) (nextFull : Extended) : GuardProg Extended := do
  must .process haproxyRunning
  Prog.forEach (← view).processes fun p => must .process (running p)
  let now ← clock
  let full := decide (nextFull ≤ now.value)
  probeTargets cfg full
  if full then
    checkSeaweedVolumes cfg
    Prog.when cfg.s3CanaryEnabled runS3Canary
    let now ← clock
    secondsAfter now cfg.fullProbeIntervalSeconds
  else pure nextFull

/-- `_online_loop` of the base guardian. -/
def onlineLoopBase (cfg : Config) : Nat → Extended → GuardProg Unit
  | 0, _ => Prog.raise .cutOff
  | fuel + 1, nextFull => do
    let stopping ← stopRequested
    Prog.when (!stopping) do
      let next ← tryExcept (onlineChecks cfg nextFull) fun e => do
        setHealth .suspect false
        Prog.raise e
      interruptibleSleep cfg fuel
      onlineLoopBase cfg fuel next

/-- `_online_loop`. -/
def onlineLoop (cfg : Config) (fuel : Nat) : GuardProg Unit := do
  let t := (← view).transport
  assign (.transport { t with onlineWatch := true })
  (do
    let now ← clock
    let nextFull ← secondsAfter now cfg.fullProbeIntervalSeconds
    onlineLoopBase cfg fuel nextFull).andFinally do
      let t := (← view).transport
      assign (.transport { t with onlineWatch := false })

/-! ## The run loop -/

/-- The `try` block of `run`: one generation, from its creation to its end. -/
def serve (cfg : Config) (fuel : Nat) : GuardProg Unit := do
  must .runtime haproxy
  beginGeneration cfg
  setHealth .mounting false
  mountAndEnrollTargets cfg
  setHealth .verifyingStorage false
  probeTargets cfg true
  prepareIndexRepairOffline
  startSeaweedWithIndexRecovery cfg fuel
  stabilizeRecovery cfg fuel
  setHealth .online true
  onlineLoop cfg fuel

/-- The guardian classes with worker generations. -/
inductive GuardianClass where
  | generation
  | transport

/-- `_terminate_generation`, by class. -/
def GuardianClass.terminateGeneration (cfg : Config) (unmountAll : Bool) :
    GuardianClass → GuardProg Bool
  | .generation =>
      terminateGenerationBase
        (repairTargetsBase cfg fun target => runHelperBase .unmount (some target) false)
        fenceGenerationBase unmountAll
  | .transport => GuardProg.terminateGeneration cfg unmountAll

/-- `_interruptible_sleep`, by class. -/
def GuardianClass.interruptibleSleep (cfg : Config) (fuel : Nat) : GuardianClass → GuardProg Unit
  | .generation => sleep
  | .transport => GuardProg.interruptibleSleep cfg fuel

/-- Wait until the container is stopped. -/
def waitUntilStopped (pause : Nat → GuardProg Unit) : Nat → GuardProg Unit
  | 0 => Prog.raise .cutOff
  | fuel + 1 => do
    let stopping ← stopRequested
    Prog.when (!stopping) do
      pause fuel
      waitUntilStopped pause fuel

/-- `_park_manual_intervention`. -/
def parkManualIntervention (self : GuardianClass) (cfg : Config) (fuel : Nat) : GuardProg Unit := do
  setHealth .manualInterventionRequired false
  let fenced ← self.terminateGeneration cfg false
  Prog.when (!fenced) (assign .stopping)
  retireGeneration
  waitUntilStopped (fun fuel => self.interruptibleSleep cfg fuel) fuel

/-- The handler of `run` after an ordinary exception. It says whether the loop goes on. -/
def recover (cfg : Config) (fuel : Nat) : GuardProg Bool := do
  setHealth .offline false
  let fenced ← terminateGeneration cfg false
  if fenced then
    retireGeneration
    waitForBlockedCleanup cfg fuel
    let stopping ← stopRequested
    if stopping then pure false
    else
      interruptibleSleep cfg fuel
      pure true
  else
    assign .stopping
    pure false

/-- The loop of `run`. -/
def mainLoop (cfg : Config) (inner : Nat) : Nat → GuardProg Unit
  | 0 => Prog.raise .cutOff
  | fuel + 1 => do
    let stopping ← stopRequested
    Prog.when (!stopping) do
      let outcome ← Prog.attempt (serve cfg inner)
      match outcome with
      | .ok () => mainLoop cfg inner fuel
      | .error .cutOff => Prog.raise .cutOff
      | .error .keyboardInterrupt =>
        assign .stopping
        mainLoop cfg inner fuel
      | .error e =>
        let stopping ← stopRequested
        Prog.when (!stopping) do
          match e with
          | .manualIntervention => parkManualIntervention .transport cfg inner
          | _ =>
            let again ← recover cfg inner
            Prog.when again (mainLoop cfg inner fuel)

/-- The end of `run`. -/
def shutDown (cfg : Config) : GuardProg Unit := do
  setHealth .stopping false
  let _ ← terminateGeneration cfg true
  retireGeneration

/-- `run`, from the acquisition of the writer lease on. -/
def run (cfg : Config) (inner fuel : Nat) : GuardProg Unit := do
  must .os historyRecover
  publishHistory
  must .os setup
  mainLoop cfg inner fuel
  shutDown cfg

end GuardProg

end StorageNode.Guardian
