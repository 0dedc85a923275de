import StorageNode.FloatingPoint.Number
import StorageNode.Program.Core
import StorageNode.Guardian.Detach

/-!
# The world of the guardian

The state that `Guardian.run` works on: the attributes of the guardian, the health it publishes, the
generation history, and what stands outside of it, the SeaweedFS processes and storage helpers that
run and the generations that are fenced. `guardExec` says what each request does; the environment
decides whether calls fail, what the clock shows and what the upstream server reports. The clock is a
float, as in the source, and does not go back.

An operation that only writes diagnostics, logs or published details is not a request. Operations of
the repair controller are single requests here, with their effect on the volumes that await
validation; `IndexRepair` has their steps. `log` records what happened and is read by no program.
-/

set_option autoImplicit false

namespace StorageNode.Guardian

open StorageNode.FloatingPoint

/-! ## Data -/

/-- The states of `/healthz`. -/
inductive HealthPhase where
  | bootstrapping
  | selectingTransport
  | creatingGeneration
  | verifyingTransports
  | mounting
  | verifyingStorage
  | startingSeaweed
  | verifyingSeaweedStatus
  | repairingIndexes
  | verifyingRecovery
  | online
  | suspect
  | offline
  | draining
  | recovering
  | fencing
  | fenceFailed
  | hostRecoveryRequired
  | manualInterventionRequired
  | stopping
  deriving DecidableEq

/-- An active storage target. `isPath` says that its type is `path`. -/
structure Target where
  name : String
  isPath : Bool
  deriving DecidableEq

/-- The operations of storage helpers. -/
inductive HelperOp where
  | mount
  | prepare
  | prepareLayout
  | probe
  | unmount
  deriving DecidableEq

/-- How a storage helper ends. `unavailable` means that no worker namespace could be entered, and
`unstarted` that the process could not be created. -/
inductive HelperAnswer where
  | ok
  | failed
  | invalid
  | timeout
  | unavailable
  | unstarted
  deriving DecidableEq

/-- One volume of `/status`, as `parse_volume_status` reports it. -/
structure VolumeDetail where
  id : Nat
  collection : String
  readonly : Bool
  expectedReadonly : Bool
  deriving DecidableEq

/-- A parsed volume status. The counts and id lists of the source are functions of the details. -/
structure VolumeStatus where
  details : List VolumeDetail
  deriving DecidableEq

/-- `unexpected_readonly_volume_ids`. -/
def VolumeStatus.unexpectedIds (status : VolumeStatus) : List Nat :=
  (status.details.filter fun v => v.readonly && !v.expectedReadonly).map VolumeDetail.id

/-- `all_volumes_readonly`. -/
def VolumeStatus.allReadonly (status : VolumeStatus) : Bool :=
  decide (0 < status.details.length) && status.details.all VolumeDetail.readonly &&
    decide (0 < status.unexpectedIds.length)

/-- `details.get(volume_id)`: in a dictionary built from a list, the last entry of an id counts. -/
def VolumeStatus.readonlyOf (status : VolumeStatus) (volumeId : Nat) : Option Bool :=
  (status.details.reverse.find? fun v => v.id = volumeId).map VolumeDetail.readonly

/-- Whether validation rejects the candidate of a volume: it is missing from the status, or read-only
there. -/
def VolumeStatus.rejects (status : VolumeStatus) (volumeId : Nat) : Bool :=
  decide (status.readonlyOf volumeId ≠ some false)

/-- Failover between exclusive transports of one target. Transport names are not empty. -/
structure Failover where
  target : String
  orderedNames : List String
  verifyAllTransportsOnStartup : Bool
  named : ∀ name ∈ orderedNames, name ≠ ""

/-- The settings that the modelled functions read. -/
structure Config where
  activeTargets : List Target
  failover : Option Failover
  volumeHealthEnabled : Bool
  autoIndexRepairEnabled : Bool
  s3CanaryEnabled : Bool
  recoveryStabilitySeconds : Nat
  recoverySuccessesRequired : Nat
  recoveryProbeIntervalSeconds : Nat
  allReadonlyWaitSeconds : Nat
  startupTimeoutSeconds : Nat
  fullProbeIntervalSeconds : Nat

/-- A SeaweedFS process object. -/
structure Proc where
  generation : Nat
  serial : Nat
  deriving DecidableEq

/-- The attributes of the transport guardian. A transport name may be empty. `environ` is the variable
`S3_STORAGE_NODE_TRANSPORT`, from which storage helpers take the route of the data target. -/
structure Transport where
  environ : String := ""
  active : String := ""
  controlledSwitch : Bool := false
  controlledDetached : Bool := false
  failure : Bool := false
  failureName : String := ""
  onlineWatch : Bool := false
  verificationPending : Bool := false
  verificationTransport : String := ""

/-- The attributes of the guardian. A generation is its object, not its number in the persistent
counter; `allocated` says that `last_allocated_generation` is positive. -/
structure Self where
  stopping : Bool := false
  processes : List Proc := []
  lingeringProcesses : List Proc := []
  helperChildren : List Nat := []
  generation : Option Nat := none
  allocated : Bool := false
  fatalFenceFailure : Bool := false
  indexRepair : Bool := false
  transport : Transport := {}

/-- The published health, as far as other parts rely on it. -/
structure Health where
  phase : HealthPhase := .bootstrapping
  ready : Bool := false
  indexesCertified : Bool := true
  orphanDeletionSafe : Bool := false

/-- The generation history. -/
structure History where
  active : Bool := false
  indexesCertified : Bool := true

/-- What happened, newest first. Failed calls leave no event, except for a fence that could not be
verified; `setup` says that it was attempted while its generation was being created. -/
inductive Event where
  | created (generation : Nat)
  | fenced (generation : Nat)
  | fenceFailed (generation : Nat) (setup : Bool)
  | helper (op : HelperOp) (target : Option Target) (full : Bool)
  | started (p : Proc)
  | inspected (status : VolumeStatus)
  | awaiting (pending : Bool)
  | accepted (status : VolumeStatus)
  | canary
  | clock (at_ : Float64)
  | finished (cleanShutdown orphanDeletionSafe : Bool)
  deriving DecidableEq

/-- What happened to routes and drains, newest first: a generation began or was given up; a drain began
with these processes lingering; a helper was called on a route and ended in some way; a target was
detached; a stabilization succeeded. -/
inductive RouteEvent where
  | begun (generation : Nat)
  | ended
  | draining (lingering : List Proc)
  | helper (generation : Nat) (op : HelperOp) (target : Option Target) (route : String)
      (answer : HelperAnswer)
  | detached (target : Option Target) (how : Detach)
  | stable (name : String)
  deriving DecidableEq

/-- The state of the guardian and its surroundings. `pending` has the volumes of the repair
transactions that await validation by the upstream server; `heeded` is what the last stop check of a
loop saw, and no program reads it. -/
structure World where
  self : Self := {}
  health : Health := {}
  history : History := {}
  running : List Proc := []
  helpersRunning : List Nat := []
  fenced : List Nat := []
  pending : List Nat := []
  clock : Float64 := 0
  nextSerial : Nat := 0
  heeded : Bool := false
  log : List Event := []
  routes : List RouteEvent := []

/-! ## Requests -/

/-- Assignments to attributes. -/
inductive Assignment where
  | stopping
  | processes (ps : List Proc)
  | lingeringProcesses (ps : List Proc)
  | helperChildren (hs : List Nat)
  | generation (g : Option Nat)
  | fatalFenceFailure
  | indexRepair
  | transport (t : Transport)

/-- How `ManagedProcess.stop_until` ends. -/
inductive StopAnswer where
  | stopped
  | stuck
  | raised
  deriving DecidableEq

/-- How an operation of the repair controller ends. -/
inductive RepairAnswer where
  | ok
  | repairError
  | manualIntervention
  | os
  deriving DecidableEq

/-- The answer of `pending_request`. -/
inductive TransportPoll where
  | requested (name : String)
  | failed

/-- The requests of the guardian. `stopRequested` is a stop check: a loop reads `stopping` to decide
whether it goes on. -/
inductive GuardReq where
  | view
  | stopRequested
  | assign (a : Assignment)
  | setHealth (phase : HealthPhase) (ready : Bool)
  | publishHistory
  | publishVolumes (status : VolumeStatus) (orphanDeletionSafe : Bool)
  | clock
  | sleep
  | expired
  | setup
  | haproxy
  | haproxyRunning
  | buildProcesses
  | start (p : Proc)
  | waitForTcp (p : Proc)
  | stopUntil (p : Proc)
  | running (p : Proc)
  | helperRunning (h : Nat)
  | helper (op : HelperOp) (target : Option Target) (full : Bool)
  | inspect
  | canary
  | nextGeneration
  | spawnNamespace (g : Nat)
  | configureNamespace (g : Nat)
  | generationFenced (g : Nat)
  | deleteLink (g : Nat) (setup : Bool)
  | markFenced (g : Nat)
  | persistGeneration (g : Nat)
  | stopKeeper (g : Nat)
  | historyView
  | historyRecover
  | historyStart
  | historyFinish (cleanShutdown : Bool)
  | historyCertify
  | prepareOffline
  | repairDetected (status : VolumeStatus)
  | rollbackRejected (volumeIds : List Nat)
  | reconcile (status : VolumeStatus)
  | hasAwaiting
  | validateUpstream (status : VolumeStatus)
  | unresolvedUnexpected (status : VolumeStatus)
  | selectTransport
  | verificationRequired
  | quarantinedTransports
  | updateTransports
  | recordFailure (name : String)
  | recordSuccess (name : String)
  | cleanUpSshfs (name : String)
  | pendingRequest

/-- Answer types. `none` and `false` stand for an exception, except for `expired`, `haproxyRunning`,
`stopRequested`, `running`, `helperRunning`, `generationFenced` and `deleteLink`, which report what
they find. -/
def GuardReq.Ans : GuardReq → Type
  | .view => Self
  | .stopRequested => Bool
  | .assign _ => Unit
  | .setHealth _ _ => Unit
  | .publishHistory => Unit
  | .publishVolumes _ _ => Unit
  | .clock => Float64
  | .sleep => Unit
  | .expired => Bool
  | .setup => Bool
  | .haproxy => Bool
  | .haproxyRunning => Bool
  | .buildProcesses => Option (List Proc)
  | .start _ => Bool
  | .waitForTcp _ => Bool
  | .stopUntil _ => StopAnswer
  | .running _ => Bool
  | .helperRunning _ => Bool
  | .helper _ _ _ => HelperAnswer
  | .inspect => Option VolumeStatus
  | .canary => Bool
  | .nextGeneration => Option Nat
  | .spawnNamespace _ => Bool
  | .configureNamespace _ => Bool
  | .generationFenced _ => Bool
  | .deleteLink _ _ => Bool
  | .markFenced _ => Unit
  | .persistGeneration _ => Bool
  | .stopKeeper _ => Unit
  | .historyView => History
  | .historyRecover => Bool
  | .historyStart => Bool
  | .historyFinish _ => Bool
  | .historyCertify => Bool
  | .prepareOffline => RepairAnswer
  | .repairDetected _ => RepairAnswer
  | .rollbackRejected _ => RepairAnswer
  | .reconcile _ => RepairAnswer
  | .hasAwaiting => Option Bool
  | .validateUpstream _ => Option (List Nat)
  | .unresolvedUnexpected _ => Option (List Nat)
  | .selectTransport => Option String
  | .verificationRequired => Option Bool
  | .quarantinedTransports => Option (List String)
  | .updateTransports => Bool
  | .recordFailure _ => Bool
  | .recordSuccess _ => Bool
  | .cleanUpSshfs _ => Unit
  | .pendingRequest => TransportPoll

/-- One decision of the environment. -/
structure GuardChoice where
  ok : Bool := true
  reading : Float64 := 0
  stop : StopAnswer := .stopped
  helper : HelperAnswer := .ok
  unmount : UnmountOutcomes := {}
  status : Option VolumeStatus := none
  linkRemains : Bool := false
  pending : List Nat := []
  repair : RepairAnswer := .ok
  names : Option (List String) := some []
  poll : TransportPoll := .requested ""

/-- Assign to an attribute. -/
def Assignment.apply : Assignment → Self → Self
  | .stopping, s => { s with stopping := true }
  | .processes ps, s => { s with processes := ps }
  | .lingeringProcesses ps, s => { s with lingeringProcesses := ps }
  | .helperChildren hs, s => { s with helperChildren := hs }
  | .generation g, s => { s with generation := g }
  | .fatalFenceFailure, s => { s with fatalFenceFailure := true }
  | .indexRepair, s => { s with indexRepair := true }
  | .transport t, s => { s with transport := t }

/-- The event of an assignment: a generation is created when it becomes the current one. -/
def Assignment.events : Assignment → List Event
  | .generation (some g) => [.created g]
  | _ => []

/-- What an assignment means for the routes. -/
def Assignment.routeEvents : Assignment → List RouteEvent
  | .generation (some g) => [.begun g]
  | .generation none => [.ended]
  | _ => []

/-- What a published state means for the routes: a drain begins. -/
def HealthPhase.routeEvents (phase : HealthPhase) (lingering : List Proc) : List RouteEvent :=
  match phase with
  | .draining => [.draining lingering]
  | _ => []

/-- How `unmount_target` ends in a helper. -/
def GuardChoice.detach (c : GuardChoice) (target : Option Target) : Except String Detach :=
  unmountTarget ((target.map Target.name).getD "")
    { c.unmount with type := if (target.map Target.isPath).getD false then .path else c.unmount.type }

/-- The answer of a helper. One that detaches a target reports success if `unmount_target` returns. -/
def GuardChoice.helperAnswer (c : GuardChoice) (op : HelperOp) (target : Option Target) :
    HelperAnswer :=
  match op, c.helper, c.detach target with
  | .unmount, .ok, .error _ => .failed
  | _, answer, _ => answer

/-- What a helper call means for the routes. -/
def GuardChoice.routeEvents (c : GuardChoice) (g : Nat) (op : HelperOp) (target : Option Target)
    (route : String) : List RouteEvent :=
  (match op, c.helper, c.detach target with
    | .unmount, .ok, .ok how => [.detached target how]
    | _, _, _ => []) ++ [.helper g op target route (c.helperAnswer op target)]

/-- The end of the active generation in the history. -/
def World.finishActive (w : World) (cleanShutdown : Bool) : World :=
  if w.history.active then
    { w with
      history := ⟨false, if cleanShutdown then w.history.indexesCertified else false⟩
      log := .finished cleanShutdown w.health.orphanDeletionSafe :: w.log }
  else w

/-- The end of a storage helper. One that times out is killed and remembered. -/
def World.helperEnd (w : World) (op : HelperOp) (target : Option Target) (full : Bool) :
    HelperAnswer → World
  | .ok => { w with log := .helper op target full :: w.log }
  | .timeout =>
      { w with
        helpersRunning := w.nextSerial :: w.helpersRunning
        self := { w.self with helperChildren := w.self.helperChildren ++ [w.nextSerial] }
        nextSerial := w.nextSerial + 1 }
  | _ => w

/-- Record an event if it happened. -/
def World.record (w : World) (happened : Bool) (e : Event) : World :=
  if happened then { w with log := e :: w.log } else w

/-- The effect of a request. -/
def guardExec : (r : GuardReq) → GuardChoice → World → r.Ans × World
  | .view, _, w => (w.self, w)
  | .stopRequested, _, w => (w.self.stopping, { w with heeded := w.self.stopping })
  | .assign a, _, w =>
      ((), { w with
        self := a.apply w.self, log := a.events ++ w.log, routes := a.routeEvents ++ w.routes })
  | .setHealth phase ready, _, w =>
      ((), { w with
        health := { w.health with phase := phase, ready := ready }
        routes := phase.routeEvents w.self.lingeringProcesses ++ w.routes })
  | .publishHistory, _, w =>
      ((), { w with health := { w.health with indexesCertified := w.history.indexesCertified } })
  | .publishVolumes status orphanDeletionSafe, _, w =>
      ((), { w with
        health := { w.health with orphanDeletionSafe := orphanDeletionSafe }
        log := .accepted status :: w.log })
  | .clock, c, w =>
      -- the clock does not go back
      let now : Float64 := max w.clock c.reading
      (now, { w with clock := now, log := .clock now :: w.log })
  | .sleep, c, w => ((), { w with clock := max w.clock c.reading })
  | .expired, c, w => (c.ok, w)
  | .setup, c, w => (c.ok, w)
  | .haproxy, c, w => (c.ok, w)
  | .haproxyRunning, c, w => (c.ok, w)
  | .buildProcesses, c, w =>
      match c.ok, w.self.generation with
      | true, some g =>
          (some ((List.range 4).map fun n => ⟨g, w.nextSerial + n⟩),
            { w with nextSerial := w.nextSerial + 4 })
      | _, _ => (none, w)
  | .start p, c, w =>
      (c.ok, if c.ok then { w with running := p :: w.running, log := .started p :: w.log } else w)
  | .waitForTcp _, c, w => (c.ok, w)
  | .stopUntil p, c, w =>
      if p ∈ w.running ∧ c.stop ≠ .stopped then (c.stop, w)
      else (.stopped, { w with running := w.running.filter (· ≠ p) })
  | .running p, _, w => (decide (p ∈ w.running), w)
  | .helperRunning h, _, w => (decide (h ∈ w.helpersRunning), w)
  | .helper op target full, c, w =>
      match w.self.generation with
      | none => (.unavailable, w)
      | some g =>
          (c.helperAnswer op target, World.helperEnd
            { w with routes := c.routeEvents g op target w.self.transport.environ ++ w.routes }
            op target full (c.helperAnswer op target))
  | .inspect, c, w =>
      (c.status, match c.status with
        | none => w
        | some status =>
            { w with
              health := { w.health with orphanDeletionSafe := false }
              log := .inspected status :: w.log })
  | .canary, c, w => (c.ok, w.record c.ok .canary)
  | .nextGeneration, c, w =>
      if c.ok then
        (some w.nextSerial,
          { w with self := { w.self with allocated := true }, nextSerial := w.nextSerial + 1 })
      else (none, w)
  | .spawnNamespace _, c, w => (c.ok, w)
  | .configureNamespace _, c, w => (c.ok, w)
  | .generationFenced g, _, w => (decide (g ∈ w.fenced), w)
  | .deleteLink g setup, c, w => (c.linkRemains, w.record c.linkRemains (.fenceFailed g setup))
  | .markFenced g, _, w => ((), { w with fenced := g :: w.fenced, log := .fenced g :: w.log })
  | .persistGeneration _, c, w => (c.ok, w)
  | .stopKeeper _, _, w => ((), w)
  | .historyView, _, w => (w.history, w)
  | .historyRecover, c, w => (c.ok, w.finishActive false)
  | .historyStart, c, w =>
      (c.ok, { w.finishActive false with history := { (w.finishActive false).history with active := true } })
  | .historyFinish cleanShutdown, c, w => (c.ok, w.finishActive cleanShutdown)
  | .historyCertify, c, w => (c.ok, { w with history := { w.history with indexesCertified := true } })
  | .prepareOffline, c, w => (c.repair, { w with pending := c.pending })
  | .repairDetected _, c, w => (c.repair, { w with pending := c.pending })
  | .rollbackRejected _, c, w => (c.repair, { w with pending := c.pending })
  | .reconcile _, c, w => (c.repair, w)
  | .hasAwaiting, c, w =>
      if c.ok then
        (some (decide (w.pending ≠ [])), { w with log := .awaiting (decide (w.pending ≠ [])) :: w.log })
      else (none, w)
  | .validateUpstream status, c, w =>
      if c.ok then
        (some (w.pending.filter (status.rejects ·)),
          { w with pending := w.pending.filter (status.rejects ·) })
      else (none, { w with pending := w.pending.filter (· ∈ c.pending) })
  | .unresolvedUnexpected status, c, w =>
      (if c.ok then some (status.unexpectedIds.filter (· ∉ w.pending)) else none, w)
  | .selectTransport, c, w => (c.names.bind List.head?, w)
  | .verificationRequired, c, w => (c.names.map List.isEmpty, w)
  | .quarantinedTransports, c, w => (c.names, w)
  | .updateTransports, c, w => (c.ok, w)
  | .recordFailure _, c, w => (c.ok, w)
  | .recordSuccess name, c, w => (c.ok, { w with routes := .stable name :: w.routes })
  | .cleanUpSshfs _, _, w => ((), w)
  | .pendingRequest, c, w => (c.poll, w)

/-- What happens around the guardian at any time: a termination signal, and the end of processes and
helpers. -/
inductive Outside : World → World → Prop
  | signal (w : World) : Outside w { w with
      self := { w.self with stopping := true }
      health := { w.health with phase := .stopping, ready := false } }
  | processExit (w : World) (p : Proc) : Outside w { w with running := w.running.filter (· ≠ p) }
  | helperExit (w : World) (h : Nat) :
      Outside w { w with helpersRunning := w.helpersRunning.filter (· ≠ h) }

/-! ## What most requests leave alone -/

/-- Requests that assign no attribute, publish no state and do not concern routes. -/
def GuardReq.discreet : GuardReq → Bool
  | .assign _ => false
  | .setHealth _ _ => false
  | .helper _ _ _ => false
  | .recordSuccess _ => false
  | _ => true

/-- The attributes, the published state and the record of routes stay, except that a network may be
allocated. -/
structure Discreet (w w' : World) : Prop where
  self : w'.self = { w.self with allocated := w'.self.allocated }
  phase : w'.health.phase = w.health.phase
  ready : w'.health.ready = w.health.ready
  routes : w'.routes = w.routes

theorem Discreet.refl (w : World) : Discreet w w :=
  ⟨rfl, rfl, rfl, rfl⟩

theorem Discreet.record (w : World) (condition : Bool) (e : Event) :
    Discreet w (w.record condition e) := by
  unfold World.record
  split <;> exact ⟨rfl, rfl, rfl, rfl⟩

theorem Discreet.finishActive (w : World) (cleanShutdown : Bool) :
    Discreet w (w.finishActive cleanShutdown) := by
  unfold World.finishActive
  split <;> exact ⟨rfl, rfl, rfl, rfl⟩

/-- The one case analysis behind the frame conditions of most requests. -/
theorem guardExec_discreet {r : GuardReq} (hr : r.discreet = true) (c : GuardChoice) (w : World) :
    Discreet w (guardExec r c w).2 := by
  cases r with
  | assign a => exact absurd hr (by simp [GuardReq.discreet])
  | setHealth phase ready => exact absurd hr (by simp [GuardReq.discreet])
  | helper op target full => exact absurd hr (by simp [GuardReq.discreet])
  | recordSuccess name => exact absurd hr (by simp [GuardReq.discreet])
  | start p => simp only [guardExec]; split <;> exact ⟨rfl, rfl, rfl, rfl⟩
  | stopUntil p => simp only [guardExec]; split <;> exact ⟨rfl, rfl, rfl, rfl⟩
  | buildProcesses => simp only [guardExec]; split <;> exact ⟨rfl, rfl, rfl, rfl⟩
  | inspect => simp only [guardExec]; split <;> exact ⟨rfl, rfl, rfl, rfl⟩
  | nextGeneration => simp only [guardExec]; split <;> exact ⟨rfl, rfl, rfl, rfl⟩
  | hasAwaiting => simp only [guardExec]; split <;> exact ⟨rfl, rfl, rfl, rfl⟩
  | validateUpstream status => simp only [guardExec]; split <;> exact ⟨rfl, rfl, rfl, rfl⟩
  | canary => exact .record w c.ok .canary
  | deleteLink g setup => exact .record w c.linkRemains (.fenceFailed g setup)
  | historyRecover => exact .finishActive w false
  | historyStart =>
      have h := Discreet.finishActive w false
      exact ⟨h.self, h.phase, h.ready, h.routes⟩
  | historyFinish cleanShutdown => exact .finishActive w cleanShutdown
  | _ => exact ⟨rfl, rfl, rfl, rfl⟩

end StorageNode.Guardian
