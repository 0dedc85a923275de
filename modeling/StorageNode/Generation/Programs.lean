import StorageNode.Generation.World
import StorageNode.Generation.Resolver
import StorageNode.Program.Contract

/-!
# Leases and generations

`LocalWriterLease`, `WorkerGeneration` and `GenerationFactory.create` of `generation`, and what the
guardian does with them. The attributes of a generation object are read with `self` and changed with
`assign`. `patience` is how often a loop looks before its deadline has passed.
-/

set_option autoImplicit false

namespace StorageNode.Generation

open StorageNode.Json StorageNode.Program StorageNode.Text

abbrev Prog (α : Type) := Program.Prog Request Answer Error α

/-- The end of a request: its value, or its exception. -/
def settle {α : Type} : Except Error α → Prog α
  | .ok a => .ret a
  | .error e => .raise e

/-- A request whose exceptions are not handled. -/
def perform (r : Request) : Prog r.Result :=
  (Prog.ask r).bind settle

/-- `except` clauses for some exceptions. -/
def catchOnly {α : Type} (caught : List Error) (p q : Prog α) : Prog α :=
  p.catchWith fun e => if e ∈ caught then q else .raise e

/-! ## The lease -/

section

variable (ft : FloatText)

/-- What the owner of the lease writes into its file. -/
def leaseText (nodeName : String) (pid : Nat) (now : Number) : Text :=
  dumps ft [' '] (.object [("node", .str nodeName), ("pid", .int pid), ("acquired_at", .float now)])

/-- The owner that a refused process reports. -/
def reportedOwner (text : Text) : Text :=
  if strip text = [] then "another guardian".toList else strip text

/-- `LocalWriterLease.acquire`. -/
def acquire (nodeName : String) (pid : Nat) (now : Number) : Prog Unit :=
  (perform .makeControlDirectory).bind fun _ =>
  (perform .openLease).bind fun _ =>
  (perform .flock).bind fun (granted : Bool) =>
  if granted = true then
    (perform .truncateLease).bind fun _ =>
    (perform (.writeLease (leaseText ft nodeName pid now ++ ['\n']))).bind fun _ =>
    perform .syncLease
  else
    (perform .readLease).bind fun (text : Text) =>
    (perform .closeLease).bind fun _ =>
    .raise (.leaseHeld (reportedOwner text))

end

/-- `LocalWriterLease.release`, of a lease that is held. -/
def releaseLease : Prog Unit :=
  (perform .unlock).andFinally (perform .closeLease)

/-! ## Attributes -/

/-- `self`. -/
def this : Prog WorkerGeneration :=
  (perform .self).bind fun (object : Option WorkerGeneration) => Prog.orRaise .attribute object

/-- Change the attributes. -/
def update (f : WorkerGeneration → WorkerGeneration) : Prog Unit :=
  this.bind fun g => perform (.assign (some (f g)))

/-- The name of the mode with namespaces. -/
def WorkerGeneration.isolated (g : WorkerGeneration) : Prop := g.settings.mode = "namespace"

instance (g : WorkerGeneration) : Decidable g.isolated := by
  unfold WorkerGeneration.isolated
  infer_instance

/-- `worker_ip`. -/
def WorkerGeneration.workerIp (g : WorkerGeneration) : Option Text :=
  if g.isolated then (g.settings.ipInterface g.settings.workerAddress).map Interface.ip
  else some "127.0.0.1".toList

/-! ## The record -/

/-- `_write_json_atomic`. -/
def writeJsonAtomic (record : GenerationRecord) : Prog Unit :=
  (perform .makeControlDirectory).bind fun _ =>
  (perform (.writeTemporary record)).bind fun _ =>
  (perform .replaceRecord).bind fun _ =>
  perform .syncStateDirectory

/-- What `_persist` writes. -/
def WorkerGeneration.record (g : WorkerGeneration) (state : String) (workerIp : Text) (now : Nat) :
    GenerationRecord where
  generation := g.generation
  token := g.token
  mode := g.settings.mode
  state := state
  namespacePid := g.keeper
  workerIp := workerIp
  fenced := g.fenced
  fenceReason := g.fenceReason
  updatedAt := now

/-- `_persist`. -/
def persist (state : String) : Prog Unit :=
  this.bind fun g =>
  (Prog.orRaise .value g.workerIp).bind fun workerIp =>
  (perform .time).bind fun (now : Nat) =>
  writeJsonAtomic (g.record state workerIp now)

/-! ## Processes -/

/-- End a process group, first politely. -/
def terminate (pid : Nat) : Prog Unit :=
  catchOnly [.lookup, .timeout]
    ((perform (.killGroup pid .terminate)).bind fun _ => perform (.wait pid))
    ((catchOnly [.lookup] (perform (.killGroup pid .kill)) (.ret ())).bind fun _ =>
      catchOnly [.timeout] (perform (.wait pid)) (.ret ()))

/-- End a process unless it has exited. -/
def stopProcess : Option Nat → Prog Unit
  | none => .ret ()
  | some pid => (perform (.poll pid)).bind fun (exited : Bool) => Prog.when (exited = false) (terminate pid)

/-- `stop_dns_proxy`. -/
def stopDnsProxy : Prog Unit :=
  this.bind fun g =>
  (perform (.assign (some { g with dnsProxy := none }))).bind fun _ =>
  stopProcess g.dnsProxy

/-- `stop_keeper`. -/
def stopKeeper : Prog Unit :=
  this.bind fun g =>
  (perform (.assign (some { g with keeper := none }))).bind fun _ =>
  stopProcess g.keeper

/-! ## Fencing -/

/-- The verified deletion of the link. -/
def deleteLink : Prog Unit :=
  (perform .deleteLink).bind fun _ =>
  (perform .showLink).bind fun (remains : Bool) =>
  Prog.raiseIf (remains = true) .generation

/-- `fence`. -/
def fence (reason : String) : Prog Unit :=
  this.bind fun g =>
  Prog.when (g.fenced = false) <|
    (Prog.when g.isolated (deleteLink.bind fun _ => stopDnsProxy)).bind fun _ =>
    (update fun g => { g with fenced := true, fenceReason := reason }).bind fun _ =>
    persist "fenced"

/-- `retire`. -/
def retire : Prog Unit :=
  this.bind fun g =>
  ((fence (if g.fenceReason = "" then "generation retired" else g.fenceReason)).andFinally
    (stopDnsProxy.bind fun _ => stopKeeper)).bind fun _ =>
  persist "retired"

/-! ## Starting -/

/-- A checked command. -/
abbrev runCommand (command : Command) : Prog Unit := perform (.command command)

/-- `ensure_ip_forwarding`. -/
def ensureIpForwarding : Prog Unit :=
  (perform .readForwarding).bind fun (current : Bool) =>
  Prog.when (current = false) <|
    (perform .writeForwarding).bind fun _ =>
    (perform .readForwarding).bind fun (enabled : Bool) =>
    Prog.raiseIf (enabled = false) .generation

/-- `_ensure_iptables`. -/
def ensureIptables (rule : Rule) : Prog Unit :=
  (perform (.checkRule rule)).bind fun (found : Bool) =>
  Prog.when (found = false) (runCommand (.addRule rule))

/-- `_configure_network`. -/
def configureNetwork : Prog Unit :=
  this.bind fun g =>
  (Prog.orRaise .generation g.keeper).bind fun pid =>
  (Prog.orRaise .value (g.settings.ipInterface g.settings.hostAddress)).bind fun host =>
  (Prog.orRaise .value (g.settings.ipInterface g.settings.workerAddress)).bind fun worker =>
  (Prog.raiseIf (host.network ≠ worker.network) .generation).bind fun _ =>
  (perform .deleteLink).bind fun _ =>
  (Prog.forEach [Command.addLink, .addHostAddress g.settings.hostAddress, .setHostUp, .movePeer pid,
    .setLoopbackUp pid, .addWorkerAddress pid g.settings.workerAddress, .setPeerUp pid,
    .replaceRoute pid g.settings.gateway] runCommand).bind fun _ =>
  ensureIpForwarding.bind fun _ =>
  Prog.forEach [Rule.masquerade host.network, .forwardOut, .forwardBack] ensureIptables

/-- The loop of `_configure_dns`. -/
def waitProxy (pid : Nat) : Nat → Prog Unit
  | 0 => stopDnsProxy.bind fun _ => .raise .generation
  | patience + 1 =>
    (perform .readyExists).bind fun (ready : Bool) =>
    if ready = true then .ret ()
    else (perform (.poll pid)).bind fun (exited : Bool) =>
      (Prog.raiseIf (exited = true) .generation).bind fun _ =>
      (perform .sleep).bind fun _ =>
      waitProxy pid patience

/-- `except Exception: cleanup; raise`. -/
def cleaningUp (p : Prog Unit) (cleanup : Prog Unit) : Prog Unit :=
  p.catchWith fun e => cleanup.bind fun _ => .raise e

/-- Exceptions of the resolver configuration. -/
def resolved : Except ResolverError (List Text) → Prog (List Text)
  | .ok found => .ret found
  | .error _ => .raise .generation

/-- `_configure_dns`. -/
def configureDns (patience : Nat) : Prog Unit :=
  this.bind fun g =>
  (Prog.orRaise .generation g.keeper).bind fun keeper =>
  (perform .readResolver).bind fun (text : Text) =>
  (resolved (resolverNameservers g.settings.ipAddress text)).bind fun upstreams =>
  (Prog.orRaise .value (g.settings.ipAddress g.settings.gateway)).bind fun gateway =>
  (perform .readResolver).bind fun (source : Text) =>
  (perform (.writeResolver (renderWorkerResolvConf source gateway))).bind fun _ =>
  (perform (.startProxy gateway upstreams)).bind fun (proxy : Nat) =>
  (update fun g => { g with dnsProxy := some proxy }).bind fun _ =>
  (waitProxy proxy patience).bind fun _ =>
  cleaningUp (runCommand (.bindResolver keeper)) stopDnsProxy

/-- The loop of `start`. -/
def waitKeeper (pid : Nat) : Nat → Prog Unit
  | 0 => stopKeeper.bind fun _ => .raise .generation
  | patience + 1 =>
    (perform (.poll pid)).bind fun (exited : Bool) =>
    (Prog.raiseIf (exited = true) .generation).bind fun _ =>
    (perform (.namespaceExists pid)).bind fun (found : Bool) =>
    if found = true then .ret ()
    else (perform .sleep).bind fun _ => waitKeeper pid patience

/-- `start`. -/
def start (patience : Nat) : Prog Unit :=
  this.bind fun g =>
  if g.settings.mode = "disabled" then persist "active"
  else
    (Prog.raiseIf (¬ g.isolated) .generation).bind fun _ =>
    (perform .makeRuntimeDirectory).bind fun _ =>
    (perform .startKeeper).bind fun (pid : Nat) =>
    (update fun g => { g with keeper := some pid }).bind fun _ =>
    (waitKeeper pid patience).bind fun _ =>
    (cleaningUp (configureNetwork.bind fun _ => configureDns patience)
      ((fence "namespace setup failed").bind fun _ => stopKeeper)).bind fun _ =>
    persist "active"

/-- `GenerationFactory.create`. The object is the current one from its construction on. -/
def create (settings : Settings) (patience : Nat) : Prog Unit :=
  (perform .allocateGeneration).bind fun (generation : Nat) =>
  (perform (.construct generation settings)).bind fun _ =>
  (perform .makeRuntimeDirectory).bind fun _ =>
  start patience

/-! ## The guardian -/

/-- Leave the object to the garbage collector. -/
abbrev forget : Prog Unit := perform (.assign none)

/-- What `_retire_generation` does with a generation. -/
def retireCurrent : Prog Unit :=
  (retire.catchWith fun _ => stopKeeper).andFinally forget

/-- `_retire_generation`. -/
def retireGeneration : Prog Unit :=
  (perform .self).bind fun (object : Option WorkerGeneration) =>
  Prog.when (object.isSome = true) retireCurrent

/-- `_ensure_no_lingering_processes`. -/
def ensureNoLingeringProcesses : Prog Unit :=
  (perform .findLingering).bind fun (alive : Bool) => Prog.raiseIf (alive = true) .lingering

/-- `_begin_generation`. A generation that could not be created is not kept. One whose start cannot be
recorded is. -/
def beginGeneration (settings : Settings) (patience : Nat) : Prog Unit :=
  ensureNoLingeringProcesses.bind fun _ =>
  retireGeneration.bind fun _ =>
  (cleaningUp (create settings patience) (forget.bind fun _ => perform .recordFailure)).bind fun _ =>
  perform .recordStart

/-- `_fence_generation`, without its handler. -/
def fenceGeneration (reason : String) : Prog Unit :=
  (perform .self).bind fun (object : Option WorkerGeneration) =>
  Prog.when (object.isSome = true) (fence reason)

/-- What a guardian does with its generations. -/
inductive Order where
  | begin (settings : Settings) (patience : Nat)
  | fence (reason : String)
  | retire

def Order.program : Order → Prog Unit
  | .begin settings patience => beginGeneration settings patience
  | .fence reason => fenceGeneration reason
  | .retire => retireGeneration

/-- The part of `Guardian.run` that works with generations, in any order. Exceptions are handled. -/
def obey (orders : List Order) : Prog Unit :=
  Prog.forEach orders fun order => order.program.attempt.bind fun _ => .ret ()

/-- A guardian process. -/
def guardian (ft : FloatText) (nodeName : String) (pid : Nat) (now : Number) (orders : List Order) :
    Prog Unit :=
  (acquire ft nodeName pid now).bind fun _ => (obey orders).andFinally releaseLease

end StorageNode.Generation
