import StorageNode.Files.Volume
import StorageNode.Json.Writer
import StorageNode.Program.Core
import Mathlib.Logic.Function.Basic

/-!
# The host under a worker generation

What `generation` works on: the lease file, the record of the generation, the veth pair that connects a
worker namespace with the host, the rules of the packet filter, and the processes that keep a namespace
and relay its DNS. Any number of guardian processes may run; each request says which of them issues it.

Before a request takes effect, something may have happened to the host: a process has exited, a keeper
has reached its own namespace, the veth pair or a rule is gone. A command that fails may still have had
its effect. `ip link show` and `iptables -C` are taken at their word: their exit code says what is there.
A process stands for its object in the guardian; the kernel does not use its number again while the
object is held.

The processes of SeaweedFS and the generation history have their models elsewhere: whether processes of
an earlier generation linger is a choice, and writing the history may fail.
-/

set_option autoImplicit false

namespace StorageNode.Generation

open StorageNode.Files StorageNode.Json StorageNode.Program StorageNode.Text

/-! ## Data -/

/-- `ipaddress.ip_interface`. -/
structure Interface where
  ip : Text
  network : Text

/-- The arguments of `create`, with the parsers of addresses, which may raise a `ValueError`. -/
structure Settings where
  mode : String
  hostAddress : Text
  workerAddress : Text
  gateway : Text
  ipInterface : Text → Option Interface
  ipAddress : Text → Option Text

/-- `WorkerGeneration`. -/
structure WorkerGeneration where
  generation : Nat
  token : Nat
  settings : Settings
  keeper : Option Nat
  dnsProxy : Option Nat
  fenced : Bool
  fenceReason : String

/-- What `_persist` writes. -/
structure GenerationRecord where
  generation : Nat
  token : Nat
  mode : String
  state : String
  namespacePid : Option Nat
  workerIp : Text
  fenced : Bool
  fenceReason : String
  updatedAt : Nat

/-- Where the other end of the veth pair is. -/
inductive Peer where
  | host
  | worker (keeper : Nat)
  deriving DecidableEq

/-- The rules that `_configure_network` needs. -/
inductive Rule where
  | masquerade (subnet : Text)
  | forwardOut
  | forwardBack
  deriving DecidableEq

/-! ## State -/

/-- The state of the host. `keepers` has the token of the generation for which each keeper was started;
no program reads it. -/
structure World (ι : Type) where
  lease : Option ι
  leaseText : Text
  object : ι → Option WorkerGeneration
  nextGeneration : Nat
  nextToken : Nat
  nextPid : Nat
  running : List Nat
  unshared : List Nat
  link : Option Peer
  rules : List Rule
  forwarding : Bool
  ready : Bool
  records : Volume Unit GenerationRecord
  temporary : Option GenerationRecord
  keepers : List (Nat × Nat)

namespace World

variable {ι : Type}

/-- What may happen to the host at any time. -/
inductive Happening where
  | exits (pid : Nat)
  | unshares (pid : Nat)
  | linkLost
  | ruleLost (rule : Rule)
  | ready

def happen (w : World ι) : Happening → World ι
  | .exits pid => { w with running := w.running.erase pid }
  | .unshares pid => { w with unshared := pid :: w.unshared }
  | .linkLost => { w with link := none }
  | .ruleLost rule => { w with rules := w.rules.erase rule }
  | .ready => { w with ready := true }

/-- What has happened before a request. -/
def suffer (w : World ι) (happenings : List Happening) : World ι :=
  happenings.foldl happen w

end World

/-! ## Requests -/

/-- Commands whose exit code is checked by `run_command`. -/
inductive Command where
  | addLink
  | addHostAddress (address : Text)
  | setHostUp
  | movePeer (pid : Nat)
  | setLoopbackUp (pid : Nat)
  | addWorkerAddress (pid : Nat) (address : Text)
  | setPeerUp (pid : Nat)
  | replaceRoute (pid : Nat) (gateway : Text)
  | addRule (rule : Rule)
  | bindResolver (pid : Nat)
  deriving DecidableEq

/-- The two signals that end a process. -/
inductive Signal where
  | terminate
  | kill
  deriving DecidableEq

inductive Request where
  | makeControlDirectory
  | openLease
  | flock
  | readLease
  | truncateLease
  | writeLease (text : Text)
  | syncLease
  | unlock
  | closeLease
  | allocateGeneration
  | construct (generation : Nat) (settings : Settings)
  | makeRuntimeDirectory
  | time
  | self
  | assign (object : Option WorkerGeneration)
  | command (c : Command)
  | deleteLink
  | showLink
  | checkRule (rule : Rule)
  | readForwarding
  | writeForwarding
  | readResolver
  | writeResolver (text : Text)
  | startKeeper
  | namespaceExists (pid : Nat)
  | startProxy (listen : Text) (upstreams : List Text)
  | readyExists
  | poll (pid : Nat)
  | killGroup (pid : Nat) (signal : Signal)
  | wait (pid : Nat)
  | sleep
  | writeTemporary (record : GenerationRecord)
  | replaceRecord
  | syncStateDirectory
  | findLingering
  | recordStart
  | recordFailure

/-- What a request returns when it raises nothing. -/
abbrev Request.Result : Request → Type
  | .flock | .showLink | .checkRule _ | .readForwarding | .namespaceExists _ | .readyExists | .poll _
  | .findLingering => Bool
  | .readLease | .readResolver => Text
  | .allocateGeneration | .time | .startKeeper | .startProxy _ _ => Nat
  | .self => Option WorkerGeneration
  | _ => Unit

/-- The exceptions. -/
inductive Error where
  | os
  | lookup
  | timeout
  | value
  | attribute
  | generation
  | lingering
  | leaseHeld (owner : Text)
  deriving DecidableEq

abbrev Answer (r : Request) : Type := Except Error r.Result

/-- The choice of the environment. `happenings` come first. `raises` is an `OSError`, `refuses` a command
that fails or a process that does not exit in time, and `effect` whether what failed has had its effect.
`written` characters of a text are written before a write fails. -/
structure Choice where
  happenings : List World.Happening
  raises : Bool
  refuses : Bool
  effect : Bool
  written : Nat
  text : Text
  time : Nat

/-- What only touches the memory of the process. A new object gets a token that no other has. -/
def Request.internal : Request → Bool
  | .construct _ _ | .time | .self | .assign _ | .sleep | .findLingering => true
  | _ => false

/-- Whether a request may have its effect although it fails. -/
def Request.halfway : Request → Bool
  | .startKeeper | .startProxy _ _ | .allocateGeneration | .wait _ => false
  | _ => true

section

variable {ι : Type}

/-- Whether a command can work. A link is not added twice, and only a running process has a namespace. -/
def Command.possible (w : World ι) : Command → Bool
  | .addLink => w.link.isNone
  | .movePeer pid => w.link.isSome && w.running.contains pid
  | .setLoopbackUp pid | .addWorkerAddress pid _ | .setPeerUp pid | .replaceRoute pid _
  | .bindResolver pid => w.running.contains pid
  | _ => true

/-- What a command does. Addresses and routes are not kept: nothing reads them. -/
def Command.apply (w : World ι) : Command → World ι
  | .addLink => { w with link := some .host }
  | .movePeer pid =>
    { w with link := w.link.map fun _ => if w.unshared.contains pid then .worker pid else .host }
  | .addRule rule => { w with rules := rule :: w.rules }
  | _ => w

/-- The exception of a request that raises no `OSError`. -/
def refusal (c : Choice) (w : World ι) : Request → Option Error
  | .command command => if command.possible w && !c.refuses then none else some .generation
  | .killGroup pid _ => if w.running.contains pid then none else some .lookup
  | .wait pid => if w.running.contains pid && c.refuses then some .timeout else none
  | .replaceRecord => if w.temporary.isSome then none else some .os
  | _ => none

/-- Whether a request has its effect. -/
def takesEffect (c : Choice) (w : World ι) (r : Request) : Bool :=
  r.internal || (!c.raises && (refusal c w r).isNone) || (r.halfway && c.effect)

/-- A process that is started. -/
def World.spawn (w : World ι) : World ι :=
  { w with nextPid := w.nextPid + 1, running := w.nextPid :: w.running }

variable [DecidableEq ι]

/-- What the kernel takes back when a handle of the lease file is closed. -/
def World.release (w : World ι) (i : ι) : World ι :=
  { w with lease := if w.lease = some i then none else w.lease }

/-- The effect of a request. -/
def effect (i : ι) (c : Choice) (w : World ι) : Request → World ι
  | .flock => if w.lease = none then { w with lease := some i } else w
  | .truncateLease => { w with leaseText := [] }
  | .writeLease text => { w with leaseText := w.leaseText ++ if c.raises then text.take c.written else text }
  | .unlock | .closeLease => w.release i
  | .allocateGeneration => { w with nextGeneration := w.nextGeneration + 1 }
  | .construct generation settings => { w with
      nextToken := w.nextToken + 1
      object := Function.update w.object i
        (some ⟨generation, w.nextToken, settings, none, none, false, ""⟩) }
  | .assign object => { w with object := Function.update w.object i object }
  | .command command => if command.possible w then command.apply w else w
  | .deleteLink => if c.refuses && !c.effect then w else { w with link := none }
  | .writeForwarding => { w with forwarding := !c.refuses }
  | .startKeeper => match w.object i with
    | none => w.spawn
    | some g => { w.spawn with keepers := (g.token, w.nextPid) :: w.keepers }
  | .startProxy _ _ => w.spawn
  | .wait pid => { w with running := w.running.erase pid }
  | .writeTemporary record => { w with temporary := if c.raises then none else some record }
  | .replaceRecord => match w.temporary with
    | none => w
    | some record => { w with records := w.records.replace () record, temporary := none }
  | .syncStateDirectory => { w with records := w.records.sync }
  | _ => w

/-- What a request returns. The queries for the link and for a rule are taken to answer truthfully; the code
reads any failure of theirs as an absence. -/
def result (i : ι) (c : Choice) (w : World ι) : (r : Request) → r.Result
  | .flock => decide (w.lease = none)
  | .readLease => w.leaseText
  | .allocateGeneration => w.nextGeneration
  | .time => c.time
  | .self => w.object i
  | .showLink => w.link.isSome
  | .checkRule rule => w.rules.contains rule
  | .readForwarding => w.forwarding
  | .readResolver => c.text
  | .startKeeper | .startProxy _ _ => w.nextPid
  | .namespaceExists pid => w.running.contains pid
  | .readyExists => w.ready
  | .poll pid => !w.running.contains pid
  | .findLingering => c.refuses
  | .makeControlDirectory | .openLease | .truncateLease | .writeLease _ | .syncLease | .unlock
  | .closeLease | .makeRuntimeDirectory | .construct _ _ | .assign _ | .command _ | .deleteLink | .writeForwarding
  | .writeResolver _ | .killGroup _ _ | .wait _ | .sleep | .writeTemporary _ | .replaceRecord
  | .syncStateDirectory | .recordStart | .recordFailure => ()

/-- The answer to a request. -/
def answer (i : ι) (r : Request) (c : Choice) (w : World ι) : Answer r :=
  if r.internal then .ok (result i c w r)
  else if c.raises then .error .os
  else match refusal c w r with
    | some e => .error e
    | none => .ok (result i c w r)

/-- One request of guardian `i`. -/
def exec (i : ι) (r : Request) (c : Choice) (w : World ι) : Answer r × World ι :=
  let w := w.suffer c.happenings
  (answer i r c w, if takesEffect c w r then effect i c w r else w)

/-- A guardian process ends. What it has started goes on. -/
def World.reap (i : ι) (w : World ι) : World ι :=
  { w.release i with object := Function.update w.object i none }

/-- A failure of the machine. The record is left with a content that it had since its directory was last
synchronised. -/
structure Fails (w w' : World ι) : Prop where
  records : ∃ d, w'.records = Volume.start d ∧ w.records.Survives Eq d
  temporary : w'.temporary = none ∨ w'.temporary = w.temporary
  lease : w'.lease = none
  object : ∀ i, w'.object i = none
  network : w'.link = none ∧ w'.rules = []
  keepers : w'.keepers = w.keepers
  counters : w.nextToken ≤ w'.nextToken ∧ w.nextPid ≤ w'.nextPid

end

end StorageNode.Generation
