import StorageNode.Guardian.Programs
import StorageNode.Program.Contract
import Mathlib.Data.List.Basic

/-!
# The invariant of the guardian

`GuardInv` collects what holds in every state of a run. Every SeaweedFS process and storage helper
that runs is in one of the guardian's lists; every generation is fenced, or current, or a fence has
failed; readiness rests on the evidence of the current generation (`Ready`); and the published flag
for orphan deletion is backed by certified indexes, as long as no generation ended uncleanly under it.
`Permit` says under which facts each request is issued.
-/

set_option autoImplicit false

namespace StorageNode.Guardian

open StorageNode.Program StorageNode.FloatingPoint

/-! ## Evidence of readiness -/

/-- Events that end a generation or begin one. -/
def Event.turnsOver : Event → Bool
  | .created _ => true
  | .fenced _ => true
  | _ => false

/-- Detached targets. -/
def Event.detaches : Event → Bool
  | .helper .unmount _ _ => true
  | _ => false

/-- Started processes. -/
def Event.starts : Event → Bool
  | .started _ => true
  | _ => false

/-- Accepted statuses. -/
def Event.accepts : Event → Bool
  | .accepted _ => true
  | _ => false

/-- Events that leave readiness and its evidence alone. -/
def Event.harmless (e : Event) : Bool :=
  !e.turnsOver && !e.detaches && !e.accepts

/-- Every active target is mounted and prepared. -/
def enrolment (cfg : Config) : List Event :=
  cfg.activeTargets.flatMap fun t =>
    [.helper .mount (some t) false, .helper .prepare (some t) false]

/-- Every active target passes a probe. -/
def probeRound (cfg : Config) (full : Bool) : List Event :=
  cfg.activeTargets.map fun t => .helper .probe (some t) full

/-- An accepted status: no unexpected read-only volume, and no repair awaits validation. -/
def acceptance (status : VolumeStatus) : List Event :=
  [.inspected status, .awaiting false, .accepted status]

/-- The status check of one round, when it is enabled. -/
inductive StatusCheck (cfg : Config) : List Event → Prop
  | disabled (h : cfg.volumeHealthEnabled = false) : StatusCheck cfg []
  | accepted (status : VolumeStatus) (h : cfg.volumeHealthEnabled = true)
      (hclean : status.unexpectedIds = []) : StatusCheck cfg (acceptance status)

/-- The S3 canary of one round, when it is enabled. -/
def canaryCheck (cfg : Config) : List Event :=
  if cfg.s3CanaryEnabled then [.canary] else []

/-- A stabilization window: it opens at a time, and each of its rounds probes every target, checks the
status, passes the canary and ends with a reading of the clock. Nothing else happens in between. -/
inductive Window (cfg : Config) (opened : Float64) : List Event → Nat → Float64 → Prop
  | nil : Window cfg opened [.clock opened] 0 opened
  | round {w check : List Event} {rounds : Nat} {last : Float64} (now : Float64)
      (h : Window cfg opened w rounds last) (hcheck : StatusCheck cfg check) :
      Window cfg opened (w ++ (probeRound cfg true ++ check ++ canaryCheck cfg ++ [.clock now]))
        (rounds + 1) now

/-- The events of a generation that make it ready: its targets were mounted and prepared, and not
detached since; a full round of probes passed before any SeaweedFS process started; and a
stabilization window with enough rounds and time followed. -/
structure Evidence (cfg : Config) (es : List Event) : Prop where
  exists_parts : ∃ before mounted checked after window opened rounds last,
    es = before ++ enrolment cfg ++ mounted ++ probeRound cfg true ++ checked ++ window ++ after ∧
    (∀ e ∈ before ++ enrolment cfg ++ mounted ++ probeRound cfg true, e.starts = false) ∧
    (∀ e ∈ mounted ++ probeRound cfg true ++ checked ++ window ++ after, e.detaches = false) ∧
    Window cfg opened window rounds last ∧ cfg.recoverySuccessesRequired ≤ rounds ∧
    ((cfg.recoveryStabilitySeconds : ℚ) : Extended) ≤ last - opened

/-- The last accepted status showed no unexpected read-only volume and no pending repair. -/
def LastAccepted (es : List Event) : Prop :=
  ∃ before status after, es = before ++ acceptance status ++ after ∧ status.unexpectedIds = [] ∧
    ∀ e ∈ after, e.accepts = false

/-- The current generation is `g`, it is not fenced, and `es` happened in it. -/
structure Since (g : Nat) (es : List Event) (w : World) : Prop where
  generation : w.self.generation = some g
  unfenced : g ∉ w.fenced
  log : ∃ older, w.log = es.reverse ++ .created g :: older
  inside : ∀ e ∈ es, e.turnsOver = false

/-- Readiness is proven. -/
def Ready (cfg : Config) (w : World) : Prop :=
  ∃ g es, Since g es w ∧ Evidence cfg es ∧ (cfg.volumeHealthEnabled = true → LastAccepted es)

/-- The upstream status that was read last. -/
def lastInspected (log : List Event) : Option VolumeStatus :=
  log.findSome? fun
    | .inspected status => some status
    | _ => none

/-! ## The invariant -/

/-- A fence of a generation in service could not be verified. -/
def FenceFailed (log : List Event) : Prop :=
  ∃ g, Event.fenceFailed g false ∈ log

/-- No such fence has failed. -/
def Sound (w : World) : Prop :=
  ¬ FenceFailed w.log

/-- The guardian is not ready. -/
def Down (w : World) : Prop :=
  w.health.ready = false

/-- No generation ended uncleanly, and none failed to be created, while the published status allowed
orphan deletion. -/
def Tidy (log : List Event) : Prop :=
  Event.finished false true ∉ log

/-- What holds in every state of a run. -/
structure GuardInv (cfg : Config) (w : World) : Prop where
  procs : ∀ p ∈ w.running, p ∈ w.self.processes ∨ p ∈ w.self.lingeringProcesses
  helpers : ∀ h ∈ w.helpersRunning, h ∈ w.self.helperChildren
  generations : ∀ g, .created g ∈ w.log →
    g ∈ w.fenced ∨ w.self.generation = some g ∨ FenceFailed w.log
  current : ∀ g, w.self.generation = some g → g < w.nextSerial
  fresh : ∀ g ∈ w.fenced, g < w.nextSerial
  ready : w.health.ready = true → Ready cfg w
  orphan : Tidy w.log → w.health.orphanDeletionSafe = true →
    w.health.indexesCertified = true ∧ w.history.indexesCertified = true

/-- A SeaweedFS process may start: nothing of an earlier generation runs, no storage helper runs, and
every earlier generation is fenced. -/
structure Startable (p : Proc) (w : World) : Prop where
  own : p ∈ w.self.processes
  alone : ∀ q ∈ w.running, q.generation = p.generation
  helpers : w.helpersRunning = []
  fenced : ∀ g, .created g ∈ w.log → g ≠ p.generation → g ∈ w.fenced

/-- The facts under which a status is published as accepted. -/
structure AcceptOk (status : VolumeStatus) (safe : Bool) (w : World) : Prop where
  certified : safe = true → w.health.indexesCertified = true ∧ w.history.indexesCertified = true
  ready : w.health.ready = true → status.unexpectedIds = [] ∧
    ∃ g es, Since g (es ++ [.inspected status, .awaiting false]) w

/-- The facts under which indexes are certified: the status that was read last shows no unexpected
read-only volume, and no repair awaits validation. -/
def CertifyOk (w : World) : Prop :=
  (∃ status, lastInspected w.log = some status ∧ status.unexpectedIds = []) ∧ w.pending = []

/-- Under which facts each request is issued. -/
def Permit (cfg : Config) : GuardReq → World → Prop
  | .assign (.processes ps), w => ∀ p ∈ w.running, p ∈ ps ∨ p ∈ w.self.lingeringProcesses
  | .assign (.lingeringProcesses ps), w => ∀ p ∈ w.running, p ∈ w.self.processes ∨ p ∈ ps
  | .assign (.helperChildren hs), w => ∀ h ∈ w.helpersRunning, h ∈ hs
  | .assign (.generation none), w =>
      Down w ∧ ∀ g, w.self.generation = some g → g ∈ w.fenced ∨ FenceFailed w.log
  | .assign (.generation (some g)), w =>
      Down w ∧ Sound w ∧ w.self.generation = none ∧ g < w.nextSerial ∧ g ∉ w.fenced
  | .setHealth _ ready, w => ready = true → Ready cfg w ∧ w.heeded = false
  | .publishVolumes status safe, w => AcceptOk status safe w
  | .start p, w => Startable p w
  | .stopUntil _, w => Down w
  | .helper op _ _, w => op = .unmount → Down w
  | .nextGeneration, w => Down w ∧ Sound w
  | .deleteLink _ _, w => Down w
  | .markFenced g, w => Down w ∧ g < w.nextSerial
  | .historyCertify, w => CertifyOk w
  | .prepareOffline, w => w.running = []
  | .repairDetected _, w => w.running = []
  | .rollbackRejected _, w => w.running = []
  | _, _ => True

/-! ## Readiness under new events -/

section

variable {cfg : Config} {w w' : World} {g : Nat} {es : List Event} {e : Event}

theorem Since.extend (h : Since g es w) (hgeneration : w'.self.generation = w.self.generation)
    (hfenced : w'.fenced = w.fenced) (hlog : w'.log = e :: w.log) (he : e.turnsOver = false) :
    Since g (es ++ [e]) w' where
  generation := hgeneration.trans h.generation
  unfenced := hfenced ▸ h.unfenced
  log := by
    obtain ⟨older, hold⟩ := h.log
    exact ⟨older, by simp [hlog, hold]⟩
  inside x hx := by
    rcases List.mem_append.1 hx with hx | hx
    · exact h.inside x hx
    · exact List.mem_singleton.1 hx ▸ he

theorem Since.same (h : Since g es w) (hgeneration : w'.self.generation = w.self.generation)
    (hfenced : w'.fenced = w.fenced) (hlog : w'.log = w.log) : Since g es w' :=
  ⟨hgeneration.trans h.generation, hfenced ▸ h.unfenced, hlog ▸ h.log, h.inside⟩

/-- The events of the current generation are those since the last turnover. -/
theorem Since.recent (h : Since g es w) : w.log.takeWhile (fun e => !e.turnsOver) = es.reverse := by
  obtain ⟨older, hold⟩ := h.log
  rw [hold, List.takeWhile_append_of_pos]
  · simp [Event.turnsOver]
  · intro e he
    simp [h.inside e (List.mem_reverse.1 he)]

theorem Since.unique {g' : Nat} {es' : List Event} (h : Since g es w) (h' : Since g' es' w) :
    g' = g ∧ es' = es :=
  ⟨Option.some.inj (h'.generation.symm.trans h.generation),
    List.reverse_injective (h'.recent.symm.trans h.recent)⟩

theorem Evidence.extend (h : Evidence cfg es) (he : e.detaches = false) :
    Evidence cfg (es ++ [e]) := by
  obtain ⟨before, mounted, checked, after, window, opened, rounds, last, rfl, hstarts, hdetach, hrest⟩ :=
    h.exists_parts
  refine ⟨before, mounted, checked, after ++ [e], window, opened, rounds, last, by simp, hstarts, ?_,
    hrest⟩
  intro x hx
  rw [← List.append_assoc] at hx
  rcases List.mem_append.1 hx with hx | hx
  · exact hdetach x hx
  · exact List.mem_singleton.1 hx ▸ he

theorem LastAccepted.extend (h : LastAccepted es) (he : e.accepts = false) :
    LastAccepted (es ++ [e]) := by
  obtain ⟨before, status, after, rfl, hclean, hafter⟩ := h
  refine ⟨before, status, after ++ [e], by simp, hclean, fun x hx => ?_⟩
  rcases List.mem_append.1 hx with hx | hx
  · exact hafter x hx
  · exact List.mem_singleton.1 hx ▸ he

theorem Ready.same (h : Ready cfg w) (hgeneration : w'.self.generation = w.self.generation)
    (hfenced : w'.fenced = w.fenced) (hlog : w'.log = w.log) : Ready cfg w' := by
  obtain ⟨g, es, hsince, hrest⟩ := h
  exact ⟨g, es, hsince.same hgeneration hfenced hlog, hrest⟩

theorem Ready.extend (h : Ready cfg w) (hgeneration : w'.self.generation = w.self.generation)
    (hfenced : w'.fenced = w.fenced) (hlog : w'.log = e :: w.log) (he : e.harmless = true) :
    Ready cfg w' := by
  obtain ⟨g, es, hsince, hevidence, haccepted⟩ := h
  simp only [Event.harmless, Bool.and_eq_true, Bool.not_eq_true'] at he
  obtain ⟨⟨hturns, hdetaches⟩, haccepts⟩ := he
  exact ⟨g, es ++ [e], hsince.extend hgeneration hfenced hlog hturns, hevidence.extend hdetaches,
    fun hv => (haccepted hv).extend haccepts⟩

end

end StorageNode.Guardian
