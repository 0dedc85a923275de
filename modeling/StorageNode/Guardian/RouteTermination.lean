import StorageNode.Guardian.Routes

/-!
# Routes in a termination

`Settled` is what the guardian knows about routes whenever a generation ends: a charged failure has its
helper call on record, and the route that may still be mounted is the one that the guardian takes it to
be. A termination keeps it. It detaches the data target and stops its SSHFS process on that route, and
records a clean shutdown only after a drain that detached every managed target
(`terminateGeneration_settles`).
-/

set_option autoImplicit false

namespace StorageNode.Guardian

open StorageNode.Program GuardProg

variable {cfg : Config} {w w' : World} {α : Type}

/-- The contract of a program under the discipline of routes. -/
abbrev Routed (cfg : Config) {α : Type} (P : World → Prop) (p : GuardProg α) (Q : α → World → Prop)
    (E : GuardExc → World → Prop) : Prop :=
  (routeDiscipline cfg).Triple P p Q E

theorem routed_ask {P : World → Prop} {E : GuardExc → World → Prop} {r : GuardReq}
    {Q : r.Ans → World → Prop} (hP : Firm P)
    (hpermit : ∀ w, Plain w → P w → RoutePermit cfg r w)
    (hQ : ∀ c w, Plain w → P w → Q (guardExec r c w).1 (guardExec r c w).2) :
    Routed cfg P (Prog.ask r) Q E :=
  .ask (fun w w' _ _ hm h => hP w w' hm h) hpermit fun c w hw hp _ => hQ c w hw hp

theorem routed_view {P : World → Prop} {E : GuardExc → World → Prop} (hP : Firm P) :
    Routed cfg P view (fun s w => Saw s w ∧ P w) E :=
  routed_ask hP (fun _ _ _ => trivial) fun _ _ _ hp => ⟨⟨rfl, id⟩, hp⟩

theorem Saw.transport {s : Self} (h : Saw s w) : w.self.transport = s.transport := by
  rw [h.self]

theorem routed_must {P : World → Prop} {E : GuardExc → World → Prop} {p : GuardProg Bool}
    {e : GuardExc} {Q : Unit → World → Prop}
    (h : Routed cfg P p (fun ok w => (ok = true → Q () w) ∧ (ok = false → E e w)) E) :
    Routed cfg P (must e p) Q E := by
  refine .bind h fun ok => .raiseIf (fun hbad w _ hw => ?_) fun hok w _ hw => ?_
  · exact hw.2 (by simpa using hbad)
  · exact hw.1 (by simpa using hok)

/-! ## What detaching does to the record -/

/-- Events of a drain and of detaching. -/
def RouteEvent.detaching : RouteEvent → Bool
  | .draining _ => true
  | .detached _ _ => true
  | .helper _ .unmount _ _ _ => true
  | _ => false

theorem RouteEvent.resets_of_detaching {e : RouteEvent} (he : e.detaching = true) :
    e.resets = false := by
  cases e <;> first | rfl | exact absurd he (by simp [RouteEvent.detaching])

theorem RouteEvent.begins_of_detaching {e : RouteEvent} (he : e.detaching = true) :
    e.begins = false := by
  cases e <;> first | rfl | exact absurd he (by simp [RouteEvent.detaching])

/-- Detaching mounts nothing. -/
theorem mountedRoute_detaching {e : RouteEvent} (he : e.detaching = true) {routes : List RouteEvent}
    {r : String} (h : mountedRoute cfg (e :: routes) = some r) : mountedRoute cfg routes = some r := by
  cases e with
  | draining lingering => exact h
  | detached target how =>
      simp only [mountedRoute] at h
      split at h
      · exact absurd h (by simp)
      · exact h
  | helper g op target route answer =>
      cases op <;> first | exact h | exact absurd he (by simp [RouteEvent.detaching])
  | _ => exact absurd he (by simp [RouteEvent.detaching])

/-- What the requests of a drain and of detaching leave alone. -/
structure Unmoored (w w' : World) : Prop where
  transport : w'.self.transport = w.self.transport
  generation : w'.self.generation = w.self.generation
  routes : ∃ es, w'.routes = es ++ w.routes ∧ ∀ e ∈ es, e.detaching = true

theorem Ashore.unmoored (h : Ashore w w') : Unmoored w w' := by
  refine ⟨h.transport, h.generation, ?_⟩
  rcases h.routes with heq | ⟨lingering, heq⟩
  · exact ⟨[], by simpa using heq, by simp⟩
  · exact ⟨[.draining lingering], heq, by simp [RouteEvent.detaching]⟩

theorem Moved.ashore (h : Moved w w') : Ashore w w' :=
  ⟨by rw [h.self], by rw [h.self], by rw [h.self], .inl h.routes⟩

/-- The requests of a drain and of detaching. -/
def GuardReq.docks : GuardReq → Bool
  | .assign (.helperChildren _) => true
  | .helper .unmount _ _ => true
  | r => r.ashore

/-- The events of a call that detaches. -/
theorem routeEvents_detaching (c : GuardChoice) (g : Nat) (target : Option Target) (route : String) :
    ∀ e ∈ c.routeEvents g .unmount target route, e.detaching = true := by
  intro e he
  unfold GuardChoice.routeEvents at he
  rcases List.mem_append.1 he with he | he
  · split at he
    · exact List.mem_singleton.1 he ▸ rfl
    · exact absurd he (by simp)
  · exact List.mem_singleton.1 he ▸ rfl

theorem helperEnd_routes (w : World) (op : HelperOp) (target : Option Target) (full : Bool)
    (answer : HelperAnswer) : (w.helperEnd op target full answer).routes = w.routes := by
  cases answer <;> rfl

theorem helperEnd_transport (w : World) (op : HelperOp) (target : Option Target) (full : Bool)
    (answer : HelperAnswer) :
    (w.helperEnd op target full answer).self.transport = w.self.transport := by
  cases answer <;> rfl

theorem helperEnd_generation (w : World) (op : HelperOp) (target : Option Target) (full : Bool)
    (answer : HelperAnswer) :
    (w.helperEnd op target full answer).self.generation = w.self.generation := by
  cases answer <;> rfl

theorem docks_exec {r : GuardReq} (hr : r.docks = true) (c : GuardChoice) (w : World) :
    Unmoored w (guardExec r c w).2 := by
  by_cases hashore : r.ashore = true
  · exact (ashore_exec hashore c w).unmoored
  cases r with
  | assign a =>
      cases a with
      | helperChildren hs => exact ⟨rfl, rfl, [], rfl, by simp⟩
      | _ => exact absurd hr hashore
  | helper op target full =>
      cases op with
      | unmount =>
          simp only [guardExec]
          split
          · exact ⟨rfl, rfl, [], rfl, by simp⟩
          · refine ⟨helperEnd_transport _ _ _ _ _, helperEnd_generation _ _ _ _ _, ?_⟩
            exact ⟨_, helperEnd_routes _ _ _ _ _, routeEvents_detaching c _ target _⟩
      | _ => exact absurd hr hashore
  | _ => exact absurd hr hashore

/-! ## Settled routes -/

/-- What the guardian knows about routes, if its transport is `t`: a charged failure has its call on
record, the route that may be mounted is the one that the guardian takes it to be, and without a
generation nothing is mounted. -/
structure Knows (cfg : Config) (t : Transport) (w : World) : Prop where
  blame : t.failure = true → Blame cfg t.route w.routes
  held : ∀ r, mountedRoute cfg w.routes = some r → r = t.route ∨ Stranded cfg t.active w.routes
  gone : w.self.generation = none → mountedRoute cfg w.routes = none

/-- What the guardian knows when a generation ends. The variable has the selected transport. -/
structure Settled (cfg : Config) (w : World) : Prop where
  environ : w.self.transport.environ = w.self.transport.active
  knows : Knows cfg w.self.transport w

/-- The same while the variable points to the route that is taken to be mounted. -/
structure Aimed (cfg : Config) (t : Transport) (w : World) : Prop where
  transport : w.self.transport = { t with environ := t.route }
  knows : Knows cfg t w

theorem blame_unmoored {name : String} {es routes : List RouteEvent}
    (hes : ∀ e ∈ es, e.detaching = true) (h : Blame cfg name routes) : Blame cfg name (es ++ routes) := by
  induction es with
  | nil => exact h
  | cons e es ih =>
      have hrest := ih fun x hx => hes x (List.mem_cons_of_mem _ hx)
      exact hrest.cons (RouteEvent.resets_of_detaching (hes e List.mem_cons_self))

theorem stranded_unmoored {active : String} {es routes : List RouteEvent}
    (hes : ∀ e ∈ es, e.detaching = true) (h : Stranded cfg active routes) :
    Stranded cfg active (es ++ routes) := by
  induction es with
  | nil => exact h
  | cons e es ih =>
      have hrest := ih fun x hx => hes x (List.mem_cons_of_mem _ hx)
      exact hrest.cons (RouteEvent.begins_of_detaching (hes e List.mem_cons_self))

theorem mountedRoute_unmoored {es routes : List RouteEvent} (hes : ∀ e ∈ es, e.detaching = true)
    {r : String} (h : mountedRoute cfg (es ++ routes) = some r) :
    mountedRoute cfg routes = some r := by
  induction es with
  | nil => exact h
  | cons e es ih =>
      refine ih (fun x hx => hes x (List.mem_cons_of_mem _ hx)) ?_
      exact mountedRoute_detaching (hes e List.mem_cons_self) h

theorem Knows.unmoored {t : Transport} (h : Knows cfg t w) (hu : Unmoored w w') : Knows cfg t w' := by
  obtain ⟨es, hroutes, hes⟩ := hu.routes
  constructor
  · intro hfailure
    rw [hroutes]
    exact blame_unmoored hes (h.blame hfailure)
  · intro r hr
    rw [hroutes] at hr ⊢
    exact (h.held r (mountedRoute_unmoored hes hr)).imp id (stranded_unmoored hes)
  · intro hg
    have hnone := h.gone (hu.generation.symm.trans hg)
    rw [hroutes]
    cases hr : mountedRoute cfg (es ++ w.routes) with
    | none => rfl
    | some r => exact absurd (hnone.symm.trans (mountedRoute_unmoored hes hr)) (by simp)

theorem Knows.same {t : Transport} (h : Knows cfg t w)
    (hgeneration : w'.self.generation = w.self.generation) (hroutes : w'.routes = w.routes) :
    Knows cfg t w' := by
  obtain ⟨hblame, hheld, hgone⟩ := h
  rw [← hroutes] at hblame hheld hgone
  exact ⟨hblame, hheld, fun hg => hgone (hgeneration.symm.trans hg)⟩

/-- Only the names and the charge of the transport count. -/
theorem Knows.transport {t t' : Transport} (h : Knows cfg t w) (hfailure : t'.failure = t.failure)
    (hname : t'.failureName = t.failureName) (hactive : t'.active = t.active) : Knows cfg t' w := by
  have hroute : t'.route = t.route := by
    rw [Transport.route, hname, hactive, Transport.route]
  refine ⟨?_, ?_, h.gone⟩
  · rw [hfailure, hroute]
    exact h.blame
  · rw [hroute, hactive]
    exact h.held

theorem Settled.unmoored (h : Settled cfg w) (hu : Unmoored w w') : Settled cfg w' := by
  constructor
  · rw [hu.transport, h.environ]
  · rw [hu.transport]
    exact h.knows.unmoored hu

theorem Aimed.unmoored {t : Transport} (h : Aimed cfg t w) (hu : Unmoored w w') : Aimed cfg t w' :=
  ⟨hu.transport.trans h.transport, h.knows.unmoored hu⟩

theorem Firm.settled : Firm (Settled cfg) :=
  fun _ _ hm h => h.unmoored hm.ashore.unmoored

theorem Firm.aimed (t : Transport) : Firm (Aimed cfg t) :=
  fun _ _ hm h => h.unmoored hm.ashore.unmoored

/-- Where the variable points to the route that is taken to be mounted, the data target may be
detached. -/
theorem Aimed.permit {t : Transport} (h : Aimed cfg t w) {r : GuardReq} (hr : r.docks = true) :
    RoutePermit cfg r w := by
  by_cases hashore : r.ashore = true
  · exact routePermit_of_ashore hashore w
  cases r with
  | assign a => cases a <;> trivial
  | helper op target full =>
      cases op with
      | unmount =>
          intro _ r hmounted
          rw [h.transport]
          exact h.knows.held r hmounted
      | _ => exact absurd hr hashore
  | _ => exact absurd hr hashore

/-- A program that drains or detaches keeps what the guardian knows. -/
theorem routed_docks (t : Transport) {p : GuardProg α} (hp : p.Issues fun r => r.docks = true) :
    Routed cfg (Aimed cfg t) p (fun _ => Aimed cfg t) fun _ => Aimed cfg t :=
  .of_issues (fun w w' _ _ hm h => Firm.aimed t w w' hm h)
    (fun _ _ hr _ h => ⟨h.permit hr, fun c => h.unmoored (docks_exec hr c _)⟩) hp

/-- A condition that requests which do not concern routes leave alone, and so do assignments to the
other attributes of the transport. -/
structure Indifferent (P : World → Prop) : Prop where
  ashore : ∀ w w', Ashore w w' → P w → P w'
  transport : ∀ w t, t.bearing = w.self.transport.bearing → P w →
    P { w with self := { w.self with transport := t } }

theorem Indifferent.firm {P : World → Prop} (h : Indifferent P) : Firm P :=
  fun w w' hm hw => h.ashore w w' hm.ashore hw

/-- A program that does not concern routes keeps such a condition. -/
theorem routed_ashore {P : World → Prop} (hP : Indifferent P) {p : GuardProg α}
    (hp : p.Issues fun r => r.ashore = true) : Routed cfg P p (fun _ => P) fun _ => P :=
  .of_issues (fun w w' _ _ hm h => hP.firm w w' hm h)
    (fun _ w hr _ h => ⟨routePermit_of_ashore hr w, fun c => hP.ashore w _ (ashore_exec hr c w) h⟩) hp

/-! ## Drains -/

/-- The drain so far: what is listed of the processes, and which managed targets are still to be
detached. -/
def Draining (cfg : Config) (left : List Target) (w : World) : Prop :=
  ∃ es lingering, sinceDrain w.routes = some (es, lingering) ∧ w.self.processes = [] ∧
    w.self.lingeringProcesses = lingering ∧ (∀ e ∈ es, e.misses = false) ∧
    ∀ t ∈ cfg.activeTargets, t.isPath = false → t ∈ left ∨ ∃ how, .detached (some t) how ∈ es

theorem Draining.drained (h : Draining cfg [] w) : Drained cfg w := by
  obtain ⟨es, lingering, hsince, hprocesses, hlingering, hmisses, htargets⟩ := h
  refine ⟨es, lingering, hsince, hprocesses, hlingering, hmisses, fun t ht hpath => ?_⟩
  exact (htargets t ht hpath).resolve_left (by simp)

/-- What detaching leaves of a drain. -/
structure Berthed (w w' : World) : Prop where
  processes : w'.self.processes = w.self.processes
  lingering : w'.self.lingeringProcesses = w.self.lingeringProcesses
  routes : ∃ es, w'.routes = es ++ w.routes ∧ ∀ e ∈ es, sinceDrain [e] = none ∧ e.misses = false

theorem sinceDrain_append {es routes : List RouteEvent} (hes : ∀ e ∈ es, sinceDrain [e] = none) :
    sinceDrain (es ++ routes) = (sinceDrain routes).map fun d => (es ++ d.1, d.2) := by
  induction es with
  | nil => simp
  | cons e es ih =>
      have he := hes e List.mem_cons_self
      have hrest := ih fun x hx => hes x (List.mem_cons_of_mem _ hx)
      cases e with
      | draining lingering => exact absurd he (by simp [sinceDrain])
      | _ =>
          simp only [List.cons_append, sinceDrain, hrest, Option.map_map]
          rfl

theorem Draining.berthed {left : List Target} (h : Draining cfg left w) (hb : Berthed w w') :
    Draining cfg left w' := by
  obtain ⟨es, lingering, hsince, hprocesses, hlingering, hmisses, htargets⟩ := h
  obtain ⟨new, hroutes, hnew⟩ := hb.routes
  refine ⟨new ++ es, lingering, ?_, hb.processes.trans hprocesses, hb.lingering.trans hlingering,
    fun e he => ?_, fun t ht hpath => (htargets t ht hpath).imp id ?_⟩
  · rw [hroutes, sinceDrain_append fun e he => (hnew e he).1, hsince]
    rfl
  · rcases List.mem_append.1 he with he | he
    · exact (hnew e he).2
    · exact hmisses e he
  · rintro ⟨how, hhow⟩
    exact ⟨how, List.mem_append_right _ hhow⟩

/-- Requests that belong to no drain: they leave the lists of processes and the mark of the drain. -/
def GuardReq.berths : GuardReq → Bool
  | .assign (.processes _) => false
  | .assign (.lingeringProcesses _) => false
  | .assign (.generation _) => false
  | .setHealth .draining _ => false
  | .helper _ _ _ => false
  | .historyRecover => false
  | .historyStart => false
  | .historyFinish _ => false
  | _ => true

theorem berths_exec {r : GuardReq} (hr : r.berths = true) (c : GuardChoice) (w : World) :
    Berthed w (guardExec r c w).2 := by
  by_cases hdiscreet : r.discreet = true
  · have hkept := guardExec_discreet hdiscreet c w
    exact ⟨by rw [hkept.self], by rw [hkept.self], [], hkept.routes, by simp⟩
  cases r with
  | assign a =>
      cases a <;> first
        | exact ⟨rfl, rfl, [], rfl, by simp⟩
        | exact absurd hr (by simp [GuardReq.berths])
  | setHealth phase ready =>
      cases phase <;> first
        | exact ⟨rfl, rfl, [], rfl, by simp⟩
        | exact absurd hr (by simp [GuardReq.berths])
  | helper op target full => exact absurd hr (by simp [GuardReq.berths])
  | recordSuccess name => exact ⟨rfl, rfl, [.stable name], rfl, by simp [sinceDrain, RouteEvent.misses]⟩
  | _ => exact absurd rfl hdiscreet

/-- A program that belongs to no drain keeps what the drain has done. -/
theorem routed_berths {P : World → Prop} {Q : α → World → Prop} {E : GuardExc → World → Prop}
    {left : List Target} {p : GuardProg α} (h : Routed cfg P p Q E)
    (hp : p.Issues fun r => r.berths = true) (φ : Prop) :
    Routed cfg (fun w => P w ∧ (φ → Draining cfg left w)) p
      (fun a w => Q a w ∧ (φ → Draining cfg left w))
      fun e w => E e w ∧ (φ → Draining cfg left w) := by
  refine .frame ?_ (fun _ c w hr _ _ hd hφ => (hd hφ).berthed (berths_exec hr c w)) h hp
  intro w w' _ _ hm hd hφ
  exact (hd hφ).berthed ⟨by rw [hm.self], by rw [hm.self], [], by simpa using hm.routes, by simp⟩

/-! ## Stopping SeaweedFS -/

theorem Indifferent.settled : Indifferent (Settled cfg) where
  ashore _ _ ha h := h.unmoored ha.unmoored
  transport w t ht h := by
    obtain ⟨henviron, hactive, hfailure, hname, -⟩ : t.environ = w.self.transport.environ ∧
        t.active = w.self.transport.active ∧ t.failure = w.self.transport.failure ∧
        t.failureName = w.self.transport.failureName ∧
        t.verificationTransport = w.self.transport.verificationTransport := by
      simpa [Transport.bearing] using ht
    refine ⟨henviron.trans (h.environ.trans hactive.symm), ?_⟩
    exact (h.knows.transport hfailure hname hactive).same rfl rfl

theorem GuardReq.ashore_of_stops (r : GuardReq) (hr : r.stops = true) : r.ashore = true := by
  cases r with
  | assign a => cases a <;> first | rfl | exact absurd hr (by simp [GuardReq.stops])
  | _ => first | rfl | exact absurd hr (by simp [GuardReq.stops])

/-- The drain has just begun, and no process has been added to those that linger. -/
def Marked (w : World) : Prop :=
  sinceDrain w.routes = some ([], w.self.lingeringProcesses)

theorem Firm.marked (φ : Prop) : Firm fun w => φ → Marked w := by
  intro w w' hm h hφ
  have hmarked := h hφ
  rw [Marked, hm.routes, hm.self]
  exact hmarked

theorem stopEach_marks : ∀ (ps : List Proc) (allStopped : Bool),
    Routed cfg (fun w => Settled cfg w ∧ (allStopped = true → Marked w)) (stopEach ps allStopped)
      (fun stopped w => Settled cfg w ∧ (stopped = true → Marked w)) fun _ => Settled cfg := by
  intro ps
  induction ps with
  | nil => exact fun _ => .ret fun _ _ h => h
  | cons p ps ih =>
      intro allStopped
      -- a process that does not stop ends the claim that all were stopped
      have hrest : Routed cfg (Settled cfg) (stopEach ps false)
          (fun stopped w => Settled cfg w ∧ (stopped = true → Marked w)) fun _ => Settled cfg :=
        (ih false).pre fun _ _ h => ⟨h, fun hf => absurd hf (by decide)⟩
      have hadd : Routed cfg (Settled cfg) (addLingering p) (fun _ => Settled cfg)
          fun _ => Settled cfg :=
        routed_ashore .settled (Prog.Issues.mono GuardReq.ashore_of_stops (addLingering_stops p))
      refine .bind (M := fun _ w => Settled cfg w ∧ (allStopped = true → Marked w))
        (routed_ask (Firm.settled.and (Firm.marked _)) (fun _ _ _ => trivial) ?_) fun answer => ?_
      · intro c w _ hw
        refine ⟨hw.1.unmoored (ashore_exec (r := .stopUntil p) rfl c w).unmoored, fun hall => ?_⟩
        have hmarked := hw.2 hall
        simp only [guardExec]
        split <;> exact hmarked
      · cases answer with
        | stopped => exact ih allStopped
        | stuck => exact .bind (hadd.pre fun _ _ h => h.1) fun _ => hrest
        | raised =>
            refine .bind (M := fun _ => Settled cfg) (routed_ask (Firm.settled.and (Firm.marked _))
              (fun _ _ _ => trivial) fun _ _ _ hw => hw.1) fun alive => ?_
            exact .bind (.when (fun _ => hadd) fun _ _ _ h => h) fun _ => hrest

/-- A drain that reports success lists no process, and nothing new lingers. -/
theorem stopSeaweed_drains :
    Routed cfg (Settled cfg) stopSeaweed (fun stopped w => Settled cfg w ∧
      (stopped = true → Draining cfg cfg.activeTargets.reverse w)) fun _ => Settled cfg := by
  refine .bind (M := fun _ w => Settled cfg w ∧ (true = true → Marked w)) (routed_ask Firm.settled
    (fun _ _ _ => trivial) fun c w _ hw => ⟨?_, fun _ => rfl⟩) fun _ => ?_
  · exact hw.unmoored (ashore_exec (r := .setHealth .draining false) rfl c w).unmoored
  refine .bind ((routed_view (Firm.settled.and (Firm.marked _))).post fun _ _ _ h => h.2) fun s => ?_
  refine .bind (stopEach_marks s.processes.reverse true) fun stopped => ?_
  refine .bind (M := fun _ w => Settled cfg w ∧ (stopped = true →
    Draining cfg cfg.activeTargets.reverse w)) (routed_ask (Firm.settled.and (Firm.marked _))
      (fun _ _ _ => trivial) fun c w _ hw => ⟨?_, fun hall => ?_⟩) fun _ => .ret fun _ _ h => h
  · exact hw.1.unmoored (ashore_exec (r := .assign (.processes [])) rfl c w).unmoored
  · exact ⟨[], _, hw.2 hall, rfl, rfl, by simp, fun t ht _ => .inl (List.mem_reverse.2 ht)⟩

/-! ## Detaching -/

/-- Detaching is not charged to a transport. -/
theorem chargesTransport_unmount (cfg : Config) (target : Option Target) :
    chargesTransport cfg .unmount target = false := by
  unfold chargesTransport
  split <;> simp

theorem helperEnd_processes (w : World) (op : HelperOp) (target : Option Target) (full : Bool)
    (answer : HelperAnswer) :
    (w.helperEnd op target full answer).self.processes = w.self.processes ∧
      (w.helperEnd op target full answer).self.lingeringProcesses = w.self.lingeringProcesses := by
  cases answer <;> exact ⟨rfl, rfl⟩

/-- The events of a helper that reports a detach. -/
theorem routeEvents_detached {c : GuardChoice} {target : Option Target}
    (h : c.helperAnswer .unmount target = .ok) (g : Nat) (route : String) :
    ∃ how, c.routeEvents g .unmount target route =
      [.detached target how, .helper g .unmount target route .ok] := by
  have hanswer := h
  unfold GuardChoice.helperAnswer at h
  unfold GuardChoice.routeEvents
  rw [hanswer]
  cases hhelper : c.helper with
  | ok =>
      cases hdetach : c.detach target with
      | ok how => exact ⟨how, rfl⟩
      | error message => simp [hhelper, hdetach] at h
  | _ => simp [hhelper] at h

/-- A target that need not be detached is done. -/
theorem Draining.skip {target : Target} {left : List Target} (h : Draining cfg (target :: left) w)
    (hpath : target.isPath = true) : Draining cfg left w := by
  obtain ⟨es, lingering, hsince, hprocesses, hlingering, hmisses, htargets⟩ := h
  refine ⟨es, lingering, hsince, hprocesses, hlingering, hmisses, fun t ht hmanaged => ?_⟩
  rcases htargets t ht hmanaged with hmem | hdetached
  · rcases List.mem_cons.1 hmem with rfl | hmem
    · exact absurd (hmanaged.symm.trans hpath) (by decide)
    · exact .inl hmem
  · exact .inr hdetached

/-- A target that was detached is done. -/
theorem Draining.detach {target : Target} {left : List Target} (h : Draining cfg (target :: left) w)
    (hprocesses : w'.self.processes = w.self.processes)
    (hlingering : w'.self.lingeringProcesses = w.self.lingeringProcesses)
    (hroutes : ∃ how g route, w'.routes =
      [.detached (some target) how, .helper g .unmount (some target) route .ok] ++ w.routes) :
    Draining cfg left w' := by
  obtain ⟨how, g, route, hroutes⟩ := hroutes
  obtain ⟨es, lingering, hsince, hnone, hsame, hmisses, htargets⟩ := h
  refine ⟨[.detached (some target) how, .helper g .unmount (some target) route .ok] ++ es, lingering, ?_,
    hprocesses.trans hnone, hlingering.trans hsame, ?_, fun t ht hmanaged => ?_⟩
  · rw [hroutes]
    simp [sinceDrain, hsince]
  · simpa [RouteEvent.misses] using hmisses
  · rcases htargets t ht hmanaged with hmem | ⟨how', hdetached⟩
    · rcases List.mem_cons.1 hmem with rfl | hmem
      · exact .inr ⟨how, List.mem_cons_self⟩
      · exact .inl hmem
    · exact .inr ⟨how', List.mem_cons_of_mem _ (List.mem_cons_of_mem _ hdetached)⟩

/-- The call of a helper that detaches. -/
theorem helper_detaches (t : Transport) (target : Target) (left : List Target) (φ : Prop) :
    Routed cfg (fun w => Aimed cfg t w ∧ (φ → Draining cfg (target :: left) w))
      (helper .unmount (some target) false)
      (fun answer w => Aimed cfg t w ∧ (φ → answer = .ok → Draining cfg left w)) fun _ => Aimed cfg t := by
  refine routed_ask ((Firm.aimed t).and fun w w' hm hd hφ => ?_) (fun w _ hw => hw.1.permit rfl) ?_
  · exact (hd hφ).berthed ⟨by rw [hm.self], by rw [hm.self], [], by simpa using hm.routes, by simp⟩
  · intro c w _ hw
    refine ⟨hw.1.unmoored (docks_exec (r := .helper .unmount (some target) false) rfl c w),
      fun hφ hok => ?_⟩
    simp only [guardExec] at hok ⊢
    split at hok
    · exact absurd hok (by simp)
    · rename_i g hg
      obtain ⟨how, hevents⟩ := routeEvents_detached hok g w.self.transport.environ
      obtain ⟨hprocesses, hlingering⟩ := helperEnd_processes
        { w with routes := c.routeEvents g .unmount (some target) w.self.transport.environ ++ w.routes }
        .unmount (some target) false (c.helperAnswer .unmount (some target))
      refine (hw.2 hφ).detach hprocesses hlingering ⟨how, g, w.self.transport.environ, ?_⟩
      rw [helperEnd_routes, hevents]

/-- A drain in progress, or its failure. -/
abbrev AimedDrain (cfg : Config) (t : Transport) (φ : Prop) (left : List Target) (w : World) : Prop :=
  Aimed cfg t w ∧ (φ → Draining cfg left w)

theorem Firm.aimedDrain (t : Transport) (φ : Prop) (left : List Target) :
    Firm (AimedDrain cfg t φ left) := by
  refine (Firm.aimed t).and fun w w' hm hd hφ => ?_
  exact (hd hφ).berthed ⟨by rw [hm.self], by rw [hm.self], [], by simpa using hm.routes, by simp⟩

/-- A detach that succeeds is one target less to detach. -/
theorem unmount_drains (t : Transport) (target : Target) (left : List Target) (φ : Prop) :
    Routed cfg (AimedDrain cfg t φ (target :: left)) (runHelper cfg .unmount (some target) false)
      (fun _ => AimedDrain cfg t φ left) fun _ => Aimed cfg t := by
  refine .catchWith (F := fun _ => Aimed cfg t) ?_ fun e => .ite (fun _ => ?_) fun _ => .raise fun _ _ h => h
  · have hreap : Routed cfg (AimedDrain cfg t φ (target :: left)) reapHelperChildren
        (fun _ => AimedDrain cfg t φ (target :: left))
        fun _ w => Aimed cfg t w ∧ (φ → Draining cfg (target :: left) w) :=
      routed_berths (routed_docks t (reapHelperChildren_issues rfl (fun _ => rfl) fun _ => rfl))
        (reapHelperChildren_issues rfl (fun _ => rfl) fun _ => rfl) φ
    refine .bind (hreap.mono (fun _ _ h => h) (fun _ _ _ h => h) fun _ _ _ h => h.1) fun _ => ?_
    refine .bind ((routed_view (Firm.aimedDrain t φ _)).post fun _ _ _ h => h.2) fun s => ?_
    refine .bind (M := fun _ => AimedDrain cfg t φ (target :: left)) (.raiseIf (fun _ _ _ h => h.1)
      fun _ _ _ h => h) fun _ => ?_
    refine .bind (helper_detaches t target left φ) fun answer => ?_
    cases answer with
    | ok => exact .ret fun _ _ h => ⟨h.1, fun hφ => h.2 hφ rfl⟩
    | _ => exact .raise fun _ _ h => h.1
  · rw [chargesTransport_unmount]
    exact .raise fun _ _ h => h

/-- The loop of `_repair_targets`: if it reports success, every managed target was detached. -/
theorem detachEach_drains (t : Transport) (φ : Prop) (unmountAll timed : Bool) :
    ∀ (targets : List Target) (detached : Bool),
      Routed cfg (AimedDrain cfg t (φ ∧ detached = true) targets)
        (detachEach (fun t => runHelper cfg .unmount (some t) false) unmountAll timed targets detached)
        (fun detached => AimedDrain cfg t (φ ∧ detached = true) []) fun _ _ => False := by
  intro targets
  induction targets with
  | nil => exact fun _ => .ret fun _ _ h => h
  | cons target targets ih =>
      intro detached
      have hfailed : Routed cfg (Aimed cfg t)
          (detachEach (fun t => runHelper cfg .unmount (some t) false) unmountAll timed targets false)
          (fun detached => AimedDrain cfg t (φ ∧ detached = true) []) fun _ _ => False :=
        (ih false).pre fun _ _ h => ⟨h, fun hf => absurd hf.2 (by decide)⟩
      unfold detachEach
      refine .ite (fun hskip => ?_) fun _ => ?_
      · exact (ih detached).pre fun _ _ h => ⟨h.1, fun hd => (h.2 hd).skip hskip.1⟩
      refine .bind (M := fun _ => AimedDrain cfg t (φ ∧ detached = true) (target :: targets))
        (.ite (fun _ => ?_) fun _ => .ret fun _ _ h => h) fun late => ?_
      · exact routed_ask (Firm.aimedDrain t _ _) (fun _ _ _ => trivial) fun _ _ _ h => h
      refine .ite (fun _ => hfailed.pre fun _ _ h => h.1) fun _ => ?_
      refine .bind (M := fun outcome w => Aimed cfg t w ∧ ∀ u, outcome = .ok u →
        (φ ∧ detached = true → Draining cfg targets w)) (.attempt ?_) fun outcome => ?_
      · exact (unmount_drains t target targets _).mono (fun _ _ h => h)
          (fun _ _ _ h => ⟨h.1, fun _ _ => h.2⟩) fun _ _ _ h => ⟨h, fun _ he => by simp at he⟩
      cases outcome with
      | ok u => exact (ih detached).pre fun _ _ h => ⟨h.1, h.2 u rfl⟩
      | error e => exact hfailed.pre fun _ _ h => h.1

theorem Draining.sameRoutes {left : List Target} (h : Draining cfg left w)
    (hprocesses : w'.self.processes = w.self.processes)
    (hlingering : w'.self.lingeringProcesses = w.self.lingeringProcesses)
    (hroutes : w'.routes = w.routes) : Draining cfg left w' :=
  h.berthed ⟨hprocesses, hlingering, [], by simpa using hroutes, by simp⟩

/-- The variable points to the route that is taken to be mounted, as `_repair_targets` sets it. -/
theorem aim_drains (s : Self) (φ : Prop) (left : List Target) :
    Routed cfg (fun w => Saw s w ∧ Settled cfg w ∧ (φ → Draining cfg left w))
      (Prog.when (firstName s.transport.failureName s.transport.active ≠ "")
        (assign (.transport { s.transport with
          environ := firstName s.transport.failureName s.transport.active })))
      (fun _ w => s.transport.environ = s.transport.active ∧ AimedDrain cfg s.transport φ left w)
      fun _ => Settled cfg := by
  have hfirm : Firm fun w => Settled cfg w ∧ (φ → Draining cfg left w) := by
    refine Firm.settled.and fun w w' hm hd hφ => ?_
    exact (hd hφ).sameRoutes (by rw [hm.self]) (by rw [hm.self]) hm.routes
  refine .when (fun _ => routed_ask ((Firm.saw s).and hfirm) ?_ ?_) ?_
  · intro w hw h
    have hplain : w.self.transport.controlledDetached = false := hw
    rw [h.1.transport] at hplain
    exact hplain
  · rintro c w _ ⟨hsaw, ⟨henviron, hknows⟩, hdraining⟩
    rw [hsaw.transport] at henviron hknows
    exact ⟨henviron, ⟨rfl, hknows.same rfl rfl⟩, fun hφ => (hdraining hφ).sameRoutes rfl rfl rfl⟩
  · rintro hroute w _ ⟨hsaw, ⟨henviron, hknows⟩, hdraining⟩
    rw [hsaw.transport] at henviron hknows
    refine ⟨henviron, ⟨?_, hknows⟩, hdraining⟩
    -- there is no route at all, and the variable is empty
    have hempty : s.transport.route = "" := Classical.not_not.1 hroute
    have hactive : s.transport.active = "" := by
      unfold Transport.route firstName at hempty
      split at hempty
      · exact hempty
      · exact absurd hempty ‹_›
    have hsame : s.transport.route = s.transport.environ := by rw [hempty, henviron, hactive]
    rw [hsaw.transport, hsame]

/-- `_repair_targets` points the variable to the route that is taken to be mounted, and back. -/
theorem repairTargets_drains (unmountAll timed : Bool) (φ : Prop) :
    Routed cfg (fun w => Settled cfg w ∧ (φ → Draining cfg cfg.activeTargets.reverse w))
      (repairTargets cfg unmountAll timed)
      (fun detached w => Settled cfg w ∧ (φ ∧ detached = true → Draining cfg [] w))
      fun _ => Settled cfg := by
  have hfirm : Firm fun w => Settled cfg w ∧ (φ → Draining cfg cfg.activeTargets.reverse w) := by
    refine Firm.settled.and fun w w' hm hd hφ => ?_
    exact (hd hφ).sameRoutes (by rw [hm.self]) (by rw [hm.self]) hm.routes
  refine .bind (routed_view hfirm) fun s => ?_
  refine .ite (fun hdetached => ?_) fun _ => ?_
  · -- no controlled detach is pending
    refine fun w hw h => absurd hdetached.1 ?_
    rw [← h.1.transport, Bool.not_eq_true]
    exact hw
  refine .bind (aim_drains s φ _) fun _ => .assume fun henviron => ?_
  refine .andFinally (M := fun detached => AimedDrain cfg s.transport (φ ∧ detached = true) [])
    (F := fun _ _ => False) ?_ (fun detached => ?_) fun _ _ _ h => h.elim
  · have hstart : Routed cfg (AimedDrain cfg s.transport φ cfg.activeTargets.reverse)
        (setHealth .recovering false)
        (fun _ => AimedDrain cfg s.transport φ cfg.activeTargets.reverse) fun _ _ => False := by
      refine routed_ask (Firm.aimedDrain _ _ _) (fun _ _ _ => trivial) fun c w _ hw => ?_
      exact ⟨hw.1.unmoored (docks_exec (r := .setHealth .recovering false) rfl c w), fun hφ =>
        (hw.2 hφ).berthed (berths_exec (r := .setHealth .recovering false) rfl c w)⟩
    refine .bind hstart fun _ => ?_
    exact (detachEach_drains s.transport φ unmountAll timed _ true).pre fun _ _ h =>
      ⟨h.1, fun hφ => h.2 hφ.1⟩
  · refine .bind (routed_view (Firm.aimedDrain _ _ _)) fun now => ?_
    refine routed_ask ((Firm.saw now).and (Firm.aimedDrain _ _ _)) ?_ ?_
    · intro w hw h
      have hplain : w.self.transport.controlledDetached = false := hw
      rw [h.1.transport] at hplain
      exact hplain
    · rintro c w _ ⟨hsaw, haimed, hdraining⟩
      -- the attributes are those before the detach
      have hnow : { now.transport with environ := s.transport.environ } = s.transport := by
        rw [← hsaw.transport, haimed.transport]
      refine ⟨⟨?_, ?_⟩, fun hφ => ?_⟩
      · simp only [guardExec, Assignment.apply, hnow]
        exact henviron
      · simp only [guardExec, Assignment.apply, hnow]
        exact haimed.knows.same rfl rfl
      · exact (hdraining hφ).sameRoutes rfl rfl rfl

/-! ## Fencing -/

/-- What a termination knows from its drain to its end. -/
abbrev SettledDrain (cfg : Config) (φ : Prop) (left : List Target) (w : World) : Prop :=
  Settled cfg w ∧ (φ → Draining cfg left w)

theorem Firm.settledDrain (φ : Prop) (left : List Target) : Firm (SettledDrain cfg φ left) := by
  refine Firm.settled.and fun w w' hm hd hφ => ?_
  exact (hd hφ).sameRoutes (by rw [hm.self]) (by rw [hm.self]) hm.routes

/-- A program that neither concerns routes nor belongs to a drain. -/
theorem routed_aside (φ : Prop) (left : List Target) {p : GuardProg α}
    (hp : p.Issues fun r => (r.ashore && r.berths) = true) :
    Routed cfg (SettledDrain cfg φ left) p (fun _ => SettledDrain cfg φ left)
      fun _ => SettledDrain cfg φ left := by
  have hashore : p.Issues fun r => r.ashore = true :=
    Prog.Issues.mono (fun r hr => (Bool.and_eq_true_iff.1 hr).1) hp
  have hberths : p.Issues fun r => r.berths = true :=
    Prog.Issues.mono (fun r hr => (Bool.and_eq_true_iff.1 hr).2) hp
  exact routed_berths (routed_ashore .settled hashore) hberths φ

theorem fence_aside (g : Nat) (setup : Bool) :
    (fence g setup).Issues fun r => (r.ashore && r.berths) = true := by
  refine Prog.Issues.bind ((Prog.issues_ask _).2 rfl) fun fenced => Prog.Issues.when ?_
  refine Prog.Issues.bind ((Prog.issues_ask _).2 rfl) fun remains => ?_
  refine Prog.Issues.bind (Prog.issues_raiseIf _ _) fun _ => ?_
  refine Prog.Issues.bind ((Prog.issues_ask _).2 rfl) fun _ => ?_
  exact issues_must _ ((Prog.issues_ask _).2 rfl)

theorem fenceGenerationBase_aside :
    fenceGenerationBase.Issues fun r => (r.ashore && r.berths) = true := by
  refine Prog.Issues.bind ((Prog.issues_ask _).2 rfl) fun self => ?_
  split
  · exact Prog.issues_ret _
  · refine Prog.Issues.bind ((Prog.issues_ask _).2 rfl) fun _ => ?_
    refine issues_tryExcept ((fence_aside _ _).bind fun _ => Prog.issues_ret _) fun e => ?_
    refine Prog.Issues.bind ((Prog.issues_ask _).2 rfl) fun _ => ?_
    exact Prog.Issues.bind ((Prog.issues_ask _).2 rfl) fun _ => Prog.issues_ret _

theorem publishTransport_aside (cfg : Config) :
    (publishTransport cfg).Issues fun r => (r.ashore && r.berths) = true := by
  unfold publishTransport
  split
  · exact Prog.issues_ret _
  · exact issues_must _ ((Prog.issues_ask _).2 rfl)

/-- `_fence_generation` stops the SSHFS process of the route that is taken to be mounted, and records
a failure of that route if its call is on record. -/
theorem fenceGeneration_settles (φ : Prop) :
    Routed cfg (SettledDrain cfg φ []) (fenceGeneration cfg) (fun _ => SettledDrain cfg φ [])
      fun _ => Settled cfg := by
  -- most of the program neither mounts nor detaches a route
  have haside : ∀ {α : Type} {p : GuardProg α},
      (p.Issues fun r => (r.ashore && r.berths) = true) →
        Routed cfg (SettledDrain cfg φ []) p (fun _ => SettledDrain cfg φ []) fun _ => Settled cfg :=
    fun hp => (routed_aside φ [] hp).mono (fun _ _ h => h) (fun _ _ _ h => h) fun _ _ _ h => h.1
  have hfirm : Firm (SettledDrain cfg φ []) := Firm.settledDrain φ []
  refine .bind (haside fenceGenerationBase_aside) fun fenced => ?_
  refine .bind (routed_view hfirm) fun s => ?_
  have hseen := (Firm.saw s).and hfirm
  refine .bind (M := fun _ w => Saw s w ∧ SettledDrain cfg φ [] w) (.when (fun _ => routed_ask hseen
    (fun w _ hw => ?_) fun _ _ _ h => h) fun _ _ _ h => h) fun _ => ?_
  · -- the process of the route that is taken to be mounted
    intro r hmounted
    have hheld := hw.2.1.knows.held r hmounted
    rw [hw.1.transport] at hheld
    rw [hw.1.transport]
    exact hheld
  refine .bind (M := fun s' w => Saw s' w ∧ Saw s w ∧ SettledDrain cfg φ [] w) (routed_view hseen)
    fun s' => ?_
  refine .bind (M := fun _ => SettledDrain cfg φ []) (.when (fun hfailed => ?_)
    fun _ _ _ h => h.2.2) fun _ => ?_
  · refine .bind (M := fun _ => SettledDrain cfg φ []) (routed_must (routed_ask
      ((Firm.saw s').and hseen) (fun w _ hw => ?_) fun _ _ _ hw => ?_)) fun _ => ?_
    · -- a charged failure has its call on record
      have hblame := hw.2.2.1.knows.blame
      rw [hw.1.transport] at hblame
      have hroute : s'.transport.route = s.transport.route := by
        rw [← hw.1.transport, hw.2.1.transport]
      rw [hroute] at hblame
      exact hblame hfailed.2.2.2.2.2
    · exact ⟨fun _ => hw.2.2, fun _ => hw.2.2.1⟩
    · exact haside (publishTransport_aside cfg)
  refine .bind (M := fun _ => SettledDrain cfg φ []) (.when (fun _ => ?_) fun _ _ _ h => h) fun _ =>
    .ret fun _ _ h => h
  exact haside (publishTransport_aside cfg)

/-! ## Termination -/

theorem terminateGenerationBase_settles (unmountAll : Bool) :
    Routed cfg (Settled cfg)
      (terminateGenerationBase (repairTargets cfg) (fenceGeneration cfg) unmountAll)
      (fun _ => Settled cfg) fun _ => Settled cfg := by
  have hrepair : ∀ timed, Routed cfg (Settled cfg) (repairTargets cfg unmountAll timed)
      (fun _ => Settled cfg) fun _ => Settled cfg := fun timed =>
    (repairTargets_drains unmountAll timed False).mono (fun _ _ h => ⟨h, False.elim⟩)
      (fun _ _ _ h => h.1) fun _ _ _ h => h
  refine .bind ((routed_view Firm.settled).post fun _ _ _ h => h.2) fun s => ?_
  cases hs : s.generation with
  | none =>
      refine .bind (stopSeaweed_drains.post fun _ _ _ h => h.1) fun _ => ?_
      exact .bind (hrepair false) fun _ => .ret fun _ _ h => h
  | some g =>
      refine .bind stopSeaweed_drains fun stopped => ?_
      refine .bind (M := fun detached => SettledDrain cfg ((stopped && detached) = true) []) ?_
        fun detached => ?_
      · refine .ite (fun hstopped => ?_) fun hstopped => .ret fun _ _ h => ⟨h.1, fun hd => ?_⟩
        · refine (repairTargets_drains unmountAll true (stopped = true)).post fun detached w _ h => ?_
          exact ⟨h.1, fun hd => h.2 (Bool.and_eq_true_iff.1 hd)⟩
        · exact absurd (Bool.and_eq_true_iff.1 hd).1 hstopped
      refine .bind (fenceGeneration_settles _) fun fenced => ?_
      refine .bind (M := fun _ => SettledDrain cfg ((stopped && detached) = true) [])
        (.when (fun hunclean => ?_) fun _ _ _ h => h) fun _ => ?_
      · refine .bind ((hrepair false).pre fun _ _ h => h.1) fun _ => .ret fun _ _ h => ⟨h, fun hd => ?_⟩
        exact absurd hunclean (by simp [hd])
      -- a clean shutdown is recorded after a drain that detached every managed target
      refine .bind (M := fun _ => Settled cfg) (routed_must (routed_ask (Firm.settledDrain _ _)
        (fun w _ hw hclean => (hw.2 hclean).drained) fun c w _ hw => ?_)) fun _ => ?_
      · have hsettled : Settled cfg (w.finishActive (stopped && detached)) :=
          hw.1.unmoored (Discreet.finishActive w _).ashore.unmoored
        exact ⟨fun _ => hsettled, fun _ => hsettled⟩
      refine .bind (M := fun _ => Settled cfg) (routed_ask Firm.settled (fun _ _ _ => trivial)
        fun c w _ hw => ?_) fun _ => .ret fun _ _ h => h
      exact hw.unmoored (ashore_exec (r := .publishHistory) rfl c w).unmoored

theorem quarantineBlocked_ashore (cfg : Config) (t : Transport) (fenced : Bool) :
    (quarantineBlocked cfg t fenced).Issues fun r => r.ashore = true := by
  refine Prog.Issues.bind ((Prog.issues_ask _).2 rfl) fun self => ?_
  refine (aliveProcesses_issues (fun _ => rfl) _).bind fun alive => ?_
  refine Prog.Issues.bind ((Prog.issues_ask _).2 rfl) fun self => ?_
  refine (aliveHelpers_issues (fun _ => rfl) _).bind fun helpers => ?_
  refine Prog.Issues.bind (Prog.Issues.when ?_) fun _ => Prog.issues_ret _
  refine Prog.Issues.bind (issues_must _ ((Prog.issues_ask _).2 rfl)) fun _ => ?_
  exact Prog.Issues.mono (fun r hr => (Bool.and_eq_true_iff.1 hr).1) (publishTransport_aside cfg)

/-- A termination keeps what the guardian knows about routes. -/
theorem terminateGeneration_settles (unmountAll : Bool) :
    Routed cfg (Settled cfg) (terminateGeneration cfg unmountAll) (fun _ => Settled cfg)
      fun _ => Settled cfg := by
  refine .bind ((routed_view Firm.settled).post fun _ _ _ h => h.2) fun s => ?_
  refine .bind (terminateGenerationBase_settles unmountAll) fun fenced => ?_
  exact routed_ashore .settled (quarantineBlocked_ashore cfg s.transport fenced)

end StorageNode.Guardian
