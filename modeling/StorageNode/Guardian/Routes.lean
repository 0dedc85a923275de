import StorageNode.Guardian.Drain

/-!
# Routes of the data target

`World.routes` records on which route each storage helper was called and how it ended. From it follow
the route that may still be mounted (`mountedRoute`), whether a transport has failed since the last
stabilization (`Failing`), and what a drain did (`sinceDrain`). `routeDiscipline` says where the guardian
may blame a transport, detach the data target, stop an SSHFS process and record a clean shutdown.

Two things go wrong in the source: a helper that was never started is charged to the transport
(`Unstarted`), and a verified route whose detach fails is forgotten (`Stranded`).
-/

set_option autoImplicit false

namespace StorageNode.Guardian

open StorageNode.Program GuardProg

/-! ## Reading the record of routes -/

/-- Whether a target is the one with failover. -/
def Config.isData (cfg : Config) (target : Option Target) : Bool :=
  match cfg.failover, target with
  | some failover, some target => decide (target.name = failover.target)
  | _, _ => false

/-- Whether a helper process was started at all. -/
def HelperAnswer.started : HelperAnswer → Bool
  | .unavailable => false
  | .unstarted => false
  | _ => true

/-- Whether a started helper failed or timed out. -/
def HelperAnswer.fails : HelperAnswer → Bool
  | .failed => true
  | .invalid => true
  | .timeout => true
  | _ => false

/-- A generation began. -/
def RouteEvent.begins : RouteEvent → Bool
  | .begun _ => true
  | _ => false

/-- A generation began, or a stabilization succeeded. -/
def RouteEvent.resets : RouteEvent → Bool
  | .begun _ => true
  | .stable _ => true
  | _ => false

/-- A failure of a helper that is charged to the transport `name`. -/
def RouteEvent.fails (cfg : Config) (name : String) : RouteEvent → Bool
  | .helper _ op target route answer =>
      chargesTransport cfg op target && decide (route = name) && answer.fails
  | _ => false

/-- A helper of the data target that was not started. -/
def RouteEvent.unstarted (cfg : Config) : RouteEvent → Bool
  | .helper _ op target _ answer => chargesTransport cfg op target && !answer.started
  | _ => false

/-- A failed detach. -/
def RouteEvent.misses : RouteEvent → Bool
  | .helper _ .unmount _ _ answer => decide (answer ≠ .ok)
  | _ => false

/-- A mount, prepare or probe helper of the data target was started on the route in this generation,
after the last stabilization, and failed or timed out. -/
def Failing (cfg : Config) (name : String) (routes : List RouteEvent) : Prop :=
  ∃ e ∈ routes.takeWhile (fun e => !e.resets), e.fails cfg name = true

/-- In this generation a mount, prepare or probe helper of the data target could not be started. -/
def Unstarted (cfg : Config) (routes : List RouteEvent) : Prop :=
  ∃ e ∈ routes.takeWhile (fun e => !e.begins), e.unstarted cfg = true

/-- The data route that was mounted last and not detached since. A mount that failed may have left a
mount behind; a generation has mounts of its own. -/
def mountedRoute (cfg : Config) : List RouteEvent → Option String
  | [] => none
  | .begun _ :: _ => none
  | .ended :: _ => none
  | .helper _ .mount target route answer :: rest =>
      if cfg.isData target ∧ answer.started = true then some route else mountedRoute cfg rest
  | .detached target _ :: rest => if cfg.isData target then none else mountedRoute cfg rest
  | _ :: rest => mountedRoute cfg rest

/-- The helpers of a verification, newest first: everything succeeds but the detach. -/
def undetached (g : Nat) (target : Option Target) (route : String) (answer : HelperAnswer) :
    List RouteEvent :=
  [.helper g .unmount target route answer, .helper g .probe target route .ok,
    .helper g .prepare target route .ok, .helper g .mount target route .ok]

/-- In this generation the detach of a verified route other than the selected one failed. -/
def Stranded (cfg : Config) (active : String) (routes : List RouteEvent) : Prop :=
  ∃ newer g target route answer older, routes = newer ++ undetached g target route answer ++ older ∧
    (∀ e ∈ newer, e.begins = false) ∧ cfg.isData target = true ∧ answer ≠ .ok ∧ route ≠ active

/-- What happened since the last drain began, and the processes that lingered when it did. -/
def sinceDrain : List RouteEvent → Option (List RouteEvent × List Proc)
  | [] => none
  | .draining lingering :: _ => some ([], lingering)
  | e :: rest => (sinceDrain rest).map fun d => (e :: d.1, d.2)

/-! ## New events -/

section

variable {cfg : Config} {e : RouteEvent} {routes : List RouteEvent} {name active : String}

theorem Failing.cons (h : Failing cfg name routes) (he : e.resets = false) :
    Failing cfg name (e :: routes) := by
  obtain ⟨x, hx, hfails⟩ := h
  refine ⟨x, ?_, hfails⟩
  rw [List.takeWhile_cons_of_pos (by simp [he])]
  exact List.mem_cons_of_mem _ hx

theorem Unstarted.cons (h : Unstarted cfg routes) (he : e.begins = false) :
    Unstarted cfg (e :: routes) := by
  obtain ⟨x, hx, hunstarted⟩ := h
  refine ⟨x, ?_, hunstarted⟩
  rw [List.takeWhile_cons_of_pos (by simp [he])]
  exact List.mem_cons_of_mem _ hx

theorem Stranded.cons (h : Stranded cfg active routes) (he : e.begins = false) :
    Stranded cfg active (e :: routes) := by
  obtain ⟨newer, g, target, route, answer, older, rfl, hnewer, hrest⟩ := h
  refine ⟨e :: newer, g, target, route, answer, older, rfl, fun x hx => ?_, hrest⟩
  rcases List.mem_cons.1 hx with rfl | hx
  · exact he
  · exact hnewer x hx

/-- A failure is charged rightly, or the helper was not started. -/
def Blame (cfg : Config) (name : String) (routes : List RouteEvent) : Prop :=
  Failing cfg name routes ∨ Unstarted cfg routes

theorem Blame.cons (h : Blame cfg name routes) (he : e.resets = false) :
    Blame cfg name (e :: routes) := by
  have hbegins : e.begins = false := by
    cases e <;> first | rfl | exact absurd he (by simp [RouteEvent.resets])
  exact h.imp (Failing.cons · he) (Unstarted.cons · hbegins)

/-- The call of a charged helper that did not succeed. -/
theorem blame_of_helper {g : Nat} {op : HelperOp} {target : Option Target} {answer : HelperAnswer}
    (hcharged : chargesTransport cfg op target = true) (hanswer : answer ≠ .ok) :
    Blame cfg name (.helper g op target name answer :: routes) := by
  cases hstarted : answer.started with
  | true =>
      refine .inl ⟨_, List.mem_cons_self, ?_⟩
      have hfails : answer.fails = true := by
        cases answer <;> first | rfl | exact absurd rfl hanswer | exact absurd hstarted (by decide)
      simp [RouteEvent.fails, hcharged, hfails]
  | false =>
      refine .inr ⟨_, List.mem_cons_self, ?_⟩
      simp [RouteEvent.unstarted, hcharged, hstarted]

end

/-! ## The discipline -/

/-- The route that the guardian takes to be mounted. -/
def Transport.route (t : Transport) : String :=
  firstName t.failureName t.active

/-- The attributes of the transport that decide where helpers go and what is charged. -/
def Transport.bearing (t : Transport) : String × String × Bool × String × String :=
  (t.environ, t.active, t.failure, t.failureName, t.verificationTransport)

/-- The drain behind a clean shutdown: no process is listed, those that linger lingered before it, no
detach failed, and every managed target was detached. -/
def Drained (cfg : Config) (w : World) : Prop :=
  ∃ es lingering, sinceDrain w.routes = some (es, lingering) ∧ w.self.processes = [] ∧
    w.self.lingeringProcesses = lingering ∧ (∀ e ∈ es, e.misses = false) ∧
    ∀ t ∈ cfg.activeTargets, t.isPath = false → ∃ how, .detached (some t) how ∈ es

/-- Under which facts requests about routes are issued. -/
def RoutePermit (cfg : Config) : GuardReq → World → Prop
  | .assign (.transport t), _ => t.controlledDetached = false
  | .recordFailure name, w => Blame cfg name w.routes
  | .cleanUpSshfs name, w =>
      ∀ r, mountedRoute cfg w.routes = some r → r = name ∨ Stranded cfg w.self.transport.active w.routes
  | .helper .unmount target _, w => cfg.isData target = true → ∀ r, mountedRoute cfg w.routes = some r →
      r = w.self.transport.environ ∨ Stranded cfg w.self.transport.active w.routes
  | .historyFinish cleanShutdown, w => cleanShutdown = true → Drained cfg w
  | _, _ => True

/-- No controlled detach is pending: nothing in the guardian sets this attribute. -/
def Plain (w : World) : Prop :=
  w.self.transport.controlledDetached = false

/-- What a request leaves alone. -/
structure Ashore (w w' : World) : Prop where
  transport : w'.self.transport = w.self.transport
  generation : w'.self.generation = w.self.generation
  children : w'.self.helperChildren = w.self.helperChildren
  routes : w'.routes = w.routes ∨ ∃ lingering, w'.routes = .draining lingering :: w.routes

/-- Requests that do not concern routes; a drain leaves its mark. -/
def GuardReq.ashore : GuardReq → Bool
  | .assign (.transport _) => false
  | .assign (.generation _) => false
  | .assign (.helperChildren _) => false
  | .helper _ _ _ => false
  | .recordFailure _ => false
  | .recordSuccess _ => false
  | .cleanUpSshfs _ => false
  | .historyFinish cleanShutdown => !cleanShutdown
  | _ => true

theorem Discreet.ashore {w w' : World} (h : Discreet w w') : Ashore w w' :=
  ⟨by rw [h.self], by rw [h.self], by rw [h.self], .inl h.routes⟩

theorem ashore_exec {r : GuardReq} (hr : r.ashore = true) (c : GuardChoice) (w : World) :
    Ashore w (guardExec r c w).2 := by
  by_cases hdiscreet : r.discreet = true
  · exact (guardExec_discreet hdiscreet c w).ashore
  cases r with
  | assign a =>
      cases a <;> first
        | exact ⟨rfl, rfl, rfl, .inl rfl⟩
        | exact absurd hr (by simp [GuardReq.ashore])
  | setHealth phase ready =>
      -- only the phase that begins a drain is noted
      refine ⟨rfl, rfl, rfl, ?_⟩
      cases phase <;> first | exact .inl rfl | exact .inr ⟨_, rfl⟩
  | helper op target full => exact absurd hr (by simp [GuardReq.ashore])
  | recordSuccess name => exact absurd hr (by simp [GuardReq.ashore])
  | _ => exact absurd rfl hdiscreet

theorem routePermit_of_ashore {cfg : Config} {r : GuardReq} (hr : r.ashore = true) (w : World) :
    RoutePermit cfg r w := by
  cases r with
  | assign a => cases a <;> trivial
  | historyFinish cleanShutdown =>
      intro hclean
      exact absurd hr (by simp [GuardReq.ashore, hclean])
  | helper op target full => exact absurd hr (by simp [GuardReq.ashore])
  | recordFailure name => exact absurd hr (by simp [GuardReq.ashore])
  | cleanUpSshfs name => exact absurd hr (by simp [GuardReq.ashore])
  | _ => trivial

/-- Permitted requests keep the attribute unset. -/
theorem plain_keeps {cfg : Config} (r : GuardReq) (c : GuardChoice) (w : World) (h : Plain w)
    (hp : RoutePermit cfg r w) : Plain (guardExec r c w).2 := by
  by_cases hr : r.ashore = true
  · rw [Plain, (ashore_exec hr c w).transport]
    exact h
  · cases r with
    | assign a =>
        cases a with
        | transport t => exact hp
        | _ => exact h
    | helper op target full =>
        simp only [guardExec]
        split
        · exact h
        · generalize c.helperAnswer op target = answer
          cases answer <;> exact h
    | historyFinish cleanShutdown =>
        simp only [guardExec, Plain, (Discreet.finishActive w cleanShutdown).ashore.transport]
        exact h
    | recordFailure name => exact h
    | recordSuccess name => exact h
    | cleanUpSshfs name => exact h
    | _ => exact absurd rfl hr

/-- The discipline of routes. -/
def routeDiscipline (cfg : Config) : Discipline guardExec where
  inv := Plain
  disturb := Moved
  allow := RoutePermit cfg
  refl := Moved.refl
  trans := Moved.trans
  keeps := plain_keeps

end StorageNode.Guardian
