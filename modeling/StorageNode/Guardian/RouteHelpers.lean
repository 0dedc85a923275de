import StorageNode.Guardian.RouteTermination

/-!
# Helpers on one route

While a generation is in service, all its helpers work on one route: the selected transport, or the one
that is being verified (`Tracking`). A helper call leaves its event in the record of routes, and a call
that fails is charged to that route if it concerns the data target (`runHelper_tracks`).
-/

set_option autoImplicit false

namespace StorageNode.Guardian

open StorageNode.Program GuardProg

variable {cfg : Config} {w w' : World} {g : Nat} {vt act : String} {rs : List RouteEvent}

/-! ## States of a generation in service -/

/-- The generation `g` works on one route, `vt` if it is being verified and `act` otherwise. No failure
is charged, and whatever is mounted is on that route. -/
structure Underway (cfg : Config) (g : Nat) (vt act : String) (w : World) : Prop where
  generation : w.self.generation = some g
  failure : w.self.transport.failure = false
  failureName : w.self.transport.failureName = ""
  verification : w.self.transport.verificationTransport = vt
  active : w.self.transport.active = act
  environ : w.self.transport.environ = firstName vt act
  held : ∀ r, mountedRoute cfg w.routes = some r → r = firstName vt act

/-- In addition no helper is blocked. -/
structure Tracking (cfg : Config) (g : Nat) (vt act : String) (w : World) : Prop
    extends Underway cfg g vt act w where
  children : w.self.helperChildren = []

/-- A helper failed on the route. -/
structure Struck (cfg : Config) (g : Nat) (vt act : String) (charged : Bool) (w : World) : Prop where
  generation : w.self.generation = some g
  failure : w.self.transport.failure = charged
  failureName : w.self.transport.failureName = if charged then firstName vt act else ""
  active : w.self.transport.active = act
  environ : w.self.transport.environ = firstName vt act
  blame : charged = true → Blame cfg (firstName vt act) w.routes
  held : ∀ r, mountedRoute cfg w.routes = some r → r = firstName vt act

theorem mountedRoute_ashore (h : Ashore w w') : mountedRoute cfg w'.routes = mountedRoute cfg w.routes := by
  rcases h.routes with heq | ⟨lingering, heq⟩
  · rw [heq]
  · rw [heq]
    rfl

theorem Indifferent.tracking : Indifferent (Tracking cfg g vt act) where
  ashore w w' ha h := by
    refine ⟨⟨ha.generation.trans h.generation, ?_, ?_, ?_, ?_, ?_, ?_⟩, ha.children.trans h.children⟩
    · rw [ha.transport, h.failure]
    · rw [ha.transport, h.failureName]
    · rw [ha.transport, h.verification]
    · rw [ha.transport, h.active]
    · rw [ha.transport, h.environ]
    · rw [mountedRoute_ashore ha]
      exact h.held
  transport w t ht h := by
    obtain ⟨henviron, hactive, hfailure, hname, hverification⟩ : t.environ = w.self.transport.environ ∧
        t.active = w.self.transport.active ∧ t.failure = w.self.transport.failure ∧
        t.failureName = w.self.transport.failureName ∧
        t.verificationTransport = w.self.transport.verificationTransport := by
      simpa [Transport.bearing] using ht
    exact ⟨⟨h.generation, hfailure.trans h.failure, hname.trans h.failureName,
      hverification.trans h.verification, hactive.trans h.active, henviron.trans h.environ, h.held⟩,
      h.children⟩

theorem Firm.underway : Firm (Underway cfg g vt act) := by
  intro w w' hm h
  have ha := hm.ashore
  refine ⟨ha.generation.trans h.generation, ?_, ?_, ?_, ?_, ?_, ?_⟩
  · rw [ha.transport, h.failure]
  · rw [ha.transport, h.failureName]
  · rw [ha.transport, h.verification]
  · rw [ha.transport, h.active]
  · rw [ha.transport, h.environ]
  · rw [hm.routes]
    exact h.held

theorem Firm.routes (rs : List RouteEvent) : Firm fun w => w.routes = rs := by
  intro w w' hm h
  rw [hm.routes, h]

theorem firstName_self (name : String) : firstName "" name = name := rfl

theorem Underway.settled (h : Underway cfg g "" act w) : Settled cfg w := by
  have hroute : w.self.transport.route = act := by
    rw [Transport.route, h.failureName, h.active, firstName_self]
  refine ⟨h.environ.trans h.active.symm, ?_, ?_, ?_⟩
  · intro hfailure
    exact absurd (h.failure.symm.trans hfailure) (by decide)
  · intro r hr
    rw [hroute]
    exact .inl (h.held r hr)
  · intro hnone
    exact absurd (h.generation.symm.trans hnone) (by simp)

/-- What is known after a failed helper. -/
theorem Struck.knows {charged : Bool} (h : Struck cfg g vt act charged w)
    (hcharged : charged = true ∨ vt = "") :
    w.self.transport.route = firstName vt act ∧ Knows cfg w.self.transport w := by
  have hroute : w.self.transport.route = firstName vt act := by
    rw [Transport.route, h.failureName, h.active]
    rcases hcharged with rfl | rfl
    · simp only [↓reduceIte, firstName]
      split
      · rename_i hvt
        split
        · rfl
        · rfl
      · rfl
    · cases charged <;> simp [firstName]
  refine ⟨hroute, ?_, fun r hr => ?_, fun hnone => ?_⟩
  · intro hfailure
    rw [hroute]
    exact h.blame (h.failure.symm.trans hfailure)
  · rw [hroute]
    exact .inl (h.held r hr)
  · exact absurd (h.generation.symm.trans hnone) (by simp)

theorem Struck.settled {charged : Bool} (h : Struck cfg g "" act charged w) : Settled cfg w :=
  ⟨h.environ.trans h.active.symm, (h.knows (.inr rfl)).2⟩

/-- The variable still points to the route that failed. -/
theorem Struck.aimed (h : Struck cfg g vt act true w) : Aimed cfg w.self.transport w := by
  obtain ⟨hroute, hknows⟩ := h.knows (.inl rfl)
  refine ⟨?_, hknows⟩
  rw [hroute, ← h.environ]

/-! ## One helper call -/

/-- The events of a helper call that ended in some way. -/
def HelperEvents (g : Nat) (op : HelperOp) (target : Option Target) (route : String)
    (answer : HelperAnswer) (new : List RouteEvent) : Prop :=
  if op = .unmount ∧ answer = .ok then
    ∃ how, new = [.detached target how, .helper g op target route answer]
  else new = [.helper g op target route answer]

theorem routeEvents_helper (c : GuardChoice) (g : Nat) (op : HelperOp) (target : Option Target)
    (route : String) :
    HelperEvents g op target route (c.helperAnswer op target) (c.routeEvents g op target route) := by
  unfold HelperEvents GuardChoice.routeEvents GuardChoice.helperAnswer
  cases op with
  | unmount =>
      cases c.helper with
      | ok => cases hdetach : c.detach target <;> simp
      | _ => simp
  | _ => simp

theorem mountedRoute_helper {op : HelperOp} {target : Option Target} {route r : String}
    {answer : HelperAnswer}
    (h : mountedRoute cfg (.helper g op target route answer :: rs) = some r) :
    r = route ∨ mountedRoute cfg rs = some r := by
  cases op with
  | mount =>
      simp only [mountedRoute] at h
      split at h
      · exact .inl (Option.some.inj h).symm
      · exact .inr h
  | _ => exact .inr h

/-- A helper call leaves at most its own route mounted. -/
theorem HelperEvents.mounted {op : HelperOp} {target : Option Target} {route r : String}
    {answer : HelperAnswer} {new : List RouteEvent} (h : HelperEvents g op target route answer new)
    (hr : mountedRoute cfg (new ++ rs) = some r) : r = route ∨ mountedRoute cfg rs = some r := by
  unfold HelperEvents at h
  split at h
  · obtain ⟨how, rfl⟩ := h
    exact mountedRoute_helper (mountedRoute_detaching (e := .detached target how) rfl hr)
  · subst h
    exact mountedRoute_helper hr

/-- The state after a helper call. -/
structure Called (cfg : Config) (g : Nat) (vt act : String) (op : HelperOp) (target : Option Target)
    (rs : List RouteEvent) (answer : HelperAnswer) (w : World) : Prop
    extends Underway cfg g vt act w where
  children : answer = .ok → w.self.helperChildren = []
  routes : ∃ new, w.routes = new ++ rs ∧ HelperEvents g op target (firstName vt act) answer new

theorem helper_tracks (op : HelperOp) (target : Option Target) (full : Bool)
    {E : GuardExc → World → Prop} :
    Routed cfg (fun w => Tracking cfg g vt act w ∧ w.routes = rs) (helper op target full)
      (Called cfg g vt act op target rs) E := by
  refine routed_ask (Indifferent.tracking.firm.and (Firm.routes rs)) ?_ ?_
  · rintro w _ ⟨h, -⟩
    cases op with
    | unmount =>
        intro _ r hr
        rw [h.environ]
        exact .inl (h.held r hr)
    | _ => trivial
  · rintro c w _ ⟨h, rfl⟩
    have hevents := routeEvents_helper c g op target (firstName vt act)
    simp only [guardExec, h.generation, h.environ]
    -- the call is in the record of routes before its answer is known
    generalize hnew : c.routeEvents g op target (firstName vt act) = new at hevents ⊢
    generalize c.helperAnswer op target = answer at hevents ⊢
    have htransport := helperEnd_transport { w with routes := new ++ w.routes } op target full answer
    constructor
    · constructor
      · rw [helperEnd_generation]
        exact h.generation
      · rw [htransport]
        exact h.failure
      · rw [htransport]
        exact h.failureName
      · rw [htransport]
        exact h.verification
      · rw [htransport]
        exact h.active
      · rw [htransport]
        exact h.environ
      · rw [helperEnd_routes]
        exact fun r hr => (hevents.mounted hr).elim id (h.held r)
    · rintro rfl
      exact h.children
    · exact ⟨new, helperEnd_routes _ _ _ _ _, hevents⟩

theorem reapHelperChildren_tracks {E : GuardExc → World → Prop} :
    Routed cfg (fun w => Tracking cfg g vt act w ∧ w.routes = rs) reapHelperChildren
      (fun _ w => Tracking cfg g vt act w ∧ w.routes = rs) E := by
  have hfirm : Firm fun w => Tracking cfg g vt act w ∧ w.routes = rs :=
    Indifferent.tracking.firm.and (Firm.routes rs)
  refine .bind (M := fun s w => s.helperChildren = [] ∧ Tracking cfg g vt act w ∧ w.routes = rs)
    ((routed_view hfirm).post ?_) fun s => .assume fun hnone => ?_
  · rintro s w _ ⟨hsaw, h, hroutes⟩
    refine ⟨?_, h, hroutes⟩
    rw [← h.children, hsaw.self]
  · rw [hnone]
    -- no helper is blocked, so there is nothing to reap
    refine .bind (M := fun alive w => alive = [] ∧ Tracking cfg g vt act w ∧ w.routes = rs)
      (.ret fun _ _ h => ⟨rfl, h⟩) fun alive => .assume fun halive => ?_
    subst halive
    refine routed_ask hfirm (fun _ _ _ => trivial) ?_
    rintro c w _ ⟨h, hroutes⟩
    exact ⟨⟨⟨h.generation, h.failure, h.failureName, h.verification, h.active, h.environ, h.held⟩,
      rfl⟩, hroutes⟩

/-- The events of a helper call that did not succeed. -/
def Missed (g : Nat) (op : HelperOp) (target : Option Target) (route : String) (rs : List RouteEvent)
    (w : World) : Prop :=
  ∃ answer, answer ≠ .ok ∧ w.routes = .helper g op target route answer :: rs

theorem Called.missed {op : HelperOp} {target : Option Target} {answer : HelperAnswer}
    (h : Called cfg g vt act op target rs answer w) (hanswer : answer ≠ .ok) :
    Missed g op target (firstName vt act) rs w := by
  obtain ⟨new, hroutes, hevents⟩ := h.routes
  rw [HelperEvents, if_neg (fun hok => hanswer hok.2)] at hevents
  subst hevents
  exact ⟨answer, hanswer, hroutes⟩

/-- `_run_helper` of the generation guardian. A refusal because of a blocked helper does not occur. -/
theorem runHelperBase_tracks (op : HelperOp) (target : Option Target) (full : Bool) :
    Routed cfg (fun w => Tracking cfg g vt act w ∧ w.routes = rs) (runHelperBase op target full)
      (fun _ => Called cfg g vt act op target rs .ok)
      fun e w => e.isException = true ∧ Underway cfg g vt act w ∧
        Missed g op target (firstName vt act) rs w := by
  refine .bind reapHelperChildren_tracks fun _ => ?_
  have hfirm : Firm fun w => Tracking cfg g vt act w ∧ w.routes = rs :=
    Indifferent.tracking.firm.and (Firm.routes rs)
  refine .bind (M := fun s w => s.helperChildren = [] ∧ Tracking cfg g vt act w ∧ w.routes = rs)
    ((routed_view hfirm).post ?_) fun s => .assume fun hnone => ?_
  · rintro s w _ ⟨hsaw, h, hroutes⟩
    refine ⟨?_, h, hroutes⟩
    rw [← h.children, hsaw.self]
  refine .bind (M := fun _ w => Tracking cfg g vt act w ∧ w.routes = rs)
    (.raiseIf (fun hblocked => absurd hnone hblocked.2) fun _ _ _ h => h) fun _ => ?_
  refine .bind (helper_tracks op target full) fun answer => ?_
  cases answer with
  | ok => exact .ret fun _ _ h => h
  | _ => exact .raise fun _ _ h => ⟨rfl, h.toUnderway, h.missed (by simp)⟩

/-- `_run_helper`: a failed call is on record, and it is charged to its route if it concerns the data
target. -/
theorem runHelper_tracks (op : HelperOp) (target : Option Target) (full : Bool) :
    Routed cfg (fun w => Tracking cfg g vt act w ∧ w.routes = rs) (runHelper cfg op target full)
      (fun _ => Called cfg g vt act op target rs .ok)
      fun _ w => Struck cfg g vt act (chargesTransport cfg op target) w ∧
        Missed g op target (firstName vt act) rs w := by
  refine .catchWith (runHelperBase_tracks op target full) fun e => .ite (fun _ => ?_) fun hnot => ?_
  · cases hcharged : chargesTransport cfg op target with
    | false =>
        refine .raise ?_
        rintro w _ ⟨-, h, hmissed⟩
        exact ⟨⟨h.generation, h.failure, h.failureName, h.active, h.environ,
          fun hc => absurd hc (by decide), h.held⟩, hmissed⟩
    -- the error is charged to the transport in use, under the name it had before the call
    | true =>
        have hfirm : Firm fun w => e.isException = true ∧ Underway cfg g vt act w ∧
            Missed g op target (firstName vt act) rs w := by
          refine (Firm.const _).and (Firm.underway.and fun w w' hm h => ?_)
          rw [Missed, hm.routes]
          exact h
        refine .bind (M := fun _ w => Struck cfg g vt act true w ∧
          Missed g op target (firstName vt act) rs w) ?_ fun _ => .raise fun _ _ h => h
        refine .bind (routed_view hfirm) fun s => ?_
        refine routed_ask ((Firm.saw s).and hfirm) ?_ ?_
        · intro w hw h
          have hplain : w.self.transport.controlledDetached = false := hw
          rw [h.1.transport] at hplain
          exact hplain
        · rintro c w _ ⟨hsaw, -, h, answer, hanswer, hroutes⟩
          -- the failing answer is what the charge is for
          have hblame : Blame cfg (firstName vt act) w.routes := by
            rw [hroutes]
            exact blame_of_helper hcharged hanswer
          have hverification := h.verification
          have hactive := h.active
          have henviron := h.environ
          rw [hsaw.transport] at hverification hactive henviron
          refine ⟨⟨h.generation, rfl, ?_, hactive, henviron, fun _ => hblame, h.held⟩, answer, hanswer,
            hroutes⟩
          show firstName s.transport.verificationTransport s.transport.active = firstName vt act
          rw [hverification, hactive]
  · refine .raise ?_
    rintro w _ ⟨hexception, -⟩
    exact absurd hexception hnot

end StorageNode.Guardian
