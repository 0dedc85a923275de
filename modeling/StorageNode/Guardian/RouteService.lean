import StorageNode.Guardian.RouteHelpers
import StorageNode.Guardian.Readiness

/-!
# Routes of a generation in service

From the selection of a transport to the end of `_online_loop`. Programs without helper calls leave
routes alone (`Calm`). Startup verification works on one transport after another, and a detach that
fails there leaves its route behind (`verifyTransportOnStartup_tracks`). A generation that fails ends in
a state that its termination can rely on (`serve_routed`).
-/

set_option autoImplicit false

namespace StorageNode.Guardian

open StorageNode.Program StorageNode.FloatingPoint GuardProg

variable {cfg : Config} {w w' : World} {g : Nat} {vt act : String} {rs : List RouteEvent}

/-! ## Programs without helper calls -/

/-- A program that keeps every condition that does not concern routes. -/
def Calm (cfg : Config) {α : Type} (p : GuardProg α) : Prop :=
  ∀ P, Indifferent P → Routed cfg P p (fun _ => P) fun _ => P

namespace Calm

variable {α β : Type}

theorem ret (a : α) : Calm cfg (Prog.ret a : GuardProg α) :=
  fun _ _ => .ret fun _ _ h => h

theorem raise (e : GuardExc) : Calm cfg (Prog.raise e : GuardProg α) :=
  fun _ _ => .raise fun _ _ h => h

theorem raiseIf (bad : Prop) [Decidable bad] (e : GuardExc) :
    Calm cfg (Prog.raiseIf bad e : GuardProg Unit) :=
  fun _ _ => .raiseIf (fun _ _ _ h => h) fun _ _ _ h => h

theorem orRaise (e : GuardExc) (o : Option α) : Calm cfg (Prog.orRaise e o : GuardProg α) :=
  fun _ _ => .orRaise (fun _ _ _ h => h) fun _ _ _ _ h => h

theorem issues {p : GuardProg α} (hp : p.Issues fun r => r.ashore = true) : Calm cfg p :=
  fun _ hP => routed_ashore hP hp

theorem ask {r : GuardReq} (hr : r.ashore = true) : Calm cfg (Prog.ask r : GuardProg r.Ans) :=
  issues ((Prog.issues_ask r).2 hr)

theorem bind {p : GuardProg α} {f : α → GuardProg β} (hp : Calm cfg p) (hf : ∀ a, Calm cfg (f a)) :
    Calm cfg (Prog.bind p f) :=
  fun P hP => .bind (hp P hP) fun a => hf a P hP

theorem when {condition : Prop} [Decidable condition] {p : GuardProg Unit} (hp : Calm cfg p) :
    Calm cfg (Prog.when condition p) :=
  fun P hP => .when (fun _ => hp P hP) fun _ _ _ h => h

theorem ite {condition : Prop} [Decidable condition] {p q : GuardProg α} (hp : Calm cfg p)
    (hq : Calm cfg q) : Calm cfg (if condition then p else q) :=
  fun P hP => .ite (fun _ => hp P hP) fun _ => hq P hP

theorem must {p : GuardProg Bool} {e : GuardExc} (hp : Calm cfg p) : Calm cfg (GuardProg.must e p) :=
  hp.bind fun _ => raiseIf _ _

theorem attempt {p : GuardProg α} (hp : Calm cfg p) : Calm cfg p.attempt :=
  fun P hP => .attempt (hp P hP)

theorem tryExcept {p : GuardProg α} {h : GuardExc → GuardProg α} (hp : Calm cfg p)
    (hh : ∀ e, Calm cfg (h e)) : Calm cfg (GuardProg.tryExcept p h) :=
  fun P hP => .catchWith (hp P hP) fun e => .ite (fun _ => hh e P hP) fun _ => .raise fun _ _ h => h

theorem forEach {body : β → GuardProg Unit} (h : ∀ x, Calm cfg (body x)) (xs : List β) :
    Calm cfg (Prog.forEach xs body) :=
  fun P hP => .forEach (I := fun _ => P) (fun x _ => h x P hP) xs

end Calm

/-- Only a plain transport is assigned. -/
theorem Saw.plain {s : Self} (h : Saw s w) (hw : Plain w) :
    s.transport.controlledDetached = false := by
  rw [← h.transport]
  exact hw

/-- Assignments to attributes that are not about the route. -/
theorem routed_reassign {P : World → Prop} (hP : Indifferent P) {E : GuardExc → World → Prop} (s : Self)
    (t : Transport) (hbearing : t.bearing = s.transport.bearing)
    (hplain : t.controlledDetached = s.transport.controlledDetached) :
    Routed cfg (fun w => Saw s w ∧ P w) (assign (.transport t)) (fun _ => P) E := by
  refine routed_ask ((Firm.saw s).and hP.firm) (fun w hw h => hplain.trans (h.1.plain hw)) ?_
  rintro c w _ ⟨hsaw, h⟩
  refine hP.transport w t ?_ h
  rw [hsaw.transport, hbearing]

theorem watchRequests_calm : ∀ fuel : Nat, Calm cfg (watchRequests fuel) := by
  intro fuel
  induction fuel with
  | zero => exact Calm.raise _
  | succ fuel ih =>
      intro P hP
      refine .bind (routed_view hP.firm) fun s => .when (fun _ => ?_) fun _ _ _ h => h.2
      have hfirm := (Firm.saw s).and hP.firm
      refine .bind (M := fun _ w => Saw s w ∧ P w) (routed_ask hfirm (fun _ _ _ => trivial)
        fun _ _ _ h => h) fun poll => ?_
      cases poll with
      | failed => exact .raise fun _ _ h => h.2
      | requested name =>
          refine .ite (fun _ => ?_) fun _ => ?_
          · refine .bind (routed_reassign hP s _ rfl rfl) fun _ => ?_
            have hrest : Calm cfg (do setHealth .suspect false; Prog.raise .transportSwitch :
                GuardProg Unit) := (Calm.ask rfl).bind fun _ => Calm.raise _
            exact hrest P hP
          · have hrest : Calm cfg (do
                let late ← expired
                Prog.when (!late) do
                  sleep
                  watchRequests fuel) :=
              (Calm.ask rfl).bind fun late => ((Calm.ask rfl).bind fun _ => ih).when
            exact (hrest P hP).pre fun _ _ h => h.2

theorem interruptibleSleep_calm (fuel : Nat) : Calm cfg (interruptibleSleep cfg fuel) := by
  refine (Calm.ask rfl).bind fun s => ?_
  exact (watchRequests_calm fuel).ite (Calm.ask rfl)

theorem publishTransport_calm : Calm cfg (publishTransport cfg) :=
  Calm.issues (Prog.Issues.mono (fun _ hr => (Bool.and_eq_true_iff.1 hr).1) (publishTransport_aside cfg))

theorem ensureNoLingeringProcesses_calm : Calm cfg ensureNoLingeringProcesses :=
  Calm.issues (Prog.Issues.mono GuardReq.ashore_of_stops ensureNoLingeringProcesses_stops)

theorem hasAwaitingValidation_calm : Calm cfg hasAwaitingValidation :=
  (Calm.ask rfl).bind fun _ => Calm.orRaise _ _

theorem repairCall_calm (answer : RepairAnswer) : Calm cfg (repairCall answer) := by
  cases answer with
  | ok => exact Calm.ret _
  | _ => exact Calm.raise _

theorem certifyIndexesFromResult_calm (status : VolumeStatus) :
    Calm cfg (certifyIndexesFromResult status) := by
  refine Calm.bind ?_ fun certified => Calm.ask rfl
  refine (Calm.ask rfl).bind fun history => (Calm.ret _).ite ?_
  refine (Calm.must (Calm.ask rfl)).bind fun _ => ?_
  exact (Calm.ask rfl).bind fun _ => (Calm.ask rfl).bind fun _ => Calm.ret _

theorem acceptSeaweedVolumeStatus_calm (result : Option VolumeStatus) :
    Calm cfg (acceptSeaweedVolumeStatus result) := by
  cases result with
  | none => exact Calm.ret _
  | some status =>
      refine (Calm.ask rfl).bind fun s => Calm.ite ?_ ?_
      · exact (hasAwaitingValidation_calm.ite (Calm.ret _)).bind fun _ => Calm.raise _
      · refine Calm.bind (Calm.when ?_) fun _ => certifyIndexesFromResult_calm status
        refine Calm.bind ((Calm.ask rfl).bind fun answer => repairCall_calm answer) fun _ => ?_
        exact hasAwaitingValidation_calm.bind fun _ => Calm.raiseIf _ _

theorem runS3Canary_calm : Calm cfg runS3Canary :=
  Calm.must (Calm.ask rfl)

theorem checkSeaweedVolumes_calm : Calm cfg (checkSeaweedVolumes cfg) := by
  refine Calm.bind (Calm.ite ?_ (Calm.ret _)) fun result => acceptSeaweedVolumeStatus_calm result
  exact (Calm.ask rfl).bind fun status => (Calm.orRaise _ _).bind fun _ => Calm.ret _

theorem awaitStableStatus_calm (deadline : Extended) : ∀ (fuel : Nat) (sample : Sample),
    Calm cfg (awaitStableStatus cfg deadline fuel sample) := by
  intro fuel
  induction fuel with
  | zero => exact fun _ => Calm.raise _
  | succ fuel ih =>
      intro sample
      have hretry : ∀ sample, Calm cfg (retryStatus cfg deadline fuel
          (awaitStableStatus cfg deadline fuel sample)) := by
        intro sample
        refine (Calm.ask (r := .clock) rfl).bind fun now => (Calm.raiseIf _ _).bind fun _ => ?_
        exact (interruptibleSleep_calm fuel).bind fun _ => ih sample
      refine (Calm.ask rfl).bind fun (stopping : Bool) => (Calm.raiseIf (stopping = true) _).bind fun _ => ?_
      refine (Calm.ask (r := .inspect) rfl).bind fun status => ?_
      cases status with
      | none => exact hretry {}
      | some status =>
          refine (Calm.ask (r := .clock) rfl).bind fun now => Calm.ite ?_ (hretry _)
          exact (Calm.raiseIf _ _).bind fun _ => acceptSeaweedVolumeStatus_calm _

theorem startSeaweed_calm (fuel : Nat) : Calm cfg (startSeaweed cfg fuel) := by
  refine (Calm.ask rfl).bind fun _ => ?_
  refine (Calm.ask rfl).bind fun built => (Calm.orRaise _ _).bind fun ps => ?_
  refine (Calm.ask rfl).bind fun _ => ?_
  refine Calm.bind (Calm.forEach (fun p => ?_) ps) fun _ => ?_
  · exact (Calm.must (Calm.ask rfl)).bind fun _ => Calm.must (Calm.ask rfl)
  refine Calm.bind (Calm.when ?_) fun _ => runS3Canary_calm.when
  refine (Calm.ask rfl).bind fun now => (Calm.orRaise _ _).bind fun deadline => ?_
  exact (Calm.ask rfl).bind fun _ => awaitStableStatus_calm deadline fuel _

theorem stopWriters_calm : Calm cfg stopWriters := by
  refine (Calm.issues (Prog.Issues.mono GuardReq.ashore_of_stops stopSeaweed_stops)).bind fun _ => ?_
  exact (Calm.raiseIf _ _).bind fun _ => ensureNoLingeringProcesses_calm

theorem finishIndexValidation_calm (status : VolumeStatus) :
    Calm cfg (finishIndexValidation cfg status) := by
  refine Calm.bind ((Calm.ask rfl).bind fun o => Calm.orRaise _ o) fun rejected => ?_
  refine Calm.bind ((Calm.ask rfl).bind fun o => Calm.orRaise _ o) fun unresolved => ?_
  refine Calm.bind (Calm.when ?_) fun _ => ?_
  · refine stopWriters_calm.bind fun _ => ?_
    refine Calm.bind (Calm.when ?_) fun _ => Calm.raise _
    exact (Calm.ask rfl).bind fun answer => repairCall_calm answer
  · exact (certifyIndexesFromResult_calm status).bind fun _ => runS3Canary_calm.when

theorem repairAndRestart_calm (fuel : Nat) (status : VolumeStatus) :
    Calm cfg (repairAndRestart cfg fuel status) := by
  refine (Calm.ask rfl).bind fun s => (Calm.raiseIf _ _).bind fun _ => ?_
  refine (Calm.ask rfl).bind fun _ => stopWriters_calm.bind fun _ => ?_
  refine Calm.bind ((Calm.ask rfl).bind fun answer => repairCall_calm answer) fun _ => ?_
  refine (startSeaweed_calm fuel).attempt.bind fun outcome => ?_
  cases outcome with
  | ok _ => exact Calm.raise _
  | error e =>
      cases e with
      | validationRequired status => exact finishIndexValidation_calm status
      | _ => exact Calm.raise _

theorem startSeaweedWithIndexRecovery_calm (fuel : Nat) :
    Calm cfg (startSeaweedWithIndexRecovery cfg fuel) := by
  refine (startSeaweed_calm fuel).attempt.bind fun outcome => ?_
  cases outcome with
  | ok _ => exact Calm.ret _
  | error e =>
      cases e with
      | validationRequired status => exact finishIndexValidation_calm status
      | unexpectedReadonly status => exact repairAndRestart_calm fuel status
      | _ => exact Calm.raise _

/-! ## Startup verification -/

/-- Between two verified routes nothing is mounted. -/
structure Unrouted (cfg : Config) (g : Nat) (act : String) (w : World) : Prop where
  generation : w.self.generation = some g
  children : w.self.helperChildren = []
  failure : w.self.transport.failure = false
  failureName : w.self.transport.failureName = ""
  active : w.self.transport.active = act
  none : mountedRoute cfg w.routes = none

/-- Inside of a failed verification. -/
structure Astray (cfg : Config) (act : String) (w : World) : Prop where
  active : w.self.transport.active = act
  knows : Knows cfg w.self.transport w

theorem Indifferent.unrouted : Indifferent (Unrouted cfg g act) where
  ashore w w' ha h := by
    refine ⟨ha.generation.trans h.generation, ha.children.trans h.children, ?_, ?_, ?_, ?_⟩
    · rw [ha.transport, h.failure]
    · rw [ha.transport, h.failureName]
    · rw [ha.transport, h.active]
    · rw [mountedRoute_ashore ha, h.none]
  transport w t ht h := by
    obtain ⟨-, hactive, hfailure, hname, -⟩ : t.environ = w.self.transport.environ ∧
        t.active = w.self.transport.active ∧ t.failure = w.self.transport.failure ∧
        t.failureName = w.self.transport.failureName ∧
        t.verificationTransport = w.self.transport.verificationTransport := by
      simpa [Transport.bearing] using ht
    exact ⟨h.generation, h.children, hfailure.trans h.failure, hname.trans h.failureName,
      hactive.trans h.active, h.none⟩

theorem Firm.astray : Firm (Astray cfg act) := by
  intro w w' hm h
  have ha := hm.ashore
  refine ⟨by rw [ha.transport, h.active], ?_⟩
  rw [ha.transport]
  exact h.knows.unmoored ha.unmoored

theorem Unrouted.astray (h : Unrouted cfg g act w) : Astray cfg act w := by
  refine ⟨h.active, ?_, ?_, fun _ => h.none⟩
  · intro hfailure
    exact absurd (h.failure.symm.trans hfailure) (by decide)
  · intro r hr
    exact absurd (h.none.symm.trans hr) (by simp)

theorem Tracking.unrouted (h : Tracking cfg g vt act w) (hnone : mountedRoute cfg w.routes = none) :
    Unrouted cfg g act w :=
  ⟨h.generation, h.children, h.failure, h.failureName, h.active, hnone⟩

theorem isData_of_failover {failover : Failover} (hfailover : cfg.failover = some failover) :
    cfg.isData (some ⟨failover.target, false⟩) = true := by
  simp [Config.isData, hfailover]

theorem charges_of_failover {failover : Failover} (hfailover : cfg.failover = some failover)
    {op : HelperOp} (hop : op = .mount ∨ op = .prepare ∨ op = .probe) :
    chargesTransport cfg op (some ⟨failover.target, false⟩) = true := by
  rcases hop with rfl | rfl | rfl <;> simp [chargesTransport, hfailover]

/-- A helper call that succeeds, other than a detach. -/
theorem Called.tracking {op : HelperOp} {target : Option Target}
    (h : Called cfg g vt act op target rs .ok w) : Tracking cfg g vt act w :=
  ⟨h.toUnderway, h.children rfl⟩

theorem Called.routes_of_ne {op : HelperOp} {target : Option Target} (hop : op ≠ .unmount)
    (h : Called cfg g vt act op target rs .ok w) :
    w.routes = .helper g op target (firstName vt act) .ok :: rs := by
  obtain ⟨new, hroutes, hevents⟩ := h.routes
  rw [HelperEvents, if_neg (fun hunmount => hop hunmount.1)] at hevents
  rw [hroutes, hevents]
  rfl

/-- After a successful detach of the data target nothing is mounted. -/
theorem Called.none {target : Option Target} (hdata : cfg.isData target = true)
    (h : Called cfg g vt act .unmount target rs .ok w) : mountedRoute cfg w.routes = none := by
  obtain ⟨new, hroutes, hevents⟩ := h.routes
  rw [HelperEvents, if_pos ⟨rfl, rfl⟩] at hevents
  obtain ⟨how, rfl⟩ := hevents
  rw [hroutes]
  simp [mountedRoute, hdata]

/-- Mount, prepare and probe on a route to verify. -/
theorem verifyMounted_tracks {failover : Failover} (hfailover : cfg.failover = some failover) :
    Routed cfg (fun w => Tracking cfg g vt act w ∧ w.routes = rs)
      (verifyMounted cfg ⟨failover.target, false⟩)
      (fun _ w => Tracking cfg g vt act w ∧ w.routes =
        .helper g .probe (some ⟨failover.target, false⟩) (firstName vt act) .ok ::
        .helper g .prepare (some ⟨failover.target, false⟩) (firstName vt act) .ok ::
        .helper g .mount (some ⟨failover.target, false⟩) (firstName vt act) .ok :: rs)
      fun _ => Struck cfg g vt act true := by
  have hcall : ∀ (op : HelperOp) (full : Bool) (rs : List RouteEvent),
      op = .mount ∨ op = .prepare ∨ op = .probe →
        Routed cfg (fun w => Tracking cfg g vt act w ∧ w.routes = rs)
          (runHelper cfg op (some ⟨failover.target, false⟩) full)
          (fun _ w => Tracking cfg g vt act w ∧ w.routes =
            .helper g op (some ⟨failover.target, false⟩) (firstName vt act) .ok :: rs)
          fun _ => Struck cfg g vt act true := by
    intro op full rs hop
    refine (runHelper_tracks op _ full).mono (fun _ _ h => h) (fun _ _ _ h => ⟨h.tracking, ?_⟩)
      fun _ _ _ h => ?_
    · apply h.routes_of_ne
      rcases hop with rfl | rfl | rfl <;> decide
    · rw [charges_of_failover hfailover hop] at h
      exact h.1
  refine .bind (hcall .mount false rs (.inl rfl)) fun _ => ?_
  refine .bind (hcall .prepare false _ (.inr (.inl rfl))) fun _ => ?_
  exact hcall .probe true _ (.inr (.inr rfl))

/-- A detach that fails after a verification that succeeded: the route is still mounted, and unless it
is the selected one the guardian takes another to be. -/
theorem astray_of_undetached {target : Option Target} (hdata : cfg.isData target = true)
    (h : Struck cfg g vt act false w) (hmissed : Missed g .unmount target (firstName vt act)
      (.helper g .probe target (firstName vt act) .ok ::
        .helper g .prepare target (firstName vt act) .ok ::
        .helper g .mount target (firstName vt act) .ok :: rs) w) : Astray cfg act w := by
  obtain ⟨answer, hanswer, hroutes⟩ := hmissed
  have hroute : w.self.transport.route = act := by
    rw [Transport.route, h.failureName, h.active]
    rfl
  refine ⟨h.active, ?_, fun r hr => ?_, fun hnone => ?_⟩
  · intro hfailure
    exact absurd (h.failure.symm.trans hfailure) (by decide)
  · rw [hroute, h.active]
    by_cases hsame : firstName vt act = act
    · exact .inl ((h.held r hr).trans hsame)
    · refine .inr ⟨[], g, target, firstName vt act, answer, rs, ?_, by simp, hdata, hanswer, hsame⟩
      rw [hroutes]
      rfl
  · exact absurd (h.generation.symm.trans hnone) (by simp)

theorem Struck.astray (h : Struck cfg g vt act true w) : Astray cfg act w :=
  ⟨h.active, (h.knows (.inl rfl)).2⟩

/-- The detach after a verification that failed. -/
theorem detach_struck (target : Target) :
    Routed cfg (Struck cfg g vt act true) (runHelper cfg .unmount (some target) false)
      (fun _ => Astray cfg act) fun _ => Astray cfg act := by
  intro w hw h
  have hdetach : Routed cfg (Aimed cfg w.self.transport) (runHelper cfg .unmount (some target) false)
      (fun _ => AimedDrain cfg w.self.transport False []) fun _ => Aimed cfg w.self.transport :=
    (unmount_drains w.self.transport target [] False).pre fun _ _ haimed => ⟨haimed, False.elim⟩
  refine (hdetach.mono (fun _ _ haimed => haimed) ?_ ?_) w hw h.aimed
  · intro _ w' _ haimed
    refine ⟨?_, ?_⟩
    · rw [haimed.1.transport]
      exact h.active
    · rw [haimed.1.transport]
      exact haimed.1.knows.transport rfl rfl rfl
  · intro _ w' _ haimed
    refine ⟨?_, ?_⟩
    · rw [haimed.transport]
      exact h.active
    · rw [haimed.transport]
      exact haimed.knows.transport rfl rfl rfl

/-- `_verify_transport_on_startup`. -/
theorem verifyTransportOnStartup_tracks {failover : Failover} (hfailover : cfg.failover = some failover)
    {name : String} (hname : name ≠ "") :
    Routed cfg (Unrouted cfg g act) (verifyTransportOnStartup cfg failover name)
      (fun _ => Unrouted cfg g act) fun _ => Astray cfg act := by
  have hroute : firstName name act = name := if_neg hname
  refine .bind (routed_view Indifferent.unrouted.firm) fun s => ?_
  -- from here on the route is that of the transport to verify, with nothing mounted
  have hquiet : ∀ {p : GuardProg Unit}, Calm cfg p → Routed cfg
      (fun w => Tracking cfg g name act w ∧ Unrouted cfg g act w) p
      (fun _ w => Tracking cfg g name act w ∧ Unrouted cfg g act w) fun _ => Astray cfg act := by
    intro p hp
    have hindifferent : Indifferent fun w => Tracking cfg g name act w ∧ Unrouted cfg g act w :=
      ⟨fun w w' ha h => ⟨Indifferent.tracking.ashore w w' ha h.1, Indifferent.unrouted.ashore w w' ha h.2⟩,
        fun w t ht h => ⟨Indifferent.tracking.transport w t ht h.1,
          Indifferent.unrouted.transport w t ht h.2⟩⟩
    exact (hp _ hindifferent).mono (fun _ _ h => h) (fun _ _ _ h => h) fun _ _ _ h => h.2.astray
  refine .bind (M := fun _ w => Tracking cfg g name act w ∧ Unrouted cfg g act w)
    (routed_ask ((Firm.saw s).and Indifferent.unrouted.firm) (fun w hw h => h.1.plain hw) ?_) fun _ => ?_
  · rintro c w _ ⟨hsaw, h⟩
    have hfailure := h.failure
    have hfailureName := h.failureName
    have hactive := h.active
    rw [hsaw.transport] at hfailure hfailureName hactive
    refine ⟨⟨⟨h.generation, hfailure, hfailureName, rfl, hactive, hroute.symm, ?_⟩, h.children⟩,
      h.generation, h.children, hfailure, hfailureName, hactive, h.none⟩
    exact fun r hr => absurd (h.none.symm.trans hr) (by simp)
  refine .bind (hquiet (Calm.ask rfl)) fun _ => .bind (hquiet publishTransport_calm) fun _ => ?_
  have hdata := isData_of_failover hfailover
  intro w₀ hw₀ h₀
  refine Discipline.Triple.bind (d := routeDiscipline cfg)
    (P := fun w => Tracking cfg g name act w ∧ w.routes = w₀.routes)
    (M := fun verified w => match verified with
      | .ok _ => Tracking cfg g name act w ∧ w.routes =
          .helper g .probe (some ⟨failover.target, false⟩) (firstName name act) .ok ::
          .helper g .prepare (some ⟨failover.target, false⟩) (firstName name act) .ok ::
          .helper g .mount (some ⟨failover.target, false⟩) (firstName name act) .ok :: w₀.routes
      | .error _ => Struck cfg g name act true w) (.attempt (verifyMounted_tracks hfailover))
    (fun verified => ?_) w₀ hw₀ ⟨h₀.1, rfl⟩
  cases verified with
  | error e =>
      refine .bind (M := fun _ => Astray cfg act) (.attempt (detach_struck _)) fun detached => ?_
      exact .raise fun _ _ h => h
  | ok _ =>
      refine .bind (M := fun detached w => match detached with
        | .ok _ => Unrouted cfg g act w
        | .error _ => Astray cfg act w) (.attempt ((runHelper_tracks .unmount _ false).mono
          (fun _ _ h => h) (fun _ _ _ h => h.tracking.unrouted (h.none hdata)) fun _ _ _ h => ?_))
        fun detached => ?_
      · rw [chargesTransport_unmount] at h
        exact astray_of_undetached hdata h.1 h.2
      · cases detached with
        | ok _ => exact .ret fun _ _ h => h
        | error e => exact .raise fun _ _ h => h

/-- The verification loop, by the transports that are left. -/
theorem verifyEach_tracks {failover : Failover} (hfailover : cfg.failover = some failover) :
    Routed cfg (Unrouted cfg g act) (verifyEach cfg failover) (fun _ => Unrouted cfg g act)
      fun _ => Astray cfg act := by
  have hquiet : ∀ {α : Type} {p : GuardProg α}, Calm cfg p → Routed cfg (Unrouted cfg g act) p
      (fun _ => Unrouted cfg g act) fun _ => Astray cfg act := fun hp =>
    (hp _ .unrouted).mono (fun _ _ h => h) (fun _ _ _ h => h) fun _ _ _ h => h.astray
  refine .bind (M := fun _ => Unrouted cfg g act) ?_ fun _ => ?_
  · refine Discipline.Triple.mono (Discipline.Triple.forEach (E := fun _ => Astray cfg act)
      (I := fun names w => (∀ name ∈ names, name ≠ "") ∧ Unrouted cfg g act w) ?_ failover.orderedNames)
      (fun _ _ h => ⟨failover.named, h⟩) (fun _ _ _ h => h.2) fun _ _ _ h => h
    intro name names
    refine .assume fun hnames => ?_
    have hname := hnames name List.mem_cons_self
    have hrest : ∀ n ∈ names, n ≠ "" := fun n hn => hnames n (List.mem_cons_of_mem _ hn)
    refine .bind (hquiet (Calm.ask rfl)) fun answer => .bind (hquiet (Calm.orRaise _ _)) fun q => ?_
    refine .when (fun _ => ?_) fun _ _ _ h => ⟨hrest, h⟩
    exact (verifyTransportOnStartup_tracks hfailover hname).post fun _ _ _ h => ⟨hrest, h⟩
  · refine .bind (hquiet (Calm.must (Calm.ask rfl))) fun _ => ?_
    refine .bind (routed_view Indifferent.unrouted.firm) fun s => ?_
    exact routed_reassign .unrouted s _ rfl rfl

/-- `_verify_all_transports_on_startup`. -/
theorem verifyAllTransportsOnStartup_tracks :
    Routed cfg (fun w => Tracking cfg g "" act w ∧ mountedRoute cfg w.routes = none)
      (verifyAllTransportsOnStartup cfg) (fun _ => Tracking cfg g "" act) fun _ => Settled cfg := by
  unfold verifyAllTransportsOnStartup
  cases hfailover : cfg.failover with
  | none => exact .ret fun _ _ h => h.1
  | some failover =>
      have hfirm : Firm fun w => Tracking cfg g "" act w ∧ mountedRoute cfg w.routes = none := by
        refine Indifferent.tracking.firm.and fun w w' hm h => ?_
        rw [hm.routes, h]
      refine .bind (M := fun s w => s.transport.active = act ∧ Tracking cfg g "" act w ∧
        mountedRoute cfg w.routes = none) ((routed_view hfirm).post fun s w _ h => ⟨?_, h.2⟩) fun s =>
        .assume fun hactive => .when (fun _ => ?_) fun _ _ _ h => h.1
      -- the transport that is restored at the end is the one that was active at the start
      · rw [← h.2.1.active, h.1.transport]
      refine .andFinally (M := fun _ => Unrouted cfg g act) (F := fun _ => Astray cfg act)
        ((verifyEach_tracks hfailover).pre fun w _ h => h.1.unrouted h.2) (fun _ => ?_) fun e => ?_
      · -- the selected transport is the route again
        refine .bind (routed_view Indifferent.unrouted.firm) fun now => ?_
        refine .bind (M := fun _ => Tracking cfg g "" act) (routed_ask
          ((Firm.saw now).and Indifferent.unrouted.firm) (fun w hw h => h.1.plain hw) ?_) fun _ => ?_
        · rintro c w _ ⟨hsaw, h⟩
          have hfailure := h.failure
          have hfailureName := h.failureName
          have hnow := h.active
          rw [hsaw.transport] at hfailure hfailureName hnow
          refine ⟨⟨h.generation, hfailure, hfailureName, rfl, hnow, hactive, ?_⟩, h.children⟩
          exact fun r hr => absurd (h.none.symm.trans hr) (by simp)
        · exact (publishTransport_calm _ .tracking).mono (fun _ _ h => h) (fun _ _ _ h => h)
            fun _ _ _ h => h.settled
      -- an error on the way out also puts the selected transport back
      · refine .bind (routed_view Firm.astray) fun now => ?_
        refine .bind (M := fun _ => Settled cfg) (routed_ask ((Firm.saw now).and Firm.astray)
          (fun w hw h => h.1.plain hw) ?_) fun _ => publishTransport_calm _ .settled
        rintro c w _ ⟨hsaw, h⟩
        obtain ⟨hnow, hknows⟩ := h
        rw [hsaw.transport] at hnow hknows
        refine ⟨hactive.trans hnow.symm, Knows.same (w := w) ?_ rfl rfl⟩
        exact hknows.transport rfl rfl rfl

/-! ## In service -/

/-- A helper of a generation in service. -/
theorem runHelper_steady (op : HelperOp) (target : Option Target) (full : Bool) :
    Routed cfg (Tracking cfg g "" act) (runHelper cfg op target full) (fun _ => Tracking cfg g "" act)
      fun _ => Settled cfg := by
  have hcall : Routed cfg (fun w => ∃ rs, Tracking cfg g "" act w ∧ w.routes = rs)
      (runHelper cfg op target full) (fun _ => Tracking cfg g "" act) fun _ => Settled cfg :=
    .exists_pre fun rs => (runHelper_tracks op target full).mono (fun _ _ h => h)
      (fun _ _ _ h => h.tracking) fun _ _ _ h => h.1.settled
  exact hcall.pre fun w _ h => ⟨w.routes, h, rfl⟩

theorem probeTargets_steady (full : Bool) :
    Routed cfg (Tracking cfg g "" act) (probeTargets cfg full) (fun _ => Tracking cfg g "" act)
      fun _ => Settled cfg :=
  .forEach (I := fun _ => Tracking cfg g "" act)
    (fun target _ => runHelper_steady .probe (some target) full) cfg.activeTargets

/-- A calm program in service. -/
theorem Calm.steady {α : Type} {p : GuardProg α} (hp : Calm cfg p) :
    Routed cfg (Tracking cfg g "" act) p (fun _ => Tracking cfg g "" act) fun _ => Settled cfg :=
  (hp _ .tracking).mono (fun _ _ h => h) (fun _ _ _ h => h) fun _ _ _ h => h.settled

theorem mountAndEnrollTargets_tracks :
    Routed cfg (fun w => Tracking cfg g "" act w ∧ mountedRoute cfg w.routes = none)
      (mountAndEnrollTargets cfg) (fun _ => Tracking cfg g "" act) fun _ => Settled cfg := by
  refine .bind verifyAllTransportsOnStartup_tracks fun _ => ?_
  refine .bind ensureNoLingeringProcesses_calm.steady fun _ => ?_
  refine .bind (.forEach (I := fun _ => Tracking cfg g "" act) (fun target _ => ?_)
    cfg.activeTargets) fun _ => runHelper_steady .prepareLayout none false
  refine .bind (runHelper_steady .mount (some target) false) fun _ => ?_
  exact runHelper_steady .prepare (some target) false

theorem stabilizeLoop_steady (stableSince : Float64) : ∀ fuel successes : Nat,
    Routed cfg (Tracking cfg g "" act) (stabilizeLoop cfg stableSince fuel successes)
      (fun _ => Tracking cfg g "" act) fun _ => Settled cfg := by
  intro fuel
  induction fuel with
  | zero => exact fun _ => .raise fun _ _ h => h.settled
  | succ fuel ih =>
      intro successes
      refine .bind (Calm.ask rfl).steady fun (stopping : Bool) =>
        .bind (Calm.raiseIf (stopping = true) _).steady fun _ => ?_
      refine .bind (M := fun _ => Tracking cfg g "" act) ?_ fun _ => ?_
      · refine .bind (probeTargets_steady true) fun _ => ?_
        exact .bind checkSeaweedVolumes_calm.steady fun _ => runS3Canary_calm.when.steady
      refine .bind (Calm.ask rfl).steady fun now => .ite (fun _ => .ret fun _ _ h => h) fun _ => ?_
      exact .bind (interruptibleSleep_calm fuel).steady fun _ => ih (successes + 1)

theorem stabilizeRecovery_steady (fuel : Nat) :
    Routed cfg (Tracking cfg g "" act) (stabilizeRecovery cfg fuel) (fun _ => Tracking cfg g "" act)
      fun _ => Settled cfg := by
  refine .bind (Calm.ask rfl).steady fun stableSince => .bind (Calm.ask rfl).steady fun _ => ?_
  refine .bind (stabilizeLoop_steady stableSince fuel 0) fun _ => ?_
  have hfirm : Firm (Tracking cfg g "" act) := Indifferent.tracking.firm
  refine .bind (routed_view hfirm) fun s => .when (fun _ => ?_) fun _ _ _ h => h.2
  refine .bind (M := fun _ w => Saw s w ∧ Tracking cfg g "" act w) (routed_must (routed_ask
    ((Firm.saw s).and hfirm) (fun _ _ _ => trivial) fun c w _ h => ?_)) fun _ => ?_
  · have htracking : Tracking cfg g "" act (guardExec (.recordSuccess s.transport.active) c w).2 :=
      ⟨⟨h.2.generation, h.2.failure, h.2.failureName, h.2.verification, h.2.active, h.2.environ,
        h.2.held⟩, h.2.children⟩
    exact ⟨fun _ => ⟨⟨h.1.self, h.1.stopping⟩, htracking⟩, fun _ => htracking.settled⟩
  refine .bind (M := fun _ => Tracking cfg g "" act) (routed_ask ((Firm.saw s).and hfirm)
    (fun w hw h => h.1.plain hw) ?_) fun _ => publishTransport_calm.steady
  rintro c w _ ⟨hsaw, h⟩
  have hverification := h.verification
  have hactive := h.active
  have henviron := h.environ
  rw [hsaw.transport] at hverification hactive henviron
  exact ⟨⟨h.generation, rfl, rfl, hverification, hactive, henviron, h.held⟩, h.children⟩

theorem onlineChecks_steady (nextFull : Extended) :
    Routed cfg (Tracking cfg g "" act) (onlineChecks cfg nextFull) (fun _ => Tracking cfg g "" act)
      fun _ => Settled cfg := by
  refine .bind (Calm.must (Calm.ask rfl)).steady fun _ => ?_
  refine .bind (Calm.ask rfl).steady fun s => ?_
  refine .bind (Calm.forEach (fun p => Calm.must (Calm.ask rfl)) _).steady fun _ => ?_
  refine .bind (Calm.ask rfl).steady fun now => ?_
  refine .bind (probeTargets_steady _) fun _ => .ite (fun _ => ?_) fun _ => .ret fun _ _ h => h
  refine .bind checkSeaweedVolumes_calm.steady fun _ => .bind runS3Canary_calm.when.steady fun _ => ?_
  exact .bind (Calm.ask rfl).steady fun now => (Calm.orRaise _ _).steady

theorem onlineLoopBase_steady : ∀ (fuel : Nat) (nextFull : Extended),
    Routed cfg (Tracking cfg g "" act) (onlineLoopBase cfg fuel nextFull)
      (fun _ w => w.self.stopping = true ∧ Tracking cfg g "" act w) fun _ => Settled cfg := by
  intro fuel
  induction fuel with
  | zero => exact fun _ => .raise fun _ _ h => h.settled
  | succ fuel ih =>
      intro nextFull
      refine .bind (M := fun stopping w => (stopping = true → w.self.stopping = true) ∧
        Tracking cfg g "" act w) (routed_ask Indifferent.tracking.firm (fun _ _ _ => trivial)
        fun c w _ h => ⟨id, Indifferent.tracking.ashore w _ (ashore_exec (r := .stopRequested) rfl c w) h⟩)
        fun stopping => .when (fun _ => ?_) fun hstop w _ h => ⟨h.1 (by simpa using hstop), h.2⟩
      refine .bind (M := fun _ => Tracking cfg g "" act) ?_ fun next => ?_
      · refine .catchWith ((onlineChecks_steady nextFull).pre fun _ _ h => h.2) fun e => ?_
        refine .ite (fun _ => ?_) fun _ => .raise fun _ _ h => h
        refine .bind (M := fun _ => Settled cfg) (Calm.ask rfl _ .settled) fun _ => ?_
        exact .raise fun _ _ h => h
      · exact .bind (interruptibleSleep_calm fuel).steady fun _ => ih next

theorem onlineLoop_steady (fuel : Nat) :
    Routed cfg (Tracking cfg g "" act) (onlineLoop cfg fuel)
      (fun _ w => w.self.stopping = true ∧ Settled cfg w) fun _ => Settled cfg := by
  refine .bind (routed_view Indifferent.tracking.firm) fun s => ?_
  refine .bind (routed_reassign .tracking s _ rfl rfl) fun _ => ?_
  refine .andFinally (M := fun _ w => w.self.stopping = true ∧ Settled cfg w)
    (F := fun _ => Settled cfg) ?_ (fun _ => ?_) fun e => ?_
  · refine .bind (Calm.ask rfl).steady fun now => .bind (Calm.orRaise _ _).steady fun nextFull => ?_
    exact (onlineLoopBase_steady fuel nextFull).post fun _ _ _ h => ⟨h.1, h.2.settled⟩
  · have hstopping : Indifferent fun w => Settled cfg w := .settled
    have hfirm : Firm fun w => w.self.stopping = true ∧ Settled cfg w :=
      Firm.stopping.and Firm.settled
    refine .bind (routed_view hfirm) fun now => ?_
    refine routed_ask ((Firm.saw now).and hfirm) (fun w hw h => h.1.plain hw) ?_
    rintro c w _ ⟨hsaw, hstop, h⟩
    refine ⟨hstop, hstopping.transport w _ ?_ h⟩
    rw [hsaw.transport]
    rfl
  · refine .bind (routed_view Firm.settled) fun now => ?_
    exact routed_reassign .settled now _ rfl rfl

/-! ## A new generation -/

/-- Between two generations, with nothing charged. -/
structure Resting (cfg : Config) (w : World) : Prop where
  generation : w.self.generation = none
  failure : w.self.transport.failure = false
  failureName : w.self.transport.failureName = ""
  verification : w.self.transport.verificationTransport = ""
  environ : w.self.transport.environ = w.self.transport.active
  none : mountedRoute cfg w.routes = none

/-- In addition no helper is blocked. -/
structure Idle (cfg : Config) (w : World) : Prop extends Resting cfg w where
  children : w.self.helperChildren = []

theorem Resting.settled (h : Resting cfg w) : Settled cfg w := by
  refine ⟨h.environ, ?_, ?_, fun _ => h.none⟩
  · intro hfailure
    exact absurd (h.failure.symm.trans hfailure) (by decide)
  · intro r hr
    exact absurd (h.none.symm.trans hr) (by simp)

theorem Indifferent.resting : Indifferent (Resting cfg) where
  ashore w w' ha h := by
    refine ⟨ha.generation.trans h.generation, ?_, ?_, ?_, ?_, ?_⟩
    · rw [ha.transport, h.failure]
    · rw [ha.transport, h.failureName]
    · rw [ha.transport, h.verification]
    · rw [ha.transport, h.environ]
    · rw [mountedRoute_ashore ha, h.none]
  transport w t ht h := by
    obtain ⟨henviron, hactive, hfailure, hname, hverification⟩ : t.environ = w.self.transport.environ ∧
        t.active = w.self.transport.active ∧ t.failure = w.self.transport.failure ∧
        t.failureName = w.self.transport.failureName ∧
        t.verificationTransport = w.self.transport.verificationTransport := by
      simpa [Transport.bearing] using ht
    exact ⟨h.generation, hfailure.trans h.failure, hname.trans h.failureName,
      hverification.trans h.verification, henviron.trans (h.environ.trans hactive.symm), h.none⟩

theorem Indifferent.idle : Indifferent (Idle cfg) where
  ashore w w' ha h := ⟨Indifferent.resting.ashore w w' ha h.toResting, ha.children.trans h.children⟩
  transport w t ht h := ⟨Indifferent.resting.transport w t ht h.toResting, h.children⟩

/-- Reaping keeps what does not speak about the list of helpers. -/
theorem reapHelperChildren_routed {P : World → Prop} (hP : Indifferent P)
    (hchildren : ∀ w hs, P w → P { w with self := { w.self with helperChildren := hs } }) :
    Routed cfg P reapHelperChildren (fun _ => P) fun _ => P := by
  refine .of_issues (K := fun r => r.ashore = true ∨ ∃ hs, r = .assign (.helperChildren hs))
    (fun w w' _ _ hm h => hP.firm w w' hm h) ?_
    (reapHelperChildren_issues (.inl rfl) (fun _ => .inl rfl) fun hs => .inr ⟨hs, rfl⟩)
  rintro r w (hr | ⟨hs, rfl⟩) _ h
  · exact ⟨routePermit_of_ashore hr w, fun c => hP.ashore w _ (ashore_exec hr c w) h⟩
  · exact ⟨trivial, fun c => hchildren w hs h⟩

theorem Calm.idles {α : Type} {p : GuardProg α} (hp : Calm cfg p) :
    Routed cfg (Idle cfg) p (fun _ => Idle cfg) fun _ => Settled cfg :=
  (hp _ .idle).mono (fun _ _ h => h) (fun _ _ _ h => h) fun _ _ _ h => h.settled

/-- The variable and the selected transport are set together. -/
theorem chooseTransport_idles :
    Routed cfg (Idle cfg) (chooseTransport cfg) (fun _ => Idle cfg) fun _ => Settled cfg := by
  have hselect : ∀ {E : GuardExc → World → Prop} (s : Self) (t : Transport),
      t.failure = s.transport.failure → t.failureName = s.transport.failureName →
      t.verificationTransport = s.transport.verificationTransport → t.environ = t.active →
      t.controlledDetached = s.transport.controlledDetached →
        Routed cfg (fun w => Saw s w ∧ Idle cfg w) (assign (.transport t)) (fun _ => Idle cfg) E := by
    intro E s t hfailure hname hverification henviron hplain
    refine routed_ask ((Firm.saw s).and Indifferent.idle.firm)
      (fun w hw h => hplain.trans (h.1.plain hw)) ?_
    rintro c w _ ⟨hsaw, h⟩
    rw [← hsaw.transport] at hfailure hname hverification
    exact ⟨⟨h.generation, hfailure.trans h.failure, hname.trans h.failureName,
      hverification.trans h.verification, henviron, h.none⟩, h.children⟩
  unfold chooseTransport
  split
  · refine .bind (routed_view Indifferent.idle.firm) fun s => ?_
    exact hselect s _ rfl rfl rfl rfl rfl
  · refine .bind (Calm.ask rfl).idles fun _ => .bind (Calm.ask rfl).idles fun answer => ?_
    refine .bind (Calm.orRaise _ _).idles fun name => ?_
    refine .bind (routed_view Indifferent.idle.firm) fun s => ?_
    refine .bind (hselect s _ rfl rfl rfl rfl rfl) fun _ => ?_
    refine .bind ((Calm.ask rfl).ite (Calm.ret _)).idles fun required => ?_
    refine .bind (Calm.orRaise _ _).idles fun required => ?_
    refine .bind (routed_view Indifferent.idle.firm) fun s => ?_
    exact routed_reassign .idle s _ rfl rfl

theorem createGeneration_calm : Calm cfg createGeneration := by
  refine (Calm.ask rfl).bind fun answer => (Calm.orRaise _ _).bind fun g => ?_
  refine (Calm.must (Calm.ask rfl)).bind fun _ => Calm.bind ?_ fun _ => Calm.ret _
  refine (Calm.must (Calm.ask rfl)).bind fun _ => (Calm.ask rfl).bind fun configured => ?_
  refine Calm.bind (Calm.when ?_) fun _ => Calm.must (Calm.ask rfl)
  refine Calm.bind (Calm.issues ?_) fun _ => (Calm.ask rfl).bind fun _ => Calm.raise _
  exact Prog.Issues.mono (fun _ hr => (Bool.and_eq_true_iff.1 hr).1) (fence_aside g true)

theorem recordFailedCreation_calm : Calm cfg recordFailedCreation := by
  refine (Calm.ask rfl).bind fun s => Calm.when ?_
  refine (Calm.must (Calm.ask rfl)).bind fun _ => ?_
  exact (Calm.must (Calm.ask rfl)).bind fun _ => Calm.ask rfl

/-- A generation in service with nothing mounted. -/
def Unmounted (cfg : Config) (g : Nat) (act : String) (w : World) : Prop :=
  Tracking cfg g "" act w ∧ mountedRoute cfg w.routes = none

theorem Indifferent.unmounted : Indifferent (Unmounted cfg g act) where
  ashore w w' ha h := ⟨Indifferent.tracking.ashore w w' ha h.1, by rw [mountedRoute_ashore ha, h.2]⟩
  transport w t ht h := ⟨Indifferent.tracking.transport w t ht h.1, h.2⟩

theorem Calm.unmounted {α : Type} {p : GuardProg α} (hp : Calm cfg p) :
    Routed cfg (fun w => ∃ g act, Unmounted cfg g act w) p
      (fun _ w => ∃ g act, Unmounted cfg g act w) fun _ => Settled cfg :=
  .exists_pre fun g => .exists_pre fun act => (hp _ .unmounted).mono (fun _ _ h => h)
    (fun _ _ _ h => ⟨g, act, h⟩) fun _ _ _ h => h.1.settled

theorem beginGenerationBase_tracks :
    Routed cfg (Idle cfg) beginGenerationBase (fun _ w => ∃ g act, Unmounted cfg g act w)
      fun _ => Settled cfg := by
  refine .bind ensureNoLingeringProcesses_calm.idles fun _ => ?_
  refine .bind (M := fun s w => s.generation = none ∧ Idle cfg w)
    ((routed_view Indifferent.idle.firm).post fun s w _ h => ⟨?_, h.2⟩) fun s =>
    .assume fun hnone => ?_
  · rw [← h.2.generation, h.1.self]
  refine .bind (M := fun _ => Idle cfg) (.when (fun hsome => ?_) fun _ _ _ h => h) fun _ => ?_
  · exact absurd hsome (by simp [hnone])
  refine .bind (Calm.ask rfl).idles fun _ => ?_
  refine .bind (Calm.tryExcept createGeneration_calm fun e =>
    recordFailedCreation_calm.bind fun _ => Calm.raise e).idles fun g => ?_
  refine .bind (M := fun _ w => ∃ g act, Unmounted cfg g act w) (routed_ask Indifferent.idle.firm
    (fun _ _ _ => trivial) fun c w _ h => ⟨g, w.self.transport.active, ?_, rfl⟩) fun _ => ?_
  · refine ⟨⟨rfl, h.failure, h.failureName, h.verification, rfl, h.environ, ?_⟩, h.children⟩
    exact fun r hr => absurd hr (by simp [guardExec, Assignment.routeEvents, mountedRoute])
  exact .bind (Calm.must (Calm.ask rfl)).unmounted fun _ => (Calm.ask rfl).unmounted

/-- There is no generation. -/
def Ended (cfg : Config) (w : World) : Prop :=
  Settled cfg w ∧ w.self.generation = none

theorem Indifferent.ended : Indifferent (Ended cfg) where
  ashore w w' ha h := ⟨Indifferent.settled.ashore w w' ha h.1, ha.generation.trans h.2⟩
  transport w t ht h := ⟨Indifferent.settled.transport w t ht h.1, h.2⟩

theorem Calm.ends {α : Type} {p : GuardProg α} (hp : Calm cfg p) :
    Routed cfg (Ended cfg) p (fun _ => Ended cfg) fun _ => Settled cfg :=
  (hp _ .ended).mono (fun _ _ h => h) (fun _ _ _ h => h) fun _ _ _ h => h.1

theorem beginGeneration_tracks :
    Routed cfg (Ended cfg) (beginGeneration cfg) (fun _ w => ∃ g act, Unmounted cfg g act w)
      fun _ => Settled cfg := by
  have hfirm : Firm (Ended cfg) := Indifferent.ended.firm
  have hrests : ∀ {p : GuardProg Unit}, Calm cfg p →
      Routed cfg (Resting cfg) p (fun _ => Resting cfg) fun _ => Settled cfg := fun hp =>
    (hp _ .resting).mono (fun _ _ h => h) (fun _ _ _ h => h) fun _ _ _ h => h.settled
  refine .bind (routed_view hfirm) fun s => ?_
  refine .bind (M := fun _ => Resting cfg) (routed_ask ((Firm.saw s).and hfirm) (fun _ _ _ => rfl) ?_)
    fun _ => ?_
  · rintro c w _ ⟨hsaw, h, hnone⟩
    have henviron := h.environ
    rw [hsaw.transport] at henviron
    exact ⟨hnone, rfl, rfl, rfl, henviron, h.knows.gone hnone⟩
  refine .bind (hrests ensureNoLingeringProcesses_calm) fun _ => ?_
  refine .bind ((reapHelperChildren_routed .resting fun w hs h => ⟨h.generation, h.failure,
    h.failureName, h.verification, h.environ, h.none⟩).mono (fun _ _ h => h) (fun _ _ _ h => h)
    fun _ _ _ h => h.settled) fun _ => ?_
  refine .bind (routed_view Indifferent.resting.firm) fun s => ?_
  refine .bind (M := fun _ => Idle cfg) (.raiseIf (fun _ _ _ h => h.2.settled) fun hnone w _ h => ?_)
    fun _ => ?_
  · refine ⟨h.2, ?_⟩
    rw [h.1.self]
    exact Classical.not_not.1 hnone
  refine .bind chooseTransport_idles fun _ => .bind beginGenerationBase_tracks fun _ => ?_
  exact publishTransport_calm.unmounted

/-- One generation, from its creation to its end. -/
theorem serve_routed (fuel : Nat) :
    Routed cfg (Ended cfg) (serve cfg fuel) (fun _ w => w.self.stopping = true ∧ Settled cfg w)
      fun _ => Settled cfg := by
  refine .bind (Calm.must (Calm.ask rfl)).ends fun _ => ?_
  refine .bind beginGeneration_tracks fun _ => .bind (Calm.ask rfl).unmounted fun _ => ?_
  refine .exists_pre fun g => .exists_pre fun act => ?_
  refine .bind mountAndEnrollTargets_tracks fun _ => .bind (Calm.ask rfl).steady fun _ => ?_
  refine .bind (probeTargets_steady true) fun _ => ?_
  have hoffline : Calm cfg prepareIndexRepairOffline := by
    refine (Calm.ask rfl).bind fun _ => ?_
    exact (Calm.ask rfl).bind fun answer => repairCall_calm answer
  refine .bind hoffline.steady fun _ => ?_
  refine .bind (startSeaweedWithIndexRecovery_calm fuel).steady fun _ => ?_
  refine .bind (stabilizeRecovery_steady fuel) fun _ => ?_
  exact .bind (Calm.ask rfl).steady fun _ => onlineLoop_steady fuel

end StorageNode.Guardian
