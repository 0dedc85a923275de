import StorageNode.Guardian.RouteService
import StorageNode.Guardian.RunSafety

/-!
# Routes in whole runs

One generation after another keeps to `routeDiscipline` (`run_routed`). The results about whole runs: a
clean shutdown is recorded only after a drain that detached every managed target
(`clean_shutdown_iff`); a transport is recorded as failed only after a helper call on it
(`failure_attributed`); and the data target is detached on the route that is mounted
(`detach_follows_mount`). Each has runs in which the source breaks it; the statements say in which runs
it does not.
-/

set_option autoImplicit false

namespace StorageNode.Guardian

open StorageNode.Program GuardProg

variable {cfg : Config} {w : World}

/-! ## All generations -/

/-- After retirement there is no generation, and nothing is mounted. -/
theorem retireGeneration_settles :
    Routed cfg (Settled cfg) retireGeneration (fun _ => Ended cfg) fun _ => Settled cfg := by
  refine .bind (routed_view Firm.settled) fun s => ?_
  cases hs : s.generation with
  | none =>
      refine .ret fun w _ h => ⟨h.2, ?_⟩
      rw [h.1.self]
      exact hs
  | some g =>
      have hretire : Calm cfg (tryExcept (retire g) fun _ => do
          assign .fatalFenceFailure
          stopKeeper g
          setHealth .fenceFailed false) := by
        refine Calm.tryExcept ?_ fun e => ?_
        · refine Calm.bind (Calm.issues ?_) fun _ => Calm.must (Calm.ask rfl)
          refine Prog.Issues.andFinally ?_ ((Prog.issues_ask _).2 rfl)
          exact Prog.Issues.mono (fun _ hr => (Bool.and_eq_true_iff.1 hr).1) (fence_aside g false)
        · exact (Calm.ask rfl).bind fun _ => (Calm.ask rfl).bind fun _ => Calm.ask rfl
      -- the generation is given up whichever way the retirement ends
      have hdetach : Routed cfg (Settled cfg) (assign (.generation none)) (fun _ => Ended cfg)
          fun _ => Settled cfg := by
        refine routed_ask Firm.settled (fun _ _ _ => trivial) fun c w _ h => ⟨⟨h.environ, ?_⟩, rfl⟩
        refine ⟨fun hf => (h.knows.blame hf).cons rfl, fun r hr => ?_, fun _ => rfl⟩
        exact absurd hr (by simp [guardExec, Assignment.routeEvents, mountedRoute])
      refine .andFinally (M := fun _ => Settled cfg) (F := fun _ => Settled cfg)
        ((hretire _ .settled).pre fun _ _ h => h.2) (fun _ => hdetach) fun _ => ?_
      exact hdetach.post fun _ _ _ h => h.1

theorem waitForBlockedCleanup_ended : ∀ fuel : Nat,
    Routed cfg (Ended cfg) (waitForBlockedCleanup cfg fuel) (fun _ => Ended cfg)
      fun _ => Settled cfg := by
  have hreap : Routed cfg (Ended cfg) reapHelperChildren (fun _ => Ended cfg) fun _ => Settled cfg :=
    (reapHelperChildren_routed .ended fun w hs h => ⟨⟨h.1.environ, h.1.knows.same rfl rfl⟩, h.2⟩).mono
      (fun _ _ h => h) (fun _ _ _ h => h) fun _ _ _ h => h.1
  intro fuel
  induction fuel with
  | zero => exact .raise fun _ _ h => h.1
  | succ fuel ih =>
      refine .bind (Calm.ask rfl).ends fun s => .when (fun _ => ?_) fun _ _ _ h => h
      refine .bind (Calm.ask rfl).ends fun s => ?_
      refine .bind (Calm.issues (aliveProcesses_issues (fun _ => rfl) _)).ends fun alive => ?_
      refine .bind hreap fun _ => .bind (Calm.ask rfl).ends fun s => ?_
      refine .bind (Calm.issues (aliveHelpers_issues (fun _ => rfl) _)).ends fun helpers => ?_
      refine .when (fun _ => ?_) fun _ _ _ h => h
      refine .bind (Calm.ask rfl).ends fun _ => ?_
      exact .bind (interruptibleSleep_calm fuel).ends fun _ => ih

/-- When recovery goes on, there is no generation. -/
theorem recover_settles (fuel : Nat) :
    Routed cfg (Settled cfg) (recover cfg fuel)
      (fun again w => Settled cfg w ∧ (again = true → w.self.generation = none))
      fun _ => Settled cfg := by
  refine .bind (Calm.ask rfl _ .settled) fun _ => ?_
  refine .bind (terminateGeneration_settles false) fun fenced => .ite (fun _ => ?_) fun _ => ?_
  · refine .bind retireGeneration_settles fun _ => .bind (waitForBlockedCleanup_ended fuel) fun _ => ?_
    refine .bind (Calm.ask rfl).ends fun s => .ite (fun _ => ?_) fun _ => ?_
    · exact .ret fun _ _ h => ⟨h.1, fun _ => h.2⟩
    · exact .bind (interruptibleSleep_calm fuel).ends fun _ => .ret fun _ _ h => ⟨h.1, fun _ => h.2⟩
  · refine .bind (Calm.ask rfl _ .settled) fun _ => ?_
    exact .ret fun _ _ h => ⟨h, fun hagain => absurd hagain (by decide)⟩

theorem waitUntilStopped_calm {pause : Nat → GuardProg Unit} (hpause : ∀ fuel, Calm cfg (pause fuel)) :
    ∀ fuel : Nat, Calm cfg (waitUntilStopped pause fuel) := by
  intro fuel
  induction fuel with
  | zero => exact Calm.raise _
  | succ fuel ih =>
      refine (Calm.ask rfl).bind fun s => Calm.when ?_
      exact (hpause fuel).bind fun _ => ih

theorem parkManualIntervention_settles (fuel : Nat) :
    Routed cfg (Settled cfg) (parkManualIntervention .transport cfg fuel) (fun _ => Settled cfg)
      fun _ => Settled cfg := by
  refine .bind (Calm.ask rfl _ .settled) fun _ => ?_
  refine .bind (terminateGeneration_settles false) fun fenced => ?_
  refine .bind ((Calm.ask rfl).when _ .settled) fun _ => ?_
  refine .bind (retireGeneration_settles.post fun _ _ _ h => h.1) fun _ => ?_
  exact waitUntilStopped_calm (fun fuel => interruptibleSleep_calm fuel) fuel _ .settled

theorem shutDown_settles :
    Routed cfg (Settled cfg) (shutDown cfg) (fun _ => Settled cfg) fun _ => Settled cfg := by
  refine .bind (Calm.ask rfl _ .settled) fun _ => ?_
  refine .bind (terminateGeneration_settles true) fun _ => ?_
  exact retireGeneration_settles.post fun _ _ _ h => h.1

/-- The head of the run loop: unless the guardian is told to stop, there is no generation. -/
def Turning (cfg : Config) (w : World) : Prop :=
  Settled cfg w ∧ (w.self.stopping = false → w.self.generation = none)

theorem Firm.turning : Firm (Turning cfg) := by
  refine Firm.settled.and fun w w' hm h hgo => ?_
  rw [hm.self]
  refine h ?_
  cases hs : w.self.stopping with
  | false => rfl
  | true => exact absurd (hgo.symm.trans (hm.stopping hs)) (by decide)

theorem turning_of_stopping (h : w.self.stopping = true ∧ Settled cfg w) : Turning cfg w :=
  ⟨h.2, fun hgo => absurd (hgo.symm.trans h.1) (by decide)⟩

/-- The run loop, by induction on the generations that are left. -/
theorem mainLoop_routed (inner : Nat) : ∀ fuel : Nat,
    Routed cfg (Turning cfg) (mainLoop cfg inner fuel) (fun _ => Settled cfg) fun _ => Settled cfg := by
  intro fuel
  induction fuel with
  | zero => exact .raise fun _ _ h => h.1
  | succ fuel ih =>
      refine .bind (M := fun (stopping : Bool) w => Settled cfg w ∧ (stopping = false →
        w.self.generation = none)) (routed_ask Firm.turning (fun _ _ _ => trivial) fun c w _ h =>
        ⟨Indifferent.settled.ashore w _ (ashore_exec (r := .stopRequested) rfl c w) h.1, h.2⟩)
        fun stopping => .when (fun hgo => ?_) fun _ _ _ h => h.1
      have hgo : stopping = false := by simpa using hgo
      refine .bind (M := fun outcome w => match outcome with
        | .ok _ => w.self.stopping = true ∧ Settled cfg w
        | .error _ => Settled cfg w)
        (.attempt ((serve_routed inner).pre fun w _ h => ⟨h.1, h.2 hgo⟩)) fun outcome => ?_
      cases outcome with
      | ok _ => exact ih.pre fun w _ h => turning_of_stopping h
      | error e =>
          -- an exception after a stop request ends the loop, whatever would come next
          have hordinary : ∀ next : GuardProg Unit,
              Routed cfg (Settled cfg) next (fun _ => Settled cfg) (fun _ => Settled cfg) →
              Routed cfg (Settled cfg) (do
                let stopping ← stopRequested
                Prog.when (!stopping) next) (fun _ => Settled cfg) fun _ => Settled cfg := by
            intro next hnext
            refine .bind (Calm.ask rfl _ .settled) fun stopping => ?_
            exact .when (fun _ => hnext) fun _ _ _ h => h
          -- an ordinary exception: recovery, and the next generation if there is to be one
          have hrecover : Routed cfg (Settled cfg) (do
              let again ← recover cfg inner
              Prog.when again (mainLoop cfg inner fuel)) (fun _ => Settled cfg)
              fun _ => Settled cfg := by
            refine .bind (recover_settles inner) fun again => .when (fun hagain => ?_) fun _ _ _ h => h.1
            exact ih.pre fun w _ h => ⟨h.1, fun _ => h.2 hagain⟩
          cases e with
          | cutOff => exact .raise fun _ _ h => h
          | keyboardInterrupt =>
              refine .bind (M := fun _ w => w.self.stopping = true ∧ Settled cfg w) (routed_ask
                Firm.settled (fun _ _ _ => trivial) fun c w _ h => ⟨rfl, ?_⟩) fun _ => ?_
              · exact h.unmoored (ashore_exec (r := .assign .stopping) rfl c w).unmoored
              · exact ih.pre fun w _ h => turning_of_stopping h
          | manualIntervention => exact hordinary _ (parkManualIntervention_settles inner)
          | _ => exact hordinary _ hrecover

theorem Initial.ended (h : Initial w) : Ended cfg w := by
  have hroutes : mountedRoute cfg w.routes = none := by
    rw [h.routes]
    rfl
  refine ⟨⟨by rw [h.self], ?_, fun r hr => ?_, fun _ => hroutes⟩, by rw [h.self]⟩
  · intro hf
    rw [h.self] at hf
    exact absurd hf (by simp)
  · exact absurd (hroutes.symm.trans hr) (by simp)

/-- `run`. -/
theorem run_routed (inner fuel : Nat) :
    Routed cfg (Ended cfg) (run cfg inner fuel) (fun _ _ => True) fun _ _ => True := by
  have hbefore : ∀ {p : GuardProg Unit}, Calm cfg p →
      Routed cfg (Ended cfg) p (fun _ => Ended cfg) fun _ _ => True := fun hp =>
    hp.ends.mono (fun _ _ h => h) (fun _ _ _ h => h) fun _ _ _ _ => trivial
  refine .bind (hbefore (Calm.must (Calm.ask rfl))) fun _ => .bind (hbefore (Calm.ask rfl)) fun _ => ?_
  refine .bind (hbefore (Calm.must (Calm.ask rfl))) fun _ => ?_
  refine .bind (M := fun _ => Settled cfg) ((mainLoop_routed inner fuel).mono (fun _ _ h => ?_)
    (fun _ _ _ h => h) fun _ _ _ _ => trivial) fun _ => ?_
  · exact ⟨h.1, fun _ => h.2⟩
  · exact shutDown_settles.mono (fun _ _ h => h) (fun _ _ _ _ => trivial) fun _ _ _ _ => trivial

variable {inner fuel : Nat} {x : Running GuardReq GuardReq.Ans GuardExc World}

theorem guardian_routed (inner fuel : Nat) :
    (guardian cfg inner fuel).Follows (routeDiscipline cfg) fun _ => True where
  meanwhile w w' h hstep := by
    have hm := moved_of_outside hstep
    refine ⟨?_, hm⟩
    show Plain w'
    rw [Plain, hm.ashore.transport]
    exact h
  rest_meanwhile _ _ _ _ _ := trivial
  idle _ _ _ _ h := h.elim
  stop _ _ h := h.elim
  start w p hw _ hp := by
    rw [hp.2]
    exact run_routed inner fuel w hw hp.1.ended

/-- A request of a reachable state keeps to the discipline of routes. -/
theorem routePermitted (h : Initial w) (hx : (guardian cfg inner fuel).Reachable w x) {r : GuardReq}
    (hr : Running.next x = some r) : RoutePermit cfg r x.state := by
  obtain ⟨p, hp, hnext⟩ := Option.bind_eq_some_iff.1 hr
  obtain ⟨k, rfl⟩ := Prog.eq_call_of_next hnext
  have hplain : Plain w := by
    rw [Plain, h.self]
  exact ((guardian_routed inner fuel).reachable hplain trivial hx).permitted hp

/-! ## Clean shutdowns -/

/-- In every reachable state in which a transport is about to be recorded as failed: if every helper of
the data target in this generation was started, one of them failed or timed out on that transport after
the last stabilization. -/
theorem failure_attributed (h : Initial w) (hx : (guardian cfg inner fuel).Reachable w x) {name : String}
    (hr : Running.next x = some (.recordFailure name)) (hstarted : ¬ Unstarted cfg x.state.routes) :
    Failing cfg name x.state.routes := by
  have hblame : Blame cfg name x.state.routes := routePermitted h hx hr
  exact hblame.resolve_right hstarted

/-- A target with two transports, which are verified on startup. -/
def twoRoutes : Config where
  activeTargets := [⟨"data", false⟩]
  failover := some
    { target := "data", orderedNames := ["lan", "wan"], verifyAllTransportsOnStartup := true,
      named := by decide }
  volumeHealthEnabled := true
  autoIndexRepairEnabled := true
  s3CanaryEnabled := false
  recoveryStabilitySeconds := 0
  recoverySuccessesRequired := 1
  recoveryProbeIntervalSeconds := 1
  allReadonlyWaitSeconds := 0
  startupTimeoutSeconds := 1
  fullProbeIntervalSeconds := 1

/-- The transport `lan` is selected. -/
def selects : List GuardChoice :=
  List.replicate 14 { names := some ["lan"] }

/-- The first mount of a generation ends in some way, and the generation is fenced. -/
def firstMount (answer : HelperAnswer) : List GuardChoice :=
  selects ++ List.replicate 28 success ++ { helper := answer } :: List.replicate 31 success

theorem failure_attributed_to_mount :
    Failing twoRoutes "lan" (runState twoRoutes 3 2 (firstMount .failed)).state.routes := by
  refine failure_attributed initial_default (runState_reachable _ _ _ _) rfl ?_
  unfold Unstarted
  decide +kernel

/-- A worker namespace is gone, and the transport is recorded as failed. -/
theorem dead_namespace_recorded_as_failure :
    ¬ ∀ (cfg : Config) (inner fuel : Nat) (w : World)
        (x : Running GuardReq GuardReq.Ans GuardExc World) (name : String), Initial w →
      (guardian cfg inner fuel).Reachable w x → Running.next x = some (.recordFailure name) →
        Failing cfg name x.state.routes := by
  intro hall
  have hfailing := hall twoRoutes 3 2 {} (runState twoRoutes 3 2 (firstMount .unavailable)) "lan"
    initial_default (runState_reachable _ _ _ _) rfl
  unfold Failing at hfailing
  exact absurd hfailing (by decide +kernel)

/-! ## Detaching what is mounted -/

/-- The data target is detached, and its SSHFS process stopped, on the route that was mounted last and
not detached since. -/
def DetachesMounted (cfg : Config) (r : GuardReq) (w : World) : Prop :=
  ∀ route, mountedRoute cfg w.routes = some route →
    match r with
    | .helper .unmount target _ => cfg.isData target = true → w.self.transport.environ = route
    | .cleanUpSshfs name => name = route
    | _ => True

/-- In every reachable state: if no detach of a verified route other than the selected one failed in
this generation, the next request detaches what is mounted. -/
theorem detach_follows_mount (h : Initial w) (hx : (guardian cfg inner fuel).Reachable w x) {r : GuardReq}
    (hr : Running.next x = some r)
    (hdetached : ¬ Stranded cfg x.state.self.transport.active x.state.routes) :
    DetachesMounted cfg r x.state := by
  intro route hmounted
  have hpermit := routePermitted h hx hr
  -- only an unmount of the data target and the clean-up of a route name a route
  cases r with
  | helper op target full =>
      cases op with
      | unmount => exact fun hdata => ((hpermit hdata route hmounted).resolve_right hdetached).symm
      | _ => trivial
  | cleanUpSshfs name => exact ((hpermit route hmounted).resolve_right hdetached).symm
  | _ => trivial

/-- A probe that succeeded. -/
def RouteEvent.probed : RouteEvent → Bool
  | .helper _ .probe _ _ .ok => true
  | _ => false

/-- Before any probe succeeds no verified route is left behind. -/
theorem not_stranded_of_unprobed {active : String} {routes : List RouteEvent}
    (h : ∀ e ∈ routes, e.probed = false) : ¬ Stranded cfg active routes := by
  rintro ⟨newer, g, target, route, answer, older, rfl, -⟩
  have hprobe := h (.helper g .probe target route .ok) (by simp [undetached])
  exact absurd hprobe (by simp [RouteEvent.probed])

/-- The first mount fails, and so does the detach after it. -/
def neitherMountedNorDetached : List GuardChoice :=
  selects ++ List.replicate 28 success ++ { helper := .failed } :: List.replicate 5 success ++
    { helper := .failed } :: List.replicate 23 success

theorem detach_follows_failed_mount :
    mountedRoute twoRoutes (runState twoRoutes 3 2 neitherMountedNorDetached).state.routes = some "lan" ∧
      DetachesMounted twoRoutes (.cleanUpSshfs "lan")
        (runState twoRoutes 3 2 neitherMountedNorDetached).state := by
  refine ⟨by decide +kernel, ?_⟩
  refine detach_follows_mount initial_default (runState_reachable _ _ _ _) rfl ?_
  refine not_stranded_of_unprobed ?_
  decide +kernel

/-- The second route is verified, and its detach fails. -/
def secondDetachFails : List GuardChoice :=
  selects ++ List.replicate 61 success ++ { helper := .failed } :: List.replicate 23 success

theorem stranded_route_not_detached :
    ¬ ∀ (cfg : Config) (inner fuel : Nat) (w : World)
        (x : Running GuardReq GuardReq.Ans GuardExc World) (r : GuardReq), Initial w →
      (guardian cfg inner fuel).Reachable w x → Running.next x = some r →
        DetachesMounted cfg r x.state := by
  intro hall
  have hdetaches := hall twoRoutes 3 2 {} (runState twoRoutes 3 2 secondDetachFails) (.cleanUpSshfs "lan")
    initial_default (runState_reachable _ _ _ _) rfl
  have hmounted : mountedRoute twoRoutes (runState twoRoutes 3 2 secondDetachFails).state.routes =
      some "wan" := by decide +kernel
  exact absurd (hdetaches "wan" hmounted) (by decide)

end StorageNode.Guardian
