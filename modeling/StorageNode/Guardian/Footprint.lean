import StorageNode.Guardian.Programs
import StorageNode.Program.Safety

/-!
# The requests of a termination

`stops` has the requests that stop SeaweedFS, `detaches` those that detach storage, and `ends` adds
those that fence and retire a generation. The programs of a termination issue no others, whatever the
answers are. Frame conditions of a termination follow from its alphabet.
-/

set_option autoImplicit false

namespace StorageNode.Guardian

open StorageNode.Program GuardProg

/-- Requests that stop processes. -/
def GuardReq.stops : GuardReq → Bool
  | .view => true
  | .assign (.processes _) => true
  | .assign (.lingeringProcesses _) => true
  | .setHealth .draining false => true
  | .stopUntil _ => true
  | .running _ => true
  | _ => false

/-- Requests that detach targets and look at what still runs. -/
def GuardReq.detaches : GuardReq → Bool
  | .view => true
  | .assign (.helperChildren _) => true
  | .assign (.transport _) => true
  | .setHealth .recovering false => true
  | .expired => true
  | .running _ => true
  | .helperRunning _ => true
  | .helper .unmount _ _ => true
  | .updateTransports => true
  | .recordFailure _ => true
  | .cleanUpSshfs _ => true
  | _ => false

/-- Requests that end a generation. -/
def GuardReq.ends : GuardReq → Bool
  | .assign .fatalFenceFailure => true
  | .assign (.generation none) => true
  | .setHealth .fencing false => true
  | .setHealth .fenceFailed false => true
  | .generationFenced _ => true
  | .deleteLink _ false => true
  | .markFenced _ => true
  | .persistGeneration _ => true
  | .stopKeeper _ => true
  | .historyFinish _ => true
  | .publishHistory => true
  | r => r.stops || r.detaches

theorem GuardReq.ends_of_stops : ∀ r : GuardReq, r.stops = true → r.ends = true := by
  intro r hr
  unfold ends
  split
  all_goals first | rfl | simp [hr]

theorem GuardReq.ends_of_detaches : ∀ r : GuardReq, r.detaches = true → r.ends = true := by
  intro r hr
  unfold ends
  split
  all_goals first | rfl | simp [hr]

/-- A program that only stops processes. -/
abbrev Stops {α : Type} (p : GuardProg α) : Prop := p.Issues fun r => r.stops = true

/-- A program that only detaches targets. -/
abbrev Detaches {α : Type} (p : GuardProg α) : Prop := p.Issues fun r => r.detaches = true

/-- A program that only ends a generation. -/
abbrev Ends {α : Type} (p : GuardProg α) : Prop := p.Issues fun r => r.ends = true

theorem Stops.ends {α : Type} {p : GuardProg α} (h : Stops p) : Ends p :=
  Prog.Issues.mono GuardReq.ends_of_stops h

theorem Detaches.ends {α : Type} {p : GuardProg α} (h : Detaches p) : Ends p :=
  Prog.Issues.mono GuardReq.ends_of_detaches h

section

variable {K : GuardReq → Prop} {α : Type}

theorem issues_must {p : GuardProg Bool} (e : GuardExc) (h : p.Issues K) : (must e p).Issues K :=
  h.bind fun _ => Prog.issues_raiseIf _ _

theorem issues_tryExcept {p : GuardProg α} {h : GuardExc → GuardProg α} (hp : p.Issues K)
    (hh : ∀ e, (h e).Issues K) : (tryExcept p h).Issues K := by
  refine hp.catchWith fun e => ?_
  split
  · exact hh e
  · exact Prog.issues_raise e

end

/-! ## Processes and helpers -/

theorem aliveProcesses_issues {K : GuardReq → Prop} (hK : ∀ p, K (.running p)) :
    ∀ ps : List Proc, (aliveProcesses ps).Issues K := by
  intro ps
  induction ps with
  | nil => exact Prog.issues_ret _
  | cons p ps ih =>
      refine Prog.Issues.bind ((Prog.issues_ask _).2 (hK p)) fun alive => ?_
      exact ih.bind fun _ => Prog.issues_ret _

theorem ensureNoLingeringProcesses_stops : Stops ensureNoLingeringProcesses := by
  refine Prog.Issues.bind ((Prog.issues_ask _).2 rfl) fun self => ?_
  refine (aliveProcesses_issues (fun _ => rfl) _).bind fun alive => ?_
  exact Prog.Issues.bind ((Prog.issues_ask _).2 rfl) fun _ => Prog.issues_raiseIf _ _

theorem aliveHelpers_issues {K : GuardReq → Prop} (hK : ∀ h, K (.helperRunning h)) :
    ∀ hs : List Nat, (aliveHelpers hs).Issues K := by
  intro hs
  induction hs with
  | nil => exact Prog.issues_ret _
  | cons h hs ih =>
      refine Prog.Issues.bind ((Prog.issues_ask _).2 (hK h)) fun alive => ?_
      exact ih.bind fun _ => Prog.issues_ret _

theorem reapHelperChildren_issues {K : GuardReq → Prop} (hview : K .view)
    (hrunning : ∀ h, K (.helperRunning h)) (hchildren : ∀ hs, K (.assign (.helperChildren hs))) :
    reapHelperChildren.Issues K := by
  refine Prog.Issues.bind ((Prog.issues_ask _).2 hview) fun self => ?_
  exact (aliveHelpers_issues hrunning _).bind fun alive => (Prog.issues_ask _).2 (hchildren alive)

theorem reapHelperChildren_detaches : Detaches reapHelperChildren :=
  reapHelperChildren_issues rfl (fun _ => rfl) fun _ => rfl

theorem runHelperBase_detaches (target : Option Target) (full : Bool) :
    Detaches (runHelperBase .unmount target full) := by
  refine reapHelperChildren_detaches.bind fun _ => ?_
  refine Prog.Issues.bind ((Prog.issues_ask _).2 rfl) fun self => ?_
  refine Prog.Issues.bind (Prog.issues_raiseIf _ _) fun _ => ?_
  refine Prog.Issues.bind ((Prog.issues_ask _).2 rfl) fun answer => ?_
  cases answer with
  | ok => exact Prog.issues_ret _
  | _ => exact Prog.issues_raise _

theorem runHelper_detaches (cfg : Config) (target : Option Target) (full : Bool) :
    Detaches (runHelper cfg .unmount target full) := by
  refine issues_tryExcept (runHelperBase_detaches target full) fun e => ?_
  refine Prog.Issues.bind (Prog.Issues.when ?_) fun _ => Prog.issues_raise e
  exact Prog.Issues.bind ((Prog.issues_ask _).2 rfl) fun self => (Prog.issues_ask _).2 rfl

theorem addLingering_stops (p : Proc) : Stops (addLingering p) := by
  refine Prog.Issues.bind ((Prog.issues_ask _).2 rfl) fun self => ?_
  exact Prog.Issues.when ((Prog.issues_ask _).2 rfl)

theorem stopEach_stops : ∀ (ps : List Proc) (allStopped : Bool), Stops (stopEach ps allStopped) := by
  intro ps
  induction ps with
  | nil => exact fun _ => Prog.issues_ret _
  | cons p ps ih =>
      intro allStopped
      refine Prog.Issues.bind ((Prog.issues_ask _).2 rfl) fun answer => ?_
      cases answer with
      | stopped => exact ih allStopped
      | stuck => exact (addLingering_stops p).bind fun _ => ih false
      | raised =>
          refine Prog.Issues.bind ((Prog.issues_ask _).2 rfl) fun alive => ?_
          exact Prog.Issues.bind (addLingering_stops p).when fun _ => ih false

theorem stopSeaweed_stops : Stops stopSeaweed := by
  refine Prog.Issues.bind ((Prog.issues_ask _).2 rfl) fun _ => ?_
  refine Prog.Issues.bind ((Prog.issues_ask _).2 rfl) fun self => ?_
  refine (stopEach_stops _ _).bind fun _ => ?_
  exact Prog.Issues.bind ((Prog.issues_ask _).2 rfl) fun _ => Prog.issues_ret _

theorem detachEach_detaches {unmount : Target → GuardProg Unit} (h : ∀ t, Detaches (unmount t))
    (unmountAll timed : Bool) : ∀ (targets : List Target) (detached : Bool),
      Detaches (detachEach unmount unmountAll timed targets detached) := by
  intro targets
  induction targets with
  | nil => exact fun _ => Prog.issues_ret _
  | cons target targets ih =>
      intro detached
      unfold detachEach
      split
      · exact ih detached
      · refine Prog.Issues.bind ?_ fun late => ?_
        · split
          · exact (Prog.issues_ask _).2 rfl
          · exact Prog.issues_ret _
        · split
          · exact ih false
          · refine (h target).attempt.bind fun outcome => ?_
            cases outcome with
            | ok _ => exact ih detached
            | error e => exact ih false

theorem repairTargetsBase_detaches (cfg : Config) {unmount : Target → GuardProg Unit}
    (h : ∀ t, Detaches (unmount t)) (unmountAll timed : Bool) :
    Detaches (repairTargetsBase cfg unmount unmountAll timed) :=
  Prog.Issues.bind ((Prog.issues_ask _).2 rfl) fun _ => detachEach_detaches h unmountAll timed _ _

theorem repairTargets_detaches (cfg : Config) (unmountAll timed : Bool) :
    Detaches (repairTargets cfg unmountAll timed) := by
  refine Prog.Issues.bind ((Prog.issues_ask _).2 rfl) fun self => ?_
  dsimp only
  split
  · exact Prog.Issues.bind ((Prog.issues_ask _).2 rfl) fun _ => Prog.issues_ret _
  · refine Prog.Issues.bind (Prog.Issues.when ((Prog.issues_ask _).2 rfl)) fun _ => ?_
    refine Prog.Issues.andFinally (repairTargetsBase_detaches cfg
      (fun t => runHelper_detaches cfg (some t) false) unmountAll timed) ?_
    exact Prog.Issues.bind ((Prog.issues_ask _).2 rfl) fun _ => (Prog.issues_ask _).2 rfl

theorem publishTransport_detaches (cfg : Config) : Detaches (publishTransport cfg) := by
  unfold publishTransport
  split
  · exact Prog.issues_ret _
  · exact issues_must _ ((Prog.issues_ask _).2 rfl)

/-! ## Fencing and retirement -/

theorem fence_ends (g : Nat) : Ends (fence g false) := by
  refine Prog.Issues.bind ((Prog.issues_ask _).2 rfl) fun fenced => Prog.Issues.when ?_
  refine Prog.Issues.bind ((Prog.issues_ask _).2 rfl) fun remains => ?_
  refine Prog.Issues.bind (Prog.issues_raiseIf _ _) fun _ => ?_
  refine Prog.Issues.bind ((Prog.issues_ask _).2 rfl) fun _ => ?_
  exact issues_must _ ((Prog.issues_ask _).2 rfl)

theorem fenceGenerationBase_ends : Ends fenceGenerationBase := by
  refine Prog.Issues.bind ((Prog.issues_ask _).2 rfl) fun self => ?_
  split
  · exact Prog.issues_ret _
  · refine Prog.Issues.bind ((Prog.issues_ask _).2 rfl) fun _ => ?_
    refine issues_tryExcept ((fence_ends _).bind fun _ => Prog.issues_ret _) fun e => ?_
    refine Prog.Issues.bind ((Prog.issues_ask _).2 rfl) fun _ => ?_
    exact Prog.Issues.bind ((Prog.issues_ask _).2 rfl) fun _ => Prog.issues_ret _

theorem fenceGeneration_ends (cfg : Config) : Ends (fenceGeneration cfg) := by
  refine fenceGenerationBase_ends.bind fun fenced => ?_
  refine Prog.Issues.bind ((Prog.issues_ask _).2 rfl) fun self => ?_
  refine Prog.Issues.bind (Prog.Issues.when ((Prog.issues_ask _).2 rfl)) fun _ => ?_
  refine Prog.Issues.bind ((Prog.issues_ask _).2 rfl) fun self => ?_
  refine Prog.Issues.bind (Prog.Issues.when ?_) fun _ => ?_
  · refine Prog.Issues.bind (issues_must _ ?_) fun _ => (publishTransport_detaches cfg).ends
    exact (Prog.issues_ask _).2 rfl
  · exact Prog.Issues.bind (publishTransport_detaches cfg).ends.when fun _ => Prog.issues_ret _

/-- What a termination does after the drain, by the methods that it calls. -/
theorem terminateGenerationBase_ends {repair : Bool → Bool → GuardProg Bool} {fence : GuardProg Bool}
    (hrepair : ∀ unmountAll timed, Detaches (repair unmountAll timed)) (hfence : Ends fence)
    (unmountAll : Bool) : Ends (terminateGenerationBase repair fence unmountAll) := by
  refine Prog.Issues.bind ((Prog.issues_ask _).2 rfl) fun self => ?_
  split
  · refine stopSeaweed_stops.ends.bind fun _ => ?_
    exact (hrepair _ _).ends.bind fun _ => Prog.issues_ret _
  · refine stopSeaweed_stops.ends.bind fun stopped => ?_
    refine Prog.Issues.bind ?_ fun detached => ?_
    · split
      · exact (hrepair _ _).ends
      · exact Prog.issues_ret _
    · refine hfence.bind fun fenced => ?_
      refine Prog.Issues.bind (Prog.Issues.when ?_) fun _ => ?_
      · exact (hrepair _ _).ends.bind fun _ => Prog.issues_ret _
      · refine Prog.Issues.bind (issues_must _ ?_) fun _ => ?_
        · exact (Prog.issues_ask _).2 rfl
        · exact Prog.Issues.bind ((Prog.issues_ask _).2 rfl) fun _ => Prog.issues_ret _

theorem quarantineBlocked_detaches (cfg : Config) (t : Transport) (fenced : Bool) :
    Detaches (quarantineBlocked cfg t fenced) := by
  refine Prog.Issues.bind ((Prog.issues_ask _).2 rfl) fun self => ?_
  refine (aliveProcesses_issues (fun _ => rfl) _).bind fun alive => ?_
  refine Prog.Issues.bind ((Prog.issues_ask _).2 rfl) fun self => ?_
  refine (aliveHelpers_issues (fun _ => rfl) _).bind fun helpers => ?_
  refine Prog.Issues.bind (Prog.Issues.when ?_) fun _ => Prog.issues_ret _
  refine Prog.Issues.bind (issues_must _ ?_) fun _ => publishTransport_detaches cfg
  exact (Prog.issues_ask _).2 rfl

theorem retireGeneration_ends : Ends retireGeneration := by
  refine Prog.Issues.bind ((Prog.issues_ask _).2 rfl) fun self => ?_
  split
  · exact Prog.issues_ret _
  · refine Prog.Issues.andFinally (issues_tryExcept ?_ fun e => ?_) ((Prog.issues_ask _).2 rfl)
    · refine Prog.Issues.bind (Prog.Issues.andFinally (fence_ends _) ((Prog.issues_ask _).2 rfl))
        fun _ => ?_
      exact issues_must _ ((Prog.issues_ask _).2 rfl)
    · refine Prog.Issues.bind ((Prog.issues_ask _).2 rfl) fun _ => ?_
      exact Prog.Issues.bind ((Prog.issues_ask _).2 rfl) fun _ => (Prog.issues_ask _).2 rfl

/-! ## Pauses -/

/-- Requests of a pause. -/
def GuardReq.pauses : GuardReq → Bool
  | .view => true
  | .assign (.transport _) => true
  | .setHealth .suspect false => true
  | .pendingRequest => true
  | .expired => true
  | .sleep => true
  | _ => false

/-- A program that only pauses. -/
abbrev Pauses {α : Type} (p : GuardProg α) : Prop := p.Issues fun r => r.pauses = true

theorem watchRequests_pauses : ∀ fuel : Nat, Pauses (watchRequests fuel) := by
  intro fuel
  induction fuel with
  | zero => exact Prog.issues_raise _
  | succ fuel ih =>
      refine Prog.Issues.bind ((Prog.issues_ask _).2 rfl) fun self => Prog.Issues.when ?_
      refine Prog.Issues.bind ((Prog.issues_ask _).2 rfl) fun poll => ?_
      cases poll with
      | failed => exact Prog.issues_raise _
      | requested name =>
          dsimp only
          split
          · refine Prog.Issues.bind ((Prog.issues_ask _).2 rfl) fun _ => ?_
            exact Prog.Issues.bind ((Prog.issues_ask _).2 rfl) fun _ => Prog.issues_raise _
          · refine Prog.Issues.bind ((Prog.issues_ask _).2 rfl) fun late => Prog.Issues.when ?_
            exact Prog.Issues.bind ((Prog.issues_ask _).2 rfl) fun _ => ih

theorem interruptibleSleep_pauses (self : GuardianClass) (cfg : Config) (fuel : Nat) :
    Pauses (self.interruptibleSleep cfg fuel) := by
  cases self with
  | generation => exact (Prog.issues_ask _).2 rfl
  | transport =>
      refine Prog.Issues.bind ((Prog.issues_ask _).2 rfl) fun self => ?_
      dsimp only
      split
      · exact watchRequests_pauses fuel
      · exact (Prog.issues_ask _).2 rfl

/-- Requests of a parked guardian: pauses between stop checks. -/
def GuardReq.parks : GuardReq → Bool
  | .stopRequested => true
  | r => r.pauses

theorem GuardReq.parks_of_pauses : ∀ r : GuardReq, r.pauses = true → r.parks = true := by
  intro r hr
  unfold parks
  split
  · rfl
  · exact hr

theorem waitUntilStopped_parks {pause : Nat → GuardProg Unit} (h : ∀ fuel, Pauses (pause fuel)) :
    ∀ fuel : Nat, (waitUntilStopped pause fuel).Issues fun r => r.parks = true := by
  intro fuel
  induction fuel with
  | zero => exact Prog.issues_raise _
  | succ fuel ih =>
      refine Prog.Issues.bind ((Prog.issues_ask _).2 rfl) fun stopping => Prog.Issues.when ?_
      exact (Prog.Issues.mono GuardReq.parks_of_pauses (h fuel)).bind fun _ => ih

end StorageNode.Guardian
