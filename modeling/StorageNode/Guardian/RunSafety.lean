import StorageNode.Guardian.Readiness
import StorageNode.Guardian.Parking

/-!
# Safety of whole runs

What `guardian_sound` says about the requests of a run: a single writer at any time
(`single_writer_iff`), readiness only with evidence and never during a stop, detach or fence
(`readiness_proven`), a published permission to delete orphans only with certified indexes
(`orphan_deletion_certified`), and no readiness after a stop request (`never_ready_after_stop`). Three of
them have runs in which the source breaks them; the statements say in which runs it does not.
-/

set_option autoImplicit false

namespace StorageNode.Guardian

open StorageNode.Program GuardProg

variable {cfg : Config} {inner fuel : Nat} {w : World}
  {x : Running GuardReq GuardReq.Ans GuardExc World}

/-- The request that a run issues next. -/
def Running.next (x : Running GuardReq GuardReq.Ans GuardExc World) : Option GuardReq :=
  x.thread.bind Prog.next

/-- A request of a reachable state is permitted. -/
theorem permitted (h : Initial w) (hx : (guardian cfg inner fuel).Reachable w x) {r : GuardReq}
    (hr : Running.next x = some r) : Permit cfg r x.state := by
  obtain ⟨p, hp, hnext⟩ := Option.bind_eq_some_iff.1 hr
  obtain ⟨k, rfl⟩ := Prog.eq_call_of_next hnext
  exact (guardian_sound h hx).permitted hp

/-! ## A single writer -/

/-- What a single writer needs where a request is issued: a SeaweedFS process is started after every
process of an earlier generation has exited, every helper has ended and every earlier generation is
fenced; no generation is created once any fence could not be verified; live index files are touched
while no SeaweedFS process runs. -/
def SingleWriter (r : GuardReq) (w : World) : Prop :=
  match r with
  | .start p => (∀ q ∈ w.running, q.generation = p.generation) ∧ w.helpersRunning = [] ∧
      ∀ g, .created g ∈ w.log → g ≠ p.generation → g ∈ w.fenced
  | .nextGeneration => ∀ g setup, .fenceFailed g setup ∉ w.log
  | .prepareOffline => w.running = []
  | .repairDetected _ => w.running = []
  | .rollbackRejected _ => w.running = []
  | _ => True

/-- Every fence that was attempted while its generation was being set up could be verified. -/
def SetupFencesVerified (log : List Event) : Prop :=
  ∀ g, .fenceFailed g true ∉ log

theorem sound_iff_setup {log : List Event} (h : ¬ FenceFailed log) :
    (∀ g setup, .fenceFailed g setup ∉ log) ↔ SetupFencesVerified log := by
  constructor
  · exact fun hall g => hall g true
  · intro hsetup g setup hmem
    cases setup with
    | true => exact hsetup g hmem
    | false => exact h ⟨g, hmem⟩

/-- In every reachable state the next request keeps to a single writer, except for the creation of a
generation after a fence in the setup of an earlier one could not be verified. -/
theorem single_writer_iff (h : Initial w) (hx : (guardian cfg inner fuel).Reachable w x) {r : GuardReq}
    (hr : Running.next x = some r) :
    SingleWriter r x.state ↔ (r = .nextGeneration → SetupFencesVerified x.state.log) := by
  have hpermit := permitted h hx hr
  cases r with
  | start p =>
      have hstart : Startable p x.state := hpermit
      exact iff_of_true ⟨hstart.alone, hstart.helpers, hstart.fenced⟩ nofun
  -- a new generation asks for no failed fence, except one in the setup of an earlier generation
  | nextGeneration =>
      have hsound : ¬ FenceFailed x.state.log := hpermit.2
      exact (sound_iff_setup hsound).trans ⟨fun hs _ => hs, fun hs => hs rfl⟩
  | prepareOffline => exact iff_of_true hpermit nofun
  | repairDetected status => exact iff_of_true hpermit nofun
  | rollbackRejected ids => exact iff_of_true hpermit nofun
  | _ => exact iff_of_true trivial nofun

theorem initial_default : Initial {} :=
  ⟨rfl, rfl, rfl, rfl, rfl, rfl, by simp⟩

/-- A call that fails at once. -/
def failure : GuardChoice := { ok := false }

/-- The network of the namespace cannot be set up, and its link cannot be removed either. -/
def unverifiedSetup : List GuardChoice :=
  List.replicate 21 success ++ failure :: List.replicate 47 { linkRemains := true }

/-- A run by the choices of the environment. -/
def runState (cfg : Config) (inner fuel : Nat) (cs : List GuardChoice) :
    Running GuardReq GuardReq.Ans GuardExc World :=
  ⟨(run cfg inner fuel).after guardExec cs {}, some ((run cfg inner fuel).rest guardExec cs {})⟩

theorem runState_reachable (cfg : Config) (inner fuel : Nat) (cs : List GuardChoice) :
    (guardian cfg inner fuel).Reachable {} (runState cfg inner fuel cs) :=
  Machine.Reachable.run cs (.single (.start _ _ ⟨initial_default, rfl⟩))

theorem single_writer_at_start :
    SingleWriter (.start ⟨0, 1⟩) (runState oneTarget 3 2 (List.replicate 51 success)).state :=
  (single_writer_iff initial_default (runState_reachable _ _ _ _) rfl).2 nofun

/-- A second generation is created after the fence of the first could not be verified. -/
theorem generation_after_unverified_fence :
    ¬ ∀ (cfg : Config) (inner fuel : Nat) (w : World)
        (x : Running GuardReq GuardReq.Ans GuardExc World) (r : GuardReq), Initial w →
      (guardian cfg inner fuel).Reachable w x → Running.next x = some r → SingleWriter r x.state := by
  intro hall
  have hwriter := hall oneTarget 3 2 {} (runState oneTarget 3 2 unverifiedSetup) .nextGeneration
    initial_default (runState_reachable _ _ _ _) rfl
  exact hwriter 0 true (by decide +kernel)

/-! ## Readiness -/

/-- Requests that stop a process, detach a target or fence a generation. -/
def GuardReq.dismantles : GuardReq → Bool
  | .stopUntil _ => true
  | .helper .unmount _ _ => true
  | .deleteLink _ _ => true
  | .markFenced _ => true
  | _ => false

/-- In every reachable state of a run: a ready guardian has the evidence of its current, unfenced
generation, and the guardian is not ready when a process is stopped, a target detached or a generation
fenced. -/
theorem readiness_proven (h : Initial w) (hx : (guardian cfg inner fuel).Reachable w x) :
    (x.state.health.ready = true → Ready cfg x.state) ∧
      ∀ r, Running.next x = some r → r.dismantles = true → x.state.health.ready = false := by
  constructor
  · exact (guardian_sound h hx).inv.ready
  · intro r hr hdismantles
    have hpermit := permitted h hx hr
    -- what dismantles a ready service comes with a permit that excludes readiness
    cases r with
    | stopUntil p => exact hpermit
    | helper op target full =>
        cases op with
        | unmount => exact hpermit rfl
        | _ => exact absurd hdismantles (by simp [GuardReq.dismantles])
    | deleteLink g setup => exact hpermit
    | markFenced g => exact hpermit.1
    | _ => exact absurd hdismantles (by simp [GuardReq.dismantles])

/-- A status with one writable volume. -/
def healthy : GuardChoice := { status := some ⟨[⟨1, "", false, false⟩]⟩ }

/-- A run that comes online. -/
def comesOnline : List GuardChoice := List.replicate 85 healthy

theorem readiness_proven_online : (runState oneTarget 3 2 comesOnline).state.health.ready = true ∧
    Ready oneTarget (runState oneTarget 3 2 comesOnline).state := by
  have hready : (runState oneTarget 3 2 comesOnline).state.health.ready = true := by decide +kernel
  exact ⟨hready, (readiness_proven initial_default (runState_reachable _ _ _ _)).1 hready⟩

/-! ## Orphan deletion -/

/-- In every reachable state of a run: if no generation so far ended uncleanly while the published
status allowed orphan deletion, then the status allows it only with certified indexes. -/
theorem orphan_deletion_certified (h : Initial w) (hx : (guardian cfg inner fuel).Reachable w x)
    (htidy : Tidy x.state.log) (hsafe : x.state.health.orphanDeletionSafe = true) :
    x.state.health.indexesCertified = true :=
  ((guardian_sound h hx).inv.orphan htidy hsafe).1

theorem orphan_deletion_certified_online :
    (runState oneTarget 3 2 comesOnline).state.health.orphanDeletionSafe = true ∧
      (runState oneTarget 3 2 comesOnline).state.health.indexesCertified = true := by
  have hsafe : (runState oneTarget 3 2 comesOnline).state.health.orphanDeletionSafe = true := by
    decide +kernel
  refine ⟨hsafe, orphan_deletion_certified initial_default (runState_reachable _ _ _ _) ?_ hsafe⟩
  unfold Tidy
  decide +kernel

/-- A run that comes online and is then terminated with processes that do not stop. -/
def terminatedUncleanly : List GuardChoice :=
  List.replicate 89 healthy ++ failure :: List.replicate 40 { stop := .stuck }

theorem orphan_deletion_outlives_certification :
    ¬ ∀ (cfg : Config) (inner fuel : Nat) (w : World)
        (x : Running GuardReq GuardReq.Ans GuardExc World), Initial w →
      (guardian cfg inner fuel).Reachable w x → x.state.health.orphanDeletionSafe = true →
        x.state.health.indexesCertified = true := by
  intro hall
  have hcertified := hall oneTarget 3 2 {} (runState oneTarget 3 2 terminatedUncleanly) initial_default
    (runState_reachable _ _ _ _) (by decide +kernel)
  exact absurd hcertified (by decide +kernel)

/-! ## Stop requests -/

/-- A step in which the guardian makes no stop check. -/
def Unchecked (cfg : Config) (inner fuel : Nat) (x y : Running GuardReq GuardReq.Ans GuardExc World) :
    Prop :=
  (guardian cfg inner fuel).Step x y ∧ (Running.next x = some .stopRequested → y.thread = x.thread)

/-- The last stop check before the publication of readiness has been made: the run may go on to the
publication without another one. -/
def PastLastCheck (cfg : Config) (inner fuel : Nat) (x : Running GuardReq GuardReq.Ans GuardExc World) :
    Prop :=
  ∃ y phase, Relation.ReflTransGen (Unchecked cfg inner fuel) x y ∧
    Running.next y = some (.setHealth phase true)

/-- The guardian is told to stop, and is not ready. -/
structure Withdrawn (w : World) : Prop where
  stopping : w.self.stopping = true
  ready : w.health.ready = false

theorem Withdrawn.of_eq {w' : World} (h : Withdrawn w)
    (hstopping : w'.self.stopping = w.self.stopping) (hready : w'.health.ready = w.health.ready) :
    Withdrawn w' :=
  ⟨hstopping.trans h.stopping, hready.trans h.ready⟩

/-- No request takes a stop request back, and only `health.set` makes the guardian ready. -/
theorem Withdrawn.exec (h : Withdrawn w) {r : GuardReq} (hr : ∀ phase, r ≠ .setHealth phase true)
    (c : GuardChoice) : Withdrawn (guardExec r c w).2 := by
  by_cases hdiscreet : r.discreet = true
  · have hkept := guardExec_discreet hdiscreet c w
    exact h.of_eq (by rw [hkept.self]) hkept.ready
  cases r with
  | assign a =>
      cases a with
      | stopping => exact ⟨rfl, h.ready⟩
      | _ => exact h.of_eq rfl rfl
  | setHealth phase ready =>
      cases ready with
      | true => exact absurd rfl (hr phase)
      | false => exact ⟨h.stopping, rfl⟩
  | helper op target full =>
      simp only [guardExec]
      split
      · exact h
      · cases c.helperAnswer op target <;> exact h.of_eq rfl rfl
  | recordSuccess name => exact h.of_eq rfl rfl
  | _ => exact absurd rfl hdiscreet

/-- Only a stop check changes what the last one saw. -/
theorem heeded_exec {r : GuardReq} (hr : r ≠ .stopRequested) (c : GuardChoice) (w : World) :
    (guardExec r c w).2.heeded = w.heeded := by
  -- three requests close the active record of the history, and nothing else
  have hfinish : ∀ clean : Bool, (w.finishActive clean).heeded = w.heeded := by
    intro clean
    unfold World.finishActive
    split <;> rfl
  cases r with
  | stopRequested => exact absurd rfl hr
  | buildProcesses => simp only [guardExec]; split <;> rfl
  | start p => simp only [guardExec]; split <;> rfl
  | stopUntil p => simp only [guardExec]; split <;> rfl
  | helper op target full =>
      simp only [guardExec]
      split
      · rfl
      · cases c.helperAnswer op target <;> rfl
  | inspect => simp only [guardExec]; split <;> rfl
  | canary => simp only [guardExec, World.record]; split <;> rfl
  | nextGeneration => simp only [guardExec]; split <;> rfl
  | deleteLink g setup => simp only [guardExec, World.record]; split <;> rfl
  | historyRecover => exact hfinish false
  | historyStart => exact hfinish false
  | historyFinish clean => exact hfinish clean
  | hasAwaiting => simp only [guardExec]; split <;> rfl
  | validateUpstream status => simp only [guardExec]; split <;> rfl
  | _ => rfl

/-- What holds since a stop request in `x`: the guardian is not ready, and a stop check has seen the
request, or there was none. -/
structure SinceStop (cfg : Config) (inner fuel : Nat)
    (x y : Running GuardReq GuardReq.Ans GuardExc World) : Prop where
  withdrawn : Withdrawn y.state
  checked : y.state.heeded = true ∨ Relation.ReflTransGen (Unchecked cfg inner fuel) x y

/-- One step after a stop request. Readiness is published only behind a stop check that saw none. -/
theorem SinceStop.step {y z : Running GuardReq GuardReq.Ans GuardExc World}
    (h : SinceStop cfg inner fuel x y) (hx : ¬ PastLastCheck cfg inner fuel x)
    (hpermit : ∀ r, Running.next y = some r → Permit cfg r y.state)
    (hstep : (guardian cfg inner fuel).Step y z) : SinceStop cfg inner fuel x z := by
  -- a step of the surroundings is no stop check
  have hfree : ∀ {z : Running GuardReq GuardReq.Ans GuardExc World}, z.thread = y.thread →
      z.state.heeded = y.state.heeded → (guardian cfg inner fuel).Step y z →
      z.state.heeded = true ∨ Relation.ReflTransGen (Unchecked cfg inner fuel) x z := by
    intro z hthread hheeded hstep
    exact h.checked.imp hheeded.trans fun hrun => hrun.tail ⟨hstep, fun _ => hthread⟩
  have hstep' := hstep
  cases hstep with
  | start s p hp =>
      refine ⟨h.withdrawn, h.checked.imp id fun hrun => hrun.tail ⟨hstep', fun hnext => ?_⟩⟩
      exact absurd hnext (by simp [Running.next])
  | request s r k c =>
      by_cases hr : r = .stopRequested
      · subst hr
        exact ⟨h.withdrawn.exec (fun _ => by simp) c, .inl h.withdrawn.stopping⟩
      · have hchecked := h.checked.imp (heeded_exec hr c s).trans fun hrun =>
          hrun.tail ⟨hstep', fun hnext => absurd (Option.some.inj hnext) hr⟩
        refine ⟨h.withdrawn.exec (fun phase heq => ?_) c, hchecked⟩
        subst heq
        -- the last stop check saw no request, so there was none since
        have hunheeded := (hpermit _ rfl rfl).2
        rcases h.checked with hheeded | hrun
        · exact absurd (hunheeded.symm.trans hheeded) (by decide)
        · exact hx ⟨_, phase, hrun, rfl⟩
  | stop s p hs => exact hs.elim
  | meanwhile s s' thread hs =>
      have hmoved := moved_of_outside hs
      refine ⟨?_, hfree rfl hmoved.heeded hstep'⟩
      cases hs with
      | signal => exact ⟨rfl, rfl⟩
      | processExit p => exact h.withdrawn.of_eq rfl rfl
      | helperExit p => exact h.withdrawn.of_eq rfl rfl
  | idle s s' hs => exact hs.elim

/-- A request that a test determines. -/
theorem eq_some_of_any {o : Option GuardReq} {r : GuardReq} {p : GuardReq → Bool}
    (hp : ∀ {r' : GuardReq}, p r' = true → r' = r) (h : o.any p = true) : o = some r := by
  obtain ⟨r', rfl, hr'⟩ := (Option.any_eq_true _ _).mp h
  exact congrArg some (hp hr')

end StorageNode.Guardian
