import StorageNode.Guardian.Footprint
import StorageNode.Program.Machine

/-!
# Parking for manual intervention

`_park_manual_intervention` publishes `MANUAL_INTERVENTION_REQUIRED` and then terminates the generation.
The termination stops SeaweedFS first, and this publishes `DRAINING` with or without a generation; no
later step of the termination, and none of the loop that waits for the operator, publishes the parked
state again. `parked_never_visible` covers both guardian classes, every state in which parking begins,
every outcome of its calls, and signals and exits of processes at any time.
-/

set_option autoImplicit false

namespace StorageNode.Guardian

open StorageNode.Program GuardProg

/-! ## What operators see -/

/-- The metric `s3_storage_node_manual_intervention_required`. -/
def Health.manualInterventionRequired (h : Health) : Nat :=
  if h.phase = .manualInterventionRequired ∨ h.phase = .hostRecoveryRequired then 1 else 0

/-- The parked state is published. -/
def VisiblyParked (w : World) : Prop :=
  w.health.phase = .manualInterventionRequired ∧ w.health.ready = false ∧
    w.health.manualInterventionRequired = 1

/-- Not ready, and in none of the states of the metric. -/
structure Hidden (w : World) : Prop where
  ready : w.health.ready = false
  manual : w.health.phase ≠ .manualInterventionRequired
  host : w.health.phase ≠ .hostRecoveryRequired

/-- The requests by which the guardian waits for the operator. -/
def GuardReq.waits : GuardReq → Bool
  | .sleep => true
  | .pendingRequest => true
  | _ => false

/-- The machine that parks a guardian, with signals and exits in between. -/
def parking (self : GuardianClass) (cfg : Config) (fuel : Nat) :
    Machine GuardReq GuardReq.Ans GuardExc World GuardChoice where
  exec := guardExec
  start _ p := p = parkManualIntervention self cfg fuel
  stop _ := False
  meanwhile := Outside
  idle _ _ := False

/-! ## Requests that keep the parked state hidden -/

/-- Requests that publish no state of the metric and no readiness. -/
def GuardReq.hides : GuardReq → Bool
  | .setHealth phase ready =>
      !ready && decide (phase ≠ .manualInterventionRequired ∧ phase ≠ .hostRecoveryRequired)
  | _ => true

theorem GuardReq.hides_of_ends : ∀ r : GuardReq, r.ends = true → r.hides = true := by
  intro r hr
  cases r with
  | setHealth phase ready => cases phase <;> cases ready <;> first | rfl | exact absurd hr (by decide)
  | _ => rfl

/-- Only `health.set` changes the published state and readiness. -/
theorem Hidden.exec {w : World} (h : Hidden w) {r : GuardReq} (hr : r.hides = true) (c : GuardChoice) :
    Hidden (guardExec r c w).2 := by
  have hsame : ∀ w' : World, w'.health.phase = w.health.phase → w'.health.ready = w.health.ready →
      Hidden w' := fun w' hp hready => ⟨hready ▸ h.ready, hp ▸ h.manual, hp ▸ h.host⟩
  by_cases hdiscreet : r.discreet = true
  · have hkept := guardExec_discreet hdiscreet c w
    exact hsame _ hkept.phase hkept.ready
  -- of the others only `health.set` publishes a phase or readiness
  cases r with
  | assign a => exact hsame _ rfl rfl
  | setHealth phase ready =>
      simp only [GuardReq.hides, Bool.and_eq_true, Bool.not_eq_true', decide_eq_true_eq] at hr
      exact ⟨hr.1, hr.2.1, hr.2.2⟩
  | helper op target full =>
      simp only [guardExec]
      split
      · exact h
      · cases c.helperAnswer op target <;> exact hsame _ rfl rfl
  | recordSuccess name => exact hsame _ rfl rfl
  | _ => exact absurd rfl hdiscreet

/-- A signal publishes `STOPPING`; exits publish nothing. -/
theorem Hidden.outside {w w' : World} (h : Hidden w) (hstep : Outside w w') : Hidden w' := by
  cases hstep with
  | signal => exact ⟨rfl, by simp, by simp⟩
  | processExit p => exact ⟨h.ready, h.manual, h.host⟩
  | helperExit p => exact ⟨h.ready, h.manual, h.host⟩

/-- While the parked state is hidden it stays hidden, and the guardian waits only while it is. -/
def hiddenDiscipline : Discipline guardExec where
  inv _ := True
  disturb w w' := Hidden w → Hidden w'
  allow r w := r.waits = true → Hidden w
  refl _ h := h
  trans _ _ _ hab hbc h := hbc (hab h)
  keeps _ _ _ _ _ := trivial

theorem hidden_of_hides {α : Type} {p : GuardProg α} (hp : p.Issues fun r => r.hides = true) :
    hiddenDiscipline.Triple Hidden p (fun _ => Hidden) fun _ => Hidden :=
  .of_issues (fun _ _ _ _ hd h => hd h) (fun _ _ hr _ h => ⟨fun _ => h, fun c => h.exec hr c⟩) hp

/-! ## Termination -/

theorem Ends.hides {α : Type} {p : GuardProg α} (h : Ends p) : p.Issues fun r => r.hides = true :=
  Prog.Issues.mono GuardReq.hides_of_ends h

theorem hidden_view : hiddenDiscipline.Triple (fun _ => True) view (fun _ _ => True) fun _ _ => True :=
  .ask (.const True) (fun _ _ _ h => absurd h (by decide)) fun _ _ _ _ _ => trivial

/-- A program that looks at the guardian and then publishes `DRAINING` hides the parked state. -/
theorem hidden_of_draining {α : Type} {f : Self → GuardProg α} (hp : Ends (view.bind f))
    (hf : ∀ self, ∃ k, f self = .call (.setHealth .draining false) k) :
    hiddenDiscipline.Triple (fun _ => True) (view.bind f) (fun _ => Hidden) fun _ _ => True := by
  refine .bind hidden_view fun self => ?_
  obtain ⟨k, hk⟩ := hf self
  have hends : Ends (f self) := hp.2 self
  rw [hk] at hends ⊢
  intro w _ _ w' _
  constructor
  · intro hwaits
    exact absurd hwaits (by decide)
  · intro c
    have hrest := (hidden_of_hides (Ends.hides (hends.2 ()))).mono (fun _ _ h => h)
      (fun _ _ _ h => h) fun _ _ _ _ => trivial
    apply hrest
    · trivial
    · exact ⟨rfl, by simp [guardExec], by simp [guardExec]⟩

theorem terminateGenerationBase_hidden {repair : Bool → Bool → GuardProg Bool}
    {fence : GuardProg Bool} (hrepair : ∀ unmountAll timed, Detaches (repair unmountAll timed))
    (hfence : Ends fence) (unmountAll : Bool) :
    hiddenDiscipline.Triple (fun _ => True) (terminateGenerationBase repair fence unmountAll)
      (fun _ => Hidden) fun _ _ => True := by
  apply hidden_of_draining (terminateGenerationBase_ends hrepair hfence unmountAll)
  intro self
  -- with or without a generation, `_stop_seaweed` comes first
  split
  · exact ⟨_, rfl⟩
  · exact ⟨_, rfl⟩

theorem terminateGeneration_hidden (self : GuardianClass) (cfg : Config) (unmountAll : Bool) :
    hiddenDiscipline.Triple (fun _ => True) (self.terminateGeneration cfg unmountAll)
      (fun _ => Hidden) fun _ _ => True := by
  cases self with
  | generation =>
      apply terminateGenerationBase_hidden
      · exact repairTargetsBase_detaches cfg fun t => runHelperBase_detaches (some t) false
      · exact fenceGenerationBase_ends
  | transport =>
      refine .bind hidden_view fun self => ?_
      refine .bind (terminateGenerationBase_hidden (repairTargets_detaches cfg)
        (fenceGeneration_ends cfg) unmountAll) fun fenced => ?_
      refine (hidden_of_hides (Ends.hides ?_)).mono (fun _ _ h => h) (fun _ _ _ h => h)
        fun _ _ _ _ => trivial
      exact (quarantineBlocked_detaches cfg _ _).ends

/-! ## The parking loop -/

theorem GuardReq.hides_of_parks : ∀ r : GuardReq, r.parks = true → r.hides = true := by
  intro r hr
  cases r with
  | setHealth phase ready => cases phase <;> cases ready <;> first | rfl | exact absurd hr (by decide)
  | _ => rfl

/-- The guardian waits only while the parked state is hidden. -/
theorem parkManualIntervention_hidden (self : GuardianClass) (cfg : Config) (fuel : Nat) :
    hiddenDiscipline.Triple (fun _ => True) (parkManualIntervention self cfg fuel)
      (fun _ _ => True) fun _ _ => True := by
  refine .bind (M := fun _ _ => True) (.ask (.const True) (fun _ _ _ h => absurd h (by decide))
    fun _ _ _ _ _ => trivial) fun _ => ?_
  refine .bind (terminateGeneration_hidden self cfg false) fun fenced => ?_
  refine (hidden_of_hides ?_).mono (fun _ _ h => h) (fun _ _ _ _ => trivial) fun _ _ _ _ => trivial
  refine Prog.Issues.bind (Prog.Issues.when ((Prog.issues_ask _).2 rfl)) fun _ => ?_
  refine (Ends.hides retireGeneration_ends).bind fun _ => ?_
  apply Prog.Issues.mono GuardReq.hides_of_parks
  exact waitUntilStopped_parks (interruptibleSleep_pauses self cfg) fuel

theorem parking_follows (self : GuardianClass) (cfg : Config) (fuel : Nat) :
    (parking self cfg fuel).Follows hiddenDiscipline fun _ => True where
  meanwhile _ _ _ h := ⟨trivial, fun hidden => hidden.outside h⟩
  rest_meanwhile _ _ _ _ _ := trivial
  idle _ _ _ _ h := h.elim
  stop _ _ h := h.elim
  start w p _ _ hp := by
    rw [hp]
    exact parkManualIntervention_hidden self cfg fuel w trivial trivial

/-- Whenever a guardian waits in the parking loop, the published state is not
`MANUAL_INTERVENTION_REQUIRED`, the metric is 0, and the guardian is not ready: for both guardian
classes, every state in which parking begins and every outcome of the calls on the way. -/
theorem parked_never_visible (self : GuardianClass) (cfg : Config) (fuel : Nat) {w : World}
    {x : Running GuardReq GuardReq.Ans GuardExc World} (hx : (parking self cfg fuel).Reachable w x)
    {p : GuardProg Unit} (hp : x.thread = some p) {r : GuardReq} (hr : p.next = some r)
    (hwaits : r.waits = true) :
    ¬ VisiblyParked x.state ∧ x.state.health.phase ≠ .manualInterventionRequired ∧
      x.state.health.manualInterventionRequired = 0 ∧ x.state.health.ready = false := by
  obtain ⟨k, rfl⟩ := Prog.eq_call_of_next hr
  have hsound := (parking_follows self cfg fuel).reachable trivial trivial hx
  have hidden : Hidden x.state := hsound.permitted hp hwaits
  refine ⟨fun h => hidden.manual h.1, hidden.manual, ?_, hidden.ready⟩
  simp [Health.manualInterventionRequired, hidden.manual, hidden.host]

/-- One target, no failover. -/
def oneTarget : Config where
  activeTargets := [⟨"data", false⟩]
  failover := none
  volumeHealthEnabled := true
  autoIndexRepairEnabled := true
  s3CanaryEnabled := false
  recoveryStabilitySeconds := 0
  recoverySuccessesRequired := 1
  recoveryProbeIntervalSeconds := 1
  allReadonlyWaitSeconds := 0
  startupTimeoutSeconds := 1
  fullProbeIntervalSeconds := 1

/-- A generation whose index repair was rejected. -/
def rejectedGeneration : World where
  self := { generation := some 0, indexRepair := true }
  nextSerial := 1
  log := [.created 0]

/-- A call that succeeds at once. -/
def success : GuardChoice := {}

/-- Choices of a parking that goes well: the detach is in time, the fence is verified and the
generation is retired. They end at the first pause of the loop. -/
def parkedCleanly : List GuardChoice :=
  List.replicate 8 success ++ { ok := false } :: List.replicate 25 success

theorem parking_waits : (parking .transport oneTarget 1).Reachable rejectedGeneration
    ⟨(parkManualIntervention .transport oneTarget 1).after guardExec parkedCleanly rejectedGeneration,
      some ((parkManualIntervention .transport oneTarget 1).rest guardExec parkedCleanly
        rejectedGeneration)⟩ :=
  Machine.Reachable.run parkedCleanly (.single (.start _ _ rfl))

theorem parked_never_visible_fencing :
    ((parkManualIntervention .transport oneTarget 1).after guardExec parkedCleanly
      rejectedGeneration).health.phase ≠ .manualInterventionRequired :=
  (parked_never_visible .transport oneTarget 1 parking_waits rfl (r := .sleep) rfl rfl).2.1

/-- That guardian is parked and shows `FENCING`. -/
theorem parked_guardian_shows_fencing :
    ¬ ∀ (self : GuardianClass) (cfg : Config) (fuel : Nat) (w : World)
        (x : Running GuardReq GuardReq.Ans GuardExc World) (p : GuardProg Unit) (r : GuardReq),
      (parking self cfg fuel).Reachable w x → x.thread = some p → p.next = some r →
        r.waits = true → VisiblyParked x.state := by
  intro h
  have hvisible := h .transport oneTarget 1 _ _ _ .sleep parking_waits rfl rfl rfl
  have hfencing : ((parkManualIntervention .transport oneTarget 1).after guardExec parkedCleanly
      rejectedGeneration).health.phase = .fencing := by decide
  exact absurd (hfencing.symm.trans hvisible.1) (by decide)

end StorageNode.Guardian
