import StorageNode.FloatingPoint.Number
import StorageNode.Health.VolumeStatus

/-!
# Waiting for a stable volume status

`_wait_for_stable_seaweed_volumes` over a sequence of iterations. The surroundings decide what each
probe answers, what the clock shows, and when the guardian is asked to stop. The readings of the clock
are floats, and the loop works with rounded sums and differences of them.

The loop carries a signature, the time of the first sample of the current run and the number of its
samples. `observe` computes them from the iterations made so far, newest first: they describe the
longest unbroken run that ends with the newest iteration (`observe_run`, `observe_longest`). What the
loop hands on, and when it gives up, follows from one lemma about its iterations (`waitLoop_made`).
-/

set_option autoImplicit false

namespace StorageNode.SeaweedHealth

open StorageNode.Json StorageNode.FloatingPoint

/-- The settings of the wait, with the defaults of the source. -/
structure StabilitySettings where
  volumeHealthEnabled : Bool := false
  recoveryStabilitySeconds : Int := 15
  allReadonlyWaitSeconds : Int := 75
  recoveryProbeIntervalSeconds : Int := 2
  recoverySuccessesRequired : Int := 3
  startupTimeoutSeconds : Int := 30
  expectedReadonlyVolumeIds : List Int := []
  deriving DecidableEq

/-- `timeout_seconds`. -/
def StabilitySettings.timeoutSeconds (settings : StabilitySettings) : Int :=
  max settings.startupTimeoutSeconds (settings.allReadonlyWaitSeconds +
    settings.recoveryStabilitySeconds +
    settings.recoveryProbeIntervalSeconds * settings.recoverySuccessesRequired)

/-- `deadline`, for a wait that begins at a time; a timeout that is too large for a float has none. -/
def StabilitySettings.deadline (settings : StabilitySettings) (start : Float64) : Option Extended :=
  (binary64.ofInt settings.timeoutSeconds).map (start + ·)

/-- What the request for `/status` gives: a payload, or a `SeaweedHealthError`. -/
inductive Probe where
  | answered (payload : Value)
  | failed

/-- One iteration of the loop: the flag `stopping` at its head, the time at which it begins, its probe,
and the two readings of the clock, after the probe and at its end. -/
structure Iteration where
  stopping : Bool := false
  started : Float64
  probe : Probe
  sampled : Float64
  ended : Float64

/-- `_seaweed_volume_status_signature`. -/
inductive Signature where
  | details (volumes : List VolumeDetail)
  | counts (total : Nat) (readonlyIds unexpectedIds : List Int)
  deriving DecidableEq

/-- The signature of a status. -/
def VolumeStatus.signature (status : VolumeStatus) : Signature :=
  if status.volumeDetails ≠ [] ∨ status.total = 0 then .details status.volumeDetails
  else .counts status.total status.readonlyVolumeIds status.unexpectedReadonlyVolumeIds

/-- The variables of the loop. -/
structure Observation where
  signature : Option Signature := none
  stableSince : Float64 := 0
  successes : Nat := 0
  deriving DecidableEq

/-- The variables after a sample. -/
def Observation.next (obs : Observation) (status : VolumeStatus) (now : Float64) : Observation :=
  if obs.signature = some status.signature then { obs with successes := obs.successes + 1 }
  else ⟨some status.signature, now, 1⟩

/-- How the wait ends; without volume health it returns at once, and without a deadline it raises. -/
inductive WaitOutcome where
  | disabled
  | timeoutOverflow
  | handed (status : VolumeStatus)
  | globalReadonly (seconds : Int)
  | unstable (seconds : Int)
  | probeRaised (error : StatusError)
  | interrupted
  | waiting
  deriving DecidableEq

/-- The message of a `SeaweedHealthError` that the loop raises. -/
def WaitOutcome.message : WaitOutcome → Option String
  | .globalReadonly seconds => some
      (s!"SeaweedFS continued to report every volume read-only after {seconds} seconds; refusing " ++
        "broad automatic index repair without volume-specific evidence")
  | .unstable seconds => some s!"SeaweedFS volume status did not stabilize within {seconds} seconds"
  | _ => none

section

variable (conv : Conversions) (settings : StabilitySettings) (deadline : Extended)

/-- `_inspect_seaweed_volumes`. -/
def Iteration.inspect (it : Iteration) : Except StatusError VolumeStatus :=
  match it.probe with
  | .answered payload => parseVolumeStatus conv settings.expectedReadonlyVolumeIds payload
  | .failed => .error (.health "unable to read SeaweedFS volume status")

/-- `required_stability`. -/
def requiredStability (status : VolumeStatus) : Int :=
  if allVolumesReadonly status then settings.allReadonlyWaitSeconds
  else settings.recoveryStabilitySeconds

/-- The test that ends the wait. -/
def Observation.settled (obs : Observation) (status : VolumeStatus) (now : Float64) : Prop :=
  settings.recoverySuccessesRequired ≤ obs.successes ∧
    ((requiredStability settings status : ℚ) : Extended) ≤ now - obs.stableSince

instance (obs : Observation) (status : VolumeStatus) (now : Float64) :
    Decidable (obs.settled settings status now) :=
  inferInstanceAs (Decidable (_ ∧ _))

/-- The end of an iteration: the deadline is checked before the guardian sleeps. -/
def checkDeadline (it : Iteration) (obs : Observation) : Observation ⊕ WaitOutcome :=
  if it.ended.subFrom deadline ≤ ((0 : ℚ) : Extended) then .inr (.unstable settings.timeoutSeconds)
  else .inl obs

/-- One iteration: the variables for the next one, or how the wait ends. -/
def iterate (obs : Observation) (it : Iteration) : Observation ⊕ WaitOutcome :=
  match it.inspect conv settings with
  | .error .overflow => .inr (.probeRaised .overflow)
  | .error (.health _) => checkDeadline settings deadline it {}
  | .ok status =>
    let obs := obs.next status it.sampled
    if obs.settled settings status it.sampled then
      if allVolumesReadonly status then .inr (.globalReadonly settings.allReadonlyWaitSeconds)
      else .inr (.handed status)
    else checkDeadline settings deadline it obs

/-- A wait: the iterations that were made, and how it ended. -/
structure Wait where
  made : List Iteration
  outcome : WaitOutcome

/-- The loop. It waits on where the sequence of iterations ends. -/
def waitLoop : Observation → List Iteration → Wait
  | _, [] => ⟨[], .waiting⟩
  | obs, it :: rest =>
    if it.stopping then ⟨[], .interrupted⟩
    else match iterate conv settings deadline obs it with
      | .inl obs => ⟨it :: (waitLoop obs rest).made, (waitLoop obs rest).outcome⟩
      | .inr outcome => ⟨[it], outcome⟩

/-- `_wait_for_stable_seaweed_volumes`. The status that it hands on goes to
`_accept_seaweed_volume_status`. -/
def waitForStableVolumes (start : Float64) (iterations : List Iteration) : Wait :=
  if settings.volumeHealthEnabled then
    match settings.deadline start with
    | none => ⟨[], .timeoutOverflow⟩
    | some deadline => waitLoop conv settings deadline {} iterations
  else ⟨[], .disabled⟩

/-! ## The variables of the loop as a function of the past -/

/-- The variables after some iterations, newest first. -/
def observe : List Iteration → Observation
  | [] => {}
  | it :: past => match it.inspect conv settings with
    | .ok status => (observe past).next status it.sampled
    | .error _ => {}

/-- Samples with one signature. -/
def SampleRun (signature : Signature) (run : List Iteration) : Prop :=
  ∀ it ∈ run, ∃ status, it.inspect conv settings = .ok status ∧ status.signature = signature

/-- The clock does not go back. -/
def NonDecreasing (iterations : List Iteration) : Prop :=
  (∀ it ∈ iterations, it.started ≤ it.sampled ∧ it.sampled ≤ it.ended) ∧
    iterations.Pairwise fun earlier later => earlier.ended ≤ later.started

end

variable {conv : Conversions} {settings : StabilitySettings} {deadline : Extended}

/-- The variables describe a run that ends with the newest iteration. -/
theorem observe_run {signature : Signature} (past : List Iteration)
    (h : (observe conv settings past).signature = some signature) :
    ∃ run older first, past = run ++ older ∧ SampleRun conv settings signature run ∧
      run.length = (observe conv settings past).successes ∧ run.getLast? = some first ∧
      first.sampled = (observe conv settings past).stableSince := by
  induction past with
  | nil => cases h
  | cons it past ih =>
    rw [observe] at h ⊢
    cases hinspect : it.inspect conv settings with
    -- a sample that cannot be inspected clears the observation
    | error e =>
      rw [hinspect] at h
      cases h
    | ok status =>
      rw [hinspect] at h
      simp only [Observation.next] at h ⊢
      split at h
      · -- the sample continues the run
        rename_i hsame
        obtain ⟨run, older, first, rfl, hrun, hlength, hfirst, hsince⟩ := ih h
        have hsignature : status.signature = signature := Option.some.inj (hsame.symm.trans h)
        rw [if_pos hsame]
        refine ⟨it :: run, older, first, rfl, ?_, by simp [hlength], ?_, hsince⟩
        · intro other hother
          obtain rfl | hother := List.mem_cons.mp hother
          · exact ⟨status, hinspect, hsignature⟩
          · exact hrun other hother
        · rw [List.getLast?_cons, hfirst]
          rfl
      · -- the sample starts a new run
        rename_i hother
        rw [if_neg hother]
        refine ⟨[it], past, it, rfl, ?_, rfl, rfl, rfl⟩
        intro other hmem
        obtain rfl := List.mem_singleton.mp hmem
        exact ⟨status, hinspect, Option.some.inj h⟩

/-- A sample is not older than the start of the run before it. -/
theorem stableSince_le {it : Iteration} {past : List Iteration} {signature : Signature}
    (hclock : NonDecreasing (it :: past).reverse)
    (h : (observe conv settings past).signature = some signature) :
    (observe conv settings past).stableSince ≤ it.sampled := by
  obtain ⟨run, older, first, rfl, -, -, hfirst, hsince⟩ := observe_run past h
  have hmem : first ∈ run ++ older := List.mem_append_left _ (List.mem_of_getLast? hfirst)
  have horder := (List.pairwise_cons.mp (List.pairwise_reverse.mp hclock.2)).1 first hmem
  have hit := hclock.1 it (by simp)
  have hended := hclock.1 first (List.mem_reverse.mpr (List.mem_cons_of_mem _ hmem))
  rw [← hsince]
  calc first.sampled ≤ first.ended := hended.2
    _ ≤ it.started := horder
    _ ≤ it.sampled := hit.1

/-- No longer run ends with the newest iteration, and none that began earlier. -/
theorem observe_longest {signature : Signature} {run older : List Iteration} {first : Iteration}
    (hrun : SampleRun conv settings signature run) (hfirst : run.getLast? = some first)
    (hclock : NonDecreasing (run ++ older).reverse) :
    (observe conv settings (run ++ older)).signature = some signature ∧
      run.length ≤ (observe conv settings (run ++ older)).successes ∧
      (observe conv settings (run ++ older)).stableSince ≤ first.sampled := by
  induction run with
  | nil => cases hfirst
  | cons it run ih =>
    obtain ⟨status, hinspect, hsignature⟩ := hrun it List.mem_cons_self
    have hnext : observe conv settings (it :: run ++ older) =
        (observe conv settings (run ++ older)).next status it.sampled := by
      rw [List.cons_append, observe, hinspect]
    rw [hnext, Observation.next, hsignature]
    cases run with
    | nil =>
      obtain rfl := Option.some.inj hfirst
      split
      · rename_i hsame
        exact ⟨hsame, by simp, stableSince_le hclock hsame⟩
      · exact ⟨rfl, le_refl _, le_refl _⟩
    | cons newer rest =>
      -- the newest sample is dropped for the induction hypothesis
      have hclock' : NonDecreasing ((newer :: rest) ++ older).reverse := by
        rw [List.cons_append, List.reverse_cons] at hclock
        exact ⟨fun other hother => hclock.1 other (List.mem_append_left _ hother),
          (List.pairwise_append.mp hclock.2).1⟩
      obtain ⟨hsame, hlength, hsince⟩ := ih
        (fun other hother => hrun other (List.mem_cons_of_mem _ hother)) hfirst hclock'
      rw [if_pos hsame]
      exact ⟨hsame, by simpa using hlength, hsince⟩

/-! ## The iterations of a wait -/

theorem checkDeadline_inl {it : Iteration} {obs obs' : Observation}
    (h : checkDeadline settings deadline it obs = .inl obs') :
    obs' = obs ∧ (it.ended.value : Extended) < deadline := by
  unfold checkDeadline at h
  split at h
  · cases h
  · rename_i hlate
    refine ⟨(Sum.inl.inj h).symm, ?_⟩
    by_contra hreached
    exact hlate (Format.Number.subFrom_le_zero (not_lt.mp hreached))

theorem checkDeadline_inr {it : Iteration} {obs : Observation} {outcome : WaitOutcome}
    (h : checkDeadline settings deadline it obs = .inr outcome) :
    outcome = .unstable settings.timeoutSeconds := by
  unfold checkDeadline at h
  split at h
  · exact (Sum.inr.inj h).symm
  · cases h

/-- An iteration that is followed by another one ends before the deadline and updates the variables. -/
theorem iterate_inl {past : List Iteration} {it : Iteration} {obs : Observation}
    (h : iterate conv settings deadline (observe conv settings past) it = .inl obs) :
    obs = observe conv settings (it :: past) ∧ (it.ended.value : Extended) < deadline := by
  unfold iterate at h
  rw [observe]
  cases hinspect : it.inspect conv settings with
  | error e =>
    rw [hinspect] at h
    cases e with
    | overflow => cases h
    | health message => exact checkDeadline_inl h
  | ok status =>
    rw [hinspect] at h
    dsimp only at h
    split at h
    · split at h <;> cases h
    · exact checkDeadline_inl h

/-- Each iteration works on the variables of those before it. It goes on to the next one, or it is the
last one and ends the wait. -/
theorem waitLoop_made (past : List Iteration) {iterations before after : List Iteration}
    {it : Iteration}
    (h : (waitLoop conv settings deadline (observe conv settings past) iterations).made =
      before ++ it :: after) :
    (∃ obs, iterate conv settings deadline
        (observe conv settings (before.reverse ++ past)) it = .inl obs) ∨
      (after = [] ∧ iterate conv settings deadline
        (observe conv settings (before.reverse ++ past)) it =
          .inr (waitLoop conv settings deadline (observe conv settings past) iterations).outcome) := by
  induction iterations generalizing past before with
  | nil => exact absurd h (by simp [waitLoop])
  | cons head rest ih =>
    rw [waitLoop] at h ⊢
    by_cases hstopping : head.stopping = true
    · rw [if_pos hstopping] at h
      exact absurd h (by simp)
    · rw [if_neg hstopping] at h ⊢
      cases hhead : iterate conv settings deadline (observe conv settings past) head with
      -- the loop goes on: the iteration is this one or one of the rest
      | inl obs =>
        rw [hhead] at h
        obtain ⟨hobs, -⟩ := iterate_inl hhead
        cases before with
        | nil =>
          obtain ⟨rfl, -⟩ := List.cons.inj h
          exact .inl ⟨obs, hhead⟩
        | cons first before =>
          obtain ⟨rfl, hrest⟩ := List.cons.inj h
          rw [hobs] at hrest ⊢
          rw [List.reverse_cons, List.append_assoc]
          exact ih (head :: past) hrest
      -- the loop ends, so no other iteration was made
      | inr outcome =>
        rw [hhead] at h
        cases before with
        | nil =>
          obtain ⟨rfl, hafter⟩ := List.cons.inj h
          exact .inr ⟨hafter.symm, hhead⟩
        | cons first before =>
          obtain ⟨-, hrest⟩ := List.cons.inj h
          exact absurd hrest (by simp)

/-- A wait that hands a status on ends with the iteration that does. -/
theorem waitLoop_handed (past : List Iteration) {iterations : List Iteration} {status : VolumeStatus}
    (h : (waitLoop conv settings deadline (observe conv settings past) iterations).outcome =
      .handed status) :
    ∃ before it, (waitLoop conv settings deadline (observe conv settings past) iterations).made =
        before ++ [it] ∧
      iterate conv settings deadline (observe conv settings (before.reverse ++ past)) it =
        .inr (.handed status) := by
  induction iterations generalizing past with
  | nil => cases h
  | cons head rest ih =>
    rw [waitLoop] at h ⊢
    by_cases hstopping : head.stopping = true
    · rw [if_pos hstopping] at h
      cases h
    · rw [if_neg hstopping] at h ⊢
      cases hhead : iterate conv settings deadline (observe conv settings past) head with
      | inl obs =>
        rw [hhead] at h
        obtain ⟨rfl, -⟩ := iterate_inl hhead
        obtain ⟨before, it, hmade, hit⟩ := ih _ h
        refine ⟨head :: before, it, congrArg (head :: ·) hmade, ?_⟩
        rw [List.reverse_cons, List.append_assoc]
        exact hit
      | inr outcome =>
        rw [hhead] at h
        obtain rfl : outcome = .handed status := h
        exact ⟨[], head, rfl, hhead⟩

/-- The iterations of a wait are a start of those that the surroundings offer. -/
theorem waitLoop_isPrefix (obs : Observation) (iterations : List Iteration) :
    (waitLoop conv settings deadline obs iterations).made <+: iterations := by
  induction iterations generalizing obs with
  | nil => exact List.prefix_refl _
  | cons head rest ih =>
    rw [waitLoop]
    split
    · exact List.nil_prefix
    · split
      · rw [List.prefix_cons_inj]
        exact ih _
      · rw [List.prefix_cons_inj]
        exact List.nil_prefix

/-! ## What a wait does -/

/-- The newest iterations are samples with the signature of a status: enough of them, the first taken
long enough before the last. -/
structure StableFor (conv : Conversions) (settings : StabilitySettings) (seconds : Int)
    (status : VolumeStatus) (run : List Iteration) : Prop where
  samples : SampleRun conv settings status.signature run
  enough : settings.recoverySuccessesRequired ≤ run.length
  span : ∃ first last, run.head? = some first ∧ run.getLast? = some last ∧
    last.inspect conv settings = .ok status ∧
      ((seconds : ℚ) : Extended) ≤ last.sampled - first.sampled

/-- The first and the last sample of a run were taken this far apart, up to the error of one
subtraction and as far as floats go. -/
def Spans (seconds : Int) (run : List Iteration) : Prop :=
  ∃ first last, run.head? = some first ∧ run.getLast? = some last ∧
    min (seconds : ℚ) (2 ^ binary64.maxExponent) ≤
      (1 + 2 ^ (-(binary64.precision : ℤ))) * (last.sampled.value - first.sampled.value)

theorem StableFor.spans {seconds : Int} {status : VolumeStatus} {run : List Iteration}
    (h : StableFor conv settings seconds status run) (hseconds : 0 < seconds) : Spans seconds run := by
  obtain ⟨first, last, hfirst, hlast, -, hspan⟩ := h.span
  exact ⟨first, last, hfirst, hlast,
    Format.Number.min_le_of_le_sub (Int.cast_pos.mpr hseconds) hspan⟩

/-- Every volume of a status is read-only, and one of them is not expected to be. -/
def GloballyReadonly (status : VolumeStatus) : Prop :=
  (∀ v ∈ status.volumeDetails, v.readonly = true) ∧
    ∃ v ∈ status.volumeDetails, v.readonly = true ∧ v.expectedReadonly = false

/-- The counters of a sample say whether it is globally read-only. -/
theorem allVolumesReadonly_of_inspect {it : Iteration} {status : VolumeStatus}
    (h : it.inspect conv settings = .ok status) :
    allVolumesReadonly status = true ↔ GloballyReadonly status := by
  unfold Iteration.inspect at h
  split at h
  · obtain ⟨es, -, rfl⟩ := parseVolumeStatus_ok.mp h
    rw [allVolumesReadonly_iff, GloballyReadonly]
    simp only [mem_statusOf_details, forall_exists_index, and_imp, forall_apply_eq_imp_iff₂]
    constructor
    · rintro ⟨hall, e, he, hunexpected⟩
      simp only [VolumeEntry.unexpected, Bool.and_eq_true, decide_eq_true_eq] at hunexpected
      exact ⟨hall, _, ⟨e, he, rfl⟩, hunexpected.1, by
        simp [VolumeEntry.detail, VolumeEntry.expectedReadonly, hunexpected.2]⟩
    · rintro ⟨hall, v, ⟨e, he, rfl⟩, hreadonly, hexpected⟩
      refine ⟨hall, e, he, ?_⟩
      have hreadonly' : e.readonly = true := hreadonly
      have hid : e.id ∉ settings.expectedReadonlyVolumeIds := by
        simpa [VolumeEntry.detail, VolumeEntry.expectedReadonly, hreadonly'] using hexpected
      simp [VolumeEntry.unexpected, hreadonly', hid]
  · cases h

/-- The variables after a sample. -/
theorem observe_of_inspect {past : List Iteration} {it : Iteration} {status : VolumeStatus}
    (h : it.inspect conv settings = .ok status) :
    (observe conv settings past).next status it.sampled = observe conv settings (it :: past) ∧
      (observe conv settings (it :: past)).signature = some status.signature := by
  have hnext : observe conv settings (it :: past) =
      (observe conv settings past).next status it.sampled := by
    rw [observe, h]
  refine ⟨hnext.symm, ?_⟩
  rw [hnext, Observation.next]
  split
  · assumption
  · rfl

theorem iterate_handed {past : List Iteration} {it : Iteration} {status : VolumeStatus}
    (h : iterate conv settings deadline (observe conv settings past) it = .inr (.handed status)) :
    it.inspect conv settings = .ok status ∧
      (observe conv settings (it :: past)).settled settings status it.sampled ∧
      allVolumesReadonly status = false := by
  unfold iterate at h
  cases hinspect : it.inspect conv settings with
  | error e =>
    rw [hinspect] at h
    cases e with
    | overflow => cases h
    | health message => cases checkDeadline_inr h
  | ok sampled =>
    rw [hinspect] at h
    dsimp only at h
    rw [(observe_of_inspect hinspect).1] at h
    split at h
    · rename_i hsettled
      split at h
      · cases h
      · rename_i hreadonly
        obtain rfl : sampled = status := by injection h with h; injection h
        exact ⟨rfl, hsettled, by simpa using hreadonly⟩
    · cases checkDeadline_inr h

theorem iterate_globalReadonly {past : List Iteration} {it : Iteration} {status : VolumeStatus}
    (hinspect : it.inspect conv settings = .ok status)
    (hsettled : (observe conv settings (it :: past)).settled settings status it.sampled)
    (hreadonly : allVolumesReadonly status = true) :
    iterate conv settings deadline (observe conv settings past) it =
      .inr (.globalReadonly settings.allReadonlyWaitSeconds) := by
  unfold iterate
  rw [hinspect]
  dsimp only
  rw [(observe_of_inspect hinspect).1, if_pos hsettled, if_pos hreadonly]

theorem NonDecreasing.of_prefix {made iterations : List Iteration} (h : NonDecreasing iterations)
    (hmade : made <+: iterations) : NonDecreasing made :=
  ⟨fun it hit => h.1 it (hmade.subset hit), h.2.sublist hmade.sublist⟩

/-- What is handed on was stable, and is not globally read-only. -/
theorem stableFor_of_handed {iterations : List Iteration} {status : VolumeStatus}
    (h : (waitLoop conv settings deadline {} iterations).outcome = .handed status) :
    ¬ GloballyReadonly status ∧ ∃ before run,
      (waitLoop conv settings deadline {} iterations).made = before ++ run ∧
      StableFor conv settings settings.recoveryStabilitySeconds status run := by
  obtain ⟨before, it, hmade, hit⟩ := waitLoop_handed [] h
  rw [List.append_nil] at hit
  obtain ⟨hinspect, hsettled, hreadonly⟩ := iterate_handed hit
  obtain ⟨run, older, first, hpast, hrun, hlength, hfirst, hsince⟩ :=
    observe_run _ (observe_of_inspect hinspect).2
  refine ⟨?_, older.reverse, run.reverse, ?_, ?_, ?_, first, it, ?_, ?_, hinspect, ?_⟩
  · rw [← allVolumesReadonly_of_inspect hinspect, hreadonly]
    exact Bool.false_ne_true
  · have hreverse := congrArg List.reverse hpast
    rw [List.reverse_cons, List.reverse_reverse, List.reverse_append] at hreverse
    exact hmade.trans hreverse
  · exact fun other hother => hrun other (List.mem_reverse.mp hother)
  · rw [List.length_reverse, hlength]
    exact hsettled.1
  · rw [List.head?_reverse, hfirst]
  · rw [List.getLast?_reverse]
    cases run with
    | nil => cases hfirst
    | cons newest rest => rw [(List.cons.inj hpast).1]; rfl
  · rw [hsince]
    have hspan := hsettled.2
    rwa [requiredStability, hreadonly, if_neg Bool.false_ne_true] at hspan

/-- A globally read-only run that lasts long enough ends the wait with an error. -/
theorem globalReadonly_of_stableFor {iterations before run after : List Iteration}
    {status : VolumeStatus} (hclock : NonDecreasing iterations)
    (hmade : (waitLoop conv settings deadline {} iterations).made = before ++ run ++ after)
    (hglobal : GloballyReadonly status)
    (hstable : StableFor conv settings settings.allReadonlyWaitSeconds status run) :
    after = [] ∧ (waitLoop conv settings deadline {} iterations).outcome =
      .globalReadonly settings.allReadonlyWaitSeconds := by
  obtain ⟨first, last, hfirst, hlast, hinspect, hspan⟩ := hstable.span
  have hreadonly := (allVolumesReadonly_of_inspect hinspect).mpr hglobal
  obtain ⟨earlier, rfl⟩ : ∃ earlier, run = earlier ++ [last] :=
    ⟨run.dropLast, (List.dropLast_append_getLast? last hlast).symm⟩
  have hpast : (earlier ++ [last]).reverse ++ before.reverse =
      last :: ((before ++ earlier).reverse ++ []) := by
    simp
  have hclock' : NonDecreasing ((earlier ++ [last]).reverse ++ before.reverse).reverse := by
    rw [List.reverse_append, List.reverse_reverse, List.reverse_reverse]
    exact hclock.of_prefix (List.IsPrefix.trans ⟨after, hmade.symm⟩ (waitLoop_isPrefix _ _))
  obtain ⟨-, hlength, hsince⟩ := observe_longest
    (fun other hother => hstable.samples other (List.mem_reverse.mp hother))
    (by rw [List.getLast?_reverse, hfirst]) hclock'
  rw [hpast] at hlength hsince
  rw [List.length_reverse] at hlength
  -- the variables of the loop cover at least this run
  have hsettled : (observe conv settings (last :: ((before ++ earlier).reverse ++ []))).settled
      settings status last.sampled := by
    constructor
    · exact le_trans hstable.enough (by exact_mod_cast hlength)
    · rw [requiredStability, if_pos hreadonly]
      exact le_trans hspan (Format.Number.sub_antitone hsince)
  have hiterate : iterate conv settings deadline _ last = _ :=
    iterate_globalReadonly hinspect hsettled hreadonly
  rw [List.append_assoc, List.append_assoc, ← List.append_assoc before] at hmade
  obtain ⟨obs, hobs⟩ | ⟨hafter, houtcome⟩ := waitLoop_made [] hmade
  · rw [hiterate] at hobs
    cases hobs
  · rw [hiterate] at houtcome
    exact ⟨hafter, (Sum.inr.inj houtcome).symm⟩

/-- No iteration follows one at whose end the deadline has been reached. -/
theorem last_of_deadline {iterations before after : List Iteration} {it : Iteration}
    (hmade : (waitLoop conv settings deadline {} iterations).made = before ++ it :: after)
    (hdeadline : deadline ≤ it.ended.value) : after = [] := by
  obtain ⟨obs, hobs⟩ | ⟨hafter, -⟩ := waitLoop_made [] hmade
  · exact absurd (iterate_inl hobs).2 (not_lt.mpr hdeadline)
  · exact hafter

/-- Where nothing follows an element with a property, at most one element has it. -/
theorem length_filter_le_one {α : Type} {p : α → Bool} {xs : List α}
    (h : ∀ before x after, xs = before ++ x :: after → p x = true → after = []) :
    (xs.filter p).length ≤ 1 := by
  induction xs with
  | nil => simp
  | cons x xs ih =>
    by_cases hx : p x = true
    · rw [h [] x xs rfl hx, List.filter_cons_of_pos hx]
      simp
    · rw [List.filter_cons_of_neg hx]
      apply ih
      intro before y after hxs hy
      exact h (x :: before) y after (congrArg (x :: ·) hxs) hy

/-- A wait has a deadline and loops, or it makes no iteration and hands nothing on. -/
theorem waitForStableVolumes_cases (conv : Conversions) (settings : StabilitySettings)
    (start : Float64) (iterations : List Iteration) :
    (∃ outcome, waitForStableVolumes conv settings start iterations = ⟨[], outcome⟩ ∧
      ∀ status, outcome ≠ .handed status) ∨
    ∃ deadline, settings.deadline start = some deadline ∧
      waitForStableVolumes conv settings start iterations =
        waitLoop conv settings deadline {} iterations := by
  unfold waitForStableVolumes
  split
  · cases hdeadline : settings.deadline start with
    | none => exact .inl ⟨.timeoutOverflow, rfl, fun _ h => by cases h⟩
    | some deadline => exact .inr ⟨deadline, rfl, rfl⟩
  · exact .inl ⟨.disabled, rfl, fun _ h => by cases h⟩

/-- A status is handed on only after a run of enough samples with its signature that lasted long enough
by the loop's own difference, and only if it is not globally read-only; a globally read-only run of
enough samples that lasts its own time raises; and an iteration that ends at or after the deadline is
the last one, so that at most one begins then. -/
theorem wait_acts_on_stable_status (conv : Conversions) (settings : StabilitySettings)
    (start : Float64) (iterations : List Iteration) (hclock : NonDecreasing iterations) :
    (∀ status, (waitForStableVolumes conv settings start iterations).outcome = .handed status →
      ¬ GloballyReadonly status ∧ ∃ before run,
        (waitForStableVolumes conv settings start iterations).made = before ++ run ∧
        StableFor conv settings settings.recoveryStabilitySeconds status run ∧
        (0 < settings.recoveryStabilitySeconds → Spans settings.recoveryStabilitySeconds run)) ∧
    (∀ status before run after,
      (waitForStableVolumes conv settings start iterations).made = before ++ run ++ after →
      GloballyReadonly status →
      StableFor conv settings settings.allReadonlyWaitSeconds status run →
        after = [] ∧ (waitForStableVolumes conv settings start iterations).outcome =
          .globalReadonly settings.allReadonlyWaitSeconds) ∧
    ∀ deadline, settings.deadline start = some deadline →
      (∀ before it after,
        (waitForStableVolumes conv settings start iterations).made = before ++ it :: after →
        deadline ≤ it.ended.value → after = []) ∧
      ((waitForStableVolumes conv settings start iterations).made.filter fun it =>
        deadline ≤ it.started.value).length ≤ 1 := by
  obtain ⟨outcome, hwait, hnot⟩ | ⟨deadline, hdeadline, hwait⟩ :=
    waitForStableVolumes_cases conv settings start iterations
  · rw [hwait]
    refine ⟨fun status h => absurd h (hnot status), ?_, ?_⟩
    · rintro status before run after hmade - hstable
      obtain ⟨first, -, hfirst, -⟩ := hstable.span
      have hnil : before ++ run = [] := (List.append_eq_nil_iff.mp hmade.symm).1
      rw [(List.append_eq_nil_iff.mp hnil).2] at hfirst
      cases hfirst
    · intro deadline _
      refine ⟨?_, Nat.zero_le _⟩
      intro before it after hmade
      exact absurd hmade (by simp)
  · rw [hwait]
    refine ⟨?_, ?_, ?_⟩
    · intro status h
      obtain ⟨hglobal, before, run, hmade, hstable⟩ := stableFor_of_handed h
      exact ⟨hglobal, before, run, hmade, hstable, hstable.spans⟩
    · intro status before run after hmade hglobal hstable
      exact globalReadonly_of_stableFor hclock hmade hglobal hstable
    · intro deadline' hdeadline'
      obtain rfl : deadline = deadline' := Option.some.inj (hdeadline.symm.trans hdeadline')
      refine ⟨fun before it after hmade hended => last_of_deadline hmade hended, ?_⟩
      apply length_filter_le_one
      intro before it after hmade hstarted
      apply last_of_deadline hmade
      -- an iteration that starts after the deadline also ends after it
      have hmem : it ∈ (waitLoop conv settings deadline {} iterations).made := by
        rw [hmade]
        exact List.mem_append_right _ List.mem_cons_self
      have hit := (hclock.of_prefix (waitLoop_isPrefix _ _)).1 it hmem
      have hended : it.started.value ≤ it.ended.value := le_trans hit.1 hit.2
      exact (of_decide_eq_true hstarted).trans (WithBotTop.coe_le_coe.mpr hended)

/-! A server with one volume. -/

namespace StableSample

def plain : Conversions := ⟨fun _ => none, fun _ => ""⟩

def enabled : StabilitySettings := { volumeHealthEnabled := true }

/-- Probes every 80 seconds. -/
def slow : StabilitySettings := { enabled with recoveryProbeIntervalSeconds := 80 }

/-- The reading of the clock with a value, which is that of a float. -/
def reading (seconds : ℚ) : Float64 :=
  if h : binary64.nearest seconds = seconds ∧ |seconds| < 2 ^ binary64.maxExponent then
    ⟨seconds, h.1, h.2⟩
  else 0

/-- A sample of the volume, with an answer after the given time. -/
def sample (readonly : Bool) (started sampled ended : ℚ) : Iteration where
  started := reading started
  probe := .answered (.object
    [("Volumes", .array [.object [("Id", .int 1), ("ReadOnly", .bool readonly)]])])
  sampled := reading sampled
  ended := reading ended

/-- Three samples, the last of which begins after the deadline of 96 seconds. -/
def late : List Iteration :=
  [sample false 79 80 80, sample false 94 95 95, sample false (385 / 4) (193 / 2) (387 / 4)]

/-- Two samples of a volume that stays read-only. -/
def readonly : List Iteration :=
  [sample true 0 1 2, sample true 82 83 84]

/-- The floats `0.2`, `7.7` and `15.2`. -/
def tenths : List ℚ :=
  [3602879701896397 / 2 ^ 54, 8669429282688205 / 2 ^ 50, 4278419646001971 / 2 ^ 48]

/-- Three samples at these times. -/
def rounded : List Iteration :=
  tenths.map fun seconds => sample false seconds seconds seconds

end StableSample

/-- The third sample is handed on. -/
theorem wait_acts_on_late_sample : NonDecreasing StableSample.late ∧
    ∃ status, (waitForStableVolumes StableSample.plain StableSample.enabled 0
        StableSample.late).outcome = .handed status ∧
      ¬ GloballyReadonly status ∧ ∃ before run,
        (waitForStableVolumes StableSample.plain StableSample.enabled 0 StableSample.late).made =
          before ++ run ∧
        StableFor StableSample.plain StableSample.enabled 15 status run ∧
        (0 < StableSample.enabled.recoveryStabilitySeconds → Spans 15 run) := by
  have hclock : NonDecreasing StableSample.late := by
    unfold NonDecreasing
    decide +kernel
  have houtcome : (waitForStableVolumes StableSample.plain StableSample.enabled 0
      StableSample.late).outcome = .handed (statusOf [] [⟨1, "", false⟩]) := by
    decide +kernel
  exact ⟨hclock, _, houtcome,
    (wait_acts_on_stable_status _ _ 0 _ hclock).1 _ houtcome⟩

/-- An iteration begins after the deadline; a globally read-only run that lasts 82 seconds does not
raise, because it has two samples only; and a status is handed on whose first sample is less than 15
seconds old, because the difference of the readings rounds up. -/
theorem wait_outlasts_deadline :
    (NonDecreasing StableSample.late ∧
      ∃ deadline, StableSample.enabled.deadline 0 = some deadline ∧
        ∃ it ∈ (waitForStableVolumes StableSample.plain StableSample.enabled 0
          StableSample.late).made, deadline < it.started.value) ∧
    (NonDecreasing StableSample.readonly ∧
      (waitForStableVolumes StableSample.plain StableSample.slow 0
        StableSample.readonly).outcome = .waiting ∧
      (waitForStableVolumes StableSample.plain StableSample.slow 0
        StableSample.readonly).made.map (fun it => (it.inspect StableSample.plain
          StableSample.slow).toOption.map fun status =>
            (it.sampled.value, allVolumesReadonly status)) = [some (1, true), some (83, true)]) ∧
    NonDecreasing StableSample.rounded ∧
      (waitForStableVolumes StableSample.plain StableSample.enabled 0
        StableSample.rounded).outcome = .handed (statusOf [] [⟨1, "", false⟩]) ∧
      (waitForStableVolumes StableSample.plain StableSample.enabled 0
        StableSample.rounded).made.map (·.sampled.value) = StableSample.tenths ∧
      4278419646001971 / 2 ^ 48 - 3602879701896397 / 2 ^ 54 < (15 : ℚ) := by
  refine ⟨⟨?_, (96 : ℚ), ?_, ?_⟩, ⟨?_, ?_, ?_⟩, ?_, ?_, ?_, ?_⟩
  · unfold NonDecreasing
    decide +kernel
  · decide +kernel
  · decide +kernel
  · unfold NonDecreasing
    decide +kernel
  · decide +kernel
  · decide +kernel
  · unfold NonDecreasing
    decide +kernel
  · decide +kernel
  · decide +kernel
  · norm_num

end StorageNode.SeaweedHealth
