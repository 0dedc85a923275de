import StorageNode.FloatingPoint.Number
import Mathlib.Data.List.DropRight
import Mathlib.Tactic.NormNum

/-!
# The write budget

`WriteBudget` of `admission`: the limit on concurrent writes starts at one, rises by one after each
full window of healthy samples, and falls back to one at an unhealthy sample. The readings of the clock
are floats, and so is the difference that `update` compares with the window.

`Ramp` is the invariant of a run. It ties the limit to `healthy_since`: the windows that the limit has
risen by lie between the first healthy call since the last unhealthy one and `healthy_since`, up to the
error of the subtractions. That error is real: a window can pass for the code before it has passed
(`full_window_by_rounding`).
-/

set_option autoImplicit false

namespace StorageNode.Admission

open StorageNode.FloatingPoint

/-- The fields of `WriteBudget`. -/
structure WriteBudget where
  ceiling : Int
  healthyWindow : Int
  limit : Int
  healthySince : Option Float64
  backoffs : Nat
  deriving DecidableEq

/-- One call of `update`. -/
structure Call where
  now : Float64
  healthy : Bool
  deriving DecidableEq

namespace WriteBudget

/-- `WriteBudget.__init__`. -/
def init (ceiling healthyWindow : Int) : WriteBudget where
  ceiling := ceiling
  healthyWindow := healthyWindow
  limit := 1
  healthySince := none
  backoffs := 0

/-- `WriteBudget.update`; the call returns the limit of the new budget. -/
def update (budget : WriteBudget) (now : Float64) (healthy : Bool) : WriteBudget :=
  if !healthy then
    { budget with
      backoffs := if 1 < budget.limit then budget.backoffs + 1 else budget.backoffs
      limit := 1
      healthySince := none }
  else match budget.healthySince with
    | none => { budget with healthySince := some now }
    | some since =>
      if ((budget.healthyWindow : ℚ) : Extended) ≤ now - since then
        { budget with limit := min budget.ceiling (budget.limit + 1), healthySince := some now }
      else budget

/-- The budget after a sequence of calls. -/
def after (budget : WriteBudget) (calls : List Call) : WriteBudget :=
  calls.foldl (fun b c => b.update c.now c.healthy) budget

@[simp]
theorem after_nil (budget : WriteBudget) : budget.after [] = budget := rfl

@[simp]
theorem after_concat (budget : WriteBudget) (calls : List Call) (call : Call) :
    budget.after (calls ++ [call]) = (budget.after calls).update call.now call.healthy := by
  simp [after]

/-- What a call can do to the budget. -/
theorem update_cases (budget : WriteBudget) (now : Float64) (healthy : Bool) :
    (healthy = false ∧ budget.update now healthy =
      { budget with
        backoffs := if 1 < budget.limit then budget.backoffs + 1 else budget.backoffs
        limit := 1
        healthySince := none }) ∨
    (healthy = true ∧ budget.healthySince = none ∧
      budget.update now healthy = { budget with healthySince := some now }) ∨
    (∃ since, healthy = true ∧ budget.healthySince = some since ∧
      ((budget.healthyWindow : ℚ) : Extended) ≤ now - since ∧ budget.update now healthy =
        { budget with limit := min budget.ceiling (budget.limit + 1), healthySince := some now }) ∨
    (∃ since, healthy = true ∧ budget.healthySince = some since ∧
      budget.update now healthy = budget) := by
  cases healthy with
  | false => exact .inl ⟨rfl, rfl⟩
  | true =>
    cases hsince : budget.healthySince with
    | none => exact .inr (.inl ⟨rfl, rfl, by simp [update, hsince]⟩)
    | some since =>
      by_cases helapsed : ((budget.healthyWindow : ℚ) : Extended) ≤ now - since
      · exact .inr (.inr (.inl ⟨since, rfl, rfl, helapsed, by simp [update, hsince, helapsed]⟩))
      · exact .inr (.inr (.inr ⟨since, rfl, rfl, by simp [update, hsince, helapsed]⟩))

@[simp]
theorem update_ceiling (budget : WriteBudget) (now : Float64) (healthy : Bool) :
    (budget.update now healthy).ceiling = budget.ceiling := by
  obtain ⟨-, h⟩ | ⟨-, -, h⟩ | ⟨_, -, -, -, h⟩ | ⟨_, -, -, h⟩ := update_cases budget now healthy <;>
    rw [h]

@[simp]
theorem update_healthyWindow (budget : WriteBudget) (now : Float64) (healthy : Bool) :
    (budget.update now healthy).healthyWindow = budget.healthyWindow := by
  obtain ⟨-, h⟩ | ⟨-, -, h⟩ | ⟨_, -, -, -, h⟩ | ⟨_, -, -, h⟩ := update_cases budget now healthy <;>
    rw [h]

/-- A call raises the limit by at most one, once the limit is positive. -/
theorem update_limit_le (budget : WriteBudget) (now : Float64) (healthy : Bool)
    (hlimit : 1 ≤ budget.limit) : (budget.update now healthy).limit ≤ budget.limit + 1 := by
  obtain ⟨-, h⟩ | ⟨-, -, h⟩ | ⟨_, -, -, -, h⟩ | ⟨_, -, -, h⟩ := update_cases budget now healthy
  · rw [h]
    show (1 : Int) ≤ budget.limit + 1
    omega
  · rw [h]
    show budget.limit ≤ budget.limit + 1
    omega
  · rw [h]
    exact min_le_right _ _
  · rw [h]
    omega

/-- A healthy call leaves `healthy_since` set. -/
theorem update_healthySince (budget : WriteBudget) (now : Float64) :
    ∃ since, (budget.update now true).healthySince = some since := by
  obtain ⟨hfalse, -⟩ | ⟨-, -, h⟩ | ⟨since, -, -, -, h⟩ | ⟨since, -, hsince, h⟩ :=
    update_cases budget now true
  · cases hfalse
  · exact ⟨now, by rw [h]⟩
  · exact ⟨now, by rw [h]⟩
  · exact ⟨since, by rw [h, hsince]⟩

@[simp]
theorem after_ceiling (budget : WriteBudget) (calls : List Call) :
    (budget.after calls).ceiling = budget.ceiling := by
  induction calls using List.reverseRecOn with
  | nil => rfl
  | append_singleton calls call ih => simp [ih]

@[simp]
theorem after_healthyWindow (budget : WriteBudget) (calls : List Call) :
    (budget.after calls).healthyWindow = budget.healthyWindow := by
  induction calls using List.reverseRecOn with
  | nil => rfl
  | append_singleton calls call ih => simp [ih]

end WriteBudget

/-- The time of the first healthy call since the last unhealthy one. -/
def firstHealthy (calls : List Call) : Option Float64 :=
  (calls.rtakeWhile (·.healthy)).head?.map (·.now)

theorem firstHealthy_concat_unhealthy (calls : List Call) (now : Float64) :
    firstHealthy (calls ++ [⟨now, false⟩]) = none := by
  simp [firstHealthy]

theorem firstHealthy_concat_healthy (calls : List Call) (now : Float64) :
    firstHealthy (calls ++ [⟨now, true⟩]) = some ((firstHealthy calls).getD now) := by
  cases hrun : calls.rtakeWhile (·.healthy) <;>
    simp [firstHealthy, hrun]

section Ramp

/-- The time that a full window takes at least, up to the error of one subtraction. A difference that
is too large for a float is infinite, and so at least every window. -/
def stride (window : Int) : ℚ :=
  min window (2 ^ binary64.maxExponent)

/-- One and the relative error of a subtraction. -/
def slack : ℚ :=
  1 + 2 ^ (-(binary64.precision : ℤ))

theorem stride_pos {window : Int} (h : 0 < window) : 0 < stride window :=
  lt_min (Int.cast_pos.mpr h) (zpow_pos two_pos _)

theorem slack_pos : 0 < slack :=
  add_pos one_pos (zpow_pos two_pos _)

/-- A window that is full for the code takes at least this time. -/
theorem stride_le {window : Int} {since now : Float64} (hwindow : 0 < window)
    (h : ((window : ℚ) : Extended) ≤ now - since) :
    stride window ≤ slack * (now.value - since.value) :=
  Format.Number.min_le_of_le_sub (Int.cast_pos.mpr hwindow) h

/-- Whether the call at a position is unhealthy and finds an expanded limit. -/
def foundExpanded (budget : WriteBudget) (calls : List Call) (i : Nat) : Bool :=
  (calls[i]?.any fun c => !c.healthy) && decide (1 < (budget.after (calls.take i)).limit)

/-- The invariant of a run with the given calls. -/
structure Ramp (fresh : WriteBudget) (calls : List Call) (budget : WriteBudget) : Prop where
  window_pos : 0 < budget.healthyWindow
  one_le : 1 ≤ budget.limit
  le_ceiling : budget.limit ≤ budget.ceiling
  idle : budget.healthySince = none → budget.limit = 1 ∧ firstHealthy calls = none
  climbing : ∀ since, budget.healthySince = some since → (∃ c ∈ calls, c.now = since) ∧
    ∃ first, firstHealthy calls = some first ∧
      ((budget.limit - 1 : Int) : ℚ) * stride budget.healthyWindow ≤
        slack * (since.value - first.value)
  counted : budget.backoffs = (List.range calls.length).countP (foundExpanded fresh calls)

/-- The calls before the last one are judged as before it was made. -/
theorem countP_foundExpanded_concat (fresh : WriteBudget) (calls : List Call) (call : Call) :
    (List.range (calls ++ [call]).length).countP (foundExpanded fresh (calls ++ [call])) =
      (List.range calls.length).countP (foundExpanded fresh calls) +
        if !call.healthy && decide (1 < (fresh.after calls).limit) then 1 else 0 := by
  have hold : ∀ i ∈ List.range calls.length,
      foundExpanded fresh (calls ++ [call]) i = foundExpanded fresh calls i := by
    intro i hi
    have hlt : i < calls.length := List.mem_range.mp hi
    simp [foundExpanded, List.getElem?_append_left hlt, List.take_append_of_le_length hlt.le]
  rw [List.length_append, List.length_singleton, List.range_succ, List.countP_append,
    List.countP_congr fun i hi => by rw [hold i hi]]
  simp [foundExpanded, List.countP_cons]

/-- A fresh budget has the invariant of the empty run. -/
theorem Ramp.init {ceiling window : Int} (hceiling : 1 ≤ ceiling) (hwindow : 0 < window) :
    Ramp (WriteBudget.init ceiling window) [] (WriteBudget.init ceiling window) where
  window_pos := hwindow
  one_le := le_refl 1
  le_ceiling := hceiling
  idle := fun _ => ⟨rfl, rfl⟩
  climbing := fun _ h => by simp [WriteBudget.init] at h
  counted := rfl

/-- A call keeps the invariant. -/
theorem Ramp.update {fresh : WriteBudget} {calls : List Call}
    (h : Ramp fresh calls (fresh.after calls)) (call : Call) :
    Ramp fresh (calls ++ [call]) (fresh.after (calls ++ [call])) := by
  obtain ⟨now, healthy⟩ := call
  have hcount := countP_foundExpanded_concat fresh calls ⟨now, healthy⟩
  rw [WriteBudget.after_concat]
  generalize hbudget : fresh.after calls = budget at h hcount ⊢
  have hcounted := h.counted
  obtain ⟨rfl, heq⟩ | ⟨rfl, hnone, heq⟩ | ⟨since, rfl, hsince, helapsed, heq⟩ |
    ⟨since, rfl, hsince, heq⟩ := budget.update_cases now healthy
  · -- an unhealthy call ends the ramp
    rw [heq]
    constructor
    · exact h.window_pos
    · exact le_refl 1
    · exact h.one_le.trans h.le_ceiling
    · intro _
      exact ⟨rfl, firstHealthy_concat_unhealthy calls now⟩
    · intro since hsince
      cases hsince
    · rw [hcount, ← hcounted]
      by_cases hexpanded : 1 < budget.limit <;> simp [hexpanded]
  · -- the first healthy call starts the window
    obtain ⟨hlimit, hfirst⟩ := h.idle hnone
    rw [heq]
    constructor
    · exact h.window_pos
    · exact h.one_le
    · exact h.le_ceiling
    · intro hsome
      cases hsome
    · intro since hsince
      obtain rfl : now = since := Option.some.inj hsince
      refine ⟨⟨_, List.mem_append_right _ (List.mem_singleton_self _), rfl⟩, now, ?_, ?_⟩
      · rw [firstHealthy_concat_healthy, hfirst]
        rfl
      · simp [hlimit]
    · rw [hcount, ← hcounted]
      simp
  · -- a full window has passed: the limit rises and the window starts again
    obtain ⟨-, first, hfirst, hbound⟩ := h.climbing since hsince
    rw [heq]
    constructor
    · exact h.window_pos
    · have hone := h.one_le
      exact le_min (hone.trans h.le_ceiling) (by omega)
    · exact min_le_left _ _
    · intro hsome
      cases hsome
    · intro since' hsince'
      obtain rfl : now = since' := Option.some.inj hsince'
      refine ⟨⟨_, List.mem_append_right _ (List.mem_singleton_self _), rfl⟩, first, ?_, ?_⟩
      · rw [firstHealthy_concat_healthy, hfirst]
        rfl
      · have hle : ((min budget.ceiling (budget.limit + 1) - 1 : Int) : ℚ) ≤
            ((budget.limit - 1 : Int) : ℚ) + 1 := by
          exact_mod_cast (by omega : min budget.ceiling (budget.limit + 1) - 1 ≤ budget.limit - 1 + 1)
        have hwindow := stride_pos h.window_pos
        calc ((min budget.ceiling (budget.limit + 1) - 1 : Int) : ℚ) * stride budget.healthyWindow
            ≤ (((budget.limit - 1 : Int) : ℚ) + 1) * stride budget.healthyWindow :=
              mul_le_mul_of_nonneg_right hle hwindow.le
          _ = ((budget.limit - 1 : Int) : ℚ) * stride budget.healthyWindow +
              stride budget.healthyWindow := by ring
          _ ≤ slack * (since.value - first.value) + slack * (now.value - since.value) :=
              add_le_add hbound (stride_le h.window_pos helapsed)
          _ = slack * (now.value - first.value) := by ring
    · rw [hcount, ← hcounted]
      simp
  · -- inside a window nothing changes
    obtain ⟨⟨c, hc, hnow⟩, first, hfirst, hbound⟩ := h.climbing since hsince
    rw [heq]
    constructor
    · exact h.window_pos
    · exact h.one_le
    · exact h.le_ceiling
    · intro hnone
      rw [hsince] at hnone
      cases hnone
    · intro since' hsince'
      obtain rfl : since = since' := Option.some.inj (hsince.symm.trans hsince')
      refine ⟨⟨c, List.mem_append_left _ hc, hnow⟩, first, ?_, hbound⟩
      rw [firstHealthy_concat_healthy, hfirst]
      rfl
    · rw [hcount, ← hcounted]
      simp

/-- Every run of a fresh budget has the invariant. -/
theorem ramp_after {ceiling window : Int} (hceiling : 1 ≤ ceiling) (hwindow : 0 < window)
    (calls : List Call) :
    Ramp (WriteBudget.init ceiling window) calls
      ((WriteBudget.init ceiling window).after calls) := by
  induction calls using List.reverseRecOn with
  | nil => exact Ramp.init hceiling hwindow
  | append_singleton calls call ih => exact ih.update call

/-- After a healthy call the limit has risen by at most the full windows since the first healthy call
of the run. The clock matters here only: `healthy_since` lies before the last call. -/
theorem Ramp.limit_le_floor {fresh budget : WriteBudget} {calls : List Call} {since now : Float64}
    (h : Ramp fresh calls budget) (hsince : budget.healthySince = some since)
    (hclock : ∀ c ∈ calls, c.now ≤ now) :
    ∃ first, firstHealthy calls = some first ∧
      budget.limit - 1 ≤ ⌊slack * (now.value - first.value) / stride budget.healthyWindow⌋ := by
  obtain ⟨⟨c, hc, rfl⟩, first, hfirst, hbound⟩ := h.climbing since hsince
  have hnow : c.now.value - first.value ≤ now.value - first.value :=
    sub_le_sub_right (Format.Number.le_def.mp (hclock c hc)) _
  refine ⟨first, hfirst, Int.le_floor.mpr ?_⟩
  rw [le_div_iff₀ (stride_pos h.window_pos)]
  exact hbound.trans (mul_le_mul_of_nonneg_left hnow slack_pos.le)

/-- Ramp bound of the write budget, at the last of any sequence of calls with a clock that does not
run backwards: the returned limit lies between one and the ceiling, is one after an unhealthy call,
rises by at most one, exceeds one by no more than the full windows since the first healthy call of the
unbroken run, each shorter by the error of a subtraction at most, and `backoffs` counts the unhealthy
calls that found an expanded limit. -/
theorem budget_ramp_bound (ceiling window : Int) (earlier : List Call) (call : Call)
    (hceiling : 1 ≤ ceiling) (hwindow : 0 < window)
    (hclock : (earlier ++ [call]).Pairwise fun c d => c.now ≤ d.now) :
    let fresh := WriteBudget.init ceiling window
    let before := fresh.after earlier
    let budget := before.update call.now call.healthy
    (1 ≤ budget.limit ∧ budget.limit ≤ ceiling) ∧
    (call.healthy = false → budget.limit = 1) ∧
    budget.limit ≤ before.limit + 1 ∧
    (call.healthy = true → ∃ first, firstHealthy (earlier ++ [call]) = some first ∧
      budget.limit - 1 ≤ ⌊slack * (call.now.value - first.value) / stride window⌋) ∧
    budget.backoffs =
      (List.range (earlier ++ [call]).length).countP (foundExpanded fresh (earlier ++ [call])) := by
  intro fresh before budget
  have hbefore : Ramp fresh earlier before := ramp_after hceiling hwindow earlier
  -- the invariant of the ramp before and after the call
  have hramp : Ramp fresh (earlier ++ [call]) budget := by
    have hupdate := hbefore.update call
    rwa [WriteBudget.after_concat] at hupdate
  have hceiling' : budget.ceiling = ceiling := by simp [budget, before, fresh, WriteBudget.init]
  have hwindow' : budget.healthyWindow = window := by simp [budget, before, fresh, WriteBudget.init]
  refine ⟨⟨hramp.one_le, hceiling' ▸ hramp.le_ceiling⟩, ?_, ?_, ?_, hramp.counted⟩
  · intro hunhealthy
    simp only [budget, hunhealthy]
    rfl
  · exact before.update_limit_le call.now call.healthy hbefore.one_le
  · intro hhealthy
    -- after a healthy call a window is open
    obtain ⟨since, hsince⟩ : ∃ since, budget.healthySince = some since := by
      simp only [budget, hhealthy]
      exact before.update_healthySince call.now
    have hlast : ∀ c ∈ earlier ++ [call], c.now ≤ call.now := by
      intro c hc
      obtain hc | hc := List.mem_append.mp hc
      · exact (List.pairwise_append.mp hclock).2.2 c hc call (List.mem_singleton_self call)
      · rw [List.mem_singleton.mp hc]
    rw [← hwindow']
    exact hramp.limit_le_floor hsince hlast

/-! Two readings whose difference rounds up. -/

namespace RoundedWindow

/-- The float `0.2`. -/
def opened : Float64 :=
  ⟨3602879701896397 / 2 ^ 54, by decide +kernel, by decide +kernel⟩

/-- The float `300.2`. -/
def closed : Float64 :=
  ⟨5281174250533683 / 2 ^ 44, by decide +kernel, by decide +kernel⟩

end RoundedWindow

/-- The code sees the window of 300 seconds full at the second reading, and the limit has risen by one.
The bound of the ramp holds. -/
theorem budget_ramp_bound_rounded :
    (((WriteBudget.init 2 300).after [⟨RoundedWindow.opened, true⟩]).update
      RoundedWindow.closed true).limit = 2 ∧
    ∃ first, firstHealthy ([⟨RoundedWindow.opened, true⟩] ++ [⟨RoundedWindow.closed, true⟩]) =
      some first ∧
      (((WriteBudget.init 2 300).after [⟨RoundedWindow.opened, true⟩]).update
          RoundedWindow.closed true).limit - 1 ≤
        ⌊slack * (RoundedWindow.closed.value - first.value) / stride 300⌋ :=
  ⟨by decide +kernel, (budget_ramp_bound 2 300 [⟨RoundedWindow.opened, true⟩]
    ⟨RoundedWindow.closed, true⟩ (by decide) (by decide) (by decide +kernel)).2.2.2.1 rfl⟩

/-- The exact difference is less than the window, so no full window has passed. -/
theorem full_window_by_rounding :
    ([⟨RoundedWindow.opened, true⟩, ⟨RoundedWindow.closed, true⟩] : List Call).Pairwise
      (fun c d => c.now ≤ d.now) ∧
    firstHealthy [⟨RoundedWindow.opened, true⟩, ⟨RoundedWindow.closed, true⟩] =
      some RoundedWindow.opened ∧
    ¬ ((WriteBudget.init 2 300).after
        [⟨RoundedWindow.opened, true⟩, ⟨RoundedWindow.closed, true⟩]).limit - 1 ≤
      ⌊(RoundedWindow.closed.value - RoundedWindow.opened.value) / 300⌋ :=
  ⟨by decide +kernel, by decide +kernel, by decide +kernel⟩

end Ramp

end StorageNode.Admission
