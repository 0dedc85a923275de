import StorageNode.History.Persistence

/-!
# The accounts of the generations

In every run that begins without a history file, the counters of the history agree with the generations
that have ended, in memory and in the file, whatever calls are made, whichever of them fail to reach the
file, and wherever a process is cut off (`accounting_exact`).

A world carries the list of completed generations of its state and of its file. This list is bookkeeping
of the proof: a process that takes over finds the generations of the file. All equations come from how a
bump changes one counter (`count_bumpAll`) and the sum of the counters of causes (`causeTotal_bumpAll`).
-/

set_option autoImplicit false

namespace StorageNode.GenerationHistory

open StorageNode.Json
open StorageNode.Json.Value (get? getD put Distinct total weightAt total_put)

/-! ## Counting -/

section

variable (env : Interpreter) (counters : List (String × Value))

/-- The number of a member, where it is the counter of a cause. -/
def causeWeight (m : String × Value) : Int :=
  if isCause m.1 then
    match m.2.toInt env.conv with
    | .ok n => n
    | .error _ => 0
  else 0

/-- The sum of all counters of causes. -/
def causeTotal : Int := total (causeWeight env) counters

theorem weightAt_causeWeight (name : String) : weightAt (causeWeight env) counters name =
    if isCause name then count env counters name else 0 := by
  rw [weightAt, count, getD]
  cases get? counters name with
  | none => simp [Value.toInt]
  | some v => rfl

variable {counters}

theorem causeTotal_bump (h : Distinct counters) (name : String) :
    causeTotal env (bump env counters name) =
      causeTotal env counters + if isCause name then 1 else 0 := by
  rw [causeTotal, bump, total_put _ h, weightAt_causeWeight]
  by_cases hname : isCause name = true
  · simp only [causeWeight, hname, if_true, Value.toInt]
    rw [causeTotal]
    omega
  · simp [causeWeight, hname, causeTotal]

theorem distinct_bumpAll (h : Distinct counters) (names : List String) :
    Distinct (bumpAll env counters names) := by
  induction names generalizing counters with
  | nil => exact h
  | cons name names ih => exact ih h.put

theorem causeTotal_bumpAll (h : Distinct counters) (names : List String) :
    causeTotal env (bumpAll env counters names) =
      causeTotal env counters + (names.countP isCause : Int) := by
  induction names generalizing counters with
  | nil => simp [bumpAll]
  | cons name names ih =>
    change causeTotal env (bumpAll env (bump env counters name) names) = _
    have hput : Distinct (bump env counters name) := h.put
    rw [ih hput, causeTotal_bump env h, List.countP_cons]
    split
    · simp
      omega
    · simp

end

/-- An outcome counts under exactly one cause. -/
theorem Outcome.countP_counted (outcome : Outcome) : outcome.counted.countP isCause = 1 := by
  have hcompleted : isCause "generations_completed_total" = false := by decide
  have hshutdown : isCause (if outcome.cleanShutdown then "clean_shutdowns_total"
      else "unclean_shutdowns_total") = false := by
    cases outcome.cleanShutdown <;> decide
  have hfence : isCause (if outcome.fenceVerified then "verified_fences_total"
      else "unverified_fences_total") = false := by
    cases outcome.fenceVerified <;> decide
  simp [Outcome.counted, hcompleted, hshutdown, hfence, isCause_cause]

/-! ## The last entries -/

/-- Trimming after every entry is trimming at the end. -/
theorem lastEntries_append {α : Type} {n : Nat} (entries : List α) (entry : α) :
    lastEntries n (lastEntries n entries ++ [entry]) = lastEntries n (entries ++ [entry]) := by
  have hinner : lastEntries n entries ++ [entry] =
      (entries ++ [entry]).drop (entries.length - n) := by
    rw [lastEntries, List.drop_append_of_le_length (Nat.sub_le _ _)]
  rw [hinner, lastEntries, lastEntries, List.drop_drop, List.length_drop]
  congr 1
  simp only [List.length_append, List.length_singleton]
  omega

/-! ## One state -/

/-- The history and the counters of a state agree with the generations that have ended. -/
structure Exact (env : Interpreter) (s : State) (done : List Completed) : Prop where
  history : s.history = lastEntries maxHistory (done.map fun c => .object c.record)
  distinct : Distinct s.counters
  created : count env s.counters "generations_created_total" =
    done.length + if s.active.isSome then 1 else 0
  completed : count env s.counters "generations_completed_total" = done.length
  clean : count env s.counters "clean_shutdowns_total" =
    done.countP fun c => c.outcome.cleanShutdown
  unclean : count env s.counters "unclean_shutdowns_total" =
    done.countP fun c => !c.outcome.cleanShutdown
  verified : count env s.counters "verified_fences_total" =
    done.countP fun c => c.outcome.fenceVerified
  unverified : count env s.counters "unverified_fences_total" =
    done.countP fun c => !c.outcome.fenceVerified
  causes : causeTotal env s.counters = done.length

section

variable {env : Interpreter} {s : State} {done : List Completed}

theorem exact_empty : Exact env (fromMembers [] true) [] where
  history := rfl
  distinct := List.nodup_nil
  created := rfl
  completed := rfl
  clean := rfl
  unclean := rfl
  verified := rfl
  unverified := rfl
  causes := rfl

theorem Exact.closed (h : Exact env s done) (hactive : s.active ≠ none) (outcome : Outcome)
    (endedAt startedAt : Number) :
    Exact env (s.closed env outcome endedAt startedAt)
      (done ++ [⟨s.closing env outcome endedAt startedAt, outcome⟩]) := by
  -- closing a run adds each counted name once
  have hcount : ∀ name, count env (s.closed env outcome endedAt startedAt).counters name =
      count env s.counters name + (outcome.counted.count name : Int) := fun name =>
    count_bumpAll env s.counters outcome.counted name
  have hsome : s.active.isSome = true := Option.isSome_iff_ne_none.mpr hactive
  obtain ⟨hcreated, hcompleted, hclean, hunclean, hverified, hunverified⟩ := outcome.count_fixed
  constructor
  case history =>
    change lastEntries maxHistory (s.history ++ [_]) = _
    rw [h.history, List.map_append, lastEntries_append]
    rfl
  case distinct => exact distinct_bumpAll env h.distinct _
  case created =>
    rw [hcount, h.created, hcreated, hsome, List.length_append]
    simp [State.closed]
  case completed =>
    rw [hcount, h.completed, hcompleted, List.length_append]
    rfl
  case clean =>
    rw [hcount, h.clean, hclean, List.countP_append, List.countP_singleton]
    rfl
  case unclean =>
    rw [hcount, h.unclean, hunclean, List.countP_append, List.countP_singleton]
    rfl
  case verified =>
    rw [hcount, h.verified, hverified, List.countP_append, List.countP_singleton]
    rfl
  case unverified =>
    rw [hcount, h.unverified, hunverified, List.countP_append, List.countP_singleton]
    rfl
  case causes =>
    change causeTotal env (bumpAll env s.counters outcome.counted) = _
    rw [causeTotal_bumpAll env h.distinct, h.causes, outcome.countP_counted, List.length_append]
    rfl

theorem Exact.opened (h : Exact env s done) (hactive : s.active = none) (generation : Int)
    (transport mode : String) (startedAt : Number) :
    Exact env (s.opened env generation transport mode startedAt) done where
  history := h.history
  distinct := h.distinct.put
  created := by
    change count env (bump env s.counters "generations_created_total") _ = _
    rw [count_bump, h.created, hactive]
    simp [State.opened]
  completed := (count_bump_of_ne env _ (by decide)).trans h.completed
  clean := (count_bump_of_ne env _ (by decide)).trans h.clean
  unclean := (count_bump_of_ne env _ (by decide)).trans h.unclean
  verified := (count_bump_of_ne env _ (by decide)).trans h.verified
  unverified := (count_bump_of_ne env _ (by decide)).trans h.unverified
  causes := by
    change causeTotal env (bump env s.counters "generations_created_total") = _
    rw [causeTotal_bump env h.distinct, h.causes, if_neg (by decide), Int.add_zero]

theorem Exact.certified (h : Exact env s done) (reason : String) (now : Number) :
    Exact env (s.certified env reason now) done where
  history := h.history
  distinct := h.distinct.put
  created := (count_bump_of_ne env _ (by decide)).trans h.created
  completed := (count_bump_of_ne env _ (by decide)).trans h.completed
  clean := (count_bump_of_ne env _ (by decide)).trans h.clean
  unclean := (count_bump_of_ne env _ (by decide)).trans h.unclean
  verified := (count_bump_of_ne env _ (by decide)).trans h.verified
  unverified := (count_bump_of_ne env _ (by decide)).trans h.unverified
  causes := by
    change causeTotal env (bump env s.counters "index_certifications_total") = _
    rw [causeTotal_bump env h.distinct, h.causes, if_neg (by decide), Int.add_zero]

/-- Every call keeps the accounts. -/
theorem Exact.performed {operation : Operation} {r : State × Bool} {ended : List Completed}
    (h : Exact env s done) (hperformed : Performed env s operation r ended) :
    Exact env r.1 (done ++ ended) := by
  cases hperformed with
  | idle =>
    rw [List.append_nil]
    exact h
  | closed outcome endedAt startedAt hactive _ => exact h.closed hactive outcome endedAt startedAt
  | opened generation transport mode endedAt startedAt hactive =>
    rw [List.append_nil]
    exact h.opened hactive generation transport mode startedAt
  | replaced generation transport mode endedAt startedAt began hactive =>
    exact (h.closed hactive superseded endedAt began).opened rfl generation transport mode startedAt
  | certified reason now =>
    rw [List.append_nil]
    exact h.certified reason now

end

/-! ## Runs -/

/-- A process, its file, and the generations that have ended, as the process and as the file know
them. -/
structure World where
  live : State
  file : Option Value
  completed : List Completed
  saved : List Completed

/-- A process that finds no file. -/
def World.fresh : World where
  live := fromMembers [] true
  file := none
  completed := []
  saved := []

/-- One step of a run. A call that persists may fail to reach the file; where the process is cut off
between the change of its state and the replacement of the file, that step comes before a restart. -/
inductive World.Step (env : Interpreter) : World → World → Prop
  | call {w : World} (operation : Operation) {r : State × Bool} (reached : Bool)
      (h : operation.perform env w.live = .ok r) :
      Step env w
        { live := r.1
          file := if r.2 && reached then some r.1.payload else w.file
          completed := w.completed ++ operation.ends env w.live
          saved := if r.2 && reached then w.completed ++ operation.ends env w.live else w.saved }
  | restart {w : World} {s : State} (h : load (readingOf w.file) = .ok s) :
      Step env w { w with live := s, completed := w.saved }

/-- The worlds of all runs that begin without a file. -/
inductive World.Reachable (env : Interpreter) : World → Prop
  | fresh : Reachable env .fresh
  | step {w w' : World} (h : Reachable env w) (hstep : w.Step env w') : Reachable env w'

/-- What a run keeps: the accounts of the process are exact, and so are those of the file. -/
structure World.Kept (env : Interpreter) (w : World) : Prop where
  live : Exact env w.live w.completed
  versioned : w.live.Versioned
  sound : w.live.Sound env
  file : ∃ s, load (readingOf w.file) = .ok s ∧ Exact env s w.saved ∧ s.Sound env

section

variable {env : Interpreter} {w w' : World}

theorem World.kept_fresh : World.fresh.Kept env where
  live := exact_empty
  versioned := versioned_fromMembers [] true
  sound := sound_empty true
  file := ⟨_, rfl, exact_empty, sound_empty true⟩

theorem World.Kept.step (h : w.Kept env) (hstep : w.Step env w') : w'.Kept env := by
  cases hstep with
  | call operation reached hperform =>
    rename_i r
    have heffect := performed hperform
    have hlive := h.live.performed heffect
    have hversioned := heffect.versioned h.versioned
    have hsound : r.1.Sound env := by
      obtain ⟨r', hr', hsound⟩ := h.sound.perform operation
      rw [hperform] at hr'
      cases hr'
      exact hsound
    refine ⟨hlive, hversioned, hsound, ?_⟩
    by_cases hsaved : (r.2 && reached) = true
    · simp only [hsaved, if_true]
      exact ⟨r.1, load_payload hversioned, hlive, hsound⟩
    · simp only [hsaved]
      exact h.file
  | restart hload =>
    obtain ⟨s, hs, hexact, hsound⟩ := h.file
    rw [hload] at hs
    cases hs
    exact ⟨hexact, versioned_load hload, hsound, _, hload, hexact, hsound⟩

theorem World.Reachable.kept (h : w.Reachable env) : w.Kept env := by
  induction h with
  | fresh => exact kept_fresh
  | step _ hstep ih => exact ih.step hstep

/-- In a run from an empty history, no call raises before it persists, and the file can always be
loaded. -/
theorem World.Reachable.never_raises (h : w.Reachable env) :
    (∀ operation : Operation, ∃ r, operation.perform env w.live = .ok r) ∧
      ∃ s, load (readingOf w.file) = .ok s := by
  constructor
  · intro operation
    obtain ⟨r, hr, -⟩ := h.kept.sound.perform operation
    exact ⟨r, hr⟩
  · obtain ⟨s, hs, -⟩ := h.kept.file
    exact ⟨s, hs⟩

end

/-- The equations between the counters of a state. -/
structure Balanced (env : Interpreter) (s : State) (done : List Completed) : Prop where
  history : s.history = lastEntries 64 (done.map fun c => .object c.record)
  created : count env s.counters "generations_created_total" =
    count env s.counters "generations_completed_total" + if s.active.isSome then 1 else 0
  shutdowns : count env s.counters "generations_completed_total" =
    count env s.counters "clean_shutdowns_total" + count env s.counters "unclean_shutdowns_total"
  fences : count env s.counters "generations_completed_total" =
    count env s.counters "verified_fences_total" + count env s.counters "unverified_fences_total"
  causes : count env s.counters "generations_completed_total" = causeTotal env s.counters
  completed : count env s.counters "generations_completed_total" = done.length

theorem Exact.balanced {env : Interpreter} {s : State} {done : List Completed}
    (h : Exact env s done) : Balanced env s done where
  history := h.history
  created := by rw [h.created, h.completed]
  shutdowns := by
    rw [h.completed, h.clean, h.unclean,
      List.length_eq_countP_add_countP fun c : Completed => c.outcome.cleanShutdown]
    simp
  fences := by
    rw [h.completed, h.verified, h.unverified,
      List.length_eq_countP_add_countP fun c : Completed => c.outcome.fenceVerified]
    simp
  causes := by rw [h.completed, h.causes]
  completed := h.completed

/-- The accounts are exact in memory, and after any crash in what the file gives back. -/
theorem accounting_exact (env : Interpreter) {w : World} (h : w.Reachable env) :
    Balanced env w.live w.completed ∧
      ∃ s, load (readingOf w.file) = .ok s ∧ Balanced env s w.saved := by
  obtain ⟨s, hs, hexact, -⟩ := h.kept.file
  exact ⟨h.kept.live.balanced, s, hs, hexact.balanced⟩

/-- A history with one generation that is active. -/
def oneStarted : State :=
  (fromMembers [] true).opened blindInterpreter 1 "primary" "single" zero

/-- A process that has started a generation and lost the end of it on the way to the file. -/
def lostFinish : World where
  live := oneStarted.closed blindInterpreter ⟨"test", "", "", true, true⟩ zero zero
  file := some oneStarted.payload
  completed := [⟨oneStarted.closing blindInterpreter ⟨"test", "", "", true, true⟩ zero zero,
    ⟨"test", "", "", true, true⟩⟩]
  saved := []

/-- The process counts the generation as completed, the file as active. -/
theorem accounting_exact_lost_finish : lostFinish.Reachable blindInterpreter ∧
    Balanced blindInterpreter lostFinish.live lostFinish.completed ∧
    ∃ s, load (readingOf lostFinish.file) = .ok s ∧ Balanced blindInterpreter s lostFinish.saved := by
  have hstart := World.Step.call (w := .fresh) (.start 1 "primary" "single" zero zero) true
    (rfl : (Operation.start 1 "primary" "single" zero zero).perform blindInterpreter
      (fromMembers [] true) = .ok (oneStarted, true))
  have hfinish := World.Step.call
    (w := { live := oneStarted, file := some oneStarted.payload, completed := [], saved := [] })
    (.finish ⟨"test", "", "", true, true⟩ zero) false
    (rfl : (Operation.finish ⟨"test", "", "", true, true⟩ zero).perform blindInterpreter oneStarted =
      .ok (lostFinish.live, true))
  have hreachable : lostFinish.Reachable blindInterpreter :=
    (World.Reachable.fresh.step hstart).step hfinish
  exact ⟨hreachable, accounting_exact blindInterpreter hreachable⟩

end StorageNode.GenerationHistory
