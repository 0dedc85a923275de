import StorageNode.History.State

/-!
# What the operations of the history do

An operation raises where a value of the file does not convert, and otherwise its effect is given by a
function of the state (`finishActive_ok`, `start_ok_idle`, `start_ok_active`, `certifyIndexes_ok`). All
counters of an operation are bumped together (`bumpAll`).
-/

set_option autoImplicit false

namespace StorageNode.GenerationHistory

open StorageNode.Json
open StorageNode.Json.Value (get? getD put get?_put)
open StorageNode.Config (bind_eq_ok)

section

variable {env : Interpreter}

theorem convert_ok {α : Type} {x : Except IntError α} {a : α} : convert x = .ok a ↔ x = .ok a := by
  cases x with
  | error e => simp [convert]
  | ok b => simp [convert]

/-! ## Counters -/

/-- `int(counters.get(name, 0))` does not raise. -/
def Countable (env : Interpreter) (counters : List (String × Value)) (name : String) : Prop :=
  ∃ n, (getD counters name (.int 0)).toInt env.conv = .ok n

/-- The number under a name, zero where there is none. -/
def count (env : Interpreter) (counters : List (String × Value)) (name : String) : Int :=
  match (getD counters name (.int 0)).toInt env.conv with
  | .ok n => n
  | .error _ => 0

/-- One more under a name. -/
def bump (env : Interpreter) (counters : List (String × Value)) (name : String) :
    List (String × Value) :=
  put counters name (.int (count env counters name + 1))

def bumpAll (env : Interpreter) (counters : List (String × Value)) (names : List String) :
    List (String × Value) :=
  names.foldl (bump env) counters

theorem countable_bump {counters : List (String × Value)} {name other : String}
    (h : Countable env counters name) :
    Countable env (bump env counters name) other ↔ Countable env counters other := by
  rw [Countable, getD, bump, get?_put]
  by_cases hname : other = name
  · rw [if_pos hname, hname]
    exact iff_of_true ⟨_, rfl⟩ h
  · rw [if_neg hname]
    rfl

theorem countable_bumpAll {counters : List (String × Value)} {names : List String} {other : String}
    (h : ∀ name ∈ names, Countable env counters name) :
    Countable env (bumpAll env counters names) other ↔ Countable env counters other := by
  induction names generalizing counters with
  | nil => rfl
  | cons name names ih =>
    have hname := h name List.mem_cons_self
    have hrest : ∀ n ∈ names, Countable env (bump env counters name) n := by
      intro n hn
      exact (countable_bump hname).mpr (h n (List.mem_cons_of_mem _ hn))
    exact (ih hrest).trans (countable_bump hname)

theorem increment_ok {name : String} {s s' : State} :
    increment env name s = .ok s' ↔
      Countable env s.counters name ∧ s' = { s with counters := bump env s.counters name } := by
  rw [increment, bind_eq_ok]
  constructor
  · rintro ⟨n, hn, h⟩
    rw [convert_ok] at hn
    injection h with h
    rw [bump, count, hn]
    exact ⟨⟨n, hn⟩, h.symm⟩
  · rintro ⟨⟨n, hn⟩, rfl⟩
    refine ⟨n, convert_ok.mpr hn, ?_⟩
    rw [bump, count, hn]
    rfl

/-! ## The end of a generation -/

/-- The counters of an outcome. -/
def Outcome.counted (outcome : Outcome) : List String :=
  ["generations_completed_total", s!"cause:{outcome.cause}",
    if outcome.cleanShutdown then "clean_shutdowns_total" else "unclean_shutdowns_total",
    if outcome.fenceVerified then "verified_fences_total" else "unverified_fences_total"]

/-- The record that ends the active generation. -/
def State.closing (env : Interpreter) (outcome : Outcome) (endedAt startedAt : Number) (s : State) :
    List (String × Value) :=
  closedRecord env (s.active.getD []) outcome endedAt startedAt

/-- The state when the active generation has ended. -/
def State.closed (env : Interpreter) (outcome : Outcome) (endedAt startedAt : Number) (s : State) :
    State :=
  let record := s.closing env outcome endedAt startedAt
  { s with
    history := lastEntries maxHistory (s.history ++ [.object record])
    active := none
    counters := bumpAll env s.counters outcome.counted
    indexesCertified := outcome.cleanShutdown && s.indexesCertified
    certificationReason :=
      if outcome.cleanShutdown then s.certificationReason
      else .str (distrustReason env record outcome)
    certifiedAt := if outcome.cleanShutdown then s.certifiedAt else .float zero }

/-- The start of the active generation, as `_finish_active` reads it. -/
def State.startedAt (env : Interpreter) (endedAt : Number) (s : State) : Except IntError Number :=
  toFloat env (getD (s.active.getD []) "started_at" (.float endedAt))

theorem countShutdown_ok {record : List (String × Value)} {outcome : Outcome} {s s' : State} :
    countShutdown env record outcome s = .ok s' ↔
      Countable env s.counters (if outcome.cleanShutdown then "clean_shutdowns_total"
        else "unclean_shutdowns_total") ∧
      s' = { s with
        counters := bump env s.counters (if outcome.cleanShutdown then "clean_shutdowns_total"
          else "unclean_shutdowns_total")
        indexesCertified := outcome.cleanShutdown && s.indexesCertified
        certificationReason :=
          if outcome.cleanShutdown then s.certificationReason
          else .str (distrustReason env record outcome)
        certifiedAt := if outcome.cleanShutdown then s.certifiedAt else .float zero } := by
  rw [countShutdown]
  cases outcome.cleanShutdown with
  | true => exact increment_ok
  | false =>
    simp only [Bool.false_eq_true, if_false, Bool.false_and, bind_eq_ok, increment_ok]
    constructor
    · rintro ⟨_, ⟨hcount, rfl⟩, h⟩
      injection h with h
      exact ⟨hcount, h.symm⟩
    · rintro ⟨hcount, rfl⟩
      exact ⟨_, ⟨hcount, rfl⟩, rfl⟩

/-- `_finish_active` raises exactly where the start of the generation or one of the counters does not
convert. -/
theorem finishActive_ok {outcome : Outcome} {endedAt : Number} {s s' : State} :
    finishActive env outcome endedAt s = .ok s' ↔
      (∀ name ∈ outcome.counted, Countable env s.counters name) ∧
      ∃ startedAt, s.startedAt env endedAt = .ok startedAt ∧
        s' = s.closed env outcome endedAt startedAt := by
  have hlast : ∀ r : State, (if outcome.fenceVerified then increment env "verified_fences_total" r
      else increment env "unverified_fences_total" r) =
      increment env (if outcome.fenceVerified then "verified_fences_total"
        else "unverified_fences_total") r := by
    intro r
    split <;> rfl
  rw [finishActive, bind_eq_ok]
  simp only [hlast, bind_eq_ok, increment_ok, countShutdown_ok, convert_ok]
  constructor
  · rintro ⟨startedAt, hstarted, _, ⟨h₁, rfl⟩, _, ⟨h₂, rfl⟩, _, ⟨h₃, rfl⟩, h₄, rfl⟩
    -- each counter is tested after the counters before it were bumped
    have h₄ := (countable_bump h₃).mp h₄
    have h₄ := (countable_bump h₁).mp ((countable_bump h₂).mp h₄)
    have h₃ := (countable_bump h₁).mp ((countable_bump h₂).mp h₃)
    have h₂ := (countable_bump h₁).mp h₂
    refine ⟨?_, startedAt, hstarted, rfl⟩
    simp only [Outcome.counted, List.forall_mem_cons, List.not_mem_nil, false_implies, implies_true,
      and_true]
    exact ⟨h₁, h₂, h₃, h₄⟩
  · rintro ⟨hcounted, startedAt, hstarted, rfl⟩
    simp only [Outcome.counted, List.forall_mem_cons, List.not_mem_nil, false_implies, implies_true,
      and_true] at hcounted
    obtain ⟨h₁, h₂, h₃, h₄⟩ := hcounted
    have h₂ := (countable_bump h₁).mpr h₂
    have h₃ := (countable_bump h₂).mpr ((countable_bump h₁).mpr h₃)
    have h₄ := (countable_bump h₂).mpr ((countable_bump h₁).mpr h₄)
    have h₄ := (countable_bump h₃).mpr h₄
    exact ⟨startedAt, hstarted, _, ⟨h₁, rfl⟩, _, ⟨h₂, rfl⟩, _, ⟨h₃, rfl⟩, h₄, rfl⟩

end

/-! ## Counting -/

section

variable (env : Interpreter) (counters : List (String × Value))

theorem count_bump (name other : String) : count env (bump env counters name) other =
    count env counters other + if name = other then 1 else 0 := by
  rw [count, bump, getD, Value.get?_put]
  by_cases h : other = name
  · rw [if_pos h, if_pos h.symm, h]
    rfl
  · rw [if_neg h, if_neg (Ne.symm h), Int.add_zero]
    rfl

theorem count_bump_of_ne {name other : String} (h : name ≠ other) :
    count env (bump env counters name) other = count env counters other := by
  rw [count_bump, if_neg h, Int.add_zero]

theorem count_bumpAll (names : List String) (other : String) :
    count env (bumpAll env counters names) other =
      count env counters other + (names.count other : Int) := by
  induction names generalizing counters with
  | nil => simp [bumpAll]
  | cons name names ih =>
    change count env (bumpAll env (bump env counters name) names) other = _
    rw [ih, count_bump, List.count_cons]
    by_cases h : name = other
    · simp only [h, if_true, beq_self_eq_true]
      omega
    · simp [h]

end

/-- The name of the counter of a cause. -/
def isCause (name : String) : Bool := "cause:".toList.isPrefixOf name.toList

theorem isCause_cause (cause : String) : isCause s!"cause:{cause}" = true := by
  have hname : (s!"cause:{cause}").toList = "cause:".toList ++ cause.toList := by
    simp [toString, String.toList_append]
  rw [isCause, hname, List.isPrefixOf_iff_prefix]
  exact List.prefix_append _ _

/-- How often an outcome counts under a name that is not a cause. -/
theorem Outcome.count_counted (outcome : Outcome) {name : String} (h : isCause name = false) :
    outcome.counted.count name = ["generations_completed_total",
      if outcome.cleanShutdown then "clean_shutdowns_total" else "unclean_shutdowns_total",
      if outcome.fenceVerified then "verified_fences_total"
        else "unverified_fences_total"].count name := by
  have hcause : (s!"cause:{outcome.cause}" == name) = false := by
    rw [beq_eq_false_iff_ne]
    rintro rfl
    rw [isCause_cause] at h
    cases h
  simp only [Outcome.counted, List.count_cons, hcause]
  rfl

/-- How often an outcome counts under each fixed name. -/
theorem Outcome.count_fixed (outcome : Outcome) :
    outcome.counted.count "generations_created_total" = 0 ∧
    outcome.counted.count "generations_completed_total" = 1 ∧
    outcome.counted.count "clean_shutdowns_total" = (if outcome.cleanShutdown then 1 else 0) ∧
    outcome.counted.count "unclean_shutdowns_total" = (if !outcome.cleanShutdown then 1 else 0) ∧
    outcome.counted.count "verified_fences_total" = (if outcome.fenceVerified then 1 else 0) ∧
    outcome.counted.count "unverified_fences_total" = (if !outcome.fenceVerified then 1 else 0) := by
  rw [outcome.count_counted (by decide), outcome.count_counted (by decide),
    outcome.count_counted (by decide), outcome.count_counted (by decide),
    outcome.count_counted (by decide), outcome.count_counted (by decide)]
  cases outcome.cleanShutdown <;> cases outcome.fenceVerified <;> decide

/-- No outcome counts twice under a name. -/
theorem Outcome.nodup_counted (outcome : Outcome) : outcome.counted.Nodup := by
  have hcause : ∀ name, isCause name = false → s!"cause:{outcome.cause}" ≠ name := by
    rintro name hname rfl
    rw [isCause_cause] at hname
    cases hname
  rw [Outcome.counted]
  generalize s!"cause:{outcome.cause}" = cause at hcause
  cases outcome.cleanShutdown <;> cases outcome.fenceVerified <;> simp <;>
    exact ⟨(hcause _ (by decide)).symm, hcause _ (by decide), hcause _ (by decide)⟩

section

variable {env : Interpreter}

/-! ## The operations -/

/-- The state when a generation has been recorded as active. -/
def State.opened (env : Interpreter) (generation : Int) (transport mode : String)
    (startedAt : Number) (s : State) : State :=
  { s with
    counters := bump env s.counters "generations_created_total"
    active := some [("generation", .int generation), ("transport", .str transport),
      ("mode", .str mode), ("started_at", .float startedAt)] }

/-- The state when the indexes have been certified. -/
def State.certified (env : Interpreter) (reason : String) (now : Number) (s : State) : State :=
  { s with
    counters := bump env s.counters "index_certifications_total"
    indexesCertified := true
    certificationReason := .str reason
    certifiedAt := .float now }

theorem finish_idle {outcome : Outcome} {endedAt : Number} {s : State} (h : s.active = none) :
    finish env outcome endedAt s = .ok (s, false) := by
  rw [finish, h]
  rfl

theorem finish_ok {outcome : Outcome} {endedAt : Number} {s : State} {r : State × Bool}
    (h : s.active ≠ none) : finish env outcome endedAt s = .ok r ↔
      finishActive env outcome endedAt s = .ok r.1 ∧ r.2 = true := by
  obtain ⟨active, hactive⟩ := Option.ne_none_iff_exists'.mp h
  rw [finish, hactive]
  simp only [bind_eq_ok, pure, Except.pure, Except.ok.injEq]
  constructor
  · rintro ⟨s', hs', rfl⟩
    exact ⟨hs', rfl⟩
  · rintro ⟨hs', hpersisted⟩
    exact ⟨r.1, hs', Prod.ext rfl hpersisted.symm⟩

theorem opening_ok {generation : Int} {transport mode : String} {startedAt : Number} {s : State}
    {r : State × Bool} :
    ((do
      let s ← increment env "generations_created_total" s
      pure ({ s with active := some [("generation", .int generation), ("transport", .str transport),
        ("mode", .str mode), ("started_at", .float startedAt)] }, true)) : Result) = .ok r ↔
      Countable env s.counters "generations_created_total" ∧
        r = (s.opened env generation transport mode startedAt, true) := by
  simp only [bind_eq_ok, increment_ok, pure, Except.pure, Except.ok.injEq]
  constructor
  · rintro ⟨_, ⟨hcount, rfl⟩, rfl⟩
    exact ⟨hcount, rfl⟩
  · rintro ⟨hcount, rfl⟩
    exact ⟨_, ⟨hcount, rfl⟩, rfl⟩

theorem start_ok_idle {generation : Int} {transport mode : String} {endedAt startedAt : Number}
    {s : State} {r : State × Bool} (h : s.active = none) :
    start env generation transport mode endedAt startedAt s = .ok r ↔
      Countable env s.counters "generations_created_total" ∧
        r = (s.opened env generation transport mode startedAt, true) := by
  rw [start, h]
  exact opening_ok

/-- A generation that is still active is closed first. -/
theorem start_ok_active {generation : Int} {transport mode : String} {endedAt startedAt : Number}
    {s : State} {r : State × Bool} (h : s.active ≠ none) :
    start env generation transport mode endedAt startedAt s = .ok r ↔
      ∃ s', finishActive env superseded endedAt s = .ok s' ∧
        Countable env s'.counters "generations_created_total" ∧
        r = (s'.opened env generation transport mode startedAt, true) := by
  rw [start, if_pos (Option.isSome_iff_ne_none.mpr h), bind_eq_ok]
  simp only [opening_ok]

theorem certifyIndexes_ok {reason : String} {now : Number} {s : State} {r : State × Bool} :
    certifyIndexes env reason now s = .ok r ↔
      Countable env s.counters "index_certifications_total" ∧
        r = (s.certified env reason now, true) := by
  simp only [certifyIndexes, bind_eq_ok, increment_ok, pure, Except.pure, Except.ok.injEq]
  constructor
  · rintro ⟨_, ⟨hcount, rfl⟩, rfl⟩
    exact ⟨hcount, rfl⟩
  · rintro ⟨hcount, rfl⟩
    exact ⟨_, ⟨hcount, rfl⟩, rfl⟩

theorem snapshot_ok {s : State} : (∃ view, snapshot env s = .ok view) ↔
    ∃ x, toFloat env s.certifiedAt = .ok x := by
  simp only [snapshot, bind_eq_ok, convert_ok, pure, Except.pure, Except.ok.injEq]
  constructor
  · rintro ⟨_, x, hx, -⟩
    exact ⟨x, hx⟩
  · rintro ⟨x, hx⟩
    exact ⟨_, x, hx, rfl⟩

end

end StorageNode.GenerationHistory
