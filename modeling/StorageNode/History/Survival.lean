import StorageNode.History.Effects

/-!
# Damaged history files

A history file may hold anything. What the loader does not look at (counters, the start of the active
generation, the time of the certification) is converted by later operations, and counters grow until the
interpreter does not write them any more. So a file survives a number of generations exactly when it
decodes, these values convert, and the counters have room (`damaged_history_survives_iff`). The trust in
the indexes is never taken from a damaged file.

The argument goes through the state after loading: no operation raises in a state that is `Ready` for
some more starts and certifications, every operation leads to a ready state, and a state that is not
ready has a sequence of operations that raises.
-/

set_option autoImplicit false

namespace StorageNode.GenerationHistory

open StorageNode.Json
open StorageNode.Json.Value (get? getD Dumpable dumpable_object dumpable_array)
open StorageNode.Config (bind_eq_ok)

/-- A sequence of calls, which ends at the first one that raises. -/
def run (env : Interpreter) : List Operation → State → Except HistoryError State
  | [], s => pure s
  | operation :: rest, s => do
    let r ← operation.call env s
    run env rest r.1

def Operation.isStart : Operation → Bool
  | .start _ _ _ _ _ => true
  | _ => false

def Operation.isCertification : Operation → Bool
  | .certifyIndexes _ _ => true
  | _ => false

/-- The number of a generation that is started can be written. -/
def Operation.numbered : Operation → Bool
  | .start generation _ _ _ _ => withinDigits generation
  | _ => true

/-- At most so many starts and certifications, and any number of other calls. -/
structure Within (starts certifications : Nat) (operations : List Operation) : Prop where
  starts : operations.countP Operation.isStart ≤ starts
  certifications : operations.countP Operation.isCertification ≤ certifications
  numbered : ∀ operation ∈ operations, operation.numbered = true

/-- No sequence of calls with so many starts and certifications raises. -/
def State.Survives (env : Interpreter) (n : Nat) (s : State) : Prop :=
  ∀ operations, Within n n operations → ∃ s', run env operations s = .ok s'

/-- The history can be constructed and no such sequence of calls raises. -/
def Survives (env : Interpreter) (n : Nat) (reading : Reading) : Prop :=
  ∃ s, load reading = .ok s ∧ s.Survives env n

/-- The trust in the indexes comes from no file, or from a well-typed one that does not deny it. -/
def TrustFounded (reading : Reading) : Prop :=
  ∀ s, load reading = .ok s → s.indexesCertified = true →
    reading = .missing ∨ ∃ members, reading = .loaded (.ok (.object members)) ∧
      wellTyped members = true ∧
      (get? members "indexes_certified" = none ∨
        get? members "indexes_certified" = some (.bool true))

/-! ## What converts -/

/-- The counters with fixed names. -/
def counterNames : List String :=
  ["generations_created_total", "index_certifications_total", "generations_completed_total",
    "clean_shutdowns_total", "unclean_shutdowns_total", "verified_fences_total",
    "unverified_fences_total"]

/-- The names that an operation may increment. -/
def Counted (name : String) : Prop :=
  name ∈ counterNames ∨ ∃ cause : String, name = s!"cause:{cause}"

/-- The values inside a document that operations convert. -/
structure Convertible (env : Interpreter) (members : List (String × Value)) : Prop where
  counters : ∀ counters name v, get? members "counters" = some (.object counters) → Counted name →
    get? counters name = some v → ∃ n, v.toInt env.conv = .ok n
  startedAt : ∀ active v, get? members "active" = some (.object active) →
    get? active "started_at" = some v → ∃ x, toFloat env v = .ok x
  certifiedAt : ∀ v, wellTyped members = true → get? members "index_certified_at" = some v →
    ∃ x, toFloat env v = .ok x

/-- A counter can be written after each of `k` more increments. -/
def Room (env : Interpreter) (counters : List (String × Value)) (name : String) (k : Nat) : Prop :=
  ∀ i, 0 < i → i ≤ k → withinDigits (count env counters name + i) = true

/-- The counters of a document have room for `n` more starts and certifications. A generation that is
active ends before them. -/
structure Roomy (env : Interpreter) (members : List (String × Value)) (n : Nat) : Prop where
  created : Room env ((countersField members).getD []) "generations_created_total" n
  certified : Room env ((countersField members).getD []) "index_certifications_total" n
  ended : ∀ outcome : Outcome, ∀ name ∈ outcome.counted,
    Room env ((countersField members).getD []) name
      (n + if ((activeField members).getD none).isSome then 1 else 0)

/-- A reading that is decoded, whose values convert where it is an object, and whose counters have
room. -/
def Reading.Usable (env : Interpreter) (n : Nat) : Reading → Prop
  | .notUtf8 | .loaded (.error .beyondLimits) => False
  | .loaded (.ok (.object members)) => Convertible env members ∧ Roomy env members n
  | _ => Roomy env [] n

/-- The same for a state. -/
structure State.Sound (env : Interpreter) (s : State) : Prop where
  counters : ∀ name, Counted name → Countable env s.counters name
  startedAt : ∀ active v, s.active = some active → get? active "started_at" = some v →
    ∃ x, toFloat env v = .ok x
  certifiedAt : ∃ x, toFloat env s.certifiedAt = .ok x

section

variable {env : Interpreter}

theorem countable_iff {counters : List (String × Value)} {name : String} :
    Countable env counters name ↔
      ∀ v, get? counters name = some v → ∃ n, v.toInt env.conv = .ok n := by
  rw [Countable, getD]
  cases get? counters name with
  | none => exact iff_of_true ⟨0, rfl⟩ fun v hv => by cases hv
  | some v =>
    constructor
    · intro h v' hv'
      cases hv'
      exact h
    · intro h
      exact h v rfl

theorem startedAt_ok {endedAt : Number} {s : State} :
    (∃ x, s.startedAt env endedAt = .ok x) ↔
      ∀ v, get? (s.active.getD []) "started_at" = some v → ∃ x, toFloat env v = .ok x := by
  rw [State.startedAt, getD]
  cases get? (s.active.getD []) "started_at" with
  | none => exact iff_of_true ⟨endedAt, rfl⟩ fun v hv => by cases hv
  | some v =>
    constructor
    · intro h v' hv'
      cases hv'
      exact h
    · intro h
      exact h v rfl

theorem Outcome.counted_counted (outcome : Outcome) : ∀ name ∈ outcome.counted, Counted name := by
  intro name hname
  simp only [Outcome.counted, List.mem_cons, List.not_mem_nil, or_false] at hname
  obtain rfl | rfl | rfl | rfl := hname
  · exact .inl (by decide)
  · exact .inr ⟨_, rfl⟩
  · cases outcome.cleanShutdown <;> exact .inl (by decide)
  · cases outcome.fenceVerified <;> exact .inl (by decide)

/-! ## Sound states are kept -/

theorem State.Sound.finishActive {s : State} (h : s.Sound env) (outcome : Outcome)
    (endedAt : Number) :
    ∃ s', finishActive env outcome endedAt s = .ok s' ∧ s'.Sound env := by
  have hcounted := fun name hname => h.counters name (outcome.counted_counted name hname)
  have hstarted : ∃ x, s.startedAt env endedAt = .ok x := by
    apply startedAt_ok.mpr
    intro v hv
    cases hactive : s.active with
    | none =>
      rw [hactive] at hv
      cases hv
    | some active =>
      rw [hactive] at hv
      exact h.startedAt active v hactive hv
  obtain ⟨startedAt, hstarted⟩ := hstarted
  refine ⟨_, finishActive_ok.mpr ⟨hcounted, startedAt, hstarted, rfl⟩, ?_, ?_, ?_⟩
  · intro name hname
    exact (countable_bumpAll hcounted).mpr (h.counters name hname)
  · intro active v hactive
    cases hactive
  · change ∃ x, toFloat env (if outcome.cleanShutdown then s.certifiedAt else .float zero) = .ok x
    cases outcome.cleanShutdown with
    | true => exact h.certifiedAt
    | false => exact ⟨zero, rfl⟩

theorem State.Sound.opened {s : State} (h : s.Sound env) (generation : Int)
    (transport mode : String) (startedAt : Number) :
    (s.opened env generation transport mode startedAt).Sound env := by
  refine ⟨?_, ?_, h.certifiedAt⟩
  · intro name hname
    exact (countable_bump (h.counters _ (.inl (by decide)))).mpr (h.counters name hname)
  · intro active v hactive hv
    cases hactive
    have hstarted : get? [("generation", .int generation), ("transport", .str transport),
        ("mode", .str mode), ("started_at", .float startedAt)] "started_at" =
        some (.float startedAt) := rfl
    rw [hstarted] at hv
    cases hv
    exact ⟨startedAt, rfl⟩

theorem State.Sound.certified {s : State} (h : s.Sound env) (reason : String) (now : Number) :
    (s.certified env reason now).Sound env := by
  refine ⟨?_, h.startedAt, now, rfl⟩
  intro name hname
  exact (countable_bump (h.counters _ (.inl (by decide)))).mpr (h.counters name hname)

theorem State.Sound.finish {s : State} (h : s.Sound env) (outcome : Outcome) (endedAt : Number) :
    ∃ r, finish env outcome endedAt s = .ok r ∧ r.1.Sound env := by
  by_cases hactive : s.active = none
  · exact ⟨_, finish_idle hactive, h⟩
  · obtain ⟨s', hs', hsound⟩ := h.finishActive outcome endedAt
    exact ⟨(s', true), (finish_ok hactive).mpr ⟨hs', rfl⟩, hsound⟩

theorem State.Sound.start {s : State} (h : s.Sound env) (generation : Int)
    (transport mode : String) (endedAt startedAt : Number) :
    ∃ r, start env generation transport mode endedAt startedAt s = .ok r ∧ r.1.Sound env := by
  have hcreated : Counted "generations_created_total" := .inl (by decide)
  by_cases hactive : s.active = none
  · exact ⟨_, (start_ok_idle hactive).mpr ⟨h.counters _ hcreated, rfl⟩, h.opened _ _ _ _⟩
  · obtain ⟨s', hs', hsound⟩ := h.finishActive superseded endedAt
    exact ⟨_, (start_ok_active hactive).mpr ⟨s', hs', hsound.counters _ hcreated, rfl⟩,
      hsound.opened _ _ _ _⟩

/-- No call raises in a sound state before it persists, and the next state is sound. -/
theorem State.Sound.perform {s : State} (h : s.Sound env) (operation : Operation) :
    ∃ r, operation.perform env s = .ok r ∧ r.1.Sound env := by
  cases operation with
  | recoverInterruptedActive endedAt => exact h.finish interrupted endedAt
  | start generation transport mode endedAt startedAt => exact h.start _ _ _ _ _
  | finish outcome endedAt => exact h.finish outcome endedAt
  | certifyIndexes reason now =>
    exact ⟨_, certifyIndexes_ok.mpr ⟨h.counters _ (.inl (by decide)), rfl⟩, h.certified _ _⟩
  | snapshot =>
    obtain ⟨view, hview⟩ := snapshot_ok.mpr h.certifiedAt
    exact ⟨(s, false), bind_eq_ok.mpr ⟨view, hview, rfl⟩, h⟩

/-! ## Counters with room -/

theorem Room.mono {counters : List (String × Value)} {name : String} {k l : Nat}
    (h : Room env counters name l) (hkl : k ≤ l) : Room env counters name k :=
  fun i hpos hi => h i hpos (hi.trans hkl)

theorem Room.next {counters : List (String × Value)} {name : String} {k : Nat}
    (h : Room env counters name (k + 1)) : withinDigits (count env counters name + 1) = true :=
  h 1 Nat.one_pos (Nat.le_add_left 1 k)

/-- An increment takes at most one place. -/
theorem Room.bumpAll {counters : List (String × Value)} {names : List String} {name : String}
    {k : Nat} (hnames : names.Nodup) (h : Room env counters name (k + 1)) :
    Room env (bumpAll env counters names) name k := by
  intro i hpos hi
  have hcount := List.nodup_iff_count_le_one.mp hnames name
  rw [count_bumpAll, add_assoc, ← Nat.cast_add]
  exact h _ (by omega) (by omega)

theorem Room.bumpAll_of_not_mem {counters : List (String × Value)} {names : List String}
    {name : String} {k : Nat} (hname : name ∉ names) (h : Room env counters name k) :
    Room env (GenerationHistory.bumpAll env counters names) name k := by
  intro i hpos hi
  rw [count_bumpAll, List.count_eq_zero.mpr hname, Nat.cast_zero, add_zero]
  exact h i hpos hi

theorem dumpable_bumpAll {counters : List (String × Value)} {names : List String}
    (hnames : names.Nodup) (h : Dumpable counters)
    (hroom : ∀ name ∈ names, withinDigits (count env counters name + 1) = true) :
    Dumpable (bumpAll env counters names) := by
  induction names generalizing counters with
  | nil => exact h
  | cons name names ih =>
    obtain ⟨hnew, hrest⟩ := List.nodup_cons.mp hnames
    refine ih hrest (h.put (hroom name List.mem_cons_self)) fun other hother => ?_
    have hne : name ≠ other := fun heq => hnew (heq ▸ hother)
    rw [count_bump_of_ne env counters hne]
    exact hroom other (List.mem_cons_of_mem _ hother)

/-! ## States that can be written -/

/-- Every part of a state can be written. -/
structure State.Writable (s : State) : Prop where
  others : Dumpable s.others
  counters : Dumpable s.counters
  history : ∀ v ∈ s.history, v.dumpable = true
  active : ∀ active, s.active = some active → Dumpable active
  reason : s.certificationReason.dumpable = true
  certifiedAt : s.certifiedAt.dumpable = true

theorem State.writable_iff {s : State} : s.payload.dumpable = true ↔ s.Writable := by
  rw [State.payload, dumpable_object]
  constructor
  · intro h
    -- the fields that `_persist` writes itself stand behind the members that it keeps
    have hfield := fun name v hm => h (name, v) (List.mem_append_right _ hm)
    refine ⟨fun m hm => h m (List.mem_append_left _ hm), ?_, ?_, ?_, ?_, ?_⟩
    · exact dumpable_object.mp (hfield "counters" _ (by simp))
    · exact dumpable_array.mp (hfield "history" _ (by simp))
    · intro active hactive
      have hdumpable := hfield "active" ((s.active.map Value.object).getD .null) (by simp)
      rw [hactive] at hdumpable
      exact dumpable_object.mp hdumpable
    · exact hfield "index_certification_reason" _ (by simp)
    · exact hfield "index_certified_at" _ (by simp)
  · intro h m hm
    obtain hm | hm := List.mem_append.mp hm
    · exact h.others m hm
    · simp only [List.mem_cons, List.not_mem_nil, or_false] at hm
      obtain rfl | rfl | rfl | rfl | rfl | rfl := hm
      · exact dumpable_object.mpr h.counters
      · exact dumpable_array.mpr h.history
      · cases hactive : s.active with
        | none => rfl
        | some active => exact dumpable_object.mpr (h.active active hactive)
      · rfl
      · exact h.reason
      · exact h.certifiedAt

theorem State.Writable.closed {s : State} (h : s.Writable) (outcome : Outcome)
    (endedAt startedAt : Number)
    (hroom : ∀ name ∈ outcome.counted, withinDigits (count env s.counters name + 1) = true) :
    (s.closed env outcome endedAt startedAt).Writable := by
  have hactive : Dumpable (s.active.getD []) := by
    cases hactive : s.active with
    | none => exact fun m hm => absurd hm List.not_mem_nil
    | some active => exact h.active active hactive
  -- the seven members that the end adds are texts, floats and booleans
  have hrecord : Dumpable (s.closing env outcome endedAt startedAt) := by
    apply hactive.update
    intro m hm
    simp only [List.mem_cons, List.not_mem_nil, or_false] at hm
    obtain rfl | rfl | rfl | rfl | rfl | rfl | rfl := hm <;> rfl
  refine ⟨h.others, dumpable_bumpAll outcome.nodup_counted h.counters hroom, ?_, ?_, ?_, ?_⟩
  · intro v hv
    obtain hv | hv := List.mem_append.mp (List.mem_of_mem_drop hv)
    · exact h.history v hv
    · rw [List.mem_singleton.mp hv]
      exact dumpable_object.mpr hrecord
  · intro active hnone
    cases hnone
  · change (if outcome.cleanShutdown then s.certificationReason else .str _).dumpable = true
    cases outcome.cleanShutdown
    · rfl
    · exact h.reason
  · change (if outcome.cleanShutdown then s.certifiedAt else .float zero).dumpable = true
    cases outcome.cleanShutdown
    · rfl
    · exact h.certifiedAt

theorem State.Writable.opened {s : State} (h : s.Writable) {generation : Int}
    (hgeneration : withinDigits generation = true) (transport mode : String) (startedAt : Number)
    (hroom : withinDigits (count env s.counters "generations_created_total" + 1) = true) :
    (s.opened env generation transport mode startedAt).Writable := by
  refine ⟨h.others, h.counters.put hroom, h.history, ?_, h.reason, h.certifiedAt⟩
  intro active hactive m hm
  cases hactive
  simp only [List.mem_cons, List.not_mem_nil, or_false] at hm
  obtain rfl | rfl | rfl | rfl := hm
  · exact hgeneration
  all_goals rfl

theorem State.Writable.certified {s : State} (h : s.Writable) (reason : String) (now : Number)
    (hroom : withinDigits (count env s.counters "index_certifications_total" + 1) = true) :
    (s.certified env reason now).Writable :=
  ⟨h.others, h.counters.put hroom, h.history, h.active, rfl, rfl⟩

/-! ## Ready states are kept -/

/-- No call raises in the state, for so many more starts and certifications. -/
structure State.Ready (env : Interpreter) (starts certifications : Nat) (s : State) : Prop where
  sound : s.Sound env
  writable : s.Writable
  created : Room env s.counters "generations_created_total" starts
  certified : Room env s.counters "index_certifications_total" certifications
  ended : ∀ outcome : Outcome, ∀ name ∈ outcome.counted,
    Room env s.counters name (starts + if s.active.isSome then 1 else 0)

theorem Outcome.created_not_counted (outcome : Outcome) :
    "generations_created_total" ∉ outcome.counted :=
  List.count_eq_zero.mp outcome.count_fixed.1

theorem Outcome.certification_not_counted (outcome : Outcome) :
    "index_certifications_total" ∉ outcome.counted := by
  rw [← List.count_eq_zero, outcome.count_counted (by decide)]
  cases outcome.cleanShutdown <;> cases outcome.fenceVerified <;> decide

variable {starts certifications : Nat}

/-- The end of the active generation takes the place that it had. -/
theorem State.Ready.closed {s : State} (h : s.Ready env starts certifications)
    (hactive : s.active ≠ none) (outcome : Outcome) {endedAt startedAt : Number}
    (hsound : (s.closed env outcome endedAt startedAt).Sound env) :
    (s.closed env outcome endedAt startedAt).Ready env starts certifications := by
  have hended : ∀ outcome : Outcome, ∀ name ∈ outcome.counted,
      Room env s.counters name (starts + 1) := by
    intro outcome name hname
    have hroom := h.ended outcome name hname
    rwa [if_pos (Option.isSome_iff_ne_none.mpr hactive)] at hroom
  refine ⟨hsound, ?_, ?_, ?_, ?_⟩
  · exact h.writable.closed outcome endedAt startedAt fun name hname => (hended outcome name hname).next
  · exact h.created.bumpAll_of_not_mem outcome.created_not_counted
  · exact h.certified.bumpAll_of_not_mem outcome.certification_not_counted
  · intro other name hname
    exact (hended other name hname).bumpAll outcome.nodup_counted

/-- A start takes one place, which the generation keeps for its end. -/
theorem State.Ready.opened {s : State} (h : s.Ready env (starts + 1) certifications)
    (hactive : s.active = none) {generation : Int} (hgeneration : withinDigits generation = true)
    (transport mode : String) (startedAt : Number) :
    (s.opened env generation transport mode startedAt).Ready env starts certifications := by
  have hbumped : (s.opened env generation transport mode startedAt).counters =
      bumpAll env s.counters ["generations_created_total"] := rfl
  refine ⟨h.sound.opened generation transport mode startedAt,
    h.writable.opened hgeneration transport mode startedAt h.created.next, ?_, ?_, ?_⟩
  · rw [hbumped]
    exact h.created.bumpAll (List.nodup_singleton _)
  · rw [hbumped]
    exact h.certified.bumpAll_of_not_mem (by decide)
  · intro outcome name hname
    have hroom := h.ended outcome name hname
    rw [hactive] at hroom
    rw [hbumped]
    apply hroom.bumpAll_of_not_mem
    intro hcreated
    rw [List.mem_singleton.mp hcreated] at hname
    exact outcome.created_not_counted hname

theorem State.Ready.certify {s : State} (h : s.Ready env starts (certifications + 1))
    (reason : String) (now : Number) :
    (s.certified env reason now).Ready env starts certifications := by
  have hbumped : (s.certified env reason now).counters =
      bumpAll env s.counters ["index_certifications_total"] := rfl
  refine ⟨h.sound.certified reason now, h.writable.certified reason now h.certified.next, ?_, ?_, ?_⟩
  · rw [hbumped]
    exact h.created.bumpAll_of_not_mem (by decide)
  · rw [hbumped]
    exact h.certified.bumpAll (List.nodup_singleton _)
  · intro outcome name hname
    rw [hbumped]
    refine (h.ended outcome name hname).bumpAll_of_not_mem fun hcertified => ?_
    rw [List.mem_singleton.mp hcertified] at hname
    exact outcome.certification_not_counted hname

theorem call_ok {operation : Operation} {s : State} {r : State × Bool} :
    operation.call env s = .ok r ↔
      operation.perform env s = .ok r ∧ (r.2 = true → r.1.Writable) := by
  have hpersist : ∀ r' : State × Bool,
      persist r' = .ok r ↔ r' = r ∧ (r'.2 = true → r'.1.Writable) := by
    intro r'
    rw [← State.writable_iff, persist]
    cases r'.2 <;> cases r'.1.payload.dumpable <;> simp [pure, Except.pure]
  rw [Operation.call, bind_eq_ok]
  simp only [hpersist]
  constructor
  · rintro ⟨r', hperform, rfl, hwritable⟩
    exact ⟨hperform, hwritable⟩
  · rintro ⟨hperform, hwritable⟩
    exact ⟨r, hperform, rfl, hwritable⟩

theorem State.Ready.finish {s : State} (h : s.Ready env starts certifications) (outcome : Outcome)
    (endedAt : Number) :
    ∃ r, finish env outcome endedAt s = .ok r ∧ r.1.Ready env starts certifications := by
  by_cases hactive : s.active = none
  · exact ⟨_, finish_idle hactive, h⟩
  · obtain ⟨s', hs', hsound⟩ := h.sound.finishActive outcome endedAt
    refine ⟨(s', true), (finish_ok hactive).mpr ⟨hs', rfl⟩, ?_⟩
    obtain ⟨-, startedAt, -, rfl⟩ := finishActive_ok.mp hs'
    exact h.closed hactive outcome hsound

theorem State.Ready.start {s : State} (h : s.Ready env (starts + 1) certifications)
    {generation : Int} (hgeneration : withinDigits generation = true) (transport mode : String)
    (endedAt startedAt : Number) :
    ∃ r, start env generation transport mode endedAt startedAt s = .ok r ∧
      r.1.Ready env starts certifications := by
  have hcreated : Counted "generations_created_total" := .inl (by decide)
  by_cases hactive : s.active = none
  · exact ⟨_, (start_ok_idle hactive).mpr ⟨h.sound.counters _ hcreated, rfl⟩,
      h.opened hactive hgeneration _ _ _⟩
  · obtain ⟨s', hs', hsound⟩ := h.sound.finishActive superseded endedAt
    refine ⟨_, (start_ok_active hactive).mpr ⟨s', hs', hsound.counters _ hcreated, rfl⟩, ?_⟩
    obtain ⟨-, began, -, rfl⟩ := finishActive_ok.mp hs'
    exact (h.closed hactive superseded hsound).opened rfl hgeneration _ _ _

/-- A call in a ready state does not raise, and the next state is ready for what is left. -/
theorem State.Ready.call {s : State} {operation : Operation}
    (h : s.Ready env (starts + if operation.isStart then 1 else 0)
      (certifications + if operation.isCertification then 1 else 0))
    (hnumbered : operation.numbered = true) :
    ∃ r, operation.call env s = .ok r ∧ r.1.Ready env starts certifications := by
  have hperform : ∃ r, operation.perform env s = .ok r ∧ r.1.Ready env starts certifications := by
    cases operation with
    | recoverInterruptedActive endedAt => exact h.finish interrupted endedAt
    | start generation transport mode endedAt startedAt => exact h.start hnumbered _ _ _ _
    | finish outcome endedAt => exact h.finish outcome endedAt
    | certifyIndexes reason now =>
      exact ⟨_, certifyIndexes_ok.mpr ⟨h.sound.counters _ (.inl (by decide)), rfl⟩, h.certify _ _⟩
    | snapshot =>
      obtain ⟨view, hview⟩ := snapshot_ok.mpr h.sound.certifiedAt
      exact ⟨(s, false), bind_eq_ok.mpr ⟨view, hview, rfl⟩, h⟩
  obtain ⟨r, hr, hready⟩ := hperform
  exact ⟨r, call_ok.mpr ⟨hr, fun _ => hready.writable⟩, hready⟩

theorem State.Ready.run {s : State} (h : s.Ready env starts certifications)
    {operations : List Operation} (hwithin : Within starts certifications operations) :
    ∃ s', run env operations s = .ok s' := by
  induction operations generalizing s starts certifications with
  | nil => exact ⟨s, rfl⟩
  | cons operation rest ih =>
    obtain ⟨hstarts, hcertifications, hnumbered⟩ := hwithin
    rw [List.countP_cons] at hstarts hcertifications
    -- what the first call leaves to the others
    obtain ⟨a, rfl⟩ := Nat.exists_eq_add_of_le' ((Nat.le_add_left _ _).trans hstarts)
    obtain ⟨c, rfl⟩ := Nat.exists_eq_add_of_le' ((Nat.le_add_left _ _).trans hcertifications)
    obtain ⟨r, hr, hready⟩ := h.call (hnumbered _ List.mem_cons_self)
    obtain ⟨s', hs'⟩ := ih hready ⟨by omega, by omega,
      fun x hx => hnumbered x (List.mem_cons_of_mem _ hx)⟩
    exact ⟨s', bind_eq_ok.mpr ⟨r, hr, hs'⟩⟩

/-! ## States that are not ready -/

/-- A start that does not raise leaves an active generation and keeps what converts. -/
theorem start_countable {generation : Int} {transport mode : String} {endedAt startedAt : Number}
    {s : State} {r : State × Bool}
    (h : start env generation transport mode endedAt startedAt s = .ok r) :
    r.1.active ≠ none ∧ Countable env s.counters "generations_created_total" ∧
      ∀ name, Countable env r.1.counters name ↔ Countable env s.counters name := by
  by_cases hactive : s.active = none
  · obtain ⟨hcreated, rfl⟩ := (start_ok_idle hactive).mp h
    exact ⟨Option.some_ne_none _, hcreated, fun name => countable_bump hcreated⟩
  · obtain ⟨s', hs', hcreated, rfl⟩ := (start_ok_active hactive).mp h
    obtain ⟨hcounted, startedAt, -, rfl⟩ := finishActive_ok.mp hs'
    have hcreated' := (countable_bumpAll hcounted).mp hcreated
    exact ⟨Option.some_ne_none _, hcreated',
      fun name => (countable_bump hcreated).trans (countable_bumpAll hcounted)⟩

theorem run_cons {operation : Operation} {rest : List Operation} {s s' : State} :
    run env (operation :: rest) s = .ok s' ↔
      ∃ r, operation.call env s = .ok r ∧ run env rest r.1 = .ok s' :=
  bind_eq_ok

/-- A start of the first generation. -/
def startOne : Operation := .start 1 "" "" zero zero

/-- So many generations that are started and end alike. -/
def rounds (outcome : Outcome) : Nat → List Operation
  | 0 => []
  | i + 1 => startOne :: .finish outcome zero :: rounds outcome i

theorem numbered_startOne : startOne.numbered = true := by
  decide +kernel

theorem within_rounds (outcome : Outcome) (i : Nat) : Within i 0 (rounds outcome i) := by
  induction i with
  | zero => exact ⟨le_refl 0, le_refl 0, fun _ h => absurd h List.not_mem_nil⟩
  | succ i ih =>
    refine ⟨?_, ?_, ?_⟩
    · rw [rounds, List.countP_cons_of_pos (by rfl), List.countP_cons_of_neg (by simp [Operation.isStart])]
      exact Nat.succ_le_succ ih.starts
    · rw [rounds, List.countP_cons_of_neg (by simp [startOne, Operation.isCertification]),
        List.countP_cons_of_neg (by simp [Operation.isCertification])]
      exact ih.certifications
    · intro operation hoperation
      obtain rfl | hoperation := List.mem_cons.mp hoperation
      · exact numbered_startOne
      · obtain rfl | hoperation := List.mem_cons.mp hoperation
        · rfl
        · exact ih.numbered operation hoperation

theorem within_finish (outcome : Outcome) (i : Nat) :
    Within i 0 (.finish outcome zero :: rounds outcome i) := by
  obtain ⟨hstarts, hcertifications, hnumbered⟩ := within_rounds outcome i
  refine ⟨?_, ?_, ?_⟩
  · rwa [List.countP_cons_of_neg (by simp [Operation.isStart])]
  · rwa [List.countP_cons_of_neg (by simp [Operation.isCertification])]
  · intro operation hoperation
    obtain rfl | hoperation := List.mem_cons.mp hoperation
    · rfl
    · exact hnumbered operation hoperation

theorem Within.mono {a b c d : Nat} {operations : List Operation} (h : Within a b operations)
    (hac : a ≤ c) (hbd : b ≤ d) : Within c d operations :=
  ⟨h.starts.trans hac, h.certifications.trans hbd, h.numbered⟩

/-- A counter that was raised is found with its new value. -/
theorem get?_bumpAll {counters : List (String × Value)} {names : List String} {name : String}
    (hnames : names.Nodup) (hname : name ∈ names) :
    get? (bumpAll env counters names) name = some (.int (count env counters name + 1)) := by
  have hkept : ∀ (names : List String) (counters : List (String × Value)), name ∉ names →
      get? (bumpAll env counters names) name = get? counters name := by
    -- other counters do not touch this one
    intro names
    induction names with
    | nil => exact fun _ _ => rfl
    | cons other names ih =>
      intro counters hnot
      rw [List.mem_cons, not_or] at hnot
      obtain ⟨hne, hnot⟩ := hnot
      exact (ih _ hnot).trans (Value.get?_put_of_ne hne)
  induction names generalizing counters with
  | nil => exact absurd hname List.not_mem_nil
  | cons other names ih =>
    obtain ⟨hnew, hrest⟩ := List.nodup_cons.mp hnames
    obtain rfl | hname := List.mem_cons.mp hname
    · exact (hkept names _ hnew).trans Value.get?_put_self
    · have hne : other ≠ name := fun heq => hnew (heq ▸ hname)
      rw [← count_bump_of_ne env counters hne]
      exact ih hrest hname

/-- What a call has raised and written by one. -/
def Raised (env : Interpreter) (name : String) (s s' : State) : Prop :=
  count env s'.counters name = count env s.counters name + 1 ∧
    withinDigits (count env s'.counters name) = true

theorem raised_of_writable {s s' : State} (names : List String) {name : String}
    (hnames : names.Nodup) (hname : name ∈ names)
    (hcounters : s'.counters = bumpAll env s.counters names) (hwritable : s'.Writable) :
    Raised env name s s' := by
  have hfound : get? (bumpAll env s.counters names) name =
      some (.int (count env s.counters name + 1)) := get?_bumpAll hnames hname
  have hcount : count env s'.counters name = count env s.counters name + 1 := by
    rw [hcounters, count, getD, hfound]
    rfl
  rw [← hcounters] at hfound
  have hdigits := hwritable.counters.get? hfound
  exact ⟨hcount, hcount ▸ hdigits⟩

theorem raised_start {s : State} {r : State × Bool} (h : startOne.call env s = .ok r) :
    Raised env "generations_created_total" s r.1 := by
  obtain ⟨hperform, hwritable⟩ := call_ok.mp h
  by_cases hactive : s.active = none
  · obtain ⟨-, rfl⟩ := (start_ok_idle hactive).mp hperform
    exact raised_of_writable ["generations_created_total"] (List.nodup_singleton _)
      List.mem_cons_self rfl (hwritable rfl)
  · obtain ⟨s', hs', -, rfl⟩ := (start_ok_active hactive).mp hperform
    obtain ⟨-, began, -, rfl⟩ := finishActive_ok.mp hs'
    obtain ⟨hcount, hdigits⟩ : Raised env "generations_created_total"
        (s.closed env superseded zero began) _ :=
      raised_of_writable ["generations_created_total"] (List.nodup_singleton _) List.mem_cons_self
        rfl (hwritable rfl)
    -- the end of the former generation does not count as a start
    have hclosed : count env (s.closed env superseded zero began).counters
        "generations_created_total" = count env s.counters "generations_created_total" := by
      change count env (bumpAll env s.counters superseded.counted) _ = _
      rw [count_bumpAll, List.count_eq_zero.mpr superseded.created_not_counted, Nat.cast_zero,
        add_zero]
    exact ⟨hclosed ▸ hcount, hdigits⟩

theorem raised_certification {s : State} {r : State × Bool}
    (h : (Operation.certifyIndexes "" zero).call env s = .ok r) :
    Raised env "index_certifications_total" s r.1 := by
  obtain ⟨hperform, hwritable⟩ := call_ok.mp h
  obtain ⟨-, rfl⟩ := certifyIndexes_ok.mp hperform
  exact raised_of_writable ["index_certifications_total"] (List.nodup_singleton _)
    List.mem_cons_self rfl (hwritable rfl)

theorem raised_finish {s : State} {r : State × Bool} {outcome : Outcome} (hactive : s.active ≠ none)
    (h : (Operation.finish outcome zero).call env s = .ok r) :
    r.1.active = none ∧ ∀ name ∈ outcome.counted, Raised env name s r.1 := by
  obtain ⟨hperform, hwritable⟩ := call_ok.mp h
  obtain ⟨hfinish, hpersisted⟩ := (finish_ok hactive).mp hperform
  obtain ⟨-, startedAt, -, hclosed⟩ := finishActive_ok.mp hfinish
  refine ⟨by rw [hclosed]; rfl, fun name hname => ?_⟩
  exact raised_of_writable outcome.counted outcome.nodup_counted hname (by rw [hclosed]; rfl) (hwritable hpersisted)

/-- The digits that are left behind a call that raises a counter. -/
theorem Raised.digits {name : String} {s s' : State} {i : Nat} (h : Raised env name s s')
    (hrest : withinDigits (count env s'.counters name + (i + 1 : Nat)) = true) :
    withinDigits (count env s.counters name + (i + 1 + 1 : Nat)) = true := by
  rwa [h.1, add_assoc, ← Nat.cast_one, ← Nat.cast_add, Nat.add_comm 1] at hrest

/-- The digits after a single call. -/
theorem Raised.digits_one {name : String} {s s' : State} (h : Raised env name s s') :
    withinDigits (count env s.counters name + (0 + 1 : Nat)) = true := by
  have hdigits := h.2
  rwa [h.1] at hdigits

/-- Repeating a call that raises a counter. -/
theorem digits_of_replicate {operation : Operation} {name : String}
    (hraised : ∀ (s : State) (r : State × Bool), operation.call env s = .ok r →
      Raised env name s r.1) (i : Nat) :
    ∀ s : State, (∃ s', run env (List.replicate (i + 1) operation) s = .ok s') →
      withinDigits (count env s.counters name + (i + 1 : Nat)) = true := by
  induction i with
  | zero =>
    rintro s ⟨s', hrun⟩
    obtain ⟨r, hr, -⟩ := run_cons.mp hrun
    exact (hraised s r hr).digits_one
  | succ i ih =>
    rintro s ⟨s', hrun⟩
    obtain ⟨r, hr, hrest⟩ := run_cons.mp hrun
    exact (hraised s r hr).digits (ih r.1 ⟨s', hrest⟩)

/-- Repeating a whole generation. -/
theorem digits_of_rounds {outcome : Outcome} {name : String} (hname : name ∈ outcome.counted)
    (i : Nat) : ∀ s : State, s.active = none →
      (∃ s', run env (rounds outcome (i + 1)) s = .ok s') →
        withinDigits (count env s.counters name + (i + 1 : Nat)) = true := by
  have hround : ∀ (s s' : State) (rest : List Operation), s.active = none →
      run env (startOne :: .finish outcome zero :: rest) s = .ok s' →
        ∃ t : State, t.active = none ∧ Raised env name s t ∧ run env rest t = .ok s' := by
    intro s s' rest hidle hrun
    obtain ⟨r, hr, hfinish⟩ := run_cons.mp hrun
    obtain ⟨r', hr', hrest⟩ := run_cons.mp hfinish
    obtain ⟨-, rfl⟩ := (start_ok_idle hidle).mp (call_ok.mp hr).1
    obtain ⟨hdone, hraised⟩ := raised_finish (Option.some_ne_none _) hr'
    obtain ⟨hcount, hdigits⟩ := hraised name hname
    have hne : "generations_created_total" ≠ name := by
      rintro rfl
      exact outcome.created_not_counted hname
    -- a start leaves the counters of the end alone
    have hopened : count env (s.opened env 1 "" "" zero).counters name =
        count env s.counters name := count_bump_of_ne env s.counters hne
    exact ⟨r'.1, hdone, ⟨hopened ▸ hcount, hdigits⟩, hrest⟩
  induction i with
  | zero =>
    rintro s hidle ⟨s', hrun⟩
    obtain ⟨t, -, hraised, -⟩ := hround s s' _ hidle hrun
    exact hraised.digits_one
  | succ i ih =>
    rintro s hidle ⟨s', hrun⟩
    obtain ⟨t, hdone, hraised, hrest⟩ := hround s s' _ hidle hrun
    exact hraised.digits (ih t hdone ⟨s', hrest⟩)

/-- A start and a finish touch every counter of the outcome. -/
theorem State.Survives.counted {s : State} {n : Nat} (h : s.Survives env (n + 1))
    (outcome : Outcome) : ∀ name ∈ outcome.counted, Countable env s.counters name := by
  intro name hname
  obtain ⟨s', hrun⟩ := h (rounds outcome 1)
    ((within_rounds outcome 1).mono (Nat.le_add_left 1 n) (Nat.zero_le _))
  obtain ⟨r, hr, hrun⟩ := run_cons.mp hrun
  obtain ⟨r', hr', -⟩ := run_cons.mp hrun
  obtain ⟨hactive, -, hiff⟩ := start_countable (call_ok.mp hr).1
  obtain ⟨hcounted, -⟩ := finishActive_ok.mp ((finish_ok hactive).mp (call_ok.mp hr').1).1
  exact (hiff name).mp (hcounted name hname)

theorem State.Survives.sound {s : State} {n : Nat} (h : s.Survives env (n + 1)) : s.Sound env := by
  have hsingle : ∀ operation : Operation, operation.numbered = true →
      ∃ r, operation.perform env s = .ok r := by
    intro operation hnumbered
    obtain ⟨s', hrun⟩ := h [operation] ⟨List.countP_le_length.trans (Nat.le_add_left 1 n),
      List.countP_le_length.trans (Nat.le_add_left 1 n),
      fun x hx => List.mem_singleton.mp hx ▸ hnumbered⟩
    obtain ⟨r, hr, -⟩ := run_cons.mp hrun
    exact ⟨r, (call_ok.mp hr).1⟩
  refine ⟨?_, ?_, ?_⟩
  · have hclean := h.counted ⟨"", "", "", true, true⟩
    have hunclean := h.counted ⟨"", "", "", false, false⟩
    -- each of the seven names is raised by a start, a certification, a clean or an unclean end
    rintro name (hname | ⟨cause, rfl⟩)
    · simp only [counterNames, List.mem_cons, List.not_mem_nil, or_false] at hname
      obtain rfl | rfl | rfl | rfl | rfl | rfl | rfl := hname
      · obtain ⟨r, hr⟩ := hsingle startOne numbered_startOne
        exact (start_countable hr).2.1
      · obtain ⟨r, hr⟩ := hsingle (.certifyIndexes "" zero) rfl
        exact (certifyIndexes_ok.mp hr).1
      · exact hclean _ (by decide)
      · exact hclean _ (by decide)
      · exact hunclean _ (by decide)
      · exact hclean _ (by decide)
      · exact hunclean _ (by decide)
    · apply h.counted ⟨cause, "", "", true, true⟩
      exact List.mem_cons_of_mem _ List.mem_cons_self
  · intro active v hactive hv
    obtain ⟨r, hr⟩ := hsingle (.finish interrupted zero) rfl
    have hne : s.active ≠ none := by
      rw [hactive]
      exact Option.some_ne_none _
    obtain ⟨-, startedAt, hstarted, -⟩ := finishActive_ok.mp ((finish_ok hne).mp hr).1
    apply startedAt_ok.mp ⟨startedAt, hstarted⟩ v
    rwa [hactive]
  · obtain ⟨r, hr⟩ := hsingle .snapshot rfl
    obtain ⟨view, hview, -⟩ := bind_eq_ok.mp hr
    exact snapshot_ok.mp ⟨view, hview⟩

/-- A state that can be written is ready for what it survives. -/
theorem State.Survives.ready {s : State} {n : Nat} (h : s.Survives env (n + 1)) (hs : s.Writable) :
    s.Ready env (n + 1) (n + 1) := by
  have hreplicate : ∀ (operation : Operation) (i : Nat), operation.numbered = true → i ≤ n →
      ∃ s', run env (List.replicate (i + 1) operation) s = .ok s' := by
    intro operation i hnumbered hi
    have hlength : (List.replicate (i + 1) operation).length ≤ n + 1 := by
      rw [List.length_replicate]
      omega
    exact h _ ⟨List.countP_le_length.trans hlength, List.countP_le_length.trans hlength,
      fun x hx => (List.mem_replicate.mp hx).2 ▸ hnumbered⟩
  -- to see that a counter has room for `i + 1` more, run a call that raises it as often
  refine ⟨h.sound, hs, ?_, ?_, ?_⟩
  · rintro (_ | i) hpos hi
    · exact absurd hpos (lt_irrefl 0)
    · exact digits_of_replicate (fun _ _ => raised_start) i s
        (hreplicate startOne i numbered_startOne (by omega))
  · rintro (_ | i) hpos hi
    · exact absurd hpos (lt_irrefl 0)
    · exact digits_of_replicate (fun _ _ => raised_certification) i s
        (hreplicate (.certifyIndexes "" zero) i rfl (by omega))
  · intro outcome name hname
    rintro (_ | i) hpos hi
    · exact absurd hpos (lt_irrefl 0)
    · by_cases hactive : s.active = none
      · rw [hactive] at hi
        exact digits_of_rounds hname i s hactive (h (rounds outcome (i + 1))
          ((within_rounds outcome (i + 1)).mono hi (Nat.zero_le _)))
      · -- the active generation ends first
        rw [if_pos (Option.isSome_iff_ne_none.mpr hactive)] at hi
        obtain ⟨s', hrun⟩ := h (.finish outcome zero :: rounds outcome i)
          ((within_finish outcome i).mono (by omega) (Nat.zero_le _))
        obtain ⟨r, hr, hrest⟩ := run_cons.mp hrun
        obtain ⟨hdone, hraised⟩ := raised_finish hactive hr
        cases i with
        | zero => exact (hraised name hname).digits_one
        | succ i =>
          exact (hraised name hname).digits (digits_of_rounds hname i r.1 hdone ⟨s', hrest⟩)

/-! ## Loading -/

variable {members : List (String × Value)}

theorem get?_countersField {name : String} {v : Value} :
    get? ((countersField members).getD []) name = some v ↔
      ∃ counters, get? members "counters" = some (.object counters) ∧
        get? counters name = some v := by
  rw [countersField]
  split
  · rename_i habsent
    rw [habsent]
    constructor
    · intro h
      cases h
    · rintro ⟨counters, hcounters, -⟩
      cases hcounters
  · rename_i counters hfound
    simp [hfound]
  · rename_i other hother hfound
    rw [hfound]
    constructor
    · intro h
      cases h
    · rintro ⟨counters, hcounters, -⟩
      cases hcounters
      exact (hother counters rfl).elim

theorem activeField_eq_some {active : List (String × Value)} :
    (activeField members).getD none = some active ↔
      get? members "active" = some (.object active) := by
  rw [activeField]
  split
  · rename_i habsent
    simp [habsent]
  · rename_i hnull
    simp [hnull]
  · rename_i found hfound
    simp [hfound]
  · rename_i other hnull hother hfound
    rw [hfound]
    constructor
    · intro h
      cases h
    · intro h
      cases h
      exact (hother active rfl).elim

/-- A document that was read leads to a sound state exactly when its values convert. -/
theorem sound_fromMembers : (fromMembers members true).Sound env ↔ Convertible env members := by
  constructor
  · intro h
    refine ⟨?_, ?_, ?_⟩
    · intro counters name v hcounters hname hv
      apply countable_iff.mp (h.counters name hname)
      exact get?_countersField.mpr ⟨counters, hcounters, hv⟩
    · intro active v hactive
      exact h.startedAt active v (activeField_eq_some.mpr hactive)
    · intro v htyped hv
      have hat := h.certifiedAt
      simpa only [fromMembers, htyped, Bool.and_true, if_true, getD, hv, Option.getD_some] using hat
  · intro h
    refine ⟨?_, ?_, ?_⟩
    · intro name hname
      apply countable_iff.mpr
      intro v hv
      obtain ⟨counters, hcounters, hv⟩ := get?_countersField.mp hv
      exact h.counters counters name v hcounters hname hv
    · intro active v hactive
      exact h.startedAt active v (activeField_eq_some.mp hactive)
    · cases htyped : wellTyped members with
      | false =>
        simp only [fromMembers, htyped, Bool.and_false]
        exact ⟨zero, rfl⟩
      | true =>
        simp only [fromMembers, htyped, Bool.and_true, if_true, getD]
        cases hv : get? members "index_certified_at" with
        | none => exact ⟨zero, rfl⟩
        | some v => exact h.certifiedAt v htyped hv

/-- Without a document there is nothing to convert. -/
theorem sound_empty (readable : Bool) : (fromMembers [] readable).Sound env := by
  refine ⟨fun name _ => ⟨0, rfl⟩, ?_, ?_⟩
  · intro active v hactive
    cases hactive
  · cases readable <;> exact ⟨zero, rfl⟩

/-- A document without long integers leads to a state that can be written. -/
theorem writable_fromMembers (h : Dumpable members) (readable : Bool) :
    (fromMembers members readable).Writable := by
  refine ⟨?_, ?_, ?_, ?_, ?_, ?_⟩
  · change Dumpable (otherMembers members)
    rw [otherMembers]
    split
    · exact (h.filter _).put (by decide +kernel)
    · exact h.filter _
  · change Dumpable ((countersField members).getD [])
    rw [countersField]
    split
    · exact fun m hm => absurd hm List.not_mem_nil
    · rename_i counters hfound
      exact dumpable_object.mp (h.get? hfound)
    · exact fun m hm => absurd hm List.not_mem_nil
  · change ∀ v ∈ (historyField members).getD [], v.dumpable = true
    rw [historyField]
    split
    · exact fun v hv => absurd hv List.not_mem_nil
    · rename_i history hfound
      exact dumpable_array.mp (h.get? hfound)
    · exact fun v hv => absurd hv List.not_mem_nil
  · intro active hactive
    exact dumpable_object.mp (h.get? (activeField_eq_some.mp hactive))
  · change (if _ then getD members "index_certification_reason" _ else Value.str _).dumpable = true
    split
    · exact h.getD rfl
    · rfl
  · change (if _ then getD members "index_certified_at" _ else Value.float zero).dumpable = true
    split
    · exact h.getD rfl
    · rfl

theorem ready_fromMembers (h : Dumpable members) (readable : Bool) {n : Nat} :
    (fromMembers members readable).Ready env n n ↔
      (fromMembers members readable).Sound env ∧ Roomy env members n := by
  constructor
  · intro hr
    exact ⟨hr.sound, hr.created, hr.certified, hr.ended⟩
  · rintro ⟨hs, hr⟩
    exact ⟨hs, writable_fromMembers h readable, hr.created, hr.certified, hr.ended⟩

theorem survives_iff {reading : Reading} (hdump : ∀ v, reading = .loaded (.ok v) → v.dumpable = true)
    {n : Nat} : Survives env (n + 1) reading ↔ reading.Usable env (n + 1) := by
  have hready : ∀ members readable, load reading = .ok (fromMembers members readable) →
      Dumpable members → (Survives env (n + 1) reading ↔
        (fromMembers members readable).Sound env ∧ Roomy env members (n + 1)) := by
    intro members readable hs hmembers
    rw [← ready_fromMembers hmembers]
    constructor
    · rintro ⟨s', hs', hsurvives⟩
      rw [hs] at hs'
      cases hs'
      exact hsurvives.ready (writable_fromMembers hmembers readable)
    · exact fun h => ⟨_, hs, fun operations hwithin => h.run hwithin⟩
  -- without an object the state is the empty one, unless the constructor raises
  have hempty : Dumpable [] := fun m hm => absurd hm List.not_mem_nil
  have hraises : ∀ e, load reading = .error e → ¬ Survives env (n + 1) reading := by
    rintro e he ⟨s, hs, -⟩
    rw [he] at hs
    cases hs
  match reading with
  | .missing | .failed | .loaded (.error .malformed) | .loaded (.ok .null)
  | .loaded (.ok (.bool _)) | .loaded (.ok (.int _)) | .loaded (.ok (.float _))
  | .loaded (.ok (.str _)) | .loaded (.ok (.array _)) =>
    exact (hready [] _ rfl hempty).trans (and_iff_right (sound_empty _))
  | .notUtf8 | .loaded (.error .beyondLimits) => exact iff_of_false (hraises _ rfl) id
  | .loaded (.ok (.object members)) =>
    exact (hready members true rfl (dumpable_object.mp (hdump _ rfl))).trans
      (and_congr_left' sound_fromMembers)

theorem certifiedField_true (h : (certifiedField members).getD false = true) :
    get? members "indexes_certified" = none ∨
      get? members "indexes_certified" = some (.bool true) := by
  rw [certifiedField] at h
  split at h
  · rename_i habsent
    exact .inl habsent
  · rename_i certified hfound
    rw [hfound]
    exact .inr (congrArg (fun b => some (Value.bool b)) h)
  · cases h

/-- A damaged file never certifies the indexes. -/
theorem trustFounded (reading : Reading) : TrustFounded reading := by
  have hunreadable : (fromMembers [] false).indexesCertified = false := rfl
  intro s hs hcertified
  match reading with
  | .missing => exact .inl rfl
  | .failed | .loaded (.error .malformed) | .loaded (.ok .null) | .loaded (.ok (.bool _))
  | .loaded (.ok (.int _)) | .loaded (.ok (.float _)) | .loaded (.ok (.str _))
  | .loaded (.ok (.array _)) =>
    cases hs
    rw [hunreadable] at hcertified
    cases hcertified
  | .notUtf8 | .loaded (.error .beyondLimits) => cases hs
  | .loaded (.ok (.object members)) =>
    cases hs
    obtain ⟨htyped, htrue⟩ := Bool.and_eq_true_iff.mp hcertified
    exact .inr ⟨members, rfl, htyped, certifiedField_true htrue⟩

end

/-- Whatever the file holds, it is survived with the right distrust exactly when it decodes, the values
that operations convert do convert, and the counters have room. This is so for every number of starts
and certifications, and with any number of other calls between them. -/
theorem damaged_history_survives_iff (env : Interpreter) (content : Option ByteArray) (n : Nat) :
    Survives env (n + 1) (readText env content) ∧ TrustFounded (readText env content) ↔
      (readText env content).Usable env (n + 1) := by
  rw [and_iff_left (trustFounded _)]
  apply survives_iff
  intro v hv
  cases content with
  | none => cases hv
  | some bytes =>
    rw [readText] at hv
    split at hv
    · cases hv
    · rename_i text _
      exact env.loads_dumpable text v (Reading.loaded.inj hv)

/-- An interpreter that reads no document and no number. -/
def blindInterpreter : Interpreter where
  loads := fun _ => .error .malformed
  loads_dumpable := fun _ _ h => absurd h (by simp)
  conv := ⟨fun _ => none, fun _ => ""⟩
  floatOfStr := fun _ => none
  floatOfInt := fun _ => none
  elapsed := fun _ _ => zero

/-- The single byte `0xFF` is no UTF-8, and the guardian dies of it. -/
theorem invalid_byte_not_survived : readText blindInterpreter (some ⟨#[0xFF]⟩) = .notUtf8 ∧
    ∀ n, ¬ (Survives blindInterpreter n (readText blindInterpreter (some ⟨#[0xFF]⟩)) ∧
      TrustFounded (readText blindInterpreter (some ⟨#[0xFF]⟩))) := by
  have hbytes : String.fromUTF8? ⟨#[0xFF]⟩ = none := by decide
  have hreading : readText blindInterpreter (some ⟨#[0xFF]⟩) = .notUtf8 := by
    rw [readText, hbytes]
  refine ⟨hreading, fun n => ?_⟩
  rw [hreading]
  rintro ⟨⟨s, hs, -⟩, -⟩
  cases hs

end StorageNode.GenerationHistory
