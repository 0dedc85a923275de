import StorageNode.History.Survival

/-!
# The history and its file

A process holds the state in memory and replaces the file as a whole. What `json.dump` has written
`json.loads` reads back, so that the file of a run is the last document that was persisted. A loaded
state that is written and loaded again is the same state (`load_payload`).

`Performed` lists what a call can do. In a `World`, a call may fail to reach the file, and a new process
may take over at any time with what the file holds.
-/

set_option autoImplicit false

namespace StorageNode.GenerationHistory

open StorageNode.Json
open StorageNode.Json.Value (get? getD put get?_append_singleton)

/-! ## Writing and loading -/

/-- A file that holds a document, or no file. -/
def readingOf : Option Value → Reading
  | none => .missing
  | some document => .loaded (.ok document)

/-- `_load` gives every state a version, and no operation removes it. -/
def State.Versioned (s : State) : Prop := (get? s.others "version").isSome = true

theorem versioned_fromMembers (members : List (String × Value)) (readable : Bool) :
    (fromMembers members readable).Versioned := by
  change (get? (otherMembers members) "version").isSome = true
  rw [otherMembers]
  split
  · rw [Value.get?_put_self]
    rfl
  · rename_i h
    cases hversion : get? (members.filter fun m => m.1 ∉ fieldNames) "version" with
    | none => exact absurd (by rw [hversion]; rfl) h
    | some v => rfl

theorem versioned_load {reading : Reading} {s : State} (h : load reading = .ok s) : s.Versioned := by
  match reading with
  | .missing | .failed | .loaded (.error .malformed) | .loaded (.ok .null)
  | .loaded (.ok (.bool _)) | .loaded (.ok (.int _)) | .loaded (.ok (.float _))
  | .loaded (.ok (.str _)) | .loaded (.ok (.array _)) | .loaded (.ok (.object _)) =>
    cases h
    exact versioned_fromMembers _ _
  | .notUtf8 | .loaded (.error .beyondLimits) => cases h

/-- The members that `payload` puts behind the others. -/
def State.fields (s : State) : List (String × Value) :=
  [("counters", .object s.counters), ("history", .array s.history),
    ("active", (s.active.map Value.object).getD .null),
    ("indexes_certified", .bool s.indexesCertified),
    ("index_certification_reason", s.certificationReason),
    ("index_certified_at", s.certifiedAt)]

/-- A field that operations read is never among the other members. -/
theorem get?_fields (s : State) {name : String} {v : Value} (h : get? s.fields name = some v) :
    get? (s.others ++ s.fields) name = some v := by
  have happend : ∀ fields : List (String × Value), get? fields name = some v →
      get? (s.others ++ fields) name = some v := by
    intro fields
    induction fields using List.reverseRecOn with
    | nil =>
      intro h
      cases h
    | append_singleton fields m ih =>
      intro h
      rw [← List.append_assoc, get?_append_singleton]
      rw [get?_append_singleton] at h
      split at h
      · rw [if_pos ‹_›, h]
      · rw [if_neg ‹_›, ih h]
  exact happend s.fields h

theorem otherMembers_payload {s : State} (h : s.Versioned) :
    otherMembers (s.others ++ s.fields) = s.others := by
  have hothers : s.others.filter (fun m => m.1 ∉ fieldNames) = s.others := by
    apply List.filter_eq_self.mpr
    intro m hm
    exact decide_eq_true (s.others_unread m hm)
  have hfields : s.fields.filter (fun m => m.1 ∉ fieldNames) = [] := by
    apply List.filter_eq_nil_iff.mpr
    intro m hm
    simp only [State.fields, List.mem_cons, List.not_mem_nil, or_false] at hm
    obtain rfl | rfl | rfl | rfl | rfl | rfl := hm <;> simp [fieldNames]
  rw [otherMembers, List.filter_append, hothers, hfields, List.append_nil, if_neg]
  rw [State.Versioned, Option.isSome_iff_ne_none] at h
  rw [Option.isNone_iff_eq_none]
  exact h

/-- What is persisted is loaded again as it was. -/
theorem load_payload {s : State} (h : s.Versioned) : load (readingOf (some s.payload)) = .ok s := by
  have hcounters : countersField (s.others ++ s.fields) = some s.counters := by
    rw [countersField, get?_fields s rfl]
  have hhistory : historyField (s.others ++ s.fields) = some s.history := by
    rw [historyField, get?_fields s rfl]
  have hactive : activeField (s.others ++ s.fields) = some s.active := by
    rw [activeField, get?_fields s rfl]
    cases s.active <;> rfl
  have hcertified : certifiedField (s.others ++ s.fields) = some s.indexesCertified := by
    rw [certifiedField, get?_fields s rfl]
  have htyped : wellTyped (s.others ++ s.fields) = true := by
    rw [wellTyped, hcounters, hhistory, hactive, hcertified]
    rfl
  have hreason : getD (s.others ++ s.fields) "index_certification_reason"
      (.str "no unclean generation recorded") = s.certificationReason := by
    rw [getD, get?_fields s rfl]
    rfl
  have hat : getD (s.others ++ s.fields) "index_certified_at" (.float zero) = s.certifiedAt := by
    rw [getD, get?_fields s rfl]
    rfl
  change Except.ok (fromMembers (s.others ++ s.fields) true) = .ok s
  simp only [fromMembers, htyped, hcounters, hhistory, hactive, hcertified, hreason, hat,
    otherMembers_payload h, Option.getD_some, Bool.and_self, Bool.true_and, if_true]

/-! ## What a call does -/

/-- A generation that has ended. -/
structure Completed where
  record : List (String × Value)
  outcome : Outcome

/-- The active generation, if there is one, as it ends with an outcome. -/
def ending (env : Interpreter) (outcome : Outcome) (endedAt : Number) (s : State) : List Completed :=
  match s.active, s.startedAt env endedAt with
  | some _, .ok startedAt => [⟨s.closing env outcome endedAt startedAt, outcome⟩]
  | _, _ => []

/-- The generations that a call ends. -/
def Operation.ends (env : Interpreter) : Operation → State → List Completed
  | .recoverInterruptedActive endedAt, s => ending env interrupted endedAt s
  | .start _ _ _ endedAt _, s => ending env superseded endedAt s
  | .finish outcome endedAt, s => ending env outcome endedAt s
  | .certifyIndexes _ _, _ | .snapshot, _ => []

theorem ending_idle {env : Interpreter} {outcome : Outcome} {endedAt : Number} {s : State}
    (h : s.active = none) : ending env outcome endedAt s = [] := by
  rw [ending, h]

theorem ending_active {env : Interpreter} {outcome : Outcome} {endedAt startedAt : Number} {s : State}
    (h : s.active ≠ none) (hstarted : s.startedAt env endedAt = .ok startedAt) :
    ending env outcome endedAt s = [⟨s.closing env outcome endedAt startedAt, outcome⟩] := by
  obtain ⟨active, hactive⟩ := Option.ne_none_iff_exists'.mp h
  rw [ending, hstarted, hactive]

/-- The effects of a call: the new state with whether it was persisted, and the generations that
ended. -/
inductive Performed (env : Interpreter) (s : State) :
    Operation → State × Bool → List Completed → Prop
  | idle {operation : Operation} : Performed env s operation (s, false) []
  | closed {operation : Operation} (outcome : Outcome) (endedAt startedAt : Number)
      (hactive : s.active ≠ none) (hfinish : operation = .finish outcome endedAt ∨
        outcome = interrupted ∧ operation = .recoverInterruptedActive endedAt) :
      Performed env s operation (s.closed env outcome endedAt startedAt, true)
        [⟨s.closing env outcome endedAt startedAt, outcome⟩]
  | opened (generation : Int) (transport mode : String) (endedAt startedAt : Number)
      (hactive : s.active = none) :
      Performed env s (.start generation transport mode endedAt startedAt)
        (s.opened env generation transport mode startedAt, true) []
  | replaced (generation : Int) (transport mode : String) (endedAt startedAt began : Number)
      (hactive : s.active ≠ none) :
      Performed env s (.start generation transport mode endedAt startedAt)
        ((s.closed env superseded endedAt began).opened env generation transport mode startedAt, true)
        [⟨s.closing env superseded endedAt began, superseded⟩]
  | certified (reason : String) (now : Number) :
      Performed env s (.certifyIndexes reason now) (s.certified env reason now, true) []

theorem performed_finish {env : Interpreter} {s : State} {operation : Operation} {outcome : Outcome}
    {endedAt : Number} {r : State × Bool} (h : finish env outcome endedAt s = .ok r)
    (hfinish : operation = .finish outcome endedAt ∨
      outcome = interrupted ∧ operation = .recoverInterruptedActive endedAt) :
    Performed env s operation r (ending env outcome endedAt s) := by
  by_cases hactive : s.active = none
  · rw [finish_idle hactive] at h
    cases h
    rw [ending_idle hactive]
    exact .idle
  · obtain ⟨state, persisted⟩ := r
    obtain ⟨hr, rfl⟩ := (finish_ok hactive).mp h
    obtain ⟨-, startedAt, hstarted, rfl⟩ := finishActive_ok.mp hr
    rw [ending_active hactive hstarted]
    exact .closed outcome endedAt startedAt hactive hfinish

theorem performed {env : Interpreter} {s : State} {operation : Operation} {r : State × Bool}
    (h : operation.perform env s = .ok r) :
    Performed env s operation r (operation.ends env s) := by
  cases operation with
  | recoverInterruptedActive endedAt => exact performed_finish h (.inr ⟨rfl, rfl⟩)
  | start generation transport mode endedAt startedAt =>
    by_cases hactive : s.active = none
    · obtain ⟨-, rfl⟩ := (start_ok_idle hactive).mp h
      rw [Operation.ends, ending_idle hactive]
      exact .opened _ _ _ _ _ hactive
    · obtain ⟨s', hs', -, rfl⟩ := (start_ok_active hactive).mp h
      obtain ⟨-, began, hbegan, rfl⟩ := finishActive_ok.mp hs'
      rw [Operation.ends, ending_active hactive hbegan]
      exact .replaced _ _ _ _ _ began hactive
  | finish outcome endedAt => exact performed_finish h (.inl rfl)
  | certifyIndexes reason now =>
    obtain ⟨-, rfl⟩ := certifyIndexes_ok.mp h
    exact .certified reason now
  | snapshot =>
    obtain ⟨view, -, hr⟩ := StorageNode.Config.bind_eq_ok.mp h
    cases hr
    exact .idle

theorem Performed.versioned {env : Interpreter} {s : State} {operation : Operation}
    {r : State × Bool} {ended : List Completed} (h : Performed env s operation r ended)
    (hs : s.Versioned) : r.1.Versioned := by
  cases h <;> exact hs

end StorageNode.GenerationHistory
