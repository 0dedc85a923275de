import StorageNode.Transport.Selector
import Mathlib.Tactic.Linarith

/-!
# What the selector guarantees

`quarantine_never_bypassed` holds for all operations in any order: a selected transport is configured
and not quarantined, quarantine ends only by its clearance, and a selection that raises changes nothing
unless its choice was already stored.

The other two results are exact about what selection keeps. `selection_sticks` shows that a selected
transport stays selected as long as no other transport is recorded and it has no failure record of its
own; `request_honoured_iff` shows that an accepted request is certain to be honoured exactly when
another transport was active.
-/

set_option autoImplicit false

namespace StorageNode.Transport

variable {F α : Type}

/-! ## Operations under the lock -/

section

variable {io : Io} {file : StateFile F}
  {decision : SelectorState F → Except SelectorError (α × Option (SelectorState F))}

theorem state_of_load {s : SelectorState F} (h : file.load = .ok s) : file.state = s := by
  cases file with
  | missing => exact Except.ok.inj h
  | corrupt => exact absurd h (by simp [StateFile.load])
  | stored state => exact Except.ok.inj h

/-- An operation is refused, or decides without saving, or saves; when it saves it may still raise. -/
theorem locked_cases (io : Io) (file : StateFile F)
    (decision : SelectorState F → Except SelectorError (α × Option (SelectorState F))) :
    (∃ e, locked io file decision = (.error e, file)) ∨
    (∃ a, decision file.state = .ok (a, none) ∧ locked io file decision = (.ok a, file)) ∨
    ∃ a s r, decision file.state = .ok (a, some s) ∧
      locked io file decision = (r, .stored { s with updatedAt := io.now }) ∧
      (r = .ok a ∨ r = .error .os ∧ io.writable = false ∧ io.replaced = true) := by
  unfold locked
  split
  · next e _ => exact .inl ⟨e, rfl⟩
  · next s hs =>
      have hload : file.load = .ok s := by
        split at hs
        · exact hs
        · exact absurd hs (by simp)
      rw [state_of_load hload]
      -- the decision is made on the state that the file holds
      cases hd : decision s with
      | error e => exact .inl ⟨e, rfl⟩
      | ok result =>
          obtain ⟨a, saved⟩ := result
          cases saved with
          | none => exact .inr (.inl ⟨a, rfl, rfl⟩)
          | some s' =>
              dsimp only
              split
              · exact .inr (.inr ⟨a, s', _, rfl, rfl, .inl rfl⟩)
              · next hwritable =>
                  split
                  -- the write has failed: behind the replacement, or before it
                  · next hreplaced =>
                      exact .inr (.inr ⟨a, s', _, rfl, rfl, .inr ⟨rfl, by simpa using hwritable, hreplaced⟩⟩)
                  · exact .inl ⟨.os, rfl⟩

/-- An operation that raises has changed nothing, or has replaced the file and failed after that. -/
theorem locked_of_error {e : SelectorError} (h : (locked io file decision).1 = .error e) :
    (locked io file decision).2 = file ∨
      e = .os ∧ io.writable = false ∧ io.replaced = true ∧
        ∃ a s, decision file.state = .ok (a, some s) ∧
          (locked io file decision).2 = .stored { s with updatedAt := io.now } := by
  rcases locked_cases io file decision with
    ⟨_, heq⟩ | ⟨a, -, heq⟩ | ⟨a, s, r, hd, heq, hr⟩
  · exact .inl (by rw [heq])
  · exact .inl (by rw [heq])
  · rw [heq] at h ⊢
    rcases hr with rfl | ⟨rfl, hwritable, hreplaced⟩
    · exact absurd h (by simp)
    · obtain rfl : e = .os := by simpa using h.symm
      exact .inr ⟨rfl, hwritable, hreplaced, a, s, hd, rfl⟩

theorem decision_of_ok {a : α} (h : (locked io file decision).1 = .ok a) :
    (decision file.state = .ok (a, none) ∧ (locked io file decision).2 = file) ∨
    ∃ s, decision file.state = .ok (a, some s) ∧
      (locked io file decision).2 = .stored { s with updatedAt := io.now } := by
  rcases locked_cases io file decision with
    ⟨e, heq⟩ | ⟨b, hd, heq⟩ | ⟨b, s, r, hd, heq, hr⟩
  · rw [heq] at h
    exact absurd h (by simp)
  · rw [heq] at h
    obtain rfl := Except.ok.inj h
    exact .inl ⟨hd, by rw [heq]⟩
  · rw [heq] at h
    rcases hr with rfl | ⟨rfl, -⟩
    · obtain rfl := Except.ok.inj h
      exact .inr ⟨s, hd, by rw [heq]⟩
    · exact absurd h (by simp)

end

/-! ## What an operation can do -/

/-- The state that an operation saves, if it saves. -/
def Op.effect (cfg : FailoverConfig) (s : SelectorState F) : Op F → SelectorState F → Prop
  | .select now, s' => ∃ name, choose cfg now s = .ok (name, some s')
  | .request name, s' => cfg.contains name ∧ name ∉ s.quarantined ∧
      s' = { s with requested := if s.active = name then "" else name }
  | .quarantine name reason now, s' => s' = { s with
      quarantined := s.quarantined.insert name ⟨now, (reason.take 1000).toString⟩
      startupVerificationFingerprint := none }
  | .clearQuarantine name, s' => s' = { s with
      quarantined := s.quarantined.erase name
      startupVerificationFingerprint := none }
  | .recordFailure name reason now, s' => cfg.contains name ∧ s' = { s with
      failed := s.failed.insert name ⟨now, (reason.take 1000).toString⟩
      active := name }
  | .recordSuccess name now, s' => s' = { s with
      failed := s.failed.erase name
      active := name
      lastSuccessAt := now }
  | .recordStartupVerification fingerprint transports now, s' => s' = { s with
      startupVerificationFingerprint := some fingerprint
      startupVerifiedAt := now
      startupVerifiedTransports := transports }

section

variable {cfg : FailoverConfig} {now : Rat} {io : Io} {file : StateFile F} {s : SelectorState F}

theorem update_cases (io : Io) (file : StateFile F) (change : SelectorState F → SelectorState F) :
    (update io file change).2 = file ∨
      (update io file change).2 = .stored { change file.state with updatedAt := io.now } := by
  rcases locked_cases io file fun s => .ok ((), some (change s)) with
    ⟨e, heq⟩ | ⟨a, hd, -⟩ | ⟨a, s, r, hd, heq, -⟩
  · exact .inl (by rw [update, heq])
  · exact absurd hd (by simp)
  · obtain ⟨-, hs⟩ := Prod.mk.inj (Except.ok.inj hd)
    exact .inr (by rw [update, heq, Option.some.inj hs])

/-- An operation leaves the file alone or saves its effect. -/
theorem Step.apply_cases (step : Step F) (file : StateFile F) :
    step.apply file = file ∨ ∃ s, step.op.effect step.cfg file.state s ∧
      step.apply file = .stored { s with updatedAt := step.io.now } := by
  obtain ⟨cfg, op, io⟩ := step
  cases op with
  | select now =>
      rcases locked_cases io file (choose cfg now) with
        ⟨e, heq⟩ | ⟨a, -, heq⟩ | ⟨a, s, r, hd, heq, -⟩
      · exact .inl (by simp only [Step.apply, Transport.select, heq])
      · exact .inl (by simp only [Step.apply, Transport.select, heq])
      · exact .inr ⟨s, ⟨a, hd⟩, by simp only [Step.apply, Transport.select, heq]⟩
  -- a request is refused for a quarantined name, so the state it stores is known
  | request name =>
      simp only [Step.apply, Transport.request, known]
      split
      · next hname =>
          rcases locked_cases io file (fun s =>
              if name ∈ s.quarantined then .error (.quarantined name)
              else .ok ((), some { s with requested := if s.active = name then "" else name })) with
            ⟨e, heq⟩ | ⟨a, -, heq⟩ | ⟨a, s, r, hd, heq, -⟩
          · exact .inl (by rw [heq])
          · exact .inl (by rw [heq])
          · refine .inr ⟨s, ?_, by rw [heq]⟩
            split at hd
            · exact absurd hd (by simp)
            · next hfree =>
                obtain ⟨-, hs⟩ := Prod.mk.inj (Except.ok.inj hd)
                exact ⟨hname, hfree, (Option.some.inj hs).symm⟩
      · exact .inl rfl
  | quarantine name reason now =>
      simp only [Step.apply, Transport.quarantine, known]
      split
      · exact (update_cases _ _ _).imp id fun h => ⟨_, rfl, h⟩
      · exact .inl rfl
  | clearQuarantine name =>
      simp only [Step.apply, Transport.clearQuarantine, known]
      split
      · exact (update_cases _ _ _).imp id fun h => ⟨_, rfl, h⟩
      · exact .inl rfl
  | recordFailure name reason now =>
      simp only [Step.apply, Transport.recordFailure]
      split
      · next hname => exact (update_cases _ _ _).imp id fun h => ⟨_, ⟨hname, rfl⟩, h⟩
      · exact .inl rfl
  | recordSuccess name now =>
      exact (update_cases _ _ _).imp id fun h => ⟨_, rfl, h⟩
  | recordStartupVerification fingerprint transports now =>
      exact (update_cases _ _ _).imp id fun h => ⟨_, rfl, h⟩

/-- The outcomes of a selection. -/
theorem choose_cases {name : String} {saved : Option (SelectorState F)}
    (h : choose cfg now s = .ok (name, saved)) :
    (s.requested = name ∧ name ≠ "" ∧ name ∉ s.quarantined ∧ cfg.contains name ∧
      saved = some { s with active := name, requested := "" }) ∨
    (s.requested = "" ∧ s.active = name ∧ Usable cfg s name ∧ saved = none) ∨
    (s.requested = "" ∧ ¬ Usable cfg s s.active ∧ scan cfg now s = .ok name ∧
      saved = some { s with active := name }) := by
  unfold choose at h
  split at h
  -- a request is served before anything else is looked at
  · next hrequested =>
      split at h
      · exact absurd h (by simp)
      · next hfree =>
          split at h
          · exact absurd h (by simp)
          · next hcontains =>
              obtain ⟨rfl, rfl⟩ := Prod.mk.inj (Except.ok.inj h)
              exact .inl ⟨rfl, hrequested, hfree, not_not.1 hcontains, rfl⟩
  · next hrequested =>
      have hnone : s.requested = "" := not_not.1 hrequested
      split at h
      -- the active transport is kept while it is usable
      · next husable =>
          obtain ⟨rfl, rfl⟩ := Prod.mk.inj (Except.ok.inj h)
          exact .inr (.inl ⟨hnone, rfl, husable, rfl⟩)
      · next husable =>
          split at h
          · exact absurd h (by simp)
          · next selected hscan =>
              obtain ⟨rfl, rfl⟩ := Prod.mk.inj (Except.ok.inj h)
              exact .inr (.inr ⟨hnone, husable, hscan, rfl⟩)

theorem mem_candidates {name : String} : name ∈ candidates cfg now s ↔
    cfg.contains name ∧ eligibility cfg now s name = .candidate := by
  simp [candidates, FailoverConfig.contains]

theorem candidate_of_scan {name : String} (h : scan cfg now s = .ok name) :
    name ∈ candidates cfg now s := by
  unfold scan at h
  split at h
  · next hc =>
      obtain rfl := Except.ok.inj h
      rw [hc]
      exact List.mem_cons_self
  · split at h <;> exact absurd h (by simp)

theorem not_quarantined_of_candidate {name : String}
    (h : eligibility cfg now s name = .candidate) : name ∉ s.quarantined := by
  intro hq
  rw [eligibility, if_pos hq] at h
  exact absurd h (by simp)

/-- A selected transport is configured and not quarantined. -/
theorem choose_sound {name : String} {saved : Option (SelectorState F)}
    (h : choose cfg now s = .ok (name, saved)) : cfg.contains name ∧ name ∉ s.quarantined := by
  rcases choose_cases h with ⟨-, -, hfree, hcontains, -⟩ | ⟨-, -, husable, -⟩ | ⟨-, -, hscan, -⟩
  · exact ⟨hcontains, hfree⟩
  · exact ⟨husable.2.1, husable.2.2.2⟩
  · obtain ⟨hcontains, hcandidate⟩ := mem_candidates.1 (candidate_of_scan hscan)
    exact ⟨hcontains, not_quarantined_of_candidate hcandidate⟩

/-- Selection keeps the entries. -/
theorem entries_of_choose {name : String} {s' : SelectorState F}
    (h : choose cfg now s = .ok (name, some s')) :
    s'.active = name ∧ s'.requested = "" ∧ s'.failed = s.failed ∧ s'.quarantined = s.quarantined := by
  rcases choose_cases h with ⟨-, -, -, -, hsaved⟩ | ⟨-, -, -, hsaved⟩ | ⟨hnone, -, -, hsaved⟩
  · obtain rfl := Option.some.inj hsaved
    exact ⟨rfl, rfl, rfl, rfl⟩
  · exact absurd hsaved (by simp)
  · obtain rfl := Option.some.inj hsaved
    exact ⟨rfl, hnone, rfl, rfl⟩

end

/-! ## Quarantine -/

/-- An operation other than the clearance of a transport keeps its quarantine. -/
theorem Step.keeps_quarantine {step : Step F} {file : StateFile F} {name : String}
    (hclear : step.op ≠ .clearQuarantine name) (h : name ∈ file.state.quarantined) :
    name ∈ (step.apply file).state.quarantined := by
  rcases step.apply_cases file with heq | ⟨s, heffect, heq⟩
  · rwa [heq]
  rw [heq]
  change name ∈ s.quarantined
  cases hop : step.op with
  | select now =>
      rw [hop] at heffect
      obtain ⟨selected, hchoose⟩ := heffect
      rwa [(entries_of_choose hchoose).2.2.2]
  | request other =>
      rw [hop] at heffect
      obtain ⟨-, -, rfl⟩ := heffect
      exact h
  | quarantine other reason now =>
      rw [hop] at heffect
      obtain rfl := heffect
      exact (AList.mem_insert _).2 (.inr h)
  | clearQuarantine other =>
      rw [hop] at heffect hclear
      obtain rfl := heffect
      -- the name that is cleared is another one
      refine AList.mem_erase.2 ⟨fun heq => hclear (by rw [heq]), h⟩
  | recordFailure other reason now =>
      rw [hop] at heffect
      obtain ⟨-, rfl⟩ := heffect
      exact h
  | recordSuccess other now =>
      rw [hop] at heffect
      obtain rfl := heffect
      exact h
  | recordStartupVerification fingerprint transports now =>
      rw [hop] at heffect
      obtain rfl := heffect
      exact h

theorem quarantined_of_applyAll {name : String} (steps : List (Step F)) :
    ∀ {file : StateFile F}, (∀ step ∈ steps, step.op ≠ .clearQuarantine name) →
      name ∈ file.state.quarantined → name ∈ (applyAll steps file).state.quarantined := by
  induction steps with
  | nil => exact fun _ h => h
  | cons step steps ih =>
      intro file hclear h
      exact ih (fun x hx => hclear x (List.mem_cons_of_mem _ hx))
        (Step.keeps_quarantine (hclear step List.mem_cons_self) h)

theorem known_ok {cfg : FailoverConfig} {name : String} {file : StateFile F}
    {operation : Except SelectorError Unit × StateFile F}
    (h : (known cfg name file operation).1 = .ok ()) :
    cfg.contains name ∧ known cfg name file operation = operation := by
  unfold known at h ⊢
  split at h
  · next hname => exact ⟨hname, if_pos hname⟩
  · exact absurd h (by simp)

/-- An update that returns has saved the changed state. -/
theorem update_ok {io : Io} {file : StateFile F} {change : SelectorState F → SelectorState F}
    (h : (update io file change).1 = .ok ()) :
    (update io file change).2 = .stored { change file.state with updatedAt := io.now } := by
  rcases decision_of_ok h with ⟨hd, -⟩ | ⟨s, hd, heq⟩
  · exact absurd hd (by simp)
  · obtain ⟨-, hs⟩ := Prod.mk.inj (Except.ok.inj hd)
    rw [update, heq, ← Option.some.inj hs]

/-- A quarantine that returns has taken effect. -/
theorem quarantined_of_quarantine {cfg : FailoverConfig} {name reason : String} {now : Rat} {io : Io}
    {file : StateFile F} (h : (quarantine cfg name reason now io file).1 = .ok ()) :
    name ∈ (quarantine cfg name reason now io file).2.state.quarantined := by
  obtain ⟨-, heq⟩ := known_ok h
  rw [quarantine, heq] at h ⊢
  rw [update_ok h]
  exact (AList.mem_insert _).2 (.inl rfl)

/-- The only change that a selection that raises can have made: its choice was stored, and the directory
of the file could not be synchronised. -/
def ChoiceStored (cfg : FailoverConfig) (io : Io) (file file' : StateFile F) (e : SelectorError) : Prop :=
  e = .os ∧ io.writable = false ∧ io.replaced = true ∧ ∃ selected, cfg.contains selected ∧
    selected ∉ file.state.quarantined ∧
    (file.state.requested = "" ∨ file.state.requested = selected) ∧
    file' = .stored { file.state with active := selected, requested := "", updatedAt := io.now }

theorem select_of_error {cfg : FailoverConfig} {now : Rat} {io : Io} {file : StateFile F}
    {e : SelectorError} (h : (select cfg now io file).1 = .error e) :
    (select cfg now io file).2 = file ∨ ChoiceStored cfg io file (select cfg now io file).2 e := by
  rcases locked_of_error h with heq | ⟨he, hwritable, hreplaced, selected, s, hd, heq⟩
  · exact .inl heq
  · obtain ⟨hcontains, hfree⟩ := choose_sound hd
    refine .inr ⟨he, hwritable, hreplaced, selected, hcontains, hfree, ?_⟩
    rw [select, heq]
    rcases choose_cases hd with ⟨hrequested, -, -, -, hs⟩ | ⟨-, -, -, hs⟩ | ⟨hnone, -, -, hs⟩
    · obtain rfl := Option.some.inj hs
      exact ⟨.inr hrequested, rfl⟩
    · exact absurd hs (by simp)
    · obtain rfl := Option.some.inj hs
      exact ⟨.inl hnone, by rw [hnone]⟩

/-- After any operations of any processes, from any file: a selection returns a configured transport
that is not quarantined. One that raises changes nothing, unless its choice was stored and only the
directory of the file could not be synchronised. A quarantine that returns has taken effect, and a
quarantined transport stays quarantined whatever operations follow, as long as its clearance is not among
them. -/
theorem quarantine_never_bypassed (start : StateFile F) (steps : List (Step F)) :
    (∀ cfg now io name, (select cfg now io (applyAll steps start)).1 = .ok name →
      cfg.contains name ∧ name ∉ (applyAll steps start).state.quarantined) ∧
    (∀ cfg now io e, (select cfg now io (applyAll steps start)).1 = .error e →
      (select cfg now io (applyAll steps start)).2 = applyAll steps start ∨
      ChoiceStored cfg io (applyAll steps start) (select cfg now io (applyAll steps start)).2 e) ∧
    (∀ cfg name reason now io,
      (quarantine cfg name reason now io (applyAll steps start)).1 = .ok () →
      name ∈ (quarantine cfg name reason now io (applyAll steps start)).2.state.quarantined) ∧
    ∀ name later, name ∈ (applyAll steps start).state.quarantined →
      (∀ step ∈ later, step.op ≠ .clearQuarantine name) →
      name ∈ (applyAll later (applyAll steps start)).state.quarantined := by
  refine ⟨fun cfg now io name h => ?_, fun cfg now io e h => select_of_error h,
    fun cfg name reason now io h => quarantined_of_quarantine h,
    fun name later h hclear => quarantined_of_applyAll later hclear h⟩
  -- a choice leaves the state as it is or stores a new one; it is made in the old state
  rcases decision_of_ok h with ⟨hd, -⟩ | ⟨s, hd, -⟩
  · exact choose_sound hd
  · exact choose_sound hd

/-! ## Stickiness -/

/-- A condition on every operation of a run and on the file that it finds. -/
def Throughout (condition : Step F → StateFile F → Prop) : List (Step F) → StateFile F → Prop
  | [], _ => True
  | step :: steps, file => condition step file ∧ Throughout condition steps (step.apply file)

/-- The transport is configured, is not recorded as failed, is not quarantined, and no request is
placed. -/
def Step.Spares (name : String) (step : Step F) : Prop :=
  step.cfg.contains name ∧
  match step.op with
  | .recordFailure other _ _ => other ≠ name
  | .quarantine other _ _ => other ≠ name
  | .request _ => False
  | _ => True

/-- No other transport is recorded, and a selection finds no failure record of this one. -/
def Step.Settled (name : String) (step : Step F) (file : StateFile F) : Prop :=
  match step.op with
  | .recordFailure other _ _ => step.cfg.contains other → other = name
  | .recordSuccess other _ => other = name
  | .select _ => name ∉ file.state.failed
  | _ => True

/-- A selection that can read the file returns the transport. -/
def Step.Selects (name : String) (step : Step F) (file : StateFile F) : Prop :=
  match step.op with
  | .select now => step.io.readable = true → (select step.cfg now step.io file).1 = .ok name
  | _ => True

/-- The file that a selection leaves behind. -/
structure Chosen (name : String) (file : StateFile F) : Prop where
  readable : file.load = .ok file.state
  active : file.state.active = name
  requested : file.state.requested = ""
  free : name ∉ file.state.quarantined

section

variable {name : String} {file : StateFile F}

theorem chosen_of_select {cfg : FailoverConfig} {now : Rat} {io : Io}
    (h : (select cfg now io file).1 = .ok name) : Chosen name (select cfg now io file).2 := by
  rcases decision_of_ok h with ⟨hd, heq⟩ | ⟨s, hd, heq⟩
  · have hfree := (choose_sound hd).2
    rw [select, heq]
    rcases choose_cases hd with ⟨-, -, -, -, hsaved⟩ | ⟨hnone, hactive, -, -⟩ | ⟨-, -, -, hsaved⟩
    · exact absurd hsaved (by simp)
    · refine ⟨?_, hactive, hnone, hfree⟩
      cases file with
      | missing => rfl
      | corrupt => exact absurd h (by simp [select, locked, StateFile.load])
      | stored s => rfl
    · exact absurd hsaved (by simp)
  · obtain ⟨hactive, hnone, -, hquarantined⟩ := entries_of_choose hd
    rw [select, heq]
    exact ⟨rfl, hactive, hnone, hquarantined ▸ (choose_sound hd).2⟩

/-- While it has no failure record, the chosen transport is selected again. -/
theorem Chosen.choose {cfg : FailoverConfig} (h : Chosen name file) (hname : cfg.contains name)
    (hfailed : name ∉ file.state.failed) (now : Rat) :
    choose cfg now file.state = .ok (name, none) := by
  have husable : Usable cfg file.state file.state.active := by
    rw [h.active]
    exact ⟨FailoverConfig.ne_empty_of_contains hname, hname, hfailed, h.free⟩
  rw [Transport.choose, if_neg (not_not.2 h.requested), if_pos husable, h.active]

theorem Chosen.selects {cfg : FailoverConfig} {io : Io} (h : Chosen name file)
    (hname : cfg.contains name) (hfailed : name ∉ file.state.failed) (now : Rat)
    (hio : io.readable = true) : (select cfg now io file).1 = .ok name := by
  rw [select, locked, if_pos hio, h.readable]
  simp only [h.choose hname hfailed now]

theorem Chosen.apply {step : Step F} (h : Chosen name file) (hspares : step.Spares name)
    (hsettled : step.Settled name file) : Chosen name (step.apply file) := by
  rcases step.apply_cases file with heq | ⟨s, heffect, heq⟩
  · rwa [heq]
  obtain ⟨hname, hspares⟩ := hspares
  rw [heq]
  unfold Step.Settled at hsettled
  cases hop : step.op with
  -- the route is free and not failed, so a selection returns it and saves nothing
  | select now =>
      simp only [hop] at heffect hsettled
      obtain ⟨selected, hchoose⟩ := heffect
      rw [h.choose hname hsettled now] at hchoose
      exact absurd hchoose (by simp)
  | request other =>
      rw [hop] at hspares
      exact hspares.elim
  | quarantine other reason now =>
      simp only [hop] at heffect hspares
      obtain rfl := heffect
      refine ⟨rfl, h.active, h.requested, fun hmem => ?_⟩
      rcases (AList.mem_insert _).1 hmem with heq | hmem
      · exact hspares heq.symm
      · exact h.free hmem
  | clearQuarantine other =>
      simp only [hop] at heffect
      obtain rfl := heffect
      exact ⟨rfl, h.active, h.requested, fun hmem => h.free (AList.mem_erase.1 hmem).2⟩
  -- a failure counts only for the active route, which is spared
  | recordFailure other reason now =>
      simp only [hop] at heffect hspares hsettled
      exact absurd (hsettled heffect.1) hspares
  | recordSuccess other now =>
      simp only [hop] at heffect hsettled
      obtain rfl := heffect
      exact ⟨rfl, hsettled, h.requested, h.free⟩
  | recordStartupVerification fingerprint transports now =>
      simp only [hop] at heffect
      obtain rfl := heffect
      exact ⟨rfl, h.active, h.requested, h.free⟩

theorem Chosen.throughout (steps : List (Step F)) : ∀ {file : StateFile F}, Chosen name file →
    Throughout (fun step file => step.Spares name ∧ step.Settled name file) steps file →
      Throughout (Step.Selects name) steps file := by
  induction steps with
  | nil => exact fun _ _ => trivial
  | cons step steps ih =>
      rintro file h ⟨⟨hspares, hsettled⟩, hrest⟩
      refine ⟨?_, ih (h.apply hspares hsettled) hrest⟩
      unfold Step.Selects
      unfold Step.Settled at hsettled
      cases hop : step.op with
      | select now =>
          simp only [hop] at hsettled ⊢
          exact h.selects hspares.1 hsettled now
      | _ => trivial

end

/-- A selected transport that is left alone is selected again by every later selection, in every run
that records no other transport and selects only while it has no failure record. -/
theorem selection_sticks (name : String) (cfg : FailoverConfig) (now : Rat) (io : Io)
    (file : StateFile F) (hselect : (select cfg now io file).1 = .ok name) (steps : List (Step F))
    (hsteps : Throughout (fun step file => step.Spares name ∧ step.Settled name file) steps
      (select cfg now io file).2) :
    Throughout (Step.Selects name) steps (select cfg now io file).2 :=
  (chosen_of_select hselect).throughout steps hsteps

/-! A configuration with two transports. -/

namespace Sample

def secondary : SshfsTransport where
  name := "sshfs-secondary"
  priority := 20
  source := "user@host:/data"
  authMode := .key
  knownHostsFile := "/known-hosts"

def config : FailoverConfig where
  primaryName := "cifs-primary"
  primaryPriority := 10
  failureCooldownSeconds := 60
  transports := [secondary]
  named := by simp [secondary]
  distinct := by simp [secondary]
  cooldown := by simp
  fallback := by simp

def step (op : Op Unit) : Step Unit := ⟨config, op, {}⟩

/-- The secondary transport has failed and an operator requests it. -/
def requested : StateFile Unit :=
  applyAll [step (.recordFailure "sshfs-secondary" "down" 0),
    step (.recordFailure "cifs-primary" "down" 1), step (.request "sshfs-secondary")] .missing

/-- The primary transport has failed and the secondary one was selected. -/
def fallback : StateFile Unit :=
  applyAll [step (.recordFailure "cifs-primary" "down" 0)] .missing

end Sample

/-- The request is stored as the active transport and forgotten, although the selection raises. -/
theorem request_consumed_by_raising_selection :
    Sample.requested.state.requested = "sshfs-secondary" ∧
    (select Sample.config 100 { writable := false, replaced := true } Sample.requested).1 =
      .error .os ∧
    (select Sample.config 100 { writable := false, replaced := true } Sample.requested).2.state.requested
      = "" := by
  decide +kernel

/-- The primary transport is quarantined; it has been active and has no failure record. -/
theorem quarantine_never_bypassed_primary :
    Sample.config.contains "sshfs-secondary" ∧
    "cifs-primary" ∈ (applyAll [Sample.step (.recordSuccess "cifs-primary" 2),
      Sample.step (.recordFailure "sshfs-secondary" "down" 3), Sample.step (.select 1000)]
      (quarantine Sample.config "cifs-primary" "blocked" 1 {}
        (applyAll [Sample.step (.select 0)] .missing)).2).state.quarantined := by
  have hquarantined := (quarantine_never_bypassed .missing [Sample.step (.select 0)]).2.2.1
    Sample.config "cifs-primary" "blocked" 1 {} (by decide +kernel)
  have hselects := (quarantine_never_bypassed .missing [Sample.step (.select 0),
    Sample.step (.quarantine "cifs-primary" "blocked" 1)]).1 Sample.config 1000 {} "sshfs-secondary"
      (by decide +kernel)
  refine ⟨hselects.1, (quarantine_never_bypassed .missing [Sample.step (.select 0),
    Sample.step (.quarantine "cifs-primary" "blocked" 1)]).2.2.2 "cifs-primary" _ hquarantined ?_⟩
  simp [Sample.step]

/-- A requested transport with an old failure record is selected once; the next selection returns the
primary one, although nothing was recorded or requested in between. -/
theorem selection_does_not_stick :
    (select Sample.config 100 {} Sample.requested).1 = .ok "sshfs-secondary" ∧
    Throughout (fun step _ => step.Spares "sshfs-secondary") [Sample.step (.select 101)]
      (select Sample.config 100 {} Sample.requested).2 ∧
    ¬ Throughout (Step.Selects "sshfs-secondary") [Sample.step (.select 101)]
      (select Sample.config 100 {} Sample.requested).2 := by
  have hswitched : (select Sample.config 101 {} (select Sample.config 100 {} Sample.requested).2).1 =
      .ok "cifs-primary" := by decide +kernel
  refine ⟨by decide +kernel, ⟨⟨by decide +kernel, trivial⟩, trivial⟩, fun h => ?_⟩
  have hsticks := h.1 rfl
  rw [Sample.step, hswitched] at hsticks
  exact absurd hsticks (by decide)

/-- A fallback outlives the cooldown of the primary transport. -/
theorem selection_sticks_to_fallback :
    Throughout (Step.Selects "sshfs-secondary")
      [Sample.step (.recordSuccess "sshfs-secondary" 2), Sample.step (.select 1000)]
      (select Sample.config 1 {} Sample.fallback).2 := by
  have hconfigured : Sample.config.contains "sshfs-secondary" := by decide +kernel
  have hcleared : "sshfs-secondary" ∉ ((Sample.step (.recordSuccess "sshfs-secondary" 2)).apply
      (select Sample.config 1 {} Sample.fallback).2).state.failed := by decide +kernel
  exact selection_sticks "sshfs-secondary" Sample.config 1 {} Sample.fallback (by decide +kernel) _
    ⟨⟨⟨hconfigured, trivial⟩, rfl⟩, ⟨⟨hconfigured, trivial⟩, hcleared⟩, trivial⟩

/-! ## Requests -/

/-- What may follow an accepted request: no other request, no quarantine of the transport, no change
of the configuration, and no selection yet. -/
def Step.Respects (cfg : FailoverConfig) (name : String) (step : Step F) : Prop :=
  step.cfg = cfg ∧
  match step.op with
  | .select _ => False
  | .request _ => False
  | .quarantine other _ _ => other ≠ name
  | _ => True

/-- An accepted request for a transport that is not active yet. -/
structure Asked (name : String) (file : StateFile F) : Prop where
  readable : file.load = .ok file.state
  requested : file.state.requested = name
  free : name ∉ file.state.quarantined

section

variable {cfg : FailoverConfig} {name : String} {file : StateFile F}

/-- An accepted request is stored, unless the transport is active. -/
theorem request_ok {io : Io} (h : (request cfg name io file).1 = .ok ()) :
    cfg.contains name ∧ name ∉ file.state.quarantined ∧ (request cfg name io file).2 = .stored
      { file.state with
        requested := if file.state.active = name then "" else name
        updatedAt := io.now } := by
  rw [request, known] at h ⊢
  split at h
  · next hname =>
      rw [if_pos hname]
      rcases decision_of_ok h with ⟨hd, -⟩ | ⟨s, hd, heq⟩
      · split at hd <;> exact absurd hd (by simp)
      · split at hd
        · exact absurd hd (by simp)
        · next hfree =>
            obtain ⟨-, hs⟩ := Prod.mk.inj (Except.ok.inj hd)
            rw [heq, ← Option.some.inj hs]
            exact ⟨hname, hfree, rfl⟩
  · exact absurd h (by simp)

theorem Asked.apply {step : Step F} (h : Asked name file) (hstep : step.Respects cfg name) :
    Asked name (step.apply file) := by
  rcases step.apply_cases file with heq | ⟨s, heffect, heq⟩
  · rwa [heq]
  -- a step that respects the request selects nothing and requests nothing else
  obtain ⟨-, hstep⟩ := hstep
  rw [heq]
  cases hop : step.op with
  | select now =>
      rw [hop] at hstep
      exact hstep.elim
  | request other =>
      rw [hop] at hstep
      exact hstep.elim
  | quarantine other reason now =>
      simp only [hop] at heffect hstep
      obtain rfl := heffect
      refine ⟨rfl, h.requested, fun hmem => ?_⟩
      rcases (AList.mem_insert _).1 hmem with heq | hmem
      · exact hstep heq.symm
      · exact h.free hmem
  | clearQuarantine other =>
      simp only [hop] at heffect
      obtain rfl := heffect
      exact ⟨rfl, h.requested, fun hmem => h.free (AList.mem_erase.1 hmem).2⟩
  | recordFailure other reason now =>
      simp only [hop] at heffect
      obtain ⟨-, rfl⟩ := heffect
      exact ⟨rfl, h.requested, h.free⟩
  | recordSuccess other now =>
      simp only [hop] at heffect
      obtain rfl := heffect
      exact ⟨rfl, h.requested, h.free⟩
  | recordStartupVerification fingerprint transports now =>
      simp only [hop] at heffect
      obtain rfl := heffect
      exact ⟨rfl, h.requested, h.free⟩

theorem Asked.applyAll (steps : List (Step F)) : ∀ {file : StateFile F}, Asked name file →
    (∀ step ∈ steps, step.Respects cfg name) → Asked name (applyAll steps file) := by
  induction steps with
  | nil => exact fun h _ => h
  | cons step steps ih =>
      intro file h hsteps
      exact ih (h.apply (hsteps step List.mem_cons_self))
        fun x hx => hsteps x (List.mem_cons_of_mem _ hx)

theorem Asked.selects (h : Asked name file) (hname : cfg.contains name) (now : Rat) {io : Io}
    (hread : io.readable = true) (hwrite : io.writable = true) :
    (select cfg now io file).1 = .ok name := by
  have hchoose : choose cfg now file.state =
      .ok (name, some { file.state with active := name, requested := "" }) := by
    rw [choose, h.requested, if_pos (FailoverConfig.ne_empty_of_contains hname), if_neg h.free,
      if_neg (not_not.2 hname)]
  rw [select, locked, if_pos hread, h.readable]
  simp only [hchoose, if_pos hwrite]

/-- A transport that fails now is not selected now. -/
theorem select_after_failure (s : SelectorState F) (hname : cfg.contains name)
    (hactive : s.requested = "") (reason : String) (now : Rat) :
    (select cfg now {} (recordFailure cfg name reason now {} (.stored s)).2).1 ≠ .ok name := by
  intro h
  rw [recordFailure, if_pos hname] at h
  rcases decision_of_ok h with ⟨hd, -⟩ | ⟨s', hd, -⟩
  all_goals
    rcases choose_cases hd with ⟨hrequested, hne, -⟩ | ⟨-, -, husable, -⟩ | ⟨-, -, hscan, -⟩
    · exact hne (hrequested.symm.trans hactive)
    · exact husable.2.2.1 ((AList.mem_insert _).2 (.inl rfl))
    · obtain ⟨-, hcandidate⟩ := mem_candidates.1 (candidate_of_scan hscan)
      have hcooling : ¬ now + cfg.failureCooldownSeconds ≤ now := by
        have hpos : (0 : Rat) < cfg.failureCooldownSeconds := by exact_mod_cast cfg.cooldown
        linarith
      rw [eligibility, if_neg (not_quarantined_of_candidate hcandidate)] at hcandidate
      simp [update, locked, StateFile.load, SelectorState.saved, StateFile.state, AList.lookup_insert,
        hcooling] at hcandidate

end

/-- An accepted request is honoured by the next selection, whatever else happens before it, exactly
when another transport was active at the time of the request. -/
theorem request_honoured_iff (cfg : FailoverConfig) (name : String) (io : Io) (file : StateFile F)
    (hrequest : (request cfg name io file).1 = .ok ()) :
    (∀ (between : List (Step F)) (now : Rat) (io' : Io),
      (∀ step ∈ between, step.Respects cfg name) → io'.readable = true → io'.writable = true →
      (select cfg now io' (applyAll between (request cfg name io file).2)).1 = .ok name) ↔
    file.state.active ≠ name := by
  obtain ⟨hname, hfree, heq⟩ := request_ok hrequest
  constructor
  · intro hall hactive
    -- the active name is not recorded as a request, and a failure of it moves the selection on
    rw [if_pos hactive] at heq
    have hafter := hall [⟨cfg, .recordFailure name "" 0, {}⟩] 0 {}
      (fun step hstep => by
        obtain rfl := List.mem_singleton.1 hstep
        exact ⟨rfl, trivial⟩) rfl rfl
    rw [heq] at hafter
    exact select_after_failure _ hname rfl "" 0 hafter
  · intro hactive between now io' hbetween hread hwrite
    rw [if_neg hactive] at heq
    have hasked : Asked name (request cfg name io file).2 := by
      rw [heq]
      exact ⟨rfl, rfl, hfree⟩
    exact (hasked.applyAll between hbetween).selects hname now hread hwrite

/-- A request for the active transport is dropped, and the next selection returns another one: the
transport had failed just before. -/
theorem request_dropped :
    (request Sample.config "sshfs-secondary" {}
      (applyAll [Sample.step (.recordFailure "sshfs-secondary" "down" 0)] .missing)).1 = .ok () ∧
    (select Sample.config 1 {} (request Sample.config "sshfs-secondary" {}
      (applyAll [Sample.step (.recordFailure "sshfs-secondary" "down" 0)] .missing)).2).1 =
        .ok "cifs-primary" := by
  decide +kernel

/-- The request of a fallback is honoured although it is recorded as failed in between. -/
theorem request_honoured_despite_failure :
    (select Sample.config 1 {} (applyAll
      [Sample.step (.recordFailure "sshfs-secondary" "down" 1)]
      (request Sample.config "sshfs-secondary" {} Sample.fallback).2)).1 = .ok "sshfs-secondary" :=
  (request_honoured_iff Sample.config "sshfs-secondary" {} Sample.fallback (by decide +kernel)).2
    (by decide +kernel) _ 1 {} (fun step hstep => by
      obtain rfl := List.mem_singleton.1 hstep
      exact ⟨rfl, trivial⟩) rfl rfl

end StorageNode.Transport
