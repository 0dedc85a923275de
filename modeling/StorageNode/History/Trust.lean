import StorageNode.History.Persistence
import StorageNode.Guardian.RunSafety

/-!
# The trust in the indexes

Whether the indexes are certified is one flag of the history file. It is revoked where a generation ends
uncleanly, and granted by the guardian alone. Over whole runs with crashes, a certified history that has
been recovered has seen no unclean end since its last certification, and the guardian certifies only after
a clean status with no repair to validate (`index_trust_founded`).

A run keeps the trace of what happened to generations. The generation that a crash interrupts is still
active in the file: the invariant trusts the flag of the file only where no generation is active, and
recovery comes before everything else a new guardian does. The guardian's own model has the flag and the
activity of the history (`view`), and its requests do to them what the calls do (`guardExec_history`).
-/

set_option autoImplicit false

namespace StorageNode.GenerationHistory

open StorageNode.Json
open StorageNode.Guardian (GuardReq GuardChoice GuardExc guardExec guardian CertifyOk Initial)
open StorageNode.Program (Running)

/-! ## What happened to generations -/

/-- The events that matter to the indexes. -/
inductive TrustEvent where
  | certified
  | ended (outcome : Outcome)
  | interrupted
  deriving DecidableEq

/-- A generation ended uncleanly, which a superseded one does too, or a crash interrupted it. -/
def TrustEvent.breach : TrustEvent → Bool
  | .certified => false
  | .ended outcome => !outcome.cleanShutdown
  | .interrupted => true

/-- No breach is newer than the last certification; the latest event comes first. -/
def Trustworthy (trace : List TrustEvent) : Prop :=
  ∀ event ∈ trace.takeWhile (· ≠ .certified), event.breach = false

/-- The events of a call that has ended some generations. -/
def Operation.events (operation : Operation) (ended : List Completed) : List TrustEvent :=
  match operation with
  | .certifyIndexes _ _ => [.certified]
  | _ => ended.map fun c => .ended c.outcome

theorem trustworthy_certified (trace : List TrustEvent) : Trustworthy (.certified :: trace) := by
  intro event hevent
  cases hevent

theorem Trustworthy.cons_clean {trace : List TrustEvent} {outcome : Outcome} (h : Trustworthy trace)
    (hclean : outcome.cleanShutdown = true) : Trustworthy (.ended outcome :: trace) := by
  intro event hevent
  rw [List.takeWhile_cons_of_pos (by simp)] at hevent
  obtain rfl | hevent := List.mem_cons.mp hevent
  · rw [TrustEvent.breach, hclean]
    rfl
  · exact h event hevent

/-! ## Runs -/

/-- The running process, if there is one, the file, and what happened, the latest first. -/
structure TrustWorld where
  live : Option State
  file : Option Value
  trace : List TrustEvent

/-- No process has run yet. -/
def TrustWorld.fresh : TrustWorld := ⟨none, none, []⟩

/-- The file after a call. -/
def persisted (file : Option Value) (r : State × Bool) : Option Value :=
  if r.2 then some r.1.payload else file

inductive TrustWorld.Step (env : Interpreter) : TrustWorld → TrustWorld → Prop
  | call {s : State} {file : Option Value} {trace : List TrustEvent} (operation : Operation)
      {r : State × Bool} (h : operation.perform env s = .ok r) :
      Step env ⟨some s, file, trace⟩
        ⟨some r.1, persisted file r, operation.events (operation.ends env s) ++ trace⟩
  /-- The guardian dies between two calls, or in a call before its document replaces the file: then what
  the call has changed is lost. -/
  | crash {s : State} {file : Option Value} {trace : List TrustEvent} :
      Step env ⟨some s, file, trace⟩
        ⟨none, file, (if s.active.isSome then [.interrupted] else []) ++ trace⟩
  /-- A new guardian loads the file and recovers. -/
  | restart {file : Option Value} {trace : List TrustEvent} {s : State} (endedAt : Number)
      {r : State × Bool} (hload : load (readingOf file) = .ok s)
      (h : (Operation.recoverInterruptedActive endedAt).perform env s = .ok r) :
      Step env ⟨none, file, trace⟩
        ⟨some r.1, persisted file r, (Operation.recoverInterruptedActive endedAt).events
          ((Operation.recoverInterruptedActive endedAt).ends env s) ++ trace⟩

inductive TrustWorld.Reachable (env : Interpreter) : TrustWorld → Prop
  | fresh : Reachable env .fresh
  | step {w w' : TrustWorld} (h : Reachable env w) (hstep : w.Step env w') : Reachable env w'

/-- What a run keeps. The file holds the state of the running process. Between two processes, its flag
counts only where no generation is active. -/
def TrustWorld.Founded : TrustWorld → Prop
  | ⟨some s, file, trace⟩ => s.Versioned ∧ load (readingOf file) = .ok s ∧
      (s.indexesCertified = true → Trustworthy trace)
  | ⟨none, file, trace⟩ => ∃ s, s.Versioned ∧ load (readingOf file) = .ok s ∧
      (s.indexesCertified = true → s.active = none → Trustworthy trace)

section

variable {env : Interpreter} {s : State} {trace : List TrustEvent}

/-- A call that ends a generation uncleanly takes the flag away, and a certification sets it and starts
the trace afresh. -/
theorem Performed.trustworthy {operation : Operation} {r : State × Bool} {ended : List Completed}
    (h : Performed env s operation r ended) (hs : s.indexesCertified = true → Trustworthy trace)
    (hcertified : r.1.indexesCertified = true) : Trustworthy (operation.events ended ++ trace) := by
  cases h with
  | idle =>
    cases operation with
    | certifyIndexes reason now => exact trustworthy_certified trace
    | _ => exact hs hcertified
  | closed outcome endedAt startedAt hactive hfinish =>
    obtain ⟨hclean, hbefore⟩ := Bool.and_eq_true_iff.mp hcertified
    have htrust := (hs hbefore).cons_clean hclean
    obtain rfl | ⟨-, rfl⟩ := hfinish
    · exact htrust
    · exact htrust
  | opened generation transport mode endedAt startedAt hactive => exact hs hcertified
  | replaced generation transport mode endedAt startedAt began hactive => cases hcertified
  | certified reason now => exact trustworthy_certified trace

/-- Recovery makes the flag of a file good, whatever it says of a generation that is still active. -/
theorem recover_trustworthy {endedAt : Number} {r : State × Bool}
    (h : (Operation.recoverInterruptedActive endedAt).perform env s = .ok r)
    (hs : s.indexesCertified = true → s.active = none → Trustworthy trace)
    (hcertified : r.1.indexesCertified = true) :
    Trustworthy ((Operation.recoverInterruptedActive endedAt).events
      ((Operation.recoverInterruptedActive endedAt).ends env s) ++ trace) := by
  by_cases hactive : s.active = none
  · exact (performed h).trustworthy (fun hflag => hs hflag hactive) hcertified
  · -- the interrupted generation ends uncleanly, so the flag cannot be set
    obtain ⟨hfinished, -⟩ := (finish_ok hactive).mp h
    obtain ⟨-, startedAt, -, hr⟩ := finishActive_ok.mp hfinished
    rw [hr] at hcertified
    cases hcertified

/-- After a call the file holds the state of the process. -/
theorem load_persisted {operation : Operation} {r : State × Bool} {file : Option Value}
    (h : operation.perform env s = .ok r) (hversioned : s.Versioned)
    (hload : load (readingOf file) = .ok s) : load (readingOf (persisted file r)) = .ok r.1 := by
  have hperformed := performed h
  have hr := hperformed.versioned hversioned
  cases hpersisted : r.2 with
  | true =>
    rw [persisted, hpersisted, if_pos rfl]
    exact load_payload hr
  | false =>
    have hsame : r.1 = s := by
      generalize operation.ends env s = ended at hperformed
      cases hperformed with
      | idle => rfl
      | closed | opened | replaced | certified => cases hpersisted
    rw [persisted, hpersisted, if_neg Bool.false_ne_true, hsame]
    exact hload

theorem TrustWorld.Founded.step {w w' : TrustWorld} (h : w.Founded) (hstep : w.Step env w') :
    w'.Founded := by
  cases hstep with
  | call operation hperform =>
    obtain ⟨hversioned, hload, htrust⟩ := h
    exact ⟨(performed hperform).versioned hversioned, load_persisted hperform hversioned hload,
      (performed hperform).trustworthy htrust⟩
  | @crash s file trace =>
    obtain ⟨hversioned, hload, htrust⟩ := h
    refine ⟨s, hversioned, hload, ?_⟩
    intro hcertified hactive
    rw [hactive]
    exact htrust hcertified
  | restart endedAt hload hperform =>
    obtain ⟨s', hversioned, hload', htrust⟩ := h
    rw [hload] at hload'
    cases hload'
    exact ⟨(performed hperform).versioned hversioned, load_persisted hperform hversioned hload,
      recover_trustworthy hperform htrust⟩

theorem TrustWorld.Reachable.founded {w : TrustWorld} (h : w.Reachable env) : w.Founded := by
  induction h with
  | fresh =>
    refine ⟨_, versioned_fromMembers [] true, rfl, ?_⟩
    intro _ _ event hevent
    cases hevent
  | step _ hstep ih => exact ih.step hstep

end

/-! ## The guardian -/

/-- What the guardian's model knows of a history. -/
def State.view (s : State) : Guardian.History := ⟨s.active.isSome, s.indexesCertified⟩

/-- The guardian's request for a call. -/
def Operation.request : Operation → GuardReq
  | .recoverInterruptedActive _ => .historyRecover
  | .start _ _ _ _ _ => .historyStart
  | .finish outcome _ => .historyFinish outcome.cleanShutdown
  | .certifyIndexes _ _ => .historyCertify
  | .snapshot => .historyView

theorem finishActive_history (w : Guardian.World) (cleanShutdown : Bool) :
    (w.finishActive cleanShutdown).history =
      if w.history.active then ⟨false, cleanShutdown && w.history.indexesCertified⟩
      else w.history := by
  rw [Guardian.World.finishActive]
  cases w.history.active <;> cases cleanShutdown <;> rfl

theorem view_closed {env : Interpreter} {s : State} {outcome : Outcome} {endedAt : Number} {s' : State}
    (h : finishActive env outcome endedAt s = .ok s') :
    s'.view = ⟨false, outcome.cleanShutdown && s.indexesCertified⟩ := by
  obtain ⟨-, startedAt, -, rfl⟩ := finishActive_ok.mp h
  rfl

theorem finish_view {env : Interpreter} {s : State} {outcome : Outcome} {endedAt : Number}
    {r : State × Bool} (h : finish env outcome endedAt s = .ok r) {w : Guardian.World}
    (hw : w.history = s.view) :
    (w.finishActive outcome.cleanShutdown).history = r.1.view := by
  rw [finishActive_history, hw]
  by_cases hactive : s.active = none
  · rw [finish_idle hactive] at h
    cases h
    rw [State.view, hactive]
    rfl
  · rw [view_closed ((finish_ok hactive).mp h).1]
    rw [State.view, Option.isSome_iff_ne_none.mpr hactive]
    rfl

/-- A request of the guardian does to its view of the history what the call does to the history. -/
theorem guardExec_history {env : Interpreter} {s : State} {operation : Operation} {r : State × Bool}
    (h : operation.perform env s = .ok r) (c : GuardChoice) {w : Guardian.World}
    (hw : w.history = s.view) : (guardExec operation.request c w).2.history = r.1.view := by
  cases operation with
  | recoverInterruptedActive endedAt => exact finish_view h hw
  | start generation transport mode endedAt startedAt =>
    change { (w.finishActive false).history with active := true } = r.1.view
    rw [finishActive_history, hw]
    by_cases hactive : s.active = none
    · obtain ⟨-, rfl⟩ := (start_ok_idle hactive).mp h
      rw [State.view, hactive]
      rfl
    · obtain ⟨s', hs', -, rfl⟩ := (start_ok_active hactive).mp h
      have hclosed := view_closed hs'
      rw [State.view, Option.isSome_iff_ne_none.mpr hactive]
      exact congrArg (fun h : Guardian.History => { h with active := true }) hclosed.symm
  | finish outcome endedAt => exact finish_view h hw
  | certifyIndexes reason now =>
    obtain ⟨-, rfl⟩ := certifyIndexes_ok.mp h
    change { w.history with indexesCertified := true } = _
    rw [hw]
    rfl
  | snapshot =>
    obtain ⟨view, -, hr⟩ := StorageNode.Config.bind_eq_ok.mp h
    cases hr
    exact hw

/-- A guardian recovers the history before it does anything else. -/
theorem run_recovers_first (cfg : Guardian.Config) (inner fuel : Nat) :
    (Guardian.GuardProg.run cfg inner fuel).next = some .historyRecover := rfl

/-- Certified indexes are founded: since the last certification no generation has ended uncleanly, been
superseded or been interrupted, and the guardian certifies only when the status it has read shows no
unexpected read-only volume and no repair awaits validation. -/
theorem index_trust_founded (env : Interpreter) :
    (∀ w : TrustWorld, w.Reachable env → ∀ s, w.live = some s → s.indexesCertified = true →
      Trustworthy w.trace) ∧
    ∀ (cfg : Guardian.Config) (inner fuel : Nat) (w : Guardian.World)
      (x : Running GuardReq GuardReq.Ans GuardExc Guardian.World), Initial w →
      (guardian cfg inner fuel).Reachable w x →
      Guardian.Running.next x = some .historyCertify → CertifyOk x.state := by
  constructor
  · intro w h s hlive hcertified
    have hfounded := h.founded
    obtain ⟨live, file, trace⟩ := w
    cases hlive
    exact hfounded.2.2 hcertified
  · intro cfg inner fuel w x hinitial hx hnext
    exact Guardian.permitted hinitial hx hnext

/-- A new guardian that certifies the indexes for the first time. -/
def firstCertification : TrustWorld where
  live := some ((fromMembers [] true).certified blindInterpreter "" zero)
  file := some ((fromMembers [] true).certified blindInterpreter "" zero).payload
  trace := [.certified]

/-- A guardian that finds a generation of its predecessor, just before it certifies the indexes. -/
def recertifying : Running GuardReq GuardReq.Ans GuardExc Guardian.World :=
  let w : Guardian.World := { history := ⟨true, true⟩ }
  let program := Guardian.GuardProg.run Guardian.oneTarget 3 2
  let choices := List.replicate 68 Guardian.healthy
  ⟨program.after guardExec choices w, some (program.rest guardExec choices w)⟩

/-- Whether a request certifies the indexes. -/
def isCertification : GuardReq → Bool
  | .historyCertify => true
  | _ => false

theorem eq_of_isCertification {r : GuardReq} (h : isCertification r = true) :
    r = .historyCertify := by
  cases r with
  | historyCertify => rfl
  | _ => exact absurd h (by simp [isCertification])

theorem index_trust_founded_certified :
    Trustworthy firstCertification.trace ∧ CertifyOk recertifying.state := by
  have hrestart := @TrustWorld.Step.restart blindInterpreter none [] (fromMembers [] true) zero
    (fromMembers [] true, false) rfl rfl
  have hcertify := @TrustWorld.Step.call blindInterpreter (fromMembers [] true) none []
    (.certifyIndexes "" zero) ((fromMembers [] true).certified blindInterpreter "" zero, true) rfl
  have hfirst : firstCertification.Reachable blindInterpreter :=
    (TrustWorld.Reachable.fresh.step hrestart).step hcertify
  have hinitial : Initial { history := ⟨true, true⟩ } := ⟨rfl, rfl, rfl, rfl, rfl, rfl, by simp⟩
  have hreachable : (guardian Guardian.oneTarget 3 2).Reachable { history := ⟨true, true⟩ }
      recertifying :=
    Program.Machine.Reachable.run _ (.single (.start _ _ ⟨hinitial, rfl⟩))
  obtain ⟨htrust, hcertification⟩ := index_trust_founded blindInterpreter
  constructor
  · exact htrust _ hfirst _ rfl rfl
  · exact hcertification _ _ _ _ _ hinitial hreachable
      (Guardian.eq_some_of_any eq_of_isCertification (by decide +kernel))

end StorageNode.GenerationHistory
