import StorageNode.Guardian.Keeps
import StorageNode.Guardian.Footprint

/-!
# Contracts of stopping

`Guards` is the contract of a guardian program under `guardDiscipline`. This module has the rules for
single requests, the searches for what still runs, and `_stop_seaweed`, which leaves every process that
still runs in the list of lingering processes (`stopSeaweed_empties`).
-/

set_option autoImplicit false

namespace StorageNode.Guardian

open StorageNode.Program GuardProg

/-- The contract of a guardian program. -/
abbrev Guards (cfg : Config) {α : Type} (P : World → Prop) (p : GuardProg α) (Q : α → World → Prop)
    (E : GuardExc → World → Prop) : Prop :=
  (guardDiscipline cfg).Triple P p Q E

/-- No promise about exceptions. -/
abbrev Anything : GuardExc → World → Prop := fun _ _ => True

/-- A condition that signals and exits leave alone. -/
def Firm (P : World → Prop) : Prop :=
  ∀ w w', Moved w w' → P w → P w'

section

variable {cfg : Config} {α : Type} {P P' : World → Prop} {E : GuardExc → World → Prop}

theorem Firm.stable (h : Firm P) : (guardDiscipline cfg).Stable P :=
  fun w w' _ _ hm hp => h w w' hm hp

theorem Firm.and (h : Firm P) (h' : Firm P') : Firm fun w => P w ∧ P' w :=
  fun w w' hm hp => ⟨h w w' hm hp.1, h' w w' hm hp.2⟩

theorem Firm.const (φ : Prop) : Firm fun _ => φ :=
  fun _ _ _ h => h

/-- Conditions on attributes other than `stopping`. -/
theorem Firm.self {P : Self → Prop} (h : ∀ s b, P s → P { s with stopping := b }) :
    Firm fun w => P w.self := by
  intro w w' hm hp
  rw [hm.self]
  exact h _ _ hp

theorem Firm.down : Firm Down := by
  intro w w' hm hd
  rw [Down, ← Bool.not_eq_true] at hd ⊢
  exact fun hr => hd (hm.ready hr)

theorem Firm.log {P : List Event → Prop} : Firm fun w => P w.log := by
  intro w w' hm hp
  rwa [hm.log]

theorem Firm.fenced {P : List Nat → Prop} : Firm fun w => P w.fenced := by
  intro w w' hm hp
  rwa [hm.fenced]

/-! ## Single requests -/

/-- A request that is permitted and keeps a condition. -/
theorem guards_ask {r : GuardReq} {Q : r.Ans → World → Prop} (hP : Firm P)
    (hpermit : ∀ w, GuardInv cfg w → P w → Permit cfg r w)
    (hQ : ∀ c w, GuardInv cfg w → P w → Q (guardExec r c w).1 (guardExec r c w).2) :
    Guards cfg P (Prog.ask r) Q E :=
  .ask hP.stable hpermit fun c w hw hp _ => hQ c w hw hp

/-- What the guardian saw of itself; later only `stopping` may have changed. -/
structure Saw (s : Self) (w : World) : Prop where
  self : w.self = { s with stopping := w.self.stopping }
  stopping : s.stopping = true → w.self.stopping = true

theorem Firm.saw (s : Self) : Firm (Saw s) := by
  intro w w' hm hs
  refine ⟨?_, fun h => hm.stopping (hs.stopping h)⟩
  rw [hm.self, hs.self]

theorem guards_view (hP : Firm P) : Guards cfg P view (fun s w => Saw s w ∧ P w) E :=
  guards_ask hP (fun _ _ _ => trivial) fun _ _ _ hp => ⟨⟨rfl, id⟩, hp⟩

/-- A stop check: without a stop request it saw none, and with one the guardian is told to stop. -/
theorem guards_stopRequested {Q : Bool → World → Prop} (hP : Firm P)
    (hgo : ∀ w, GuardInv cfg w → P w → w.self.stopping = false → Q false { w with heeded := false })
    (hstop : ∀ w, GuardInv cfg w → P w → w.self.stopping = true → Q true { w with heeded := true }) :
    Guards cfg P stopRequested Q E := by
  refine guards_ask hP (fun _ _ _ => trivial) fun c w hw h => ?_
  simp only [guardExec]
  cases hs : w.self.stopping with
  | false => exact hgo w hw h hs
  | true => exact hstop w hw h hs

/-- A failed call raises in the state it left. -/
theorem guards_must {p : GuardProg Bool} {e : GuardExc} {Q : Unit → World → Prop}
    (h : Guards cfg P p (fun ok w => (ok = true → Q () w) ∧ (ok = false → E e w)) E) :
    Guards cfg P (must e p) Q E := by
  refine .bind h fun ok => .raiseIf ?_ ?_
  · intro hbad w _ hw
    exact hw.2 (by simpa using hbad)
  · intro hok w _ hw
    exact hw.1 (by simpa using hok)

/-- A program of quiet requests keeps what quiet requests keep. -/
theorem guards_quiet (hP : Firm P)
    (hK : ∀ r c w, r.quiet = true → P w → P (guardExec r c w).2) {p : GuardProg α}
    (hp : p.Issues fun r => r.quiet = true) : Guards cfg P p (fun _ => P) fun _ => P :=
  .of_issues hP.stable (fun _ w hr _ hw => ⟨permit_of_quiet hr w, fun c => hK _ c w hr hw⟩) hp

end

/-! ## What still runs -/

section

variable {cfg : Config} {E : GuardExc → World → Prop}

/-- Every process of the list that still runs was found. -/
theorem aliveProcesses_finds : ∀ (ps : List Proc) {P : World → Prop}, Firm P →
    Guards cfg P (aliveProcesses ps)
      (fun alive w => (∀ p ∈ ps, p ∈ w.running → p ∈ alive) ∧ P w) E := by
  intro ps
  induction ps with
  | nil => exact fun _ => .ret fun w _ hw => ⟨by simp, hw⟩
  | cons p ps ih =>
      intro P hP
      refine .bind (M := fun alive w => (p ∈ w.running → alive = true) ∧ P w)
        (guards_ask hP (fun _ _ _ => trivial) fun c w _ hw => ⟨fun hp => decide_eq_true hp, hw⟩) ?_
      intro alive
      -- processes only end, so the answer about `p` stays an upper bound
      refine .bind (ih (Firm.and (fun w w' hm h hp => h (hm.running p hp)) hP)) fun rest => .ret ?_
      rintro w _ ⟨hrest, halive, hw⟩
      refine ⟨fun q hq hrun => ?_, hw⟩
      rcases List.mem_cons.1 hq with rfl | hq
      · rw [if_pos (halive hrun)]
        exact List.mem_cons_self
      · split
        · exact List.mem_cons_of_mem _ (hrest q hq hrun)
        · exact hrest q hq hrun

/-- Every helper of the list that still runs was found, and no others. -/
theorem aliveHelpers_finds : ∀ (hs : List Nat) {P : World → Prop}, Firm P →
    Guards cfg P (aliveHelpers hs)
      (fun alive w => (∀ h ∈ hs, h ∈ w.helpersRunning → h ∈ alive) ∧ alive ⊆ hs ∧ P w) E := by
  intro hs
  induction hs with
  | nil => exact fun _ => .ret fun w _ hw => ⟨by simp, by simp, hw⟩
  | cons x hs ih =>
      intro P hP
      refine .bind (M := fun alive w => (x ∈ w.helpersRunning → alive = true) ∧ P w)
        (guards_ask hP (fun _ _ _ => trivial) fun c w _ hw => ⟨fun hx => decide_eq_true hx, hw⟩) ?_
      intro alive
      refine .bind (ih (Firm.and (fun w w' hm h hx => h (hm.helpersRunning x hx)) hP))
        fun rest => .ret ?_
      rintro w _ ⟨hrest, hsub, halive, hw⟩
      refine ⟨fun h hh hrun => ?_, ?_, hw⟩
      · rcases List.mem_cons.1 hh with rfl | hh
        · rw [if_pos (halive hrun)]
          exact List.mem_cons_self
        · split
          · exact List.mem_cons_of_mem _ (hrest h hh hrun)
          · exact hrest h hh hrun
      · split
        · exact List.cons_subset_cons _ hsub
        · exact fun h hh => List.mem_cons_of_mem _ (hsub hh)

/-- Afterwards no lingering process is left, or the call fails. A condition that does not speak about
lingering processes is kept. -/
theorem ensureNoLingeringProcesses_clears {P : World → Prop} (hP : Firm P)
    (hlist : ∀ w ps, P w → P { w with self := { w.self with lingeringProcesses := ps } }) :
    Guards cfg P ensureNoLingeringProcesses
      (fun _ w => w.self.lingeringProcesses = [] ∧ P w) fun _ => P := by
  refine .bind (guards_view hP) fun s => ?_
  refine .bind (aliveProcesses_finds s.lingeringProcesses ((Firm.saw s).and hP)) fun alive => ?_
  refine .bind (M := fun _ w => w.self.lingeringProcesses = alive ∧ P w) (guards_ask ?_ ?_ ?_) fun _ =>
    .raiseIf (fun _ _ _ hw => hw.2) fun hnone w _ hw => ?_
  · refine Firm.and (fun w w' hm h p hp hrun => ?_) ((Firm.saw s).and hP)
    exact h p hp (hm.running p hrun)
  · rintro w hw ⟨halive, hsaw, -⟩ p hrun
    rcases hw.procs p hrun with hp | hp
    · exact .inl hp
    · rw [hsaw.self] at hp
      exact .inr (halive p hp hrun)
  · exact fun c w _ hw => ⟨rfl, hlist w alive hw.2.2⟩
  · rw [hw.1]
    exact ⟨Classical.not_not.1 hnone, hw.2⟩

/-- The list of helpers shrinks. -/
theorem reapHelperChildren_shrinks (hs : List Nat) :
    Guards cfg (fun w => w.self.helperChildren ⊆ hs) reapHelperChildren
      (fun _ w => w.self.helperChildren ⊆ hs) E := by
  have hfirm : Firm fun w => w.self.helperChildren ⊆ hs :=
    Firm.self (P := fun s => s.helperChildren ⊆ hs) fun _ _ h => h
  refine .bind (guards_view hfirm) fun s => ?_
  refine .bind (aliveHelpers_finds s.helperChildren ((Firm.saw s).and hfirm)) fun alive => ?_
  refine guards_ask ?_ ?_ ?_
  · refine Firm.and (fun w w' hm h p hp hrun => ?_) (Firm.and (.const _) ((Firm.saw s).and hfirm))
    exact h p hp (hm.helpersRunning p hrun)
  · rintro w hw ⟨halive, -, hsaw, -⟩ h hrun
    have hh := hw.helpers h hrun
    rw [hsaw.self] at hh
    exact halive h hh hrun
  · rintro c w _ ⟨-, hsub, hsaw, hchildren⟩
    rw [hsaw.self] at hchildren
    exact fun h hh => hchildren (hsub hh)

/-! ## Stopping -/

/-- Every process that runs is in the list, or it is lingering. -/
def Covered (ps : List Proc) (w : World) : Prop :=
  ∀ p ∈ w.running, p ∈ ps ∨ p ∈ w.self.lingeringProcesses

theorem Firm.covered (ps : List Proc) : Firm (Covered ps) := by
  intro w w' hm h p hp
  rw [hm.self]
  exact h p (hm.running p hp)

theorem Covered.tail {p : Proc} {ps : List Proc} {w : World} (h : Covered (p :: ps) w)
    (hp : p ∈ w.running → p ∈ w.self.lingeringProcesses) : Covered ps w := by
  intro q hq
  rcases h q hq with hmem | hmem
  · rcases List.mem_cons.1 hmem with rfl | hmem
    · exact .inr (hp hq)
    · exact .inl hmem
  · exact .inr hmem

theorem addLingering_covers (p : Proc) (ps : List Proc) :
    Guards cfg (fun w => Down w ∧ Covered (p :: ps) w) (addLingering p)
      (fun _ w => Down w ∧ Covered ps w) E := by
  have hfirm := Firm.down.and (Firm.covered (p :: ps))
  refine .bind (guards_view hfirm) fun s => ?_
  refine .when (fun hnew => guards_ask ((Firm.saw s).and hfirm) ?_ ?_) ?_
  · rintro w hw ⟨hsaw, -⟩ q hq
    rcases hw.procs q hq with hmem | hmem
    · exact .inl hmem
    · rw [hsaw.self] at hmem
      exact .inr (List.mem_append_left _ hmem)
  · rintro c w _ ⟨hsaw, hdown, hcovered⟩
    refine ⟨hdown, fun q hq => ?_⟩
    rcases hcovered q hq with hmem | hmem
    · rcases List.mem_cons.1 hmem with rfl | hmem
      · exact .inr (List.mem_append_right _ List.mem_cons_self)
      · exact .inl hmem
    · rw [hsaw.self] at hmem
      exact .inr (List.mem_append_left _ hmem)
  · rintro hold w _ ⟨hsaw, hdown, hcovered⟩
    refine ⟨hdown, hcovered.tail fun _ => ?_⟩
    rw [hsaw.self]
    exact Classical.not_not.1 hold

/-- A process that was stopped runs no more. -/
theorem stopUntil_covers (p : Proc) (ps : List Proc) :
    Guards cfg (fun w => Down w ∧ Covered (p :: ps) w) (stopUntil p)
      (fun answer w => Down w ∧ Covered (if answer = .stopped then ps else p :: ps) w) E := by
  refine guards_ask (Firm.down.and (Firm.covered _)) (fun w _ hw => hw.1) ?_
  rintro c w _ ⟨hdown, hcovered⟩
  simp only [guardExec]
  split
  · rename_i hstuck
    rw [if_neg hstuck.2]
    exact ⟨hdown, hcovered⟩
  · refine ⟨hdown, ?_⟩
    rw [if_pos rfl]
    intro q hq
    obtain ⟨hrun, hne⟩ := List.mem_filter.1 hq
    rcases hcovered q hrun with hmem | hmem
    · rcases List.mem_cons.1 hmem with rfl | hmem
      · exact absurd rfl (of_decide_eq_true hne)
      · exact .inl hmem
    · exact .inr hmem

theorem stopEach_covers : ∀ (ps : List Proc) (allStopped : Bool),
    Guards cfg (fun w => Down w ∧ Covered ps w) (stopEach ps allStopped)
      (fun _ w => Down w ∧ Covered [] w) E := by
  intro ps
  induction ps with
  | nil => exact fun _ => .ret fun w _ hw => hw
  | cons p ps ih =>
      intro allStopped
      refine .bind (stopUntil_covers p ps) fun answer => ?_
      cases answer with
      | stopped => exact ih allStopped
      | stuck => exact .bind (addLingering_covers p ps) fun _ => ih false
      | raised =>
          have hfirm := Firm.down.and (Firm.covered (p :: ps))
          refine .bind (M := fun alive w => (p ∈ w.running → alive = true) ∧ Down w ∧
              Covered (p :: ps) w)
            (guards_ask hfirm (fun _ _ _ => trivial) fun c w _ hw =>
              ⟨fun hp => decide_eq_true hp, hw⟩) fun alive => ?_
          refine .bind (.when (fun _ => (addLingering_covers p ps).pre fun w _ hw => hw.2) ?_)
            fun _ => ih false
          rintro hdead w _ ⟨halive, hdown, hcovered⟩
          exact ⟨hdown, hcovered.tail fun hrun => absurd (halive hrun) hdead⟩

/-- After `_stop_seaweed` the list of processes is empty. -/
theorem stopSeaweed_empties :
    Guards cfg (fun _ => True) stopSeaweed (fun _ w => w.self.processes = []) E := by
  refine .bind (M := fun _ => Down) (guards_ask (.const True) (fun _ _ _ h => absurd h (by decide))
    fun _ _ _ _ => rfl) fun _ => ?_
  refine .bind (guards_view Firm.down) fun s => ?_
  refine .bind ((stopEach_covers s.processes.reverse true).pre ?_) fun stopped => ?_
  · rintro w hw ⟨hsaw, hdown⟩
    refine ⟨hdown, fun p hp => ?_⟩
    rcases hw.procs p hp with hmem | hmem
    · rw [hsaw.self] at hmem
      exact .inl (List.mem_reverse.2 hmem)
    · exact .inr hmem
  · refine .bind (M := fun _ w => w.self.processes = []) (guards_ask
      (Firm.down.and (Firm.covered [])) (fun w _ hw => hw.2) fun _ _ _ _ => rfl) fun _ => ?_
    exact .ret fun w _ hw => hw

/-- What stopping processes leaves alone. -/
structure Stopped (w w' : World) : Prop where
  generation : w'.self.generation = w.self.generation
  helperChildren : w'.self.helperChildren = w.self.helperChildren
  repair : w'.self.indexRepair = w.self.indexRepair
  fenced : w'.fenced = w.fenced
  ready : w'.health.ready = true → w.health.ready = true
  certified : w'.health.indexesCertified = w.health.indexesCertified
  history : w'.history = w.history
  heeded : w'.heeded = w.heeded
  log : w'.log = w.log

theorem stopped_of_stops {r : GuardReq} (hr : r.stops = true) (c : GuardChoice) (w : World) :
    Stopped w (guardExec r c w).2 := by
  cases r with
  | assign a =>
      cases a <;> first
        | exact ⟨rfl, rfl, rfl, rfl, id, rfl, rfl, rfl, rfl⟩
        | exact absurd hr (by simp [GuardReq.stops])
  | setHealth phase ready =>
      cases ready with
      | false => exact ⟨rfl, rfl, rfl, rfl, fun h => absurd h (by simp [guardExec]), rfl, rfl, rfl, rfl⟩
      | true => exact absurd hr (by cases phase <;> simp [GuardReq.stops])
  | stopUntil p =>
      simp only [guardExec]
      split <;> exact ⟨rfl, rfl, rfl, rfl, id, rfl, rfl, rfl, rfl⟩
  | _ =>
      first
        | exact ⟨rfl, rfl, rfl, rfl, id, rfl, rfl, rfl, rfl⟩
        | exact absurd hr (by simp [GuardReq.stops])

/-- A condition that stopping processes leaves alone is framed. -/
theorem guards_stops {α : Type} {F P : World → Prop} {Q : α → World → Prop} {E : GuardExc → World → Prop}
    (hF : Firm F) (hS : ∀ w w', Stopped w w' → F w → F w') {p : GuardProg α}
    (h : Guards cfg P p Q E) (hp : Stops p) :
    Guards cfg (fun w => P w ∧ F w) p (fun a w => Q a w ∧ F w) fun e w => E e w ∧ F w :=
  .frame hF.stable (fun _ c w hr _ _ hw => hS w _ (stopped_of_stops hr c w) hw) h hp

end

end StorageNode.Guardian
