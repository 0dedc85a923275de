import StorageNode.Guardian.Drain

/-!
# Contracts of a termination

Storage is detached and the generation is fenced only while the guardian is not ready. After a
termination that reports success the generation is fenced, and no fence has failed that had not failed
before (`terminateGeneration_closes`); after retirement there is no generation
(`retireGeneration_closes`). The programs that follow a failure (`recover`, `parkManualIntervention`,
`shutDown`) need nothing but the invariant.
-/

set_option autoImplicit false

namespace StorageNode.Guardian

open StorageNode.Program GuardProg

variable {cfg : Config} {E : GuardExc → World → Prop}

/-! ## Detaching -/

/-- What detaching leaves alone. -/
structure Detached (w w' : World) : Prop where
  processes : w'.self.processes = w.self.processes
  lingering : w'.self.lingeringProcesses = w.self.lingeringProcesses
  generation : w'.self.generation = w.self.generation
  fenced : w'.fenced = w.fenced
  ready : w'.health.ready = true → w.health.ready = true
  heeded : w'.heeded = w.heeded
  failures : ∀ g setup, .fenceFailed g setup ∈ w'.log → .fenceFailed g setup ∈ w.log

theorem detached_of_detaches {r : GuardReq} (hr : r.detaches = true) (c : GuardChoice) (w : World) :
    Detached w (guardExec r c w).2 := by
  cases r with
  | assign a =>
      cases a <;> first
        | exact ⟨rfl, rfl, rfl, rfl, id, rfl, fun _ _ h => h⟩
        | exact absurd hr (by simp [GuardReq.detaches])
  | setHealth phase ready =>
      cases ready with
      | false => exact ⟨rfl, rfl, rfl, rfl, fun h => absurd h (by simp [guardExec]), rfl,
        fun _ _ h => h⟩
      | true => exact absurd hr (by cases phase <;> simp [GuardReq.detaches])
  | helper op target full =>
      simp only [guardExec]
      split
      · exact ⟨rfl, rfl, rfl, rfl, id, rfl, fun _ _ h => h⟩
      · generalize c.helperAnswer op target = answer
        cases answer with
        | ok => exact ⟨rfl, rfl, rfl, rfl, id, rfl, fun g setup h => by simpa [World.helperEnd] using h⟩
        | _ => exact ⟨rfl, rfl, rfl, rfl, id, rfl, fun _ _ h => h⟩
  | _ =>
      first
        | exact ⟨rfl, rfl, rfl, rfl, id, rfl, fun _ _ h => h⟩
        | exact absurd hr (by simp [GuardReq.detaches])

/-- A condition that signals, exits and detaching leave alone, and that excludes readiness. -/
structure Framed (F : World → Prop) : Prop where
  firm : Firm F
  detached : ∀ w w', Detached w w' → F w → F w'
  down : ∀ w, F w → Down w

theorem Framed.of_down : Framed Down where
  firm := .down
  detached w w' hd h := by
    rw [Down, ← Bool.not_eq_true] at h ⊢
    exact fun hr => h (hd.ready hr)
  down _ h := h

/-- A program that detaches and is permitted while the guardian is not ready. -/
theorem guards_detaches {α : Type} {F : World → Prop} (hF : Framed F) {p : GuardProg α}
    (h : Guards cfg Down p (fun _ _ => True) Anything) (hp : Detaches p) :
    Guards cfg F p (fun _ => F) fun _ => F :=
  (Discipline.Triple.frame hF.firm.stable
    (fun _ c w hr _ _ hw => hF.detached w _ (detached_of_detaches hr c w) hw) h hp).mono
    (fun w _ hw => ⟨hF.down w hw, hw⟩) (fun _ _ _ h => h.2) fun _ _ _ h => h.2

theorem reapHelperChildren_framed {F : World → Prop} (hF : Framed F) :
    Guards cfg F reapHelperChildren (fun _ => F) fun _ => F := by
  refine guards_detaches hF (fun w hw _ => ?_) reapHelperChildren_detaches
  have hreap : Guards cfg _ reapHelperChildren _ Anything :=
    reapHelperChildren_shrinks w.self.helperChildren
  exact (hreap.post fun _ _ _ _ => trivial) w hw (List.Subset.refl _)

theorem runHelperBase_unmounts (target : Option Target) (full : Bool) :
    Guards cfg Down (runHelperBase .unmount target full) (fun _ _ => True) Anything := by
  refine .bind ((reapHelperChildren_framed .of_down).mono (fun _ _ h => h) (fun _ _ _ h => h)
    fun _ _ _ _ => trivial) fun _ => ?_
  refine .bind (guards_view Firm.down) fun s => ?_
  refine .bind (M := fun _ => Down) (.raiseIf (fun _ _ _ _ => trivial) fun _ _ _ h => h.2) fun _ => ?_
  refine .bind (M := fun _ _ => True) (guards_ask Firm.down (fun w _ hw _ => hw)
    fun _ _ _ _ => trivial) fun answer => ?_
  cases answer with
  | ok => exact .ret fun _ _ _ => trivial
  | _ => exact .raise fun _ _ _ => trivial

/-- Charging a failure to a transport changes no more than that. -/
theorem guards_charge {P : World → Prop} (hP : Firm P)
    (hK : ∀ r c w, r.quiet = true → P w → P (guardExec r c w).2) (charged : Bool) (e : GuardExc) :
    Guards cfg P (α := Unit) (do
      Prog.when charged do
        let t := (← view).transport
        assign (.transport { t with
          failure := true, failureName := firstName t.verificationTransport t.active })
      Prog.raise e) (fun _ _ => False) fun _ => P := by
  refine .bind (M := fun _ => P) ?_ fun _ => .raise fun _ _ h => h
  refine guards_quiet hP hK (Prog.Issues.when ?_)
  exact Prog.Issues.bind ((Prog.issues_ask _).2 rfl) fun _ => (Prog.issues_ask _).2 rfl

theorem runHelper_unmounts (target : Option Target) (full : Bool) :
    Guards cfg Down (runHelper cfg .unmount target full) (fun _ _ => True) Anything := by
  refine .catchWith (runHelperBase_unmounts target full) fun e => .ite (fun _ => ?_) fun _ => ?_
  · exact (guards_charge (.const True) (fun _ _ _ _ h => h) _ e).mono (fun _ _ h => h)
      (fun _ _ _ h => h.elim) fun _ _ _ h => h
  · exact .raise fun _ _ _ => trivial

theorem unmount_framed {F : World → Prop} (hF : Framed F) (target : Target) :
    Guards cfg F (runHelper cfg .unmount (some target) false) (fun _ => F) fun _ => F :=
  guards_detaches hF (runHelper_unmounts (some target) false) (runHelper_detaches cfg _ _)

theorem detachEach_framed {F : World → Prop} (hF : Framed F) (unmountAll timed : Bool) :
    ∀ (targets : List Target) (detached : Bool),
      Guards cfg F (detachEach (fun t => runHelper cfg .unmount (some t) false) unmountAll timed
        targets detached) (fun _ => F) E := by
  intro targets
  induction targets with
  | nil => exact fun _ => .ret fun _ _ h => h
  | cons target targets ih =>
      intro detached
      unfold detachEach
      refine .ite (fun _ => ih detached) fun _ => ?_
      refine .bind (M := fun _ => F) (.ite (fun _ => ?_) fun _ => .ret fun _ _ h => h) fun late => ?_
      · exact guards_ask hF.firm (fun _ _ _ => trivial) fun _ _ _ h => h
      · refine .ite (fun _ => ih false) fun _ => ?_
        refine .bind (M := fun _ => F) (.attempt (unmount_framed hF target)) fun outcome => ?_
        cases outcome with
        | ok _ => exact ih detached
        | error e => exact ih false

theorem repairTargets_framed {F : World → Prop} (hF : Framed F) (unmountAll timed : Bool) :
    Guards cfg F (repairTargets cfg unmountAll timed) (fun _ => F) E := by
  refine .bind (guards_view hF.firm) fun s => ?_
  refine .ite (fun _ => ?_) fun _ => ?_
  · refine .bind (M := fun _ => F) (guards_ask ((Firm.saw s).and hF.firm) (fun _ _ _ => trivial)
      fun c w _ hw => ?_) fun _ => .ret fun _ _ h => h
    exact hF.detached w _ (detached_of_detaches (r := .assign (.transport _)) rfl c w) hw.2
  · have htransport : ∀ t c w, F w → F (guardExec (.assign (.transport t)) c w).2 := fun t c w hw =>
      hF.detached w _ (detached_of_detaches (r := .assign (.transport t)) rfl c w) hw
    refine .bind (M := fun _ => F) (.when (fun _ => guards_ask ((Firm.saw s).and hF.firm)
      (fun _ _ _ => trivial) fun c w _ hw => htransport _ c w hw.2) fun _ _ _ h => h.2) fun _ => ?_
    -- nothing in the `try` block raises, and the variable is restored after it
    refine .andFinally (M := fun _ => F) (F := fun _ _ => False) ?_ (fun _ => ?_) fun _ _ _ h => h.elim
    · refine .bind (M := fun _ => F) (guards_ask hF.firm (fun _ _ _ h => absurd h (by decide))
        fun c w _ hw => ?_) fun _ => detachEach_framed hF unmountAll timed _ _
      exact hF.detached w _ (detached_of_detaches (r := .setHealth .recovering false) rfl c w) hw
    · refine .bind (M := fun _ => F) ((guards_view hF.firm).post fun _ _ _ h => h.2) fun now => ?_
      exact guards_ask hF.firm (fun _ _ _ => trivial) fun c w _ hw => htransport _ c w hw

theorem publishTransport_framed {F : World → Prop} (hF : Framed F) :
    Guards cfg F (publishTransport cfg) (fun _ => F) fun _ => F := by
  refine guards_detaches hF ?_ (publishTransport_detaches cfg)
  unfold publishTransport
  split
  · exact .ret fun _ _ _ => trivial
  · refine guards_must (guards_ask Firm.down (fun _ _ _ => trivial) fun _ _ _ _ => ?_)
    exact ⟨fun _ => trivial, fun _ => trivial⟩

/-! ## States of a termination -/

/-- The guardian is not ready, its generation is `G`, and a fence has failed only if `φ` holds. -/
structure Closing (G : Option Nat) (φ : Prop) (w : World) : Prop where
  down : Down w
  generation : w.self.generation = G
  failed : FenceFailed w.log → φ

/-- In addition no process is left in the list of processes. -/
structure Closed (G : Option Nat) (φ : Prop) (w : World) : Prop extends Closing G φ w where
  processes : w.self.processes = []

theorem Firm.closing (G : Option Nat) (φ : Prop) : Firm (Closing G φ) := by
  intro w w' hm h
  refine ⟨Firm.down w w' hm h.down, ?_, fun hf => h.failed (hm.log ▸ hf)⟩
  rw [hm.self]
  exact h.generation

theorem Framed.closed (G : Option Nat) (φ : Prop) : Framed (Closed G φ) where
  firm w w' hm h := by
    refine ⟨Firm.closing G φ w w' hm h.toClosing, ?_⟩
    rw [hm.self]
    exact h.processes
  detached w w' hd h := by
    refine ⟨⟨Framed.of_down.detached w w' hd h.down, hd.generation.trans h.generation, ?_⟩,
      hd.processes.trans h.processes⟩
    rintro ⟨g, hg⟩
    exact h.failed ⟨g, hd.failures g false hg⟩
  down _ h := h.down

theorem Closed.weaken {G : Option Nat} {φ ψ : Prop} {w : World} (h : Closed G φ w) (hφ : φ → ψ) :
    Closed G ψ w :=
  ⟨⟨h.down, h.generation, fun hf => hφ (h.failed hf)⟩, h.processes⟩

/-- Requests that keep the core keep the state of a termination. -/
theorem Closed.frame {G : Option Nat} {φ : Prop} {w w' : World} (h : Closed G φ w)
    (hs : SameCore w w') (hlog : FenceFailed w'.log → FenceFailed w.log) : Closed G φ w' := by
  refine ⟨⟨?_, hs.generation.trans h.generation, fun hf => h.failed (hlog hf)⟩,
    hs.processes.trans h.processes⟩
  have hdown := h.down
  rw [Down, ← Bool.not_eq_true] at hdown ⊢
  exact fun hr => hdown (hs.ready hr)

/-- A stop check leaves the state of a termination alone. -/
theorem Closed.heed {G : Option Nat} {φ : Prop} {w : World} (h : Closed G φ w) (heeded : Bool) :
    Closed G φ { w with heeded := heeded } :=
  ⟨⟨h.down, h.generation, h.failed⟩, h.processes⟩

theorem Closed.quiet {G : Option Nat} {φ : Prop} {w : World} (h : Closed G φ w) {r : GuardReq}
    (hr : r.quiet = true) (c : GuardChoice) : Closed G φ (guardExec r c w).2 :=
  h.frame (quiet_core hr c w).1 fun hf => (quiet_core hr c w).2 ▸ hf

/-! ## Fencing -/

theorem Firm.nextSerial (g : Nat) : Firm fun w => g < w.nextSerial := by
  intro w w' hm h
  rwa [hm.nextSerial]

/-- `WorkerGeneration.fence` of a generation in service: it is fenced afterwards, or the failure is on
record. -/
theorem fence_closes (G : Option Nat) (φ : Prop) (g : Nat) :
    Guards cfg (fun w => Closed G φ w ∧ g < w.nextSerial) (fence g false)
      (fun _ w => Closed G φ w ∧ g ∈ w.fenced)
      fun _ w => Closed G True w ∧ (g ∈ w.fenced ∨ FenceFailed w.log) := by
  have hclosed := (Framed.closed G φ).firm.and (Firm.nextSerial g)
  refine .bind (M := fun fenced w => (fenced = true → g ∈ w.fenced) ∧ Closed G φ w ∧
      g < w.nextSerial)
    (guards_ask hclosed (fun _ _ _ => trivial) fun _ w _ hw =>
      ⟨fun h => of_decide_eq_true (p := g ∈ w.fenced) h, hw⟩) fun fenced => ?_
  refine .when (fun _ => ?_) ?_
  · refine .bind (M := fun remains w => if remains = true then Closed G True w ∧ FenceFailed w.log
        else Closed G φ w ∧ g < w.nextSerial) (guards_ask ?_ ?_ ?_) fun remains => ?_
    · exact Firm.and (fun w w' hm h hf => Firm.fenced (P := (g ∈ ·)) w w' hm (h hf)) hclosed
    · exact fun w _ hw => hw.2.1.down
    -- a link that remains is a failed fence, and the failure is on record
    · rintro c w _ ⟨-, hw, hserial⟩
      simp only [guardExec, World.record]
      by_cases hremains : c.linkRemains = true
      · simp only [hremains, ↓reduceIte]
        exact ⟨⟨⟨hw.down, hw.generation, fun _ => trivial⟩, hw.processes⟩, g, List.mem_cons_self⟩
      · simp only [hremains, Bool.false_eq_true, ↓reduceIte]
        exact ⟨hw, hserial⟩
    · refine .bind (M := fun _ w => Closed G φ w ∧ g < w.nextSerial) (.raiseIf ?_ ?_) fun _ => ?_
      · intro hbad w _ hw
        rw [if_pos hbad] at hw
        exact ⟨hw.1, .inr hw.2⟩
      · intro hok w _ hw
        rwa [if_neg hok] at hw
      · refine .bind (M := fun _ w => Closed G φ w ∧ g ∈ w.fenced) (guards_ask hclosed
          (fun w _ hw => ⟨hw.1.down, hw.2⟩) fun c w _ hw => ?_) fun _ => ?_
        -- the mark itself records no failure
        · have hfailed : FenceFailed (guardExec (.markFenced g) c w).2.log → φ := by
            rintro ⟨g', hf⟩
            exact hw.1.failed ⟨g', by simpa [guardExec] using hf⟩
          exact ⟨⟨⟨hw.1.down, hw.1.generation, hfailed⟩, hw.1.processes⟩, List.mem_cons_self⟩
        · refine guards_must (guards_ask ((Framed.closed G φ).firm.and Firm.fenced)
            (fun _ _ _ => trivial) fun c w _ hw => ⟨fun _ => hw, fun _ => ?_⟩)
          exact ⟨hw.1.weaken fun _ => trivial, .inl hw.2⟩
  -- nothing to do: the generation was fenced before
  · rintro hfenced w _ ⟨hf, hw, -⟩
    exact ⟨hw, hf (by simpa using hfenced)⟩

/-- A fenced generation is not fenced again. -/
theorem fence_of_fenced (G : Option Nat) (φ : Prop) (g : Nat) :
    Guards cfg (fun w => Closed G φ w ∧ g ∈ w.fenced) (fence g false)
      (fun _ w => Closed G φ w ∧ g ∈ w.fenced) E := by
  have hfirm := (Framed.closed G φ).firm.and (Firm.fenced (P := (g ∈ ·)))
  refine .bind (M := fun fenced w => fenced = true ∧ Closed G φ w ∧ g ∈ w.fenced)
    (guards_ask hfirm (fun _ _ _ => trivial) fun _ _ _ hw => ⟨decide_eq_true hw.2, hw⟩) fun fenced => ?_
  refine .assume fun hfenced => .when (fun hnot => ?_) fun _ _ _ hw => hw
  exact absurd hfenced (by simpa using hnot)

/-- What `_fence_generation` reports: on success the generation is fenced, and no fence has failed that
had not failed before. -/
def Fenced (G : Option Nat) (φ : Prop) (fenced : Bool) (w : World) : Prop :=
  Closed G (fenced = false ∨ φ) w ∧ (fenced = true → ∀ g, G = some g → g ∈ w.fenced)

theorem Framed.fenced (G : Option Nat) (φ : Prop) (fenced : Bool) : Framed (Fenced G φ fenced) where
  firm w w' hm h := by
    refine ⟨(Framed.closed G _).firm w w' hm h.1, fun hf g hg => ?_⟩
    rw [hm.fenced]
    exact h.2 hf g hg
  detached w w' hd h := by
    refine ⟨(Framed.closed G _).detached w w' hd h.1, fun hf g hg => ?_⟩
    rw [hd.fenced]
    exact h.2 hf g hg
  down _ h := h.1.down

theorem fenceGenerationBase_fences (G : Option Nat) (φ : Prop) :
    Guards cfg (Closed G φ) fenceGenerationBase (Fenced G φ) Anything := by
  have hfirm := (Framed.closed G φ).firm
  refine .bind (guards_view hfirm) fun s => ?_
  cases hg : s.generation with
  | none =>
      refine .ret fun w _ hw => ⟨hw.2.weaken .inr, fun _ g hG => ?_⟩
      have hnone : w.self.generation = none := by rw [hw.1.self, hg]
      exact absurd (hw.2.generation.symm.trans hnone) (by simp [hG])
  | some g =>
      refine .bind (M := fun _ w => w.self.generation = some g ∧ Closed G φ w)
        (guards_ask ((Firm.saw s).and hfirm) (fun _ _ _ h => absurd h (by decide)) fun c w _ hw => ?_)
        fun _ => ?_
      · exact ⟨by simp only [guardExec]; rw [hw.1.self, hg],
          hw.2.quiet (r := .setHealth .fencing false) rfl c⟩
      -- a fence that fails is recorded and the call answers false; it does not raise
      · refine .catchWith (F := fun _ w => Closed G True w) ?_ fun e => .ite (fun _ => ?_) fun _ => ?_
        · refine .bind (M := fun _ w => G = some g ∧ Closed G φ w ∧ g ∈ w.fenced) ?_ fun _ => .ret ?_
          · intro w hw hpre
            -- the generation read at the start is still the current one
            have hG : G = some g := hpre.2.generation.symm.trans hpre.1
            exact ((fence_closes G φ g).mono (fun _ _ h => h) (fun _ _ _ h => ⟨hG, h⟩)
              fun _ _ _ h => h.1) w hw ⟨hpre.2, hw.current g hpre.1⟩
          · rintro w _ ⟨hG, hw, hmem⟩
            refine ⟨hw.weaken .inr, fun _ g' hg' => ?_⟩
            obtain rfl : g = g' := Option.some.inj (hG.symm.trans hg')
            exact hmem
        · refine .bind (M := fun _ => Closed G True) (guards_ask (Framed.closed G True).firm
            (fun _ _ _ => trivial) fun c w _ hw => hw.quiet (r := .assign .fatalFenceFailure) rfl c)
            fun _ => ?_
          refine .bind (M := fun _ => Closed G True) (guards_ask (Framed.closed G True).firm
            (fun _ _ _ h => absurd h (by decide)) fun c w _ hw =>
              hw.quiet (r := .setHealth .fenceFailed false) rfl c) fun _ => ?_
          exact .ret fun w _ hw => ⟨hw.weaken fun _ => .inl rfl, fun h => absurd h (by decide)⟩
        · exact .raise fun _ _ _ => trivial

theorem updateTransports_framed {F : World → Prop} (hF : Framed F) (e : GuardExc) :
    Guards cfg F (must e updateTransports) (fun _ => F) fun _ => F :=
  guards_must (guards_ask hF.firm (fun _ _ _ => trivial) fun _ _ _ hw => ⟨fun _ => hw, fun _ => hw⟩)

theorem recordFailure_framed {F : World → Prop} (hF : Framed F) (e : GuardExc) (name : String) :
    Guards cfg F (must e (recordFailure name)) (fun _ => F) fun _ => F :=
  guards_must (guards_ask hF.firm (fun _ _ _ => trivial) fun _ _ _ hw => ⟨fun _ => hw, fun _ => hw⟩)

theorem fenceGeneration_fences (G : Option Nat) (φ : Prop) :
    Guards cfg (Closed G φ) (fenceGeneration cfg) (Fenced G φ) Anything := by
  refine .bind (fenceGenerationBase_fences G φ) fun fenced => ?_
  have hF := Framed.fenced G φ fenced
  refine .bind (M := fun _ => Fenced G φ fenced) ((guards_view hF.firm).post fun _ _ _ h => h.2)
    fun s => ?_
  refine .bind (M := fun _ => Fenced G φ fenced) (.when (fun _ => guards_ask hF.firm
    (fun _ _ _ => trivial) fun _ _ _ h => h) fun _ _ _ h => h) fun _ => ?_
  refine .bind (M := fun _ => Fenced G φ fenced) ((guards_view hF.firm).post fun _ _ _ h => h.2)
    fun s => ?_
  refine .bind (M := fun _ => Fenced G φ fenced) (.when (fun _ => ?_) fun _ _ _ h => h) fun _ => ?_
  · refine .bind ((recordFailure_framed hF _ _).mono (fun _ _ h => h) (fun _ _ _ h => h)
      fun _ _ _ _ => trivial) fun _ => ?_
    exact (publishTransport_framed hF).mono (fun _ _ h => h) (fun _ _ _ h => h) fun _ _ _ _ => trivial
  · refine .bind (M := fun _ => Fenced G φ fenced) (.when (fun _ => ?_) fun _ _ _ h => h)
      fun _ => .ret fun _ _ h => h
    exact (publishTransport_framed hF).mono (fun _ _ h => h) (fun _ _ _ h => h) fun _ _ _ _ => trivial

/-! ## Termination -/

/-- The end of a record in the history keeps the state of a termination. -/
theorem Closed.finishActive {G : Option Nat} {φ : Prop} {w : World} (h : Closed G φ w)
    (cleanShutdown : Bool) : Closed G φ (w.finishActive cleanShutdown) := by
  unfold World.finishActive
  split
  · refine ⟨⟨h.down, h.generation, ?_⟩, h.processes⟩
    rintro ⟨g, hg⟩
    exact h.failed ⟨g, by simpa using hg⟩
  · exact h

theorem finishActive_fenced (w : World) (cleanShutdown : Bool) :
    (w.finishActive cleanShutdown).fenced = w.fenced := by
  unfold World.finishActive
  split <;> rfl

theorem stopSeaweed_closes (G : Option Nat) (φ : Prop) :
    Guards cfg (Closing G φ) stopSeaweed (fun _ => Closed G φ) Anything := by
  have hstop := guards_stops (Firm.closing G φ) ?_
    (stopSeaweed_empties (E := Anything) : Guards cfg _ _ _ _) stopSeaweed_stops
  · exact hstop.mono (fun _ _ h => ⟨trivial, h⟩) (fun _ _ _ h => ⟨h.2, h.1⟩) fun _ _ _ _ => trivial
  · intro w w' hs h
    refine ⟨?_, hs.generation.trans h.generation, fun hf => h.failed (hs.log ▸ hf)⟩
    have hdown := h.down
    rw [Down, ← Bool.not_eq_true] at hdown ⊢
    exact fun hr => hdown (hs.ready hr)

theorem terminateGenerationBase_closes (G : Option Nat) (φ : Prop) (unmountAll : Bool) :
    Guards cfg (Closing G φ)
      (terminateGenerationBase (repairTargets cfg) (fenceGeneration cfg) unmountAll)
      (Fenced G φ) Anything := by
  refine .bind (M := fun s w => s.generation = G ∧ Closing G φ w)
    ((guards_view (Firm.closing G φ)).post fun s w _ h => ?_) fun s => .assume fun hG => ?_
  · refine ⟨?_, h.2⟩
    rw [← h.2.generation, h.1.self]
  cases hs : s.generation with
  -- without a generation there is nothing to fence
  | none =>
      refine .bind (stopSeaweed_closes G φ) fun _ => ?_
      refine .bind (repairTargets_framed (Framed.closed G φ) unmountAll false) fun _ => .ret ?_
      intro w _ hw
      refine ⟨hw.weaken .inr, fun _ g hg => ?_⟩
      exact absurd (hG.symm.trans hs) (by simp [hg])
  | some g =>
      refine .bind (stopSeaweed_closes G φ) fun stopped => ?_
      refine .bind (M := fun _ => Closed G φ) (.ite (fun _ => ?_) fun _ => .ret fun _ _ h => h)
        fun detached => ?_
      · exact repairTargets_framed (Framed.closed G φ) unmountAll true
      -- the fence comes after the processes are stopped, and what follows keeps its result
      refine .bind (fenceGeneration_fences G φ) fun fenced => ?_
      have hF := Framed.fenced G φ fenced
      refine .bind (M := fun _ => Fenced G φ fenced) (.when (fun _ => ?_) fun _ _ _ h => h) fun _ => ?_
      · exact .bind (repairTargets_framed hF unmountAll false) fun _ => .ret fun _ _ h => h
      refine .bind (M := fun _ => Fenced G φ fenced) (guards_must (guards_ask hF.firm
        (fun _ _ _ => trivial) fun c w _ hw => ⟨fun _ => ?_, fun _ => trivial⟩)) fun _ => ?_
      · refine ⟨hw.1.finishActive _, fun hf g' hg' => ?_⟩
        simp only [guardExec, finishActive_fenced]
        exact hw.2 hf g' hg'
      refine .bind (M := fun _ => Fenced G φ fenced) (guards_ask hF.firm (fun _ _ _ => trivial)
        fun c w _ hw => ?_) fun _ => .ret fun _ _ h => h
      exact ⟨⟨⟨hw.1.down, hw.1.generation, hw.1.failed⟩, hw.1.processes⟩, hw.2⟩

theorem quarantineBlocked_framed {F : World → Prop} (hF : Framed F) (t : Transport) (fenced : Bool) :
    Guards cfg F (quarantineBlocked cfg t fenced) (fun result w => result = fenced ∧ F w) Anything := by
  refine .bind (M := fun _ => F) ((guards_view hF.firm).post fun _ _ _ h => h.2) fun s => ?_
  refine .bind ((aliveProcesses_finds _ hF.firm).post fun _ _ _ h => h.2) fun alive => ?_
  refine .bind (M := fun _ => F) ((guards_view hF.firm).post fun _ _ _ h => h.2) fun s => ?_
  refine .bind ((aliveHelpers_finds _ hF.firm).post fun _ _ _ h => h.2.2) fun helpers => ?_
  refine .bind (M := fun _ => F) (.when (fun _ => ?_) fun _ _ _ h => h) fun _ => .ret fun _ _ h => ⟨rfl, h⟩
  refine .bind ((updateTransports_framed hF _).mono (fun _ _ h => h) (fun _ _ _ h => h)
    fun _ _ _ _ => trivial) fun _ => ?_
  exact (publishTransport_framed hF).mono (fun _ _ h => h) (fun _ _ _ h => h) fun _ _ _ _ => trivial

/-- A termination that reports success has fenced the generation. -/
theorem terminateGeneration_closes (G : Option Nat) (φ : Prop) (unmountAll : Bool) :
    Guards cfg (Closing G φ) (terminateGeneration cfg unmountAll) (Fenced G φ) Anything := by
  refine .bind (M := fun _ => Closing G φ) ((guards_view (Firm.closing G φ)).post
    fun _ _ _ h => h.2) fun s => ?_
  refine .bind (terminateGenerationBase_closes G φ unmountAll) fun fenced => ?_
  refine (quarantineBlocked_framed (Framed.fenced G φ fenced) s.transport fenced).post ?_
  rintro result w _ ⟨rfl, h⟩
  exact h

/-! ## Retirement -/

/-- A quiet request keeps the state of a termination and the fate of the generation. -/
theorem closed_quiet {G : Option Nat} {φ : Prop} {g : Nat} {r : GuardReq} (hr : r.quiet = true)
    (c : GuardChoice) {w : World} (h : Closed G φ w ∧ (g ∈ w.fenced ∨ FenceFailed w.log)) :
    Closed G φ (guardExec r c w).2 ∧
      (g ∈ (guardExec r c w).2.fenced ∨ FenceFailed (guardExec r c w).2.log) := by
  obtain ⟨hcore, hlog⟩ := quiet_core hr c w
  rw [hcore.fenced, hlog]
  exact ⟨h.1.quiet hr c, h.2⟩

theorem Firm.fate (G : Option Nat) (φ : Prop) (g : Nat) :
    Firm fun w => Closed G φ w ∧ (g ∈ w.fenced ∨ FenceFailed w.log) := by
  refine (Framed.closed G φ).firm.and fun w w' hm h => ?_
  rwa [hm.fenced, hm.log]

/-- `WorkerGeneration.retire`, after a fence or where a failure is tolerated. -/
theorem retire_closes (G : Option Nat) (φ : Prop) (g : Nat) :
    Guards cfg (fun w => Closed G φ w ∧ g < w.nextSerial ∧ (φ ∨ g ∈ w.fenced)) (retire g)
      (fun _ w => Closed G φ w ∧ (g ∈ w.fenced ∨ FenceFailed w.log))
      fun _ w => Closed G φ w ∧ (g ∈ w.fenced ∨ FenceFailed w.log) := by
  have hfate := Firm.fate G φ g
  have hquiet : ∀ p : GuardProg Unit, (p.Issues fun r => r.quiet = true) →
      Guards cfg (fun w => Closed G φ w ∧ (g ∈ w.fenced ∨ FenceFailed w.log)) p
        (fun _ w => Closed G φ w ∧ (g ∈ w.fenced ∨ FenceFailed w.log))
        fun _ w => Closed G φ w ∧ (g ∈ w.fenced ∨ FenceFailed w.log) :=
    fun p hp => guards_quiet hfate (fun _ c _ hr h => closed_quiet hr c h) hp
  refine .bind (M := fun _ w => Closed G φ w ∧ (g ∈ w.fenced ∨ FenceFailed w.log)) ?_ fun _ =>
    hquiet _ (issues_must _ ((Prog.issues_ask _).2 rfl))
  refine .andFinally (M := fun _ w => Closed G φ w ∧ (g ∈ w.fenced ∨ FenceFailed w.log))
    (F := fun _ w => Closed G φ w ∧ (g ∈ w.fenced ∨ FenceFailed w.log)) ?_
    (fun _ => hquiet _ ((Prog.issues_ask _).2 rfl)) fun _ => hquiet _ ((Prog.issues_ask _).2 rfl)
  by_cases hφ : φ
  · -- a failure is tolerated
    refine (fence_closes G φ g).mono (fun _ _ h => ⟨h.1, h.2.1⟩) (fun _ _ _ h => ⟨h.1, .inl h.2⟩)
      fun _ _ _ h => ⟨h.1.weaken fun _ => hφ, h.2⟩
  · -- the generation is fenced already
    refine (fence_of_fenced G φ g).mono (fun _ _ h => ⟨h.1, h.2.2.resolve_left hφ⟩)
      (fun _ _ _ h => ⟨h.1, .inl h.2⟩) fun _ _ _ h => h

/-- After `_retire_generation` there is no generation. -/
theorem retireGeneration_closes (G : Option Nat) (φ : Prop) :
    Guards cfg (fun w => Closed G φ w ∧ (φ ∨ ∀ g, G = some g → g ∈ w.fenced)) retireGeneration
      (fun _ => Closed none φ) Anything := by
  have hfirm : Firm fun w => Closed G φ w ∧ (φ ∨ ∀ g, G = some g → g ∈ w.fenced) :=
    (Framed.closed G φ).firm.and (Firm.fenced (P := fun fs => φ ∨ ∀ g, G = some g → g ∈ fs))
  refine .bind (M := fun s w => s.generation = G ∧ Closed G φ w ∧
    (φ ∨ ∀ g, G = some g → g ∈ w.fenced)) ((guards_view hfirm).post fun s w _ h => ?_) fun s =>
    .assume fun hG => ?_
  · refine ⟨?_, h.2⟩
    rw [← h.2.1.generation, h.1.self]
  cases hs : s.generation with
  | none =>
      refine .ret fun w _ hw => ⟨⟨hw.1.down, ?_, hw.1.failed⟩, hw.1.processes⟩
      rw [hw.1.generation, ← hG, hs]
  | some g =>
      obtain rfl : G = some g := hG.symm.trans hs
      have hfate := Firm.fate (some g) φ g
      -- the generation is given up whichever way the retirement ends
      have hdetach : Guards cfg (fun w => Closed (some g) φ w ∧ (g ∈ w.fenced ∨ FenceFailed w.log))
          (assign (.generation none)) (fun _ => Closed none φ) Anything := by
        refine guards_ask hfate (fun w _ hw => ⟨hw.1.down, fun g' hg' => ?_⟩) fun c w _ hw =>
          ⟨⟨hw.1.down, rfl, hw.1.failed⟩, hw.1.processes⟩
        obtain rfl : g = g' := Option.some.inj (hw.1.generation.symm.trans hg')
        exact hw.2
      refine .andFinally (M := fun _ w => Closed (some g) φ w ∧ (g ∈ w.fenced ∨ FenceFailed w.log))
        (F := fun _ w => Closed (some g) φ w ∧ (g ∈ w.fenced ∨ FenceFailed w.log)) ?_
        (fun _ => hdetach) fun _ => hdetach.mono (fun _ _ h => h) (fun _ _ _ _ => trivial)
          fun _ _ _ _ => trivial
      refine .catchWith ((retire_closes (some g) φ g).pre fun w hw h => ⟨h.1, ?_, ?_⟩) fun e =>
        .ite (fun _ => ?_) fun _ => .raise fun _ _ h => h
      · exact hw.current g h.1.generation
      · exact h.2.imp id fun hall => hall g rfl
      · refine guards_quiet hfate (fun _ c _ hr h => closed_quiet hr c h) ?_
        refine Prog.Issues.bind ((Prog.issues_ask _).2 rfl) fun _ => ?_
        exact Prog.Issues.bind ((Prog.issues_ask _).2 rfl) fun _ => (Prog.issues_ask _).2 rfl

/-! ## After a failure -/

theorem GuardReq.quiet_of_pauses : ∀ r : GuardReq, r.pauses = true → r.quiet = true := by
  intro r hr
  cases r with
  | assign a => cases a <;> first | rfl | exact absurd hr (by simp [GuardReq.pauses])
  | setHealth phase ready =>
      cases ready with
      | false => rfl
      | true => exact absurd hr (by cases phase <;> simp [GuardReq.pauses])
  | _ => first | rfl | exact absurd hr (by simp [GuardReq.pauses])

theorem permit_of_parks {r : GuardReq} (hr : r.parks = true) (w : World) : Permit cfg r w := by
  unfold GuardReq.parks at hr
  split at hr
  · trivial
  · exact permit_of_quiet (GuardReq.quiet_of_pauses _ hr) w

/-- A pause keeps what quiet requests keep. -/
theorem guards_pauses {α : Type} {P : World → Prop} (hP : Firm P)
    (hK : ∀ r c w, r.quiet = true → P w → P (guardExec r c w).2) {p : GuardProg α} (hp : Pauses p) :
    Guards cfg P p (fun _ => P) fun _ => P :=
  guards_quiet hP hK (Prog.Issues.mono GuardReq.quiet_of_pauses hp)

theorem waitForBlockedCleanup_closed (φ : Prop) : ∀ fuel : Nat,
    Guards cfg (Closed none φ) (waitForBlockedCleanup cfg fuel) (fun _ => Closed none φ) Anything := by
  have hF := Framed.closed none φ
  intro fuel
  induction fuel with
  | zero => exact .raise fun _ _ _ => trivial
  | succ fuel ih =>
      refine .bind (M := fun _ => Closed none φ) (guards_ask hF.firm (fun _ _ _ => trivial)
        fun _ w _ h => h.heed _) fun stopping => .when (fun _ => ?_) fun _ _ _ h => h
      refine .bind (M := fun _ => Closed none φ) ((guards_view hF.firm).post fun _ _ _ h => h.2)
        fun s => ?_
      refine .bind ((aliveProcesses_finds _ hF.firm).post fun _ _ _ h => h.2) fun alive => ?_
      refine .bind ((reapHelperChildren_framed hF).mono (fun _ _ h => h) (fun _ _ _ h => h)
        fun _ _ _ _ => trivial) fun _ => ?_
      refine .bind (M := fun _ => Closed none φ) ((guards_view hF.firm).post fun _ _ _ h => h.2)
        fun s => ?_
      refine .bind ((aliveHelpers_finds _ hF.firm).post fun _ _ _ h => h.2.2) fun helpers => ?_
      refine .when (fun _ => ?_) fun _ _ _ h => h
      refine .bind (M := fun _ => Closed none φ) (guards_ask hF.firm
        (fun _ _ _ h => absurd h (by decide)) fun c w _ hw =>
          hw.quiet (r := .setHealth .hostRecoveryRequired false) rfl c) fun _ => ?_
      refine .bind (M := fun _ => Closed none φ) ?_ fun _ => ih
      exact (guards_pauses hF.firm (fun _ c _ hr h => h.quiet hr c)
        (interruptibleSleep_pauses .transport cfg fuel)).mono (fun _ _ h => h) (fun _ _ _ h => h)
          fun _ _ _ _ => trivial

/-- No generation, no process, and no fence in service has failed. -/
abbrev Vacant : World → Prop := Closed none False

/-- Publishing that the guardian is not ready begins a termination. -/
theorem setHealth_closing {P : World → Prop} (hP : Firm P) {φ : Prop}
    (hφ : ∀ w, P w → FenceFailed w.log → φ) (phase : HealthPhase) :
    Guards cfg P (setHealth phase false) (fun _ w => ∃ G, Closing G φ w) Anything :=
  guards_ask hP (fun _ _ _ h => absurd h (by decide)) fun _ w _ hw =>
    ⟨w.self.generation, rfl, rfl, fun hf => hφ w hw hf⟩

/-- When recovery goes on, everything of the failed generation is gone. -/
theorem recover_vacant (fuel : Nat) :
    Guards cfg Sound (recover cfg fuel) (fun again w => again = true → Vacant w) Anything := by
  refine .bind (setHealth_closing (φ := False) (Firm.log (P := fun l => ¬ FenceFailed l))
    (fun w hw hf => hw hf) .offline) fun _ => .exists_pre fun G => ?_
  refine .bind (terminateGeneration_closes G False false) fun fenced => .ite (fun hfenced => ?_)
    fun _ => ?_
  · refine .bind ((retireGeneration_closes G False).pre fun w _ hw => ?_) fun _ => ?_
    · refine ⟨hw.1.weaken fun h => ?_, .inr (hw.2 hfenced)⟩
      rcases h with h | h
      · exact absurd (hfenced.symm.trans h) (by decide)
      · exact h
    refine .bind (waitForBlockedCleanup_closed False fuel) fun _ => ?_
    have hF := Framed.closed none False
    refine .bind (M := fun _ => Vacant) (guards_ask hF.firm (fun _ _ _ => trivial)
      fun _ w _ h => h.heed _) fun stopping => ?_
    refine .ite (fun _ => .ret fun _ _ _ h => absurd h (by decide)) fun _ => ?_
    refine .bind (M := fun _ => Vacant) ?_ fun _ => .ret fun _ _ hw _ => hw
    exact (guards_pauses hF.firm (fun _ c _ hr h => h.quiet hr c)
      (interruptibleSleep_pauses .transport cfg fuel)).mono (fun _ _ h => h) (fun _ _ _ h => h)
        fun _ _ _ _ => trivial
  · refine .bind (M := fun _ _ => True) (guards_ask (Framed.fenced G False fenced).firm
      (fun _ _ _ => trivial) fun _ _ _ _ => trivial) fun _ => ?_
    exact .ret fun _ _ _ h => absurd h (by decide)

/-- Termination and retirement of whatever there is. -/
theorem terminate_and_retire (G : Option Nat) (fenced : Bool) :
    Guards cfg (Fenced G True fenced) retireGeneration (fun _ => Closed none True) Anything :=
  (retireGeneration_closes G True).pre fun _ _ hw => ⟨hw.1.weaken fun _ => trivial, .inl trivial⟩

theorem parkManualIntervention_guards (fuel : Nat) :
    Guards cfg (fun _ => True) (parkManualIntervention .transport cfg fuel) (fun _ _ => True)
      Anything := by
  refine .bind (setHealth_closing (φ := True) (.const True) (fun _ _ _ => trivial) _) fun _ =>
    .exists_pre fun G => ?_
  refine .bind (terminateGeneration_closes G True false) fun fenced => ?_
  have hF := Framed.fenced G True fenced
  refine .bind (M := fun _ => Fenced G True fenced) (.when (fun _ => guards_ask hF.firm
    (fun _ _ _ => trivial) fun c w _ hw => ?_) fun _ _ _ h => h) fun _ => ?_
  · refine ⟨hw.1.quiet (r := .assign .stopping) rfl c, hw.2⟩
  refine .bind (terminate_and_retire G fenced) fun _ => ?_
  have hpark : Guards cfg (fun _ => True) _ (fun _ _ => True) Anything :=
    .of_issues (Firm.const True).stable (fun _ w hr _ _ => ⟨permit_of_parks hr w, fun _ => trivial⟩)
      (waitUntilStopped_parks (interruptibleSleep_pauses .transport cfg) fuel)
  exact hpark.mono (fun _ _ _ => trivial) (fun _ _ _ h => h) fun _ _ _ h => h

theorem shutDown_guards :
    Guards cfg (fun _ => True) (shutDown cfg) (fun _ _ => True) Anything := by
  refine .bind (setHealth_closing (φ := True) (.const True) (fun _ _ _ => trivial) _) fun _ =>
    .exists_pre fun G => ?_
  refine .bind (terminateGeneration_closes G True true) fun fenced => ?_
  exact (terminate_and_retire G fenced).post fun _ _ _ _ => trivial

end StorageNode.Guardian
