import StorageNode.IndexRepair.JournalContract
import StorageNode.Program.Sequential

/-!
# Operations that run alone

Contracts of the controller's parts when no `request_retry` call interferes. The environment is
reliable or not: a reliable one serves every request. `Exact` says what an operation does when it
returns, and that it raises only when the environment is not reliable.
-/

set_option autoImplicit false

namespace StorageNode.IndexRepair

open StorageNode.Program StorageNode.IndexHelper RepairProg

variable {D : Type}

/-- The choices of a reliable environment have no faults. -/
def reliably (reliable : Bool) (c : RepairChoice D) : RepairChoice D :=
  cond reliable { c with fault := .none } c

variable [DecidableEq D]

/-- The effect of a request in such an environment. -/
def aloneExec (sha256 : Bytes → D) (reliable : Bool) (r : RepairReq D) (c : RepairChoice D)
    (w : World D) : r.Ans × World D :=
  repairExec sha256 r (reliably reliable c) w

/-- The operation leads from `P` to `Q`, and raises only in an unreliable environment. -/
def Exact (sha256 : Bytes → D) (reliable : Bool) {α : Type} (P : World D → Prop)
    (p : RepairProg D α) (Q : α → World D → Prop) : Prop :=
  Hoare (aloneExec sha256 reliable) P p Q fun _ _ => reliable = false

section

variable {sha256 : Bytes → D} {reliable : Bool} {P : World D → Prop} {α : Type}

omit [DecidableEq D] in
theorem attempted_reliably (c : RepairChoice D) (w w' : World D) :
    attempted (reliably reliable c) w w' = (true, w') ∨
      (attempted (reliably reliable c) w w').1 = false ∧ reliable = false := by
  cases reliable with
  | true => exact .inl rfl
  | false =>
      simp only [reliably, cond_false, attempted]
      cases c.fault <;> simp

/-- An operation whose failure ends the program. -/
theorem must_exact {p : RepairProg D Bool} {Q : World D → Prop}
    (h : Exact sha256 reliable P p fun done s => done = true ∧ Q s ∨ done = false ∧ reliable = false) :
    Exact sha256 reliable P (must p) fun _ => Q := by
  refine Discipline.Triple.bind h fun done => Discipline.Triple.raiseIf ?_ ?_
  · rintro hdone s - (⟨rfl, -⟩ | ⟨-, hfail⟩)
    · exact absurd hdone (by simp)
    · exact hfail
  · rintro hdone s - (⟨-, hq⟩ | ⟨rfl, -⟩)
    · exact hq
    · exact absurd rfl hdone

theorem orRaise_exact {β : Type} {e : RepairExc D} {o : Option β} {b : β} {f : β → RepairProg D α}
    {Q : α → World D → Prop} (ho : o = some b) (hf : Exact sha256 reliable P (f b) Q) :
    Exact sha256 reliable P ((Prog.orRaise e o).bind f) Q := by
  subst ho
  exact hf

theorem fsync_exact : Exact sha256 reliable P fsyncDirectory fun _ => P := by
  refine must_exact (Hoare.ask fun c s hs => ?_)
  cases reliable with
  | true => exact .inl ⟨rfl, hs⟩
  | false =>
      by_cases hfault : c.fault = .none
      · exact .inl ⟨decide_eq_true hfault, hs⟩
      · exact .inr ⟨decide_eq_false hfault, rfl⟩

theorem transactions_exact :
    Exact sha256 reliable P transactions fun ts s => P s ∧ ts = s.journal := by
  refine Discipline.Triple.bind (M := fun answer s => P s ∧
    (answer = some s.journal ∨ answer = none ∧ reliable = false)) (Hoare.ask fun c s hs => ?_) ?_
  · refine ⟨hs, ?_⟩
    cases reliable with
    | true => exact .inl rfl
    | false =>
        by_cases hfault : c.fault = .none
        · exact .inl (if_pos hfault)
        · exact .inr ⟨if_neg hfault, rfl⟩
  · refine fun answer => Discipline.Triple.orRaise ?_ ?_
    · rintro hnone s - ⟨-, hsome | ⟨-, hfail⟩⟩
      · exact absurd (hnone.symm.trans hsome) (by simp)
      · exact hfail
    · rintro ts hts s - ⟨hs, hsome | ⟨hnone, -⟩⟩
      · exact ⟨hs, Option.some.inj (hts.symm.trans hsome)⟩
      · exact absurd (hts.symm.trans hnone) (by simp)

theorem awaiting_exact :
    Exact sha256 reliable P awaiting fun ts s => P s ∧
      ts = s.journal.filter fun t => t.phase.pendingValidation :=
  Discipline.Triple.bind transactions_exact fun _ =>
    Discipline.Triple.ret fun _ _ h => ⟨h.1, by rw [h.2]⟩

theorem save_exact {kind : SaveKind} {t : Transaction D} {Q : World D → Prop}
    (h : ∀ s, P s → Q (s.saveRecord kind t)) :
    Exact sha256 reliable P (must (trySave kind t)) fun _ => Q := by
  refine must_exact (Hoare.ask fun c s hs => ?_)
  rcases attempted_reliably c s (s.saveRecord kind t) with heq | ⟨hfalse, hfail⟩
  · refine .inl ?_
    rw [aloneExec, repairExec, heq]
    exact ⟨rfl, h s hs⟩
  · exact .inr ⟨hfalse, hfail⟩

/-- The state after a transition: a clock reading and a save. -/
theorem transition_exact {t : Transaction D} {phase : Phase} {Q : Transaction D → World D → Prop}
    (h : ∀ s, P s → ∀ at_, Q { t with phase := phase, updatedAt := at_ }
      (World.saveRecord { s with clock := at_ } .transition
        { t with phase := phase, updatedAt := at_ })) :
    Exact sha256 reliable P (transition t phase) Q := by
  refine Discipline.Triple.bind (M := fun at_ s => ∃ s₀, P s₀ ∧ s = { s₀ with clock := at_ }) ?_
    fun at_ => ?_
  · exact Hoare.ask fun c s hs => ⟨s, hs, rfl⟩
  · refine Discipline.Triple.bind (save_exact (Q := Q { t with phase := phase, updatedAt := at_ }) ?_)
      fun _ => Discipline.Triple.ret fun _ _ hq => hq
    rintro _ ⟨s₀, hs₀, rfl⟩
    exact h s₀ hs₀ at_

theorem unlink_exact {p : Path} {Q : World D → Prop} (h : ∀ s, P s → Q (s.setFile p none)) :
    Exact sha256 reliable P (must (tryUnlink p)) fun _ => Q := by
  refine must_exact (Hoare.ask fun c s hs => ?_)
  rcases attempted_reliably c s (s.setFile p none) with heq | ⟨hfalse, hfail⟩
  · refine .inl ?_
    rw [aloneExec, repairExec, heq]
    exact ⟨rfl, h s hs⟩
  · exact .inr ⟨hfalse, hfail⟩

theorem replace_exact {p q : Path} {Q : World D → Prop}
    (h : ∀ s, P s → ∃ node, s.files p = some node ∧ Q ((s.setFile q (some node)).setFile p none)) :
    Exact sha256 reliable P (must (tryReplace p q)) fun _ => Q := by
  refine must_exact (Hoare.ask fun c s hs => ?_)
  obtain ⟨node, hnode, hq⟩ := h s hs
  simp only [aloneExec, repairExec, hnode]
  rcases attempted_reliably c s ((s.setFile q (some node)).setFile p none) with heq | ⟨hfalse, hfail⟩
  · rw [heq]
    exact .inl ⟨rfl, hq⟩
  · exact .inr ⟨hfalse, hfail⟩

theorem copy_exact {p q : Path} {mode : Nat} {Q : World D → Prop}
    (h : ∀ s, P s → (reliable = true → s.files q = none) ∧ ∃ contents, s.contents p = some contents ∧
      (s.files q = none → Q (s.setFile q (some (.file contents mode))))) :
    Exact sha256 reliable P (must (tryCopy p q (some mode))) fun _ => Q := by
  refine must_exact (Hoare.ask fun c s hs => ?_)
  obtain ⟨hfree, contents, hcontents, hq⟩ := h s hs
  obtain ⟨x, hread, rfl⟩ := Option.map_eq_some_iff.1 hcontents
  simp only [aloneExec, repairExec, copied, hread, Option.getD_some]
  cases hdestination : s.files q with
  | some node =>
      refine .inr ⟨rfl, ?_⟩
      cases reliable with
      | true => exact absurd ((hfree rfl).symm.trans hdestination) (by simp)
      | false => rfl
  | none =>
      cases reliable with
      | true => exact .inl ⟨rfl, hq hdestination⟩
      | false =>
          simp only [reliably, cond_false]
          cases c.fault with
          | none => exact .inl ⟨rfl, hq hdestination⟩
          | before => exact .inr ⟨rfl, trivial⟩
          | after => exact .inr ⟨rfl, trivial⟩

/-- A file with the expected digest is found to be the same. -/
theorem sameArtifact_exact {p : Path} {digest : Digest D}
    (h : ∀ s, P s → fileDigest sha256 s p = some digest) :
    Exact sha256 reliable P (sameArtifact p (some digest)) fun same s =>
      P s ∧ (same = false → reliable = false) := by
  refine Discipline.Triple.bind (M := fun answer s => P s ∧
    (answer.map Artifact.toDigest = some digest ∨ answer = none ∧ reliable = false))
    (Hoare.ask fun c s hs => ⟨hs, ?_⟩) fun answer => ?_
  · obtain ⟨contents, hcontents, heq⟩ := Option.map_eq_some_iff.1 (h s hs)
    obtain ⟨x, hread, rfl⟩ := Option.map_eq_some_iff.1 hcontents
    simp only [aloneExec, repairExec, hread]
    cases reliable with
    | true => exact .inl (by simp [reliably, heq])
    | false =>
        by_cases hfault : c.fault = .none
        · exact .inl (by simp [reliably, hfault, heq])
        · exact .inr ⟨by simp [reliably, hfault], rfl⟩
  · cases answer with
    | none =>
        refine Discipline.Triple.ret ?_
        rintro s - ⟨hs, hsome | ⟨-, hfail⟩⟩
        · exact absurd hsome (by simp)
        · exact ⟨hs, fun _ => hfail⟩
    | some actual =>
        refine Discipline.Triple.ret ?_
        rintro s - ⟨hs, hsome | ⟨hnone, -⟩⟩
        · refine ⟨hs, fun hfalse => absurd hfalse ?_⟩
          simpa using Option.some.inj hsome
        · exact absurd hnone (by simp)

end

/-! ## Runs -/

section

variable {sha256 : Bytes → D} {P : World D → Prop} {α : Type} {p : RepairProg D α}
  {Q : α → World D → Prop}

/-- What an operation does when it returns, whatever fails. -/
theorem Exact.of_ok (h : Exact sha256 false P p Q) {w w' : World D} (hw : P w)
    {cs : List (RepairChoice D)} {a : α} (hrun : p.run (repairExec sha256) cs w = (.ok a, w')) :
    Q a w' :=
  Hoare.of_ok h hw hrun

/-- Choices without faults are those of a reliable environment. -/
theorem run_reliably : ∀ (cs : List (RepairChoice D)) (p : RepairProg D α) (s : World D),
    (∀ c ∈ cs, c.fault = .none) →
    p.run (aloneExec sha256 true) cs s = p.run (repairExec sha256) cs s := by
  intro cs
  induction cs with
  | nil => intro p s _; cases p <;> rfl
  | cons c cs ih =>
      intro p s hcs
      cases p with
      | ret a => rfl
      | raise e => rfl
      | call r k =>
          have hc : reliably true c = c := by
            have hfault := hcs c List.mem_cons_self
            simp only [reliably, cond_true]
            rw [← hfault]
          simp only [Prog.run, aloneExec, hc]
          exact ih _ _ fun d hd => hcs d (List.mem_cons_of_mem _ hd)

theorem Exact.of_run (h : Exact sha256 true P p Q) {w w' : World D} (hw : P w)
    {cs : List (RepairChoice D)} (hcs : ∀ c ∈ cs, c.fault = .none) {a : α}
    (hrun : p.run (repairExec sha256) cs w = (.ok a, w')) : Q a w' := by
  rw [← run_reliably cs p w hcs] at hrun
  exact Hoare.of_ok h hw hrun

theorem Exact.not_raised (h : Exact sha256 true P p Q) {w w' : World D} (hw : P w)
    {cs : List (RepairChoice D)} (hcs : ∀ c ∈ cs, c.fault = .none) {e : RepairExc D} :
    p.run (repairExec sha256) cs w ≠ (.raised e, w') := by
  intro hrun
  rw [← run_reliably cs p w hcs] at hrun
  exact absurd (Hoare.of_raised h hw hrun) (by simp)

/-- Without faults, the operation returns. -/
theorem Exact.exists_ok (h : Exact sha256 true P p Q) {w : World D} (hw : P w)
    (f : Nat → RepairChoice D) (hf : ∀ n, (f n).fault = .none) :
    ∃ n a w', p.run (repairExec sha256) ((List.range n).map f) w = (.ok a, w') := by
  obtain ⟨n, a, w', hrun⟩ := Hoare.exists_ok
    (Discipline.Triple.mono h (fun _ _ h => h) (fun _ _ _ h => h) fun _ _ _ h => by simp at h) hw f
  refine ⟨n, a, w', ?_⟩
  rw [← hrun]
  refine (run_reliably _ p w fun c hc => ?_).symm
  obtain ⟨m, -, rfl⟩ := List.mem_map.1 hc
  exact hf m

end

end StorageNode.IndexRepair
