import StorageNode.Program.Contract

/-!
# Runs under interference

`Reaches exec R x y`: the program and state `x` get to `y` by requests of the program and by steps of
the surroundings along `R`, in any order. A contract says what holds at every end that is reached
(`Discipline.Runs.reaches`), and a run that leaves a handler with an exception splits at the exception
that was handled (`Reaches.of_catchWith`).
-/

set_option autoImplicit false

namespace StorageNode.Program

variable {Req : Type} {Ans : Req → Type} {ε α σ C : Type}

/-- One step of a running program or of its surroundings. -/
inductive Works (exec : (r : Req) → C → σ → Ans r × σ) (R : σ → σ → Prop) :
    Prog Req Ans ε α × σ → Prog Req Ans ε α × σ → Prop
  | request (r : Req) (k : Ans r → Prog Req Ans ε α) (c : C) (s : σ) :
      Works exec R (.call r k, s) (k (exec r c s).1, (exec r c s).2)
  | disturbed (p : Prog Req Ans ε α) (s s' : σ) (h : R s s') : Works exec R (p, s) (p, s')

/-- Any number of such steps. -/
abbrev Reaches (exec : (r : Req) → C → σ → Ans r × σ) (R : σ → σ → Prop) :
    Prog Req Ans ε α × σ → Prog Req Ans ε α × σ → Prop :=
  Relation.ReflTransGen (Works exec R)

variable {exec : (r : Req) → C → σ → Ans r × σ} {R : σ → σ → Prop}

/-- A program may take any number of its steps undisturbed. -/
theorem Reaches.of_run {p : Prog Req Ans ε α} (cs : List C) (s : σ) {e : ε}
    (h : (p.run exec cs s).1 = .raised e) :
    Reaches exec R (p, s) (.raise e, (p.run exec cs s).2) := by
  induction p generalizing cs s with
  | ret a => exact absurd h (by simp [Prog.run])
  | raise e' =>
      obtain rfl : e' = e := by simpa [Prog.run] using h
      exact .refl
  | call r k ih =>
      cases cs with
      | nil => exact absurd h (by simp [Prog.run])
      | cons c cs => exact .head (.request r k c s) (ih _ cs _ h)

/-- A program that has failed stays where it is. -/
theorem Reaches.of_raise {e : ε} {x y : Prog Req Ans ε α × σ} (hreach : Reaches exec R x y)
    (hx : x.1 = .raise e) : y.1 = .raise e := by
  induction hreach with
  | refl => exact hx
  | tail _ hstep ih =>
      cases hstep with
      | request r k c s => exact absurd ih (by simp)
      | disturbed p s s' h => exact ih

/-- A contract holds along every run whose surroundings keep to the discipline. -/
theorem Discipline.Runs.reaches {d : Discipline exec} {Q : α → σ → Prop} {E : ε → σ → Prop}
    (hQ : ∀ a, d.Stable (Q a)) (hE : ∀ e, d.Stable (E e))
    (hR : ∀ s s', d.inv s → R s s' → d.inv s' ∧ d.disturb s s') {p q : Prog Req Ans ε α} {s s' : σ}
    (hs : d.inv s) (h : d.Runs Q E p s) (hreach : Reaches exec R (p, s) (q, s')) :
    d.inv s' ∧ d.Runs Q E q s' := by
  generalize hy : (q, s') = y at hreach
  induction hreach generalizing q s' with
  | refl =>
      obtain ⟨rfl, rfl⟩ := Prod.mk.inj hy
      exact ⟨hs, h⟩
  | tail _ hstep ih =>
      cases hstep with
      | request r k c s₁ =>
          obtain ⟨rfl, rfl⟩ := Prod.mk.inj hy
          obtain ⟨hinv, hrun⟩ := ih rfl
          obtain ⟨hallow, hnext⟩ := hrun s₁ (d.disturbs_refl s₁)
          exact ⟨d.keeps r c s₁ hinv hallow, hnext c⟩
      | disturbed p₁ s₁ s₂ hdisturb =>
          obtain ⟨rfl, rfl⟩ := Prod.mk.inj hy
          obtain ⟨hinv, hrun⟩ := ih rfl
          refine ⟨(hR s₁ _ hinv hdisturb).1, ?_⟩
          apply Safe.stable d.disturbs_trans _ _ hrun (fun _ => hR s₁ _ hinv hdisturb)
          · intro a t t' ha hd
            obtain ⟨hinv', hdist⟩ := hd ha.1
            exact ⟨hinv', hQ a t t' ha.1 hinv' hdist ha.2⟩
          · intro e t t' he hd
            obtain ⟨hinv', hdist⟩ := hd he.1
            exact ⟨hinv', hE e t t' he.1 hinv' hdist he.2⟩

/-- A run that leaves a handler with an exception first reached the handled exception. -/
theorem Reaches.of_catchWith {p : Prog Req Ans ε α} {h : ε → Prog Req Ans ε α} {s s' : σ} {e' : ε}
    (hreach : Reaches exec R (p.catchWith h, s) (.raise e', s')) :
    ∃ e s₁, Reaches exec R (p, s) (.raise e, s₁) ∧ Reaches exec R (h e, s₁) (.raise e', s') := by
  generalize hx : (p.catchWith h, s) = x at hreach
  induction hreach using Relation.ReflTransGen.head_induction_on generalizing p s with
  | refl =>
      obtain ⟨hp, rfl⟩ := Prod.mk.inj hx
      cases p with
      | ret a => exact absurd hp (by simp [Prog.catchWith])
      | raise e => exact ⟨e, s, .refl, hp ▸ .refl⟩
      | call r k => exact absurd hp (by simp [Prog.catchWith])
  | head hstep hrest ih =>
      cases p with
      | raise e =>
          -- the handler runs from here on
          refine ⟨e, s, .refl, ?_⟩
          have hhead := Relation.ReflTransGen.head hstep hrest
          rw [← hx] at hhead
          exact hhead
      | ret a =>
          subst hx
          cases hstep with
          | disturbed _ _ s₂ hdisturb =>
              obtain ⟨e, s₁, hfirst, hthen⟩ := ih (p := .ret a) rfl
              exact ⟨e, s₁, .head (.disturbed _ _ _ hdisturb) hfirst, hthen⟩
      | call r k =>
          subst hx
          cases hstep with
          | request _ _ c _ =>
              obtain ⟨e, s₁, hfirst, hthen⟩ := ih rfl
              exact ⟨e, s₁, .head (.request r k c s) hfirst, hthen⟩
          | disturbed _ _ s₂ hdisturb =>
              obtain ⟨e, s₁, hfirst, hthen⟩ := ih (p := .call r k) rfl
              exact ⟨e, s₁, .head (.disturbed _ _ _ hdisturb) hfirst, hthen⟩

end StorageNode.Program
