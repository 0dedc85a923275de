import StorageNode.Program.Safety
import Mathlib.Data.List.Forall2

/-!
# Two programs side by side

`Mirrors link R p q` relates two programs that issue requests in step: `link r r' A` permits the pair
of requests `r` and `r'`, with answers related by `A`, and results are related by `R`. Exceptions are
equal. The relation does not mention states, so that it can be used wherever the answers of two
executions are known to be related.
-/

set_option autoImplicit false

namespace StorageNode.Program

variable {Req : Type} {Ans : Req → Type} {ε α β γ δ : Type}

/-- The requests that two programs may issue at the same time, and how their answers are related. -/
abbrev Links (Req : Type) (Ans : Req → Type) :=
  (r r' : Req) → (Ans r → Ans r' → Prop) → Prop

/-- Two programs in step. -/
def Mirrors (link : Links Req Ans) (R : α → β → Prop) :
    Prog Req Ans ε α → Prog Req Ans ε β → Prop
  | .ret a, .ret b => R a b
  | .raise e, .raise e' => e = e'
  | .call r k, .call r' k' => ∃ A, link r r' A ∧ ∀ a a', A a a' → Mirrors link R (k a) (k' a')
  | _, _ => False

namespace Mirrors

variable {link : Links Req Ans} {R : α → β → Prop} {S : γ → δ → Prop}

theorem ret {a : α} {b : β} (h : R a b) :
    Mirrors link R (.ret a : Prog Req Ans ε α) (.ret b) := h

theorem raise {e : ε} : Mirrors link R (.raise e : Prog Req Ans ε α) (.raise e) := rfl

theorem ask {r r' : Req} {A : Ans r → Ans r' → Prop} (h : link r r' A) :
    Mirrors link A (Prog.ask r : Prog Req Ans ε (Ans r)) (Prog.ask r') :=
  ⟨A, h, fun _ _ ha => ha⟩

theorem bind {f : α → Prog Req Ans ε γ} {g : β → Prog Req Ans ε δ} :
    ∀ {p : Prog Req Ans ε α} {q : Prog Req Ans ε β}, Mirrors link R p q →
      (∀ a b, R a b → Mirrors link S (f a) (g b)) → Mirrors link S (p.bind f) (q.bind g) := by
  intro p
  induction p with
  | ret a =>
      intro q hp hf
      cases q with
      | ret b => exact hf a b hp
      | raise e => exact hp.elim
      | call r k => exact hp.elim
  | raise e =>
      intro q hp hf
      cases q with
      | ret b => exact hp.elim
      | raise e' => exact hp
      | call r k => exact hp.elim
  | call r k ih =>
      intro q hp hf
      cases q with
      | ret b => exact hp.elim
      | raise e => exact hp.elim
      | call r' k' =>
          obtain ⟨A, hlink, hk⟩ := hp
          exact ⟨A, hlink, fun a a' ha => ih a (hk a a' ha) hf⟩

theorem mono {R' : α → β → Prop} (hR : ∀ a b, R a b → R' a b) {p : Prog Req Ans ε α}
    {q : Prog Req Ans ε β} (h : Mirrors link R p q) : Mirrors link R' p q := by
  have key : Mirrors link R' (p.bind Prog.ret) (q.bind Prog.ret) := h.bind fun a b hab => hR a b hab
  have hret : ∀ {τ : Type} (p : Prog Req Ans ε τ), p.bind Prog.ret = p := by
    intro τ p
    induction p with
    | ret a => rfl
    | raise e => rfl
    | call r k ih => exact congrArg (Prog.call r) (funext ih)
  rwa [hret, hret] at key

/-- A program whose requests may be issued together with themselves. -/
theorem of_issues {K : Req → Prop} (hK : ∀ r, K r → link r r Eq) :
    ∀ {p : Prog Req Ans ε α}, p.Issues K → Mirrors link Eq p p := by
  intro p
  induction p with
  | ret a => exact fun _ => rfl
  | raise e => exact fun _ => rfl
  | call r k ih =>
      rintro ⟨hr, hk⟩
      refine ⟨Eq, hK r hr, ?_⟩
      rintro a _ rfl
      exact ih a (hk a)

theorem raiseIf {bad bad' : Prop} [Decidable bad] [Decidable bad'] (h : bad ↔ bad') {e : ε} :
    Mirrors link (fun _ _ => ¬ bad) (Prog.raiseIf bad e : Prog Req Ans ε Unit)
      (Prog.raiseIf bad' e) := by
  by_cases hb : bad
  · rw [Prog.raiseIf, Prog.raiseIf, if_pos hb, if_pos (h.1 hb)]
    exact raise
  · rw [Prog.raiseIf, Prog.raiseIf, if_neg hb, if_neg fun hb' => hb (h.2 hb')]
    exact ret hb

theorem when {condition condition' : Prop} [Decidable condition] [Decidable condition']
    (h : condition ↔ condition') {p q : Prog Req Ans ε Unit}
    (hp : condition → Mirrors link (fun _ _ => True) p q) :
    Mirrors link (fun _ _ => True) (Prog.when condition p) (Prog.when condition' q) := by
  by_cases hc : condition
  · rw [Prog.when, Prog.when, if_pos hc, if_pos (h.1 hc)]
    exact hp hc
  · rw [Prog.when, Prog.when, if_neg hc, if_neg fun hc' => hc (h.2 hc')]
    exact ret trivial

theorem ite {condition condition' : Prop} [Decidable condition] [Decidable condition']
    (h : condition ↔ condition') {p p' : Prog Req Ans ε α} {q q' : Prog Req Ans ε β}
    (hp : condition → Mirrors link R p q) (hq : ¬ condition → Mirrors link R p' q') :
    Mirrors link R (if condition then p else p') (if condition' then q else q') := by
  by_cases hc : condition
  · rw [if_pos hc, if_pos (h.1 hc)]
    exact hp hc
  · rw [if_neg hc, if_neg fun hc' => hc (h.2 hc')]
    exact hq hc

theorem orRaise {e : ε} {o : Option α} {o' : Option β} (hnone : o = none ↔ o' = none)
    (h : ∀ a b, o = some a → o' = some b → R a b) :
    Mirrors link R (Prog.orRaise e o : Prog Req Ans ε α) (Prog.orRaise e o') := by
  cases ho : o with
  | none =>
      rw [hnone.1 ho]
      exact raise
  | some a =>
      cases ho' : o' with
      | none => exact absurd (hnone.2 ho') (by simp [ho])
      | some b => exact ret (h a b ho ho')

/-- Loops over related lists. -/
theorem forEach {body : α → Prog Req Ans ε Unit} {body' : β → Prog Req Ans ε Unit}
    (hbody : ∀ a b, R a b → Mirrors link (fun _ _ => True) (body a) (body' b)) :
    ∀ {xs : List α} {ys : List β}, List.Forall₂ R xs ys →
      Mirrors link (fun _ _ => True) (Prog.forEach xs body) (Prog.forEach ys body') := by
  intro xs ys h
  induction h with
  | nil => exact ret trivial
  | cons hab _ ih => exact (hbody _ _ hab).bind fun _ _ _ => ih

theorem catchWith {h : ε → Prog Req Ans ε α} {h' : ε → Prog Req Ans ε β} :
    ∀ {p : Prog Req Ans ε α} {q : Prog Req Ans ε β}, Mirrors link R p q →
      (∀ e, Mirrors link R (h e) (h' e)) → Mirrors link R (p.catchWith h) (q.catchWith h') := by
  intro p
  induction p with
  | ret a =>
      intro q hp hh
      cases q with
      | ret b => exact hp
      | raise e => exact hp.elim
      | call r k => exact hp.elim
  | raise e =>
      intro q hp hh
      cases q with
      | ret b => exact hp.elim
      | raise e' =>
          obtain rfl : e = e' := hp
          exact hh e
      | call r k => exact hp.elim
  | call r k ih =>
      intro q hp hh
      cases q with
      | ret b => exact hp.elim
      | raise e => exact hp.elim
      | call r' k' =>
          obtain ⟨A, hlink, hk⟩ := hp
          exact ⟨A, hlink, fun a a' ha => ih a (hk a a' ha) hh⟩

/-- Both programs end the same way. -/
theorem attempt {p : Prog Req Ans ε α} {q : Prog Req Ans ε β} (h : Mirrors link R p q) :
    Mirrors link (fun x y => (∃ a b, x = .ok a ∧ y = .ok b ∧ R a b) ∨
      ∃ e, x = .error e ∧ y = .error e) p.attempt q.attempt :=
  catchWith (h.bind fun a b hab => ret (.inl ⟨a, b, rfl, rfl, hab⟩)) fun e => ret (.inr ⟨e, rfl, rfl⟩)

end Mirrors

/-- An element on which the body does nothing can be left out of a loop. -/
theorem Prog.forEach_filter {body : β → Prog Req Ans ε Unit} (keep : β → Bool)
    (h : ∀ x, keep x = false → body x = Prog.ret ()) :
    ∀ xs : List β, Prog.forEach (xs.filter keep) body = Prog.forEach xs body := by
  intro xs
  induction xs with
  | nil => rfl
  | cons x xs ih =>
      cases hx : keep x with
      | true => rw [List.filter_cons_of_pos (by simpa using hx), Prog.forEach, Prog.forEach, ih]
      | false =>
          rw [List.filter_cons_of_neg (by simpa using hx), ih, Prog.forEach, h x hx]
          rfl

/-! ## Where a run stands -/

section

variable {C σ : Type} (exec : (r : Req) → C → σ → Ans r × σ)

/-- A program and a state after one more request. -/
def Prog.advance (c : C) : Prog Req Ans ε α × σ → Prog Req Ans ε α × σ
  | (.call r k, s) => (k (exec r c s).1, (exec r c s).2)
  | x => x

/-- Where a run stands after `n` requests, if the `n`-th request is decided by `env n`. -/
def Prog.position (env : Nat → C) (x : Prog Req Ans ε α × σ) : Nat → Prog Req Ans ε α × σ
  | 0 => x
  | n + 1 => Prog.advance exec (env n) (Prog.position env x n)

variable {exec} {env : Nat → C} {x : Prog Req Ans ε α × σ}

theorem Prog.advance_of_next_none {c : C} (h : x.1.next = none) : Prog.advance exec c x = x := by
  obtain ⟨p, s⟩ := x
  cases p with
  | ret a => rfl
  | raise e => rfl
  | call r k => exact absurd h (by simp [Prog.next])

theorem Prog.position_of_call {n : Nat} {r : Req} {k : Ans r → Prog Req Ans ε α}
    (h : (Prog.position exec env x n).1 = .call r k) :
    Prog.position exec env x (n + 1) = (k (exec r (env n) (Prog.position exec env x n).2).1,
      (exec r (env n) (Prog.position exec env x n).2).2) := by
  have hpair : Prog.position exec env x n = (.call r k, (Prog.position exec env x n).2) :=
    Prod.ext h rfl
  rw [Prog.position, hpair]
  rfl

/-- A run that has ended stays where it is. -/
theorem Prog.position_of_next_none {n m : Nat} (h : (Prog.position exec env x n).1.next = none)
    (hnm : n ≤ m) : Prog.position exec env x m = Prog.position exec env x n := by
  induction hnm with
  | refl => rfl
  | step _ ih =>
      rw [Prog.position, ih]
      exact Prog.advance_of_next_none h

/-- A run has one end. -/
theorem Prog.position_unique {n m : Nat} (hn : (Prog.position exec env x n).1.next = none)
    (hm : (Prog.position exec env x m).1.next = none) :
    Prog.position exec env x n = Prog.position exec env x m := by
  rcases Nat.le_total n m with h | h
  · exact (Prog.position_of_next_none hn h).symm
  · exact Prog.position_of_next_none hm h

end

end StorageNode.Program
