import StorageNode.Program.Core

/-!
# Safety of programs under interference and crashes

`Safe exec R A Q E p s` says what holds whenever `p` runs from the state `s` while the rest of the
system may change the state along `R` before each of its requests: every request `r` is issued in a
state where `A r` holds, a normal return ends in `Q`, and an exception ends in `E`. The condition
covers every crash point, because `A` is required at each request and not only at the end
(`Safe.run_outcome`, `Safe.issued`).

The rules below are the usual ones: sequencing, exception handlers, `finally` blocks, loops over a
list, and consequence. `Safe.stable` is the interference rule that `Program.Machine` uses.
-/

set_option autoImplicit false

namespace StorageNode.Program

variable {Req : Type} {Ans : Req → Type} {ε α β σ C : Type}

/-- `p` is safe from `s`: see the module header. -/
def Safe (exec : (r : Req) → C → σ → Ans r × σ) (R : σ → σ → Prop) (A : Req → σ → Prop)
    (Q : α → σ → Prop) (E : ε → σ → Prop) : Prog Req Ans ε α → σ → Prop
  | .ret a, s => Q a s
  | .raise e, s => E e s
  | .call r k, s => ∀ s', R s s' →
      A r s' ∧ ∀ c, Safe exec R A Q E (k (exec r c s').1) (exec r c s').2

namespace Safe

variable {exec : (r : Req) → C → σ → Ans r × σ} {R : σ → σ → Prop} {A : Req → σ → Prop}
  {Q : α → σ → Prop} {E : ε → σ → Prop}

@[simp] theorem ret_iff (a : α) (s : σ) :
    Safe exec R A Q E (.ret a : Prog Req Ans ε α) s ↔ Q a s := Iff.rfl

@[simp] theorem raise_iff (e : ε) (s : σ) :
    Safe exec R A Q E (.raise e : Prog Req Ans ε α) s ↔ E e s := Iff.rfl

/-- The rule of consequence, for the postconditions and for the condition on requests. -/
theorem mono {A' : Req → σ → Prop} {Q' : α → σ → Prop} {E' : ε → σ → Prop}
    (hA : ∀ r s, A r s → A' r s) (hQ : ∀ a s, Q a s → Q' a s) (hE : ∀ e s, E e s → E' e s) :
    ∀ {p : Prog Req Ans ε α} {s : σ}, Safe exec R A Q E p s → Safe exec R A' Q' E' p s := by
  intro p
  induction p with
  | ret a => exact fun h => hQ _ _ h
  | raise e => exact fun h => hE _ _ h
  | call r k ih =>
      intro s h s' hs
      obtain ⟨ha, hk⟩ := h s' hs
      exact ⟨hA r s' ha, fun c => ih _ (hk c)⟩

theorem mono_post {Q' : α → σ → Prop} {E' : ε → σ → Prop} {p : Prog Req Ans ε α} {s : σ}
    (h : Safe exec R A Q E p s) (hQ : ∀ a s, Q a s → Q' a s) (hE : ∀ e s, E e s → E' e s) :
    Safe exec R A Q' E' p s :=
  h.mono (fun _ _ ha => ha) hQ hE

/-- The sequencing rule. -/
theorem bind_iff {Q : β → σ → Prop} (f : α → Prog Req Ans ε β) :
    ∀ (p : Prog Req Ans ε α) (s : σ),
      Safe exec R A Q E (p.bind f) s ↔ Safe exec R A (fun a s => Safe exec R A Q E (f a) s) E p s := by
  intro p
  induction p with
  | ret a => exact fun s => Iff.rfl
  | raise e => exact fun s => Iff.rfl
  | call r k ih =>
      intro s
      constructor
      · intro h s' hs
        exact ⟨(h s' hs).1, fun c => (ih _ _).1 ((h s' hs).2 c)⟩
      · intro h s' hs
        exact ⟨(h s' hs).1, fun c => (ih _ _).2 ((h s' hs).2 c)⟩

theorem bind {Q : β → σ → Prop} {M : α → σ → Prop} {f : α → Prog Req Ans ε β}
    {p : Prog Req Ans ε α} {s : σ} (hp : Safe exec R A M E p s)
    (hf : ∀ a s, M a s → Safe exec R A Q E (f a) s) : Safe exec R A Q E (p.bind f) s :=
  (bind_iff f p s).2 (hp.mono_post hf fun _ _ h => h)

/-- The exception-handler rule. -/
theorem catchWith {F : ε → σ → Prop} {h : ε → Prog Req Ans ε α} :
    ∀ {p : Prog Req Ans ε α} {s : σ}, Safe exec R A Q F p s →
      (∀ e s, F e s → Safe exec R A Q E (h e) s) → Safe exec R A Q E (p.catchWith h) s := by
  intro p
  induction p with
  | ret a => exact fun hp _ => hp
  | raise e => exact fun hp hh => hh e _ hp
  | call r k ih =>
      intro s hp hh s' hs
      exact ⟨(hp s' hs).1, fun c => ih _ ((hp s' hs).2 c) hh⟩

theorem attempt {Q : Except ε α → σ → Prop} {p : Prog Req Ans ε α} {s : σ}
    (hp : Safe exec R A (fun a => Q (.ok a)) (fun e => Q (.error e)) p s) :
    Safe exec R A Q E p.attempt s := by
  refine Safe.catchWith (F := fun e => Q (.error e)) ?_ fun _ _ h => h
  exact hp.bind fun _ _ h => h

/-- The rule for `finally` blocks. -/
theorem andFinally {M : α → σ → Prop} {F : ε → σ → Prop} {q : Prog Req Ans ε Unit} :
    ∀ {p : Prog Req Ans ε α} {s : σ}, Safe exec R A M F p s →
      (∀ a s, M a s → Safe exec R A (fun _ => Q a) E q s) →
      (∀ e s, F e s → Safe exec R A (fun _ => E e) E q s) →
      Safe exec R A Q E (p.andFinally q) s := by
  intro p
  induction p with
  | ret a => exact fun hp hq _ => (hq a _ hp).bind fun _ _ h => h
  | raise e => exact fun hp _ hq => (hq e _ hp).bind fun _ _ h => h
  | call r k ih =>
      intro s hp hq hq' s' hs
      exact ⟨(hp s' hs).1, fun c => ih _ ((hp s' hs).2 c) hq hq'⟩

/-- One request: it is issued under `A`, and every answer establishes the postcondition. -/
theorem ask {r : Req} {Q : Ans r → σ → Prop} {s : σ}
    (h : ∀ s', R s s' → A r s' ∧ ∀ c, Q (exec r c s').1 (exec r c s').2) :
    Safe exec R A Q E (Prog.ask r) s := h

theorem raiseIf_iff {Q : Unit → σ → Prop} (bad : Prop) [Decidable bad] (e : ε) (s : σ) :
    Safe exec R A Q E (Prog.raiseIf bad e : Prog Req Ans ε Unit) s ↔
      (bad → E e s) ∧ (¬ bad → Q () s) := by
  unfold Prog.raiseIf
  by_cases h : bad <;> simp [h]

theorem when_iff {Q : Unit → σ → Prop} (condition : Prop) [Decidable condition]
    (p : Prog Req Ans ε Unit) (s : σ) :
    Safe exec R A Q E (Prog.when condition p) s ↔
      (condition → Safe exec R A Q E p s) ∧ (¬ condition → Q () s) := by
  unfold Prog.when
  by_cases h : condition <;> simp [h]

theorem orRaise_iff (e : ε) (o : Option α) (s : σ) :
    Safe exec R A Q E (Prog.orRaise e o : Prog Req Ans ε α) s ↔
      (o = none → E e s) ∧ ∀ a, o = some a → Q a s := by
  cases o <;> simp [Prog.orRaise]

/-- The loop rule: the body keeps the invariant for every element it visits. -/
theorem forEach {I : σ → Prop} {body : β → Prog Req Ans ε Unit} :
    ∀ {xs : List β} {s : σ}, I s →
      (∀ x ∈ xs, ∀ s, I s → Safe exec R A (fun _ => I) E (body x) s) →
      Safe exec R A (fun _ => I) E (Prog.forEach xs body) s := by
  intro xs
  induction xs with
  | nil => exact fun hs _ => hs
  | cons x xs ih =>
      intro s hs hbody
      exact (hbody x List.mem_cons_self s hs).bind fun _ s' hs' =>
        ih hs' fun y hy => hbody y (List.mem_cons_of_mem _ hy)

/-- A safe program stays safe when the rest of the system moves. -/
theorem stable (htrans : ∀ a b c, R a b → R b c → R a c)
    (hQ : ∀ a s s', Q a s → R s s' → Q a s') (hE : ∀ e s s', E e s → R s s' → E e s')
    {p : Prog Req Ans ε α} {s s' : σ} (h : Safe exec R A Q E p s) (hs : R s s') :
    Safe exec R A Q E p s' := by
  cases p with
  | ret a => exact hQ _ _ _ h hs
  | raise e => exact hE _ _ _ h hs
  | call r k => exact fun t ht => h t (htrans _ _ _ hs ht)

/-- A safe program is safe under less interference. -/
theorem anti {R' : σ → σ → Prop} (hR : ∀ s s', R' s s' → R s s') :
    ∀ {p : Prog Req Ans ε α} {s : σ}, Safe exec R A Q E p s → Safe exec R' A Q E p s := by
  intro p
  induction p with
  | ret a => exact fun h => h
  | raise e => exact fun h => h
  | call r k ih =>
      intro s h s' hs
      exact ⟨(h s' (hR s s' hs)).1, fun c => ih _ ((h s' (hR s s' hs)).2 c)⟩

end Safe

/-! ## Programs confined to a set of requests -/

/-- Every request in the program satisfies `K`, whatever the answers are. -/
def Prog.Issues (K : Req → Prop) : Prog Req Ans ε α → Prop
  | .ret _ => True
  | .raise _ => True
  | .call r k => K r ∧ ∀ a, (k a).Issues K

namespace Prog

variable {K : Req → Prop}

@[simp] theorem issues_ret (a : α) : (ret a : Prog Req Ans ε α).Issues K := trivial

@[simp] theorem issues_raise (e : ε) : (raise e : Prog Req Ans ε α).Issues K := trivial

@[simp] theorem issues_ask (r : Req) : (ask r : Prog Req Ans ε (Ans r)).Issues K ↔ K r := by
  simp [ask, Issues]

@[simp] theorem issues_raiseIf (bad : Prop) [Decidable bad] (e : ε) :
    (raiseIf bad e : Prog Req Ans ε Unit).Issues K := by
  unfold raiseIf
  split <;> trivial

theorem Issues.when {condition : Prop} [Decidable condition] {p : Prog Req Ans ε Unit}
    (hp : p.Issues K) : (Prog.when condition p).Issues K := by
  unfold Prog.when
  split
  · exact hp
  · trivial

@[simp] theorem issues_orRaise (e : ε) (o : Option α) :
    (orRaise e o : Prog Req Ans ε α).Issues K := by
  cases o <;> trivial

theorem Issues.bind {f : α → Prog Req Ans ε β} :
    ∀ {p : Prog Req Ans ε α}, p.Issues K → (∀ a, (f a).Issues K) → (p.bind f).Issues K := by
  intro p
  induction p with
  | ret a => exact fun _ hf => hf a
  | raise e => exact fun _ _ => trivial
  | call r k ih => exact fun hp hf => ⟨hp.1, fun a => ih a (hp.2 a) hf⟩

theorem Issues.catchWith {h : ε → Prog Req Ans ε α} :
    ∀ {p : Prog Req Ans ε α}, p.Issues K → (∀ e, (h e).Issues K) → (p.catchWith h).Issues K := by
  intro p
  induction p with
  | ret a => exact fun _ _ => trivial
  | raise e => exact fun _ hh => hh e
  | call r k ih => exact fun hp hh => ⟨hp.1, fun a => ih a (hp.2 a) hh⟩

theorem Issues.mono {K' : Req → Prop} (hK : ∀ r, K r → K' r) :
    ∀ {p : Prog Req Ans ε α}, p.Issues K → p.Issues K' := by
  intro p
  induction p with
  | ret a => exact fun _ => trivial
  | raise e => exact fun _ => trivial
  | call r k ih => exact fun hp => ⟨hK r hp.1, fun a => ih a (hp.2 a)⟩

theorem issues_true : ∀ p : Prog Req Ans ε α, p.Issues fun _ => True := by
  intro p
  induction p with
  | ret a => trivial
  | raise e => trivial
  | call r k ih => exact ⟨trivial, ih⟩

theorem Issues.andFinally {q : Prog Req Ans ε Unit} :
    ∀ {p : Prog Req Ans ε α}, p.Issues K → q.Issues K → (p.andFinally q).Issues K := by
  intro p
  induction p with
  | ret a => exact fun _ hq => hq.bind fun _ => trivial
  | raise e => exact fun _ hq => hq.bind fun _ => trivial
  | call r k ih => exact fun hp hq => ⟨hp.1, fun a => ih a (hp.2 a) hq⟩

theorem Issues.attempt {p : Prog Req Ans ε α} (hp : p.Issues K) : p.attempt.Issues K :=
  Issues.catchWith (hp.bind fun _ => trivial) fun _ => trivial

theorem Issues.forEach {body : β → Prog Req Ans ε Unit} (h : ∀ x, (body x).Issues K) :
    ∀ xs : List β, (Prog.forEach xs body).Issues K
  | [] => trivial
  | x :: xs => (h x).bind fun _ => Issues.forEach h xs

/-- A program confined to requests that keep an invariant keeps it at every step. -/
theorem Issues.safe {exec : (r : Req) → C → σ → Ans r × σ} {R : σ → σ → Prop} {I : σ → Prop}
    (hR : ∀ s s', I s → R s s' → I s') (hK : ∀ r c s, K r → I s → I (exec r c s).2) :
    ∀ {p : Prog Req Ans ε α} {s : σ}, p.Issues K → I s →
      Safe exec R (fun r s => K r ∧ I s) (fun _ s => I s) (fun _ s => I s) p s := by
  intro p
  induction p with
  | ret a => exact fun _ hs => hs
  | raise e => exact fun _ hs => hs
  | call r k ih =>
      intro s hp hs s' hr
      have hs' := hR s s' hs hr
      exact ⟨⟨hp.1, hs'⟩, fun c => ih _ (hp.2 _) (hK r c s' hp.1 hs')⟩

end Prog

namespace Safe

variable {exec : (r : Req) → C → σ → Ans r × σ} {R : σ → σ → Prop} {A : Req → σ → Prop}
  {Q : α → σ → Prop} {E : ε → σ → Prop}

/-! ## What safety says about runs -/

/-- A run of a safe program ends in its postcondition, or crashed before a request that was
permitted in the crash state. -/
theorem run_outcome (hR : ∀ s, R s s) :
    ∀ {p : Prog Req Ans ε α} {s : σ} (cs : List C), Safe exec R A Q E p s →
      match p.run exec cs s with
      | (.ok a, s') => Q a s'
      | (.raised e, s') => E e s'
      | (.crashed, s') => ∃ r, A r s' := by
  intro p
  induction p with
  | ret a => exact fun _ h => h
  | raise e => exact fun _ h => h
  | call r k ih =>
      intro s cs h
      obtain ⟨ha, hk⟩ := h s (hR s)
      cases cs with
      | nil => exact ⟨r, ha⟩
      | cons c cs => exact ih _ cs (hk c)

/-- Every request that a run of a safe program issues is permitted where it is issued. -/
theorem issued (hR : ∀ s, R s s) :
    ∀ {p : Prog Req Ans ε α} {s : σ} (cs : List C), Safe exec R A Q E p s →
      ∀ x ∈ p.issued exec cs s, A x.1 x.2 := by
  intro p
  induction p with
  | ret a => intro s cs _ x hx; simp [Prog.issued] at hx
  | raise e => intro s cs _ x hx; simp [Prog.issued] at hx
  | call r k ih =>
      intro s cs h x hx
      obtain ⟨ha, hk⟩ := h s (hR s)
      cases cs with
      | nil =>
          simp only [Prog.issued, List.mem_singleton] at hx
          subst hx
          exact ha
      | cons c cs =>
          simp only [Prog.issued, List.mem_cons] at hx
          rcases hx with rfl | hx
          · exact ha
          · exact ih _ cs (hk c) x hx

/-- A condition that every request, return and exception satisfies holds after every run. -/
theorem after_of_forall (hR : ∀ s, R s s) {I : σ → Prop} (hA : ∀ r s, A r s → I s)
    (hQ : ∀ a s, Q a s → I s) (hE : ∀ e s, E e s → I s) {p : Prog Req Ans ε α} {s : σ}
    (cs : List C) (h : Safe exec R A Q E p s) : I (p.after exec cs s) := by
  have key := h.run_outcome hR cs
  unfold Prog.after
  generalize p.run exec cs s = r at key
  rcases r with ⟨o, s'⟩
  cases o with
  | ok a => exact hQ _ _ key
  | raised e => exact hE _ _ key
  | crashed =>
      obtain ⟨r, hr⟩ := key
      exact hA r _ hr

end Safe

end StorageNode.Program
