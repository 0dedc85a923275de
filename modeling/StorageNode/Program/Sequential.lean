import StorageNode.Program.Contract
import Mathlib.Data.List.Basic

/-!
# Programs that run alone

`Hoare exec P p Q E` is the contract of a program that nothing interferes with and whose requests are
all permitted. `Hoare.of_ok` and `Hoare.of_raised` read it at the end of a run, and `Prog.exists_run`
says that a program ends when the environment keeps answering.

`Discipline.keeping` is for invariants that a crash at any request must leave intact, and `Spends` for
programs whose number of requests is known, so that a crash point can be told by counting.
-/

set_option autoImplicit false

namespace StorageNode.Program

variable {Req : Type} {Ans : Req → Type} {ε α β σ C : Type}

/-- No invariant, no interference, and every request is permitted. -/
def Discipline.alone (exec : (r : Req) → C → σ → Ans r × σ) : Discipline exec where
  inv _ := True
  disturb := Eq
  allow _ _ := True
  refl _ := rfl
  trans _ _ _ := Eq.trans
  keeps _ _ _ _ _ := trivial

/-- The contract of a program that runs alone. -/
def Hoare (exec : (r : Req) → C → σ → Ans r × σ) (P : σ → Prop) (p : Prog Req Ans ε α)
    (Q : α → σ → Prop) (E : ε → σ → Prop) : Prop :=
  (Discipline.alone exec).Triple P p Q E

section

variable {exec : (r : Req) → C → σ → Ans r × σ} {P : σ → Prop} {p : Prog Req Ans ε α}
  {Q : α → σ → Prop} {E : ε → σ → Prop}

theorem Hoare.ask {r : Req} {Q : Ans r → σ → Prop}
    (h : ∀ c s, P s → Q (exec r c s).1 (exec r c s).2) :
    Hoare exec P (Prog.ask r : Prog Req Ans ε (Ans r)) Q E :=
  Discipline.Triple.ask (fun _ _ _ _ heq hp => heq ▸ hp) (fun _ _ _ => trivial)
    fun c s _ hp _ => h c s hp

/-- The precondition may speak about the start of the program. -/
theorem Hoare.of_start (h : ∀ s₀, P s₀ → Hoare exec (fun s => s = s₀) p Q E) : Hoare exec P p Q E :=
  fun s _ hs => h s hs s trivial rfl

/-- A contract at the end of a run. -/
theorem Hoare.outcome (h : Hoare exec P p Q E) {s : σ} (hs : P s) (cs : List C) :
    match p.run exec cs s with
    | (.ok a, s') => Q a s'
    | (.raised e, s') => E e s'
    | (.crashed, _) => True := by
  have key := Safe.run_outcome (fun s => (Discipline.alone exec).disturbs_refl s) cs (h s trivial hs)
  revert key
  rcases p.run exec cs s with ⟨o, s'⟩
  cases o with
  | ok a => exact fun key => key.2
  | raised e => exact fun key => key.2
  | crashed => exact fun _ => trivial

theorem Hoare.of_ok (h : Hoare exec P p Q E) {s s' : σ} (hs : P s) {cs : List C} {a : α}
    (hrun : p.run exec cs s = (.ok a, s')) : Q a s' := by
  have key := h.outcome hs cs
  rw [hrun] at key
  exact key

theorem Hoare.of_raised (h : Hoare exec P p Q E) {s s' : σ} (hs : P s) {cs : List C} {e : ε}
    (hrun : p.run exec cs s = (.raised e, s')) : E e s' := by
  have key := h.outcome hs cs
  rw [hrun] at key
  exact key

/-- A program ends, whatever the environment answers. -/
theorem Prog.exists_run (exec : (r : Req) → C → σ → Ans r × σ) :
    ∀ (p : Prog Req Ans ε α) (f : Nat → C) (s : σ),
      ∃ n, (p.run exec ((List.range n).map f) s).1 ≠ .crashed := by
  intro p
  induction p with
  | ret a => exact fun f s => ⟨0, by simp [Prog.run]⟩
  | raise e => exact fun f s => ⟨0, by simp [Prog.run]⟩
  | call r k ih =>
      intro f s
      obtain ⟨n, hn⟩ := ih (exec r (f 0) s).1 (fun m => f (m + 1)) (exec r (f 0) s).2
      refine ⟨n + 1, ?_⟩
      rw [List.range_succ_eq_map, List.map_cons, List.map_map]
      exact hn

/-- A contract without a normal return: the program raises. -/
theorem Hoare.exists_raised (h : Hoare exec P p (fun _ _ => False) E) {s : σ} (hs : P s)
    (f : Nat → C) : ∃ n e s', p.run exec ((List.range n).map f) s = (.raised e, s') ∧ E e s' := by
  obtain ⟨n, hn⟩ := p.exists_run exec f s
  have key := h.outcome hs ((List.range n).map f)
  revert key hn
  rcases hrun : p.run exec ((List.range n).map f) s with ⟨o, s'⟩
  cases o with
  | ok a => exact fun _ hfalse => absurd hfalse id
  | raised e => exact fun _ he => ⟨n, e, s', hrun, he⟩
  | crashed => exact fun hn _ => absurd rfl hn

/-- A contract without exceptions: the program returns. -/
theorem Hoare.exists_ok (h : Hoare exec P p Q fun _ _ => False) {s : σ} (hs : P s) (f : Nat → C) :
    ∃ n a s', p.run exec ((List.range n).map f) s = (.ok a, s') := by
  obtain ⟨n, hn⟩ := p.exists_run exec f s
  have key := h.outcome hs ((List.range n).map f)
  revert key hn
  rcases hrun : p.run exec ((List.range n).map f) s with ⟨o, s'⟩
  cases o with
  | ok a => exact fun _ _ => ⟨n, a, s', hrun⟩
  | raised e => exact fun _ hfalse => absurd hfalse id
  | crashed => exact fun hn _ => absurd rfl hn

end

/-! ## Restricted environments -/

/-- The interpreter for an environment whose choices satisfy `K`. -/
def within (K : C → Prop) (exec : (r : Req) → C → σ → Ans r × σ) (r : Req) (c : { c : C // K c })
    (s : σ) : Ans r × σ :=
  exec r c.1 s

theorem run_within {K : C → Prop} {exec : (r : Req) → C → σ → Ans r × σ} :
    ∀ (cs : List { c : C // K c }) (p : Prog Req Ans ε α) (s : σ),
      p.run (within K exec) cs s = p.run exec (cs.map Subtype.val) s := by
  intro cs
  induction cs with
  | nil => intro p s; cases p <;> rfl
  | cons c cs ih =>
      intro p s
      cases p with
      | ret a => rfl
      | raise e => rfl
      | call r k => exact ih _ _

/-- A contract for such an environment, at the end of a run. -/
theorem Hoare.of_within {K : C → Prop} {exec : (r : Req) → C → σ → Ans r × σ} {P : σ → Prop}
    {p : Prog Req Ans ε α} {Q : α → σ → Prop} {E : ε → σ → Prop} (h : Hoare (within K exec) P p Q E)
    {s s' : σ} (hs : P s) {cs : List C} (hcs : ∀ c ∈ cs, K c) {e : ε}
    (hrun : p.run exec cs s = (.raised e, s')) : E e s' := by
  rw [← List.attachWith_map_subtype_val hcs, ← run_within] at hrun
  exact h.of_raised hs hrun

/-! ## Watched runs -/

/-- The requests that a run serves, each with the choice and the state it meets. -/
def Prog.served (exec : (r : Req) → C → σ → Ans r × σ) :
    Prog Req Ans ε α → List C → σ → List (Req × C × σ)
  | .call r k, c :: cs, s => (r, c, s) :: (k (exec r c s).1).served exec cs (exec r c s).2
  | _, _, _ => []

/-- The interpreter that raises a flag once it has served a request of a certain kind. -/
def flagged (exec : (r : Req) → C → σ → Ans r × σ) (bad : Req → C → σ → Bool) (r : Req) (c : C)
    (s : σ × Bool) : Ans r × (σ × Bool) :=
  ((exec r c s.1).1, (exec r c s.1).2, s.2 || bad r c s.1)

/-- The flag says whether such a request was served. -/
theorem run_flagged (exec : (r : Req) → C → σ → Ans r × σ) (bad : Req → C → σ → Bool) :
    ∀ (cs : List C) (p : Prog Req Ans ε α) (s : σ) (flag : Bool),
      p.run (flagged exec bad) cs (s, flag) = ((p.run exec cs s).1, (p.run exec cs s).2,
        flag || (p.served exec cs s).any fun x => bad x.1 x.2.1 x.2.2) := by
  intro cs
  induction cs with
  | nil =>
      intro p s flag
      cases p <;> simp [Prog.run, Prog.served]
  | cons c cs ih =>
      intro p s flag
      cases p with
      | ret a => simp [Prog.run, Prog.served]
      | raise e => simp [Prog.run, Prog.served]
      | call r k =>
          simp only [Prog.run, Prog.served, flagged, List.any_cons, ← Bool.or_assoc]
          exact ih _ _ _

/-- A contract between states in which the flag is down. An exception may come with the flag raised. -/
def Unflagged (exec : (r : Req) → C → σ → Ans r × σ) (bad : Req → C → σ → Bool) (P : σ → Prop)
    (p : Prog Req Ans ε α) (Q : α → σ → Prop) (E : ε → σ × Bool → Prop) : Prop :=
  Hoare (flagged exec bad) (fun s => s.2 = false ∧ P s.1) p (fun a s => s.2 = false ∧ Q a s.1) E

namespace Unflagged

variable {exec : (r : Req) → C → σ → Ans r × σ} {bad : Req → C → σ → Bool} {P P' : σ → Prop}
  {p : Prog Req Ans ε α} {Q Q' : α → σ → Prop} {E : ε → σ × Bool → Prop}

theorem ret {a : α} (h : ∀ s, P s → Q a s) :
    Unflagged exec bad P (.ret a : Prog Req Ans ε α) Q E :=
  Discipline.Triple.ret fun _ _ hs => ⟨hs.1, h _ hs.2⟩

theorem raise {e : ε} (h : ∀ s, P s → E e (s, false)) :
    Unflagged exec bad P (.raise e : Prog Req Ans ε α) Q E := by
  refine Discipline.Triple.raise ?_
  rintro ⟨s, _⟩ - ⟨rfl, hs⟩
  exact h s hs

theorem bind {M : α → σ → Prop} {Q : β → σ → Prop} {f : α → Prog Req Ans ε β}
    (hp : Unflagged exec bad P p M E) (hf : ∀ a, Unflagged exec bad (M a) (f a) Q E) :
    Unflagged exec bad P (p.bind f) Q E :=
  Discipline.Triple.bind hp hf

theorem pre (h : Unflagged exec bad P p Q E) (hP : ∀ s, P' s → P s) : Unflagged exec bad P' p Q E :=
  Discipline.Triple.pre h fun _ _ hs => ⟨hs.1, hP _ hs.2⟩

theorem post (h : Unflagged exec bad P p Q E) (hQ : ∀ a s, Q a s → Q' a s) :
    Unflagged exec bad P p Q' E :=
  Discipline.Triple.post h fun _ _ _ hs => ⟨hs.1, hQ _ _ hs.2⟩

/-- A fact about a value moves into the context. -/
theorem assume {φ : Prop} (h : φ → Unflagged exec bad P p Q E) :
    Unflagged exec bad (fun s => φ ∧ P s) p Q E :=
  fun s hs hp => h hp.2.1 s hs ⟨hp.1, hp.2.2⟩

/-- A request of another kind. -/
theorem ask {r : Req} {Q : Ans r → σ → Prop} (hr : ∀ c s, P s → bad r c s = false)
    (h : ∀ c s, P s → Q (exec r c s).1 (exec r c s).2) :
    Unflagged exec bad P (Prog.ask r : Prog Req Ans ε (Ans r)) Q E := by
  refine Hoare.ask fun c s hs => ⟨?_, h c s.1 hs.2⟩
  simp only [flagged, hr c s.1 hs.2, hs.1, Bool.or_self]

theorem raiseIf {Q : Unit → σ → Prop} {b : Prop} [Decidable b] {e : ε}
    (hE : b → ∀ s, P s → E e (s, false)) (hQ : ¬ b → ∀ s, P s → Q () s) :
    Unflagged exec bad P (Prog.raiseIf b e : Prog Req Ans ε Unit) Q E := by
  unfold Prog.raiseIf
  split
  · next hb => exact raise (hE hb)
  · next hb => exact ret (hQ hb)

theorem orRaise {e : ε} {o : Option α} (hE : o = none → ∀ s, P s → E e (s, false)) :
    Unflagged exec bad P (Prog.orRaise e o : Prog Req Ans ε α) (fun a s => o = some a ∧ P s) E := by
  cases o with
  | none => exact raise (hE rfl)
  | some a => exact ret fun s hs => ⟨rfl, hs⟩

theorem when {Q : Unit → σ → Prop} {b : Prop} [Decidable b] {p : Prog Req Ans ε Unit}
    (hp : b → Unflagged exec bad P p Q E) (hQ : ¬ b → ∀ s, P s → Q () s) :
    Unflagged exec bad P (Prog.when b p) Q E := by
  unfold Prog.when
  split
  · next hb => exact hp hb
  · next hb => exact ret (hQ hb)

theorem forEach {body : β → Prog Req Ans ε Unit} : ∀ {xs : List β},
    (∀ x ∈ xs, Unflagged exec bad P (body x) (fun _ => P) E) →
      Unflagged exec bad P (Prog.forEach xs body) (fun _ => P) E
  | [], _ => ret fun _ h => h
  | x :: _, h => bind (h x List.mem_cons_self) fun _ =>
      forEach fun y hy => h y (List.mem_cons_of_mem x hy)

theorem attempt {Q : Except ε α → σ → Prop}
    (h : Unflagged exec bad P p (fun a => Q (.ok a)) fun e s => s.2 = false ∧ Q (.error e) s.1) :
    Unflagged exec bad P p.attempt Q E :=
  Discipline.Triple.attempt h

/-- A program that issues requests of other kinds, which keep a condition. -/
theorem of_issues {K : Req → Prop} (hK : ∀ r c s, K r → P s → bad r c s = false ∧ P (exec r c s).2)
    (hp : p.Issues K) :
    Unflagged exec bad P p (fun _ => P) fun _ s => s.2 = false ∧ P s.1 := by
  refine Discipline.Triple.of_issues (fun _ _ _ _ heq h => heq ▸ h) (fun r s hr _ hs => ?_) hp
  refine ⟨trivial, fun c => ?_⟩
  obtain ⟨hbad, hkeep⟩ := hK r c s.1 hr hs.2
  exact ⟨by simp only [flagged, hbad, hs.1, Bool.or_self], hkeep⟩

theorem weaken {E' : ε → σ × Bool → Prop} (h : Unflagged exec bad P p Q E)
    (hE : ∀ e s, E e s → E' e s) : Unflagged exec bad P p Q E' :=
  Discipline.Triple.mono h (fun _ _ hs => hs) (fun _ _ _ hs => hs) fun e s _ hs => hE e s hs

end Unflagged

/-- A sequence runs its first part, and its second one with the choices that are left. -/
theorem Prog.run_bind (exec : (r : Req) → C → σ → Ans r × σ) (f : α → Prog Req Ans ε β) :
    ∀ (p : Prog Req Ans ε α) (cs : List C) (s : σ),
      (∃ a s' rest, p.run exec cs s = (.ok a, s') ∧
        (p.bind f).run exec cs s = (f a).run exec rest s') ∨
      (∃ e s', p.run exec cs s = (.raised e, s') ∧ (p.bind f).run exec cs s = (.raised e, s')) ∨
      ∃ s', p.run exec cs s = (.crashed, s') ∧ (p.bind f).run exec cs s = (.crashed, s') := by
  intro p
  induction p with
  | ret a => exact fun cs s => .inl ⟨a, s, cs, rfl, rfl⟩
  | raise e => exact fun cs s => .inr (.inl ⟨e, s, rfl, rfl⟩)
  | call r k ih =>
      intro cs s
      cases cs with
      | nil => exact .inr (.inr ⟨s, rfl, rfl⟩)
      | cons c cs => exact ih _ cs _

/-- A contract under a discipline holds when nothing interferes. -/
theorem Discipline.Triple.hoare {exec : (r : Req) → C → σ → Ans r × σ} {d : Discipline exec}
    {P : σ → Prop} {p : Prog Req Ans ε α} {Q : α → σ → Prop} {E : ε → σ → Prop}
    (h : d.Triple P p Q E) :
    Hoare exec (fun s => d.inv s ∧ P s) p (fun a s => d.inv s ∧ Q a s) fun e s => d.inv s ∧ E e s := by
  have key : ∀ (p : Prog Req Ans ε α) (s : σ), d.Runs Q E p s →
      (Discipline.alone exec).Runs (fun a s => d.inv s ∧ Q a s) (fun e s => d.inv s ∧ E e s) p s := by
    intro p
    induction p with
    | ret a => exact fun s hs => ⟨trivial, hs⟩
    | raise e => exact fun s hs => ⟨trivial, hs⟩
    | call r k ih =>
        intro s hs s' hd
        obtain ⟨-, rfl⟩ := hd trivial
        exact ⟨trivial, fun c => ih _ _ ((hs s (d.disturbs_refl s)).2 c)⟩
  exact fun s _ hs => key p s (h s hs.1 hs.2)

/-! ## Crash points -/

/-- Under a discipline, the invariant holds wherever a request is issued. -/
theorem Discipline.Runs.inv_of_disturbs {exec : (r : Req) → C → σ → Ans r × σ} {d : Discipline exec}
    {Q : α → σ → Prop} {E : ε → σ → Prop} :
    ∀ {p : Prog Req Ans ε α} {s : σ}, d.Runs Q E p s → d.inv s →
      Safe exec (Disturbs d.inv d.disturb) (fun _ => d.inv) (fun a s => d.inv s ∧ Q a s)
        (fun e s => d.inv s ∧ E e s) p s := by
  intro p
  induction p with
  | ret a => exact fun h _ => h
  | raise e => exact fun h _ => h
  | call r k ih =>
      intro s h hs s' hd
      have hs' := (hd hs).1
      exact ⟨hs', fun c => ih _ ((h s' hd).2 c) (d.keeps r c s' hs' (h s' hd).1)⟩

/-- Every request keeps the invariant, and nothing interferes. -/
def Discipline.keeping (exec : (r : Req) → C → σ → Ans r × σ) (I : σ → Prop) : Discipline exec where
  inv := I
  disturb := Eq
  allow r s := ∀ c, I (exec r c s).2
  refl _ := rfl
  trans _ _ _ := Eq.trans
  keeps _ c _ _ h := h c

namespace Discipline.keeping

variable {exec : (r : Req) → C → σ → Ans r × σ} {I : σ → Prop} {P : σ → Prop}
  {p : Prog Req Ans ε α} {Q : α → σ → Prop} {E : ε → σ → Prop}

theorem stable (P : σ → Prop) : (Discipline.keeping exec I).Stable P := by
  rintro s _ - - rfl h
  exact h

theorem ask {r : Req} {Q : Ans r → σ → Prop}
    (h : ∀ c s, I s → P s → I (exec r c s).2 ∧ Q (exec r c s).1 (exec r c s).2) :
    (Discipline.keeping exec I).Triple P (Prog.ask r : Prog Req Ans ε (Ans r)) Q E :=
  Discipline.Triple.ask (stable P) (fun s hs hp c => (h c s hs hp).1) fun c s hs hp _ => (h c s hs hp).2

/-- Wherever the program is cut off, the invariant holds. -/
theorem after (h : (Discipline.keeping exec I).Triple P p Q E) {s : σ} (hs : I s) (hp : P s)
    (cs : List C) : I (p.after exec cs s) := by
  have hsafe : Safe exec (Disturbs I Eq) (fun _ => I) (fun a s => I s ∧ Q a s)
      (fun e s => I s ∧ E e s) p s := (h s hs hp).inv_of_disturbs hs
  exact hsafe.after_of_forall (I := I) (fun s => (Discipline.keeping exec I).disturbs_refl s)
    (fun _ _ h => h) (fun _ _ h => h.1) (fun _ _ h => h.1) cs

theorem of_ok (h : (Discipline.keeping exec I).Triple P p Q E) {s s' : σ} (hs : I s) (hp : P s)
    {cs : List C} {a : α} (hrun : p.run exec cs s = (.ok a, s')) : I s' ∧ Q a s' := by
  have key := Safe.run_outcome (fun s => (Discipline.keeping exec I).disturbs_refl s) cs (h s hs hp)
  rw [hrun] at key
  exact key

end Discipline.keeping

/-! ## Programs of known length -/

/-- A normal return comes after exactly `n` requests, all of them in `K`; an exception may come
earlier. -/
def Prog.Spends (K : Req → Prop) : Prog Req Ans ε α → Nat → Prop
  | .ret _, n => n = 0
  | .raise _, _ => True
  | .call r k, n => ∃ m, n = m + 1 ∧ K r ∧ ∀ a, (k a).Spends K m

namespace Prog

variable {K : Req → Prop}

theorem Spends.ask {r : Req} (h : K r) : (Prog.ask r : Prog Req Ans ε (Ans r)).Spends K 1 :=
  ⟨0, rfl, h, fun _ => rfl⟩

theorem Spends.mono {K' : Req → Prop} (hK : ∀ r, K r → K' r) :
    ∀ {p : Prog Req Ans ε α} {n : Nat}, p.Spends K n → p.Spends K' n := by
  intro p
  induction p with
  | ret a => exact fun h => h
  | raise e => exact fun _ => trivial
  | call r k ih =>
      rintro _ ⟨m, rfl, hr, hk⟩
      exact ⟨m, rfl, hK r hr, fun a => ih a (hk a)⟩

theorem Spends.raiseIf (bad : Prop) [Decidable bad] (e : ε) :
    (Prog.raiseIf bad e : Prog Req Ans ε Unit).Spends K 0 := by
  unfold Prog.raiseIf
  split
  · trivial
  · rfl

theorem Spends.bind {f : α → Prog Req Ans ε β} {n : Nat} :
    ∀ {p : Prog Req Ans ε α} {m : Nat}, p.Spends K m → (∀ a, (f a).Spends K n) →
      (p.bind f).Spends K (m + n) := by
  intro p
  induction p with
  | ret a =>
      rintro _ rfl hf
      rw [Nat.zero_add]
      exact hf a
  | raise e => exact fun _ _ => trivial
  | call r k ih =>
      rintro _ ⟨m, rfl, hr, hk⟩ hf
      exact ⟨m + n, by omega, hr, fun a => ih a (hk a) hf⟩

theorem Spends.orRaise_bind {e : ε} {o : Option β} {f : β → Prog Req Ans ε α} {n : Nat}
    (h : ∀ b, o = some b → (f b).Spends K n) : ((Prog.orRaise e o).bind f).Spends K n := by
  cases o with
  | none => trivial
  | some b => exact h b rfl

/-- Until a program has spent its requests, only these have had an effect. -/
theorem Spends.after_le {exec : (r : Req) → C → σ → Ans r × σ} {J : σ → Prop}
    (hJ : ∀ r c s, K r → J s → J (exec r c s).2) (f : α → Prog Req Ans ε β) :
    ∀ {p : Prog Req Ans ε α} {n : Nat} {cs : List C} {s : σ}, p.Spends K n → cs.length ≤ n → J s →
      J ((p.bind f).after exec cs s) := by
  intro p
  induction p with
  | ret a =>
      rintro _ cs s rfl hcs hs
      obtain rfl := List.length_eq_zero_iff.1 (Nat.le_zero.1 hcs)
      have hstart : ∀ q : Prog Req Ans ε β, q.after exec ([] : List C) s = s := by
        intro q
        cases q <;> rfl
      rw [hstart]
      exact hs
  | raise e => exact fun _ _ hs => hs
  | call r k ih =>
      rintro _ cs s ⟨m, rfl, hr, hk⟩ hcs hs
      cases cs with
      | nil => exact hs
      | cons c cs => exact ih _ (hk _) (Nat.le_of_succ_le_succ hcs) (hJ r c s hr hs)

/-- With enough choices a program of known length ends, and the rest of the choices is left to what
follows it. -/
theorem Spends.run (exec : (r : Req) → C → σ → Ans r × σ) (f : α → Prog Req Ans ε β) :
    ∀ {p : Prog Req Ans ε α} {n : Nat} {cs : List C} {s : σ}, p.Spends K n → n ≤ cs.length →
      (∃ a s', p.run exec cs s = (.ok a, s') ∧
        (p.bind f).after exec cs s = (f a).after exec (cs.drop n) s') ∨
      ∃ e s', p.run exec cs s = (.raised e, s') := by
  intro p
  induction p with
  | ret a =>
      rintro _ cs s rfl -
      exact .inl ⟨a, s, rfl, rfl⟩
  | raise e => exact fun _ _ => .inr ⟨e, _, rfl⟩
  | call r k ih =>
      rintro _ cs s ⟨m, rfl, -, hk⟩ hcs
      cases cs with
      | nil => exact absurd hcs (by simp)
      | cons c cs => exact ih _ (hk _) (Nat.le_of_succ_le_succ hcs)

end Prog

end StorageNode.Program
