import StorageNode.Program.Safety

/-!
# Contracts under an invariant and interference

A discipline fixes, for one request interpreter, an invariant of the state, what the surroundings may
do to a state that satisfies it, and which requests a program may issue where. Permitted requests
keep the invariant. `Triple P p Q E` says that `p`, started where the invariant and `P` hold, issues
permitted requests only, and ends with `Q` or fails with `E`. A precondition that is used across a
request has to be stable under interference.

The rules follow the program: `bind`, `ask`, `when`, `forEach`, `attempt`, `catchWith`, `andFinally`,
and consequence.
-/

set_option autoImplicit false

namespace StorageNode.Program

variable {Req : Type} {Ans : Req → Type} {ε α β σ C : Type}

/-- What the surroundings may do to a state that satisfies the invariant. -/
def Disturbs (I : σ → Prop) (D : σ → σ → Prop) (s s' : σ) : Prop :=
  I s → I s' ∧ D s s'

/-- An invariant, the interference that it tolerates, and the requests that keep it. -/
structure Discipline (exec : (r : Req) → C → σ → Ans r × σ) where
  inv : σ → Prop
  disturb : σ → σ → Prop
  allow : Req → σ → Prop
  refl : ∀ s, disturb s s
  trans : ∀ a b c, disturb a b → disturb b c → disturb a c
  keeps : ∀ r c s, inv s → allow r s → inv (exec r c s).2

namespace Discipline

variable {exec : (r : Req) → C → σ → Ans r × σ} (d : Discipline exec)

theorem disturbs_refl (s : σ) : Disturbs d.inv d.disturb s s :=
  fun h => ⟨h, d.refl s⟩

theorem disturbs_trans (a b c : σ) (hab : Disturbs d.inv d.disturb a b)
    (hbc : Disturbs d.inv d.disturb b c) : Disturbs d.inv d.disturb a c := by
  intro ha
  obtain ⟨hb, dab⟩ := hab ha
  obtain ⟨hc, dbc⟩ := hbc hb
  exact ⟨hc, d.trans a b c dab dbc⟩

/-- Safety under the discipline. -/
def Runs (Q : α → σ → Prop) (E : ε → σ → Prop) (p : Prog Req Ans ε α) (s : σ) : Prop :=
  Safe exec (Disturbs d.inv d.disturb) d.allow (fun a s => d.inv s ∧ Q a s)
    (fun e s => d.inv s ∧ E e s) p s

/-- The contract of a program. -/
def Triple (P : σ → Prop) (p : Prog Req Ans ε α) (Q : α → σ → Prop) (E : ε → σ → Prop) : Prop :=
  ∀ s, d.inv s → P s → d.Runs Q E p s

/-- A condition that interference cannot falsify. -/
def Stable (P : σ → Prop) : Prop :=
  ∀ s s', d.inv s → d.inv s' → d.disturb s s' → P s → P s'

variable {d} {P P' : σ → Prop} {Q Q' : α → σ → Prop} {E E' : ε → σ → Prop}

theorem Stable.and (hP : d.Stable P) (hP' : d.Stable P') : d.Stable fun s => P s ∧ P' s :=
  fun s s' hs hs' hd h => ⟨hP s s' hs hs' hd h.1, hP' s s' hs hs' hd h.2⟩

theorem Stable.const (φ : Prop) : d.Stable fun _ : σ => φ :=
  fun _ _ _ _ _ h => h

namespace Triple

/-- The rule of consequence. -/
theorem mono {p : Prog Req Ans ε α} (h : d.Triple P p Q E) (hP : ∀ s, d.inv s → P' s → P s)
    (hQ : ∀ a s, d.inv s → Q a s → Q' a s) (hE : ∀ e s, d.inv s → E e s → E' e s) :
    d.Triple P' p Q' E' :=
  fun s hs hp => (h s hs (hP s hs hp)).mono_post (fun a s' ha => ⟨ha.1, hQ a s' ha.1 ha.2⟩)
    fun e s' he => ⟨he.1, hE e s' he.1 he.2⟩

theorem pre {p : Prog Req Ans ε α} (h : d.Triple P p Q E) (hP : ∀ s, d.inv s → P' s → P s) :
    d.Triple P' p Q E :=
  h.mono hP (fun _ _ _ h => h) fun _ _ _ h => h

theorem post {p : Prog Req Ans ε α} (h : d.Triple P p Q E)
    (hQ : ∀ a s, d.inv s → Q a s → Q' a s) : d.Triple P p Q' E :=
  h.mono (fun _ _ h => h) hQ fun _ _ _ h => h

theorem ret {a : α} (h : ∀ s, d.inv s → P s → Q a s) :
    d.Triple P (.ret a : Prog Req Ans ε α) Q E :=
  fun s hs hp => ⟨hs, h s hs hp⟩

theorem raise {e : ε} (h : ∀ s, d.inv s → P s → E e s) :
    d.Triple P (.raise e : Prog Req Ans ε α) Q E :=
  fun s hs hp => ⟨hs, h s hs hp⟩

theorem bind {M : α → σ → Prop} {Q : β → σ → Prop} {p : Prog Req Ans ε α}
    {f : α → Prog Req Ans ε β} (hp : d.Triple P p M E) (hf : ∀ a, d.Triple (M a) (f a) Q E) :
    d.Triple P (p.bind f) Q E :=
  fun s hs h => Safe.bind (hp s hs h) fun a s' hm => hf a s' hm.1 hm.2

/-- One request: permitted wherever the stable precondition holds. -/
theorem ask {r : Req} {Q : Ans r → σ → Prop} (hP : d.Stable P)
    (hA : ∀ s, d.inv s → P s → d.allow r s)
    (hQ : ∀ c s, d.inv s → P s → d.inv (exec r c s).2 → Q (exec r c s).1 (exec r c s).2) :
    d.Triple P (Prog.ask r : Prog Req Ans ε (Ans r)) Q E := by
  intro s hs hp s' hd
  obtain ⟨hs', hdist⟩ := hd hs
  have hp' := hP s s' hs hs' hdist hp
  have ha := hA s' hs' hp'
  exact ⟨ha, fun c => ⟨d.keeps r c s' hs' ha, hQ c s' hs' hp' (d.keeps r c s' hs' ha)⟩⟩

theorem raiseIf {Q : Unit → σ → Prop} {bad : Prop} [Decidable bad] {e : ε}
    (hE : bad → ∀ s, d.inv s → P s → E e s) (hQ : ¬ bad → ∀ s, d.inv s → P s → Q () s) :
    d.Triple P (Prog.raiseIf bad e : Prog Req Ans ε Unit) Q E := by
  intro s hs hp
  rw [Runs, Safe.raiseIf_iff]
  exact ⟨fun h => ⟨hs, hE h s hs hp⟩, fun h => ⟨hs, hQ h s hs hp⟩⟩

theorem when {Q : Unit → σ → Prop} {condition : Prop} [Decidable condition]
    {p : Prog Req Ans ε Unit} (hp : condition → d.Triple P p Q E)
    (hQ : ¬ condition → ∀ s, d.inv s → P s → Q () s) : d.Triple P (Prog.when condition p) Q E := by
  intro s hs h
  rw [Runs, Safe.when_iff]
  exact ⟨fun hc => hp hc s hs h, fun hc => ⟨hs, hQ hc s hs h⟩⟩

theorem orRaise {e : ε} {o : Option α} (hE : o = none → ∀ s, d.inv s → P s → E e s)
    (hQ : ∀ a, o = some a → ∀ s, d.inv s → P s → Q a s) :
    d.Triple P (Prog.orRaise e o : Prog Req Ans ε α) Q E := by
  intro s hs h
  rw [Runs, Safe.orRaise_iff]
  exact ⟨fun ho => ⟨hs, hE ho s hs h⟩, fun a ho => ⟨hs, hQ a ho s hs h⟩⟩

theorem ite {condition : Prop} [Decidable condition] {p q : Prog Req Ans ε α}
    (hp : condition → d.Triple P p Q E) (hq : ¬ condition → d.Triple P q Q E) :
    d.Triple P (if condition then p else q) Q E := by
  by_cases hc : condition
  · rw [if_pos hc]
    exact hp hc
  · rw [if_neg hc]
    exact hq hc

/-- A loop whose invariant may speak about the elements that are left. -/
theorem forEach {I : List β → σ → Prop} {body : β → Prog Req Ans ε Unit}
    (hbody : ∀ x xs, d.Triple (I (x :: xs)) (body x) (fun _ => I xs) E) :
    ∀ xs, d.Triple (I xs) (Prog.forEach xs body) (fun _ => I []) E
  | [] => ret fun _ _ h => h
  | x :: xs => bind (hbody x xs) fun _ => forEach hbody xs

theorem attempt {Q : Except ε α → σ → Prop} {p : Prog Req Ans ε α}
    (h : d.Triple P p (fun a => Q (.ok a)) (fun e => Q (.error e))) :
    d.Triple P p.attempt Q E :=
  fun s hs hp => Safe.attempt (h s hs hp)

theorem catchWith {F : ε → σ → Prop} {p : Prog Req Ans ε α} {h : ε → Prog Req Ans ε α}
    (hp : d.Triple P p Q F) (hh : ∀ e, d.Triple (F e) (h e) Q E) : d.Triple P (p.catchWith h) Q E :=
  fun s hs hP => Safe.catchWith (hp s hs hP) fun e s' he => hh e s' he.1 he.2

theorem andFinally {M : α → σ → Prop} {F : ε → σ → Prop} {p : Prog Req Ans ε α}
    {q : Prog Req Ans ε Unit} (hp : d.Triple P p M F) (hq : ∀ a, d.Triple (M a) q (fun _ => Q a) E)
    (hq' : ∀ e, d.Triple (F e) q (fun _ => E e) E) : d.Triple P (p.andFinally q) Q E :=
  fun s hs hP => Safe.andFinally (hp s hs hP) (fun a s' ha => hq a s' ha.1 ha.2)
    fun e s' he => hq' e s' he.1 he.2

/-- A fact that does not depend on the state moves into the context. -/
theorem assume {φ : Prop} {p : Prog Req Ans ε α} (h : φ → d.Triple P p Q E) :
    d.Triple (fun s => φ ∧ P s) p Q E :=
  fun s hs hp => h hp.1 s hs hp.2

/-- A logical variable of the precondition. -/
theorem exists_pre {ι : Type} {P : ι → σ → Prop} {p : Prog Req Ans ε α}
    (h : ∀ x, d.Triple (P x) p Q E) : d.Triple (fun s => ∃ x, P x s) p Q E := by
  rintro s hs ⟨x, hp⟩
  exact h x s hs hp

/-- A program confined to requests that are permitted and keep a condition keeps it. -/
theorem of_issues {K : Req → Prop} {p : Prog Req Ans ε α} (hP : d.Stable P)
    (hK : ∀ r s, K r → d.inv s → P s → d.allow r s ∧ ∀ c, P (exec r c s).2) (hp : p.Issues K) :
    d.Triple P p (fun _ => P) fun _ => P := by
  intro s hs h
  have hsafe : Safe exec (Disturbs d.inv d.disturb) (fun r s => K r ∧ d.inv s ∧ P s)
      (fun _ s => d.inv s ∧ P s) (fun _ s => d.inv s ∧ P s) p s :=
    Prog.Issues.safe (fun s s' hi hr => ⟨(hr hi.1).1, hP s s' hi.1 (hr hi.1).1 (hr hi.1).2 hi.2⟩)
      (fun r c s hr hi => ⟨d.keeps r c s hi.1 (hK r s hr hi.1 hi.2).1, (hK r s hr hi.1 hi.2).2 c⟩)
      hp ⟨hs, h⟩
  exact hsafe.mono (fun r s hr => (hK r s hr.1 hr.2.1 hr.2.2).1) (fun _ _ h => h) fun _ _ h => h

/-- The frame rule: a condition that the requests of a program keep holds after the program. -/
theorem frame {K : Req → Prop} {F : σ → Prop} (hF : d.Stable F)
    (hK : ∀ r c s, K r → d.inv s → d.allow r s → F s → F (exec r c s).2) {p : Prog Req Ans ε α}
    (h : d.Triple P p Q E) (hp : p.Issues K) :
    d.Triple (fun s => P s ∧ F s) p (fun a s => Q a s ∧ F s) fun e s => E e s ∧ F s := by
  have key : ∀ s, d.inv s → F s → d.Runs Q E p s →
      d.Runs (fun a s => Q a s ∧ F s) (fun e s => E e s ∧ F s) p s := by
    clear h
    induction p with
    | ret a => exact fun s _ hf hrun => ⟨hrun.1, hrun.2, hf⟩
    | raise e => exact fun s _ hf hrun => ⟨hrun.1, hrun.2, hf⟩
    | call r k ih =>
        intro s hs hf hrun s' hd
        obtain ⟨hs', hdist⟩ := hd hs
        obtain ⟨ha, hk⟩ := hrun s' hd
        have hf' := hF s s' hs hs' hdist hf
        exact ⟨ha, fun c => ih _ (hp.2 _) _ (d.keeps r c s' hs' ha) (hK r c s' hp.1 hs' ha hf') (hk c)⟩
  exact fun s hs hpre => key s hs hpre.2 (h s hs hpre.1)

end Triple

/-! ## A condition that nothing changes -/

/-- The discipline on the states that satisfy a condition which no request changes. -/
def restrict (d : Discipline exec) (J : σ → Prop) (hexec : ∀ r c s, J s → J (exec r c s).2) :
    Discipline exec where
  inv s := d.inv s ∧ J s
  disturb := d.disturb
  allow := d.allow
  refl := d.refl
  trans := d.trans
  keeps r c s h hr := ⟨d.keeps r c s h.1 hr, hexec r c s h.2⟩

/-- When the surroundings do not change the condition either, it may be assumed throughout. -/
theorem Triple.of_restrict {J : σ → Prop} {hexec : ∀ r c s, J s → J (exec r c s).2}
    (hJ : d.Stable J) {p : Prog Req Ans ε α} (h : (d.restrict J hexec).Triple P p Q E) :
    d.Triple (fun s => J s ∧ P s) p Q E := by
  intro s hs hp
  have hrun := h s ⟨hs, hp.1⟩ hp.2
  have hless : Safe exec (Disturbs d.inv d.disturb) d.allow
      (fun a s => (d.inv s ∧ J s) ∧ Q a s) (fun e s => (d.inv s ∧ J s) ∧ E e s) p s := by
    refine Safe.anti (fun s s' hd h => ?_) hrun
    obtain ⟨hs', hdist⟩ := hd h.1
    exact ⟨⟨hs', hJ s s' h.1 hs' hdist h.2⟩, hdist⟩
  exact hless.mono_post (fun _ _ h => ⟨h.1.1, h.2⟩) fun _ _ h => ⟨h.1.1, h.2⟩

end Discipline

end StorageNode.Program
