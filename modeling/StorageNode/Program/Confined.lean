import StorageNode.Program.Contract

/-!
# Programs confined to requests, values and exceptions

`p.Confined K Φ F` bounds what `p` does whatever the answers are: its requests satisfy `K`, the values
it returns `Φ`, and the exceptions it raises `F`. It refines `Prog.Issues`, and adds to a contract what
can be read off the program alone (`Discipline.Triple.confined`).

A handler that passes on every exception of a confined part moves behind this part
(`Prog.catchWith_bind`). This is how a call in tail position is taken out of a program.
-/

set_option autoImplicit false

namespace StorageNode.Program

variable {Req : Type} {Ans : Req → Type} {ε α β σ C : Type}

/-- Every request satisfies `K`, every value `Φ`, and every exception `F`, whatever the answers
are. -/
def Prog.Confined (K : Req → Prop) (Φ : α → Prop) (F : ε → Prop) : Prog Req Ans ε α → Prop
  | .ret a => Φ a
  | .raise e => F e
  | .call r k => K r ∧ ∀ a, (k a).Confined K Φ F

namespace Prog.Confined

variable {K : Req → Prop} {Φ : α → Prop} {Ψ : β → Prop} {F : ε → Prop}

theorem mono {K' : Req → Prop} {Φ' : α → Prop} (hK : ∀ r, K r → K' r) (hΦ : ∀ a, Φ a → Φ' a) :
    ∀ {p : Prog Req Ans ε α}, p.Confined K Φ F → p.Confined K' Φ' F := by
  intro p
  induction p with
  | ret a => exact fun hp => hΦ a hp
  | raise e => exact fun hp => hp
  | call r k ih => exact fun hp => ⟨hK r hp.1, fun a => ih a (hp.2 a)⟩

theorem post {Φ' : α → Prop} (h : ∀ a, Φ a → Φ' a) {p : Prog Req Ans ε α}
    (hp : p.Confined K Φ F) : p.Confined K Φ' F :=
  hp.mono (fun _ hr => hr) h

theorem issues : ∀ {p : Prog Req Ans ε α}, p.Confined K Φ F → p.Issues K := by
  intro p
  induction p with
  | ret a => exact fun _ => trivial
  | raise e => exact fun _ => trivial
  | call r k ih => exact fun hp => ⟨hp.1, fun a => ih a (hp.2 a)⟩

theorem bind {f : α → Prog Req Ans ε β} (hf : ∀ a, Φ a → (f a).Confined K Ψ F) :
    ∀ {p : Prog Req Ans ε α}, p.Confined K Φ F → (p.bind f).Confined K Ψ F := by
  intro p
  induction p with
  | ret a => exact fun hp => hf a hp
  | raise e => exact fun hp => hp
  | call r k ih => exact fun hp => ⟨hp.1, fun a => ih a (hp.2 a)⟩

theorem ask {r : Req} (h : K r) :
    (Prog.ask r : Prog Req Ans ε (Ans r)).Confined K (fun _ => True) F :=
  ⟨h, fun _ => trivial⟩

theorem raiseIf {bad : Prop} [Decidable bad] {e : ε} (h : bad → F e) :
    (Prog.raiseIf bad e : Prog Req Ans ε Unit).Confined K (fun _ => True) F := by
  unfold Prog.raiseIf
  split
  · exact h ‹_›
  · trivial

theorem when {condition : Prop} [Decidable condition] {p : Prog Req Ans ε Unit}
    (h : p.Confined K (fun _ => True) F) :
    (Prog.when condition p).Confined K (fun _ => True) F := by
  unfold Prog.when
  split
  · exact h
  · trivial

theorem orRaise {e : ε} {o : Option α} (h : F e) :
    (Prog.orRaise e o : Prog Req Ans ε α).Confined K (fun a => o = some a) F := by
  cases o with
  | none => exact h
  | some a => exact rfl

theorem forEach {body : β → Prog Req Ans ε Unit}
    (h : ∀ x, (body x).Confined K (fun _ => True) F) :
    ∀ xs : List β, (Prog.forEach xs body).Confined K (fun _ => True) F
  | [] => trivial
  | x :: xs => bind (fun _ _ => forEach h xs) (h x)

/-- An exception that is kept as a value is one of the program. -/
theorem attempt {F' : ε → Prop} : ∀ {p : Prog Req Ans ε α}, p.Confined K Φ F →
    p.attempt.Confined K (fun outcome => (∀ a, outcome = .ok a → Φ a) ∧
      ∀ e, outcome = .error e → F e) F' := by
  intro p
  induction p with
  | ret a =>
      intro hp
      constructor
      · rintro b ⟨rfl⟩
        exact hp
      · simp
  | raise e =>
      intro hp
      constructor
      · simp
      · rintro e' ⟨rfl⟩
        exact hp
  | call r k ih => exact fun hp => ⟨hp.1, fun a => ih a (hp.2 a)⟩

end Prog.Confined

/-- A handler that passes on the exceptions of the first part handles the second part only. -/
theorem Prog.catchWith_bind {K : Req → Prop} {Φ : α → Prop} {F : ε → Prop}
    {h : ε → Prog Req Ans ε β} (hF : ∀ e, F e → h e = .raise e) {f g : α → Prog Req Ans ε β}
    (hf : ∀ a, Φ a → (f a).catchWith h = g a) :
    ∀ {p : Prog Req Ans ε α}, p.Confined K Φ F → (p.bind f).catchWith h = p.bind g := by
  intro p
  induction p with
  | ret a => exact fun hp => hf a hp
  | raise e => exact fun hp => hF e hp
  | call r k ih => exact fun hp => congrArg (Prog.call r) (funext fun a => ih a (hp.2 a))

/-- A program whose exceptions the handler passes on is not changed by it. -/
theorem Prog.catchWith_of_confined {K : Req → Prop} {Φ : α → Prop} {F : ε → Prop}
    {h : ε → Prog Req Ans ε α} (hF : ∀ e, F e → h e = .raise e) :
    ∀ {p : Prog Req Ans ε α}, p.Confined K Φ F → p.catchWith h = p := by
  intro p
  induction p with
  | ret a => exact fun _ => rfl
  | raise e => exact fun hp => hF e hp
  | call r k ih => exact fun hp => congrArg (Prog.call r) (funext fun a => ih a (hp.2 a))

namespace Discipline

variable {exec : (r : Req) → C → σ → Ans r × σ} {d : Discipline exec}

/-- The values and the exceptions of a confined program are the confined ones. -/
theorem Triple.within {K : Req → Prop} {Φ : α → Prop} {F : ε → Prop} {P : σ → Prop}
    {Q : α → σ → Prop} {E : ε → σ → Prop} {p : Prog Req Ans ε α} (h : d.Triple P p Q E)
    (hp : p.Confined K Φ F) :
    d.Triple P p (fun a s => Q a s ∧ Φ a) fun e s => E e s ∧ F e := by
  have key : ∀ s, d.Runs Q E p s →
      d.Runs (fun a s => Q a s ∧ Φ a) (fun e s => E e s ∧ F e) p s := by
    clear h
    induction p with
    | ret a => exact fun s hrun => ⟨hrun.1, hrun.2, hp⟩
    | raise e => exact fun s hrun => ⟨hrun.1, hrun.2, hp⟩
    | call r k ih =>
        intro s hrun s' hd
        obtain ⟨ha, hk⟩ := hrun s' hd
        exact ⟨ha, fun c => ih _ (hp.2 _) _ (hk c)⟩
  exact fun s hs hpre => key s (h s hs hpre)

/-- The frame rule for a confined program. -/
theorem Triple.confined {K : Req → Prop} {Φ : α → Prop} {F : ε → Prop} {G P : σ → Prop}
    {Q : α → σ → Prop} {E : ε → σ → Prop} (hG : d.Stable G)
    (hK : ∀ r c s, K r → d.inv s → d.allow r s → G s → G (exec r c s).2) {p : Prog Req Ans ε α}
    (h : d.Triple P p Q E) (hp : p.Confined K Φ F) :
    d.Triple (fun s => P s ∧ G s) p (fun a s => (Q a s ∧ Φ a) ∧ G s)
      fun e s => (E e s ∧ F e) ∧ G s :=
  Triple.frame hG hK (h.within hp) hp.issues

/-! ## Less interference -/

/-- The same invariant and the same permissions where the surroundings also keep to `D`. -/
def calm (d : Discipline exec) (D : σ → σ → Prop) (hrefl : ∀ s, D s s)
    (htrans : ∀ a b c, D a b → D b c → D a c) : Discipline exec where
  inv := d.inv
  disturb s s' := d.disturb s s' ∧ D s s'
  allow := d.allow
  refl s := ⟨d.refl s, hrefl s⟩
  trans a b c hab hbc := ⟨d.trans a b c hab.1 hbc.1, htrans a b c hab.2 hbc.2⟩
  keeps := d.keeps

theorem Triple.calm {D : σ → σ → Prop} {hrefl : ∀ s, D s s}
    {htrans : ∀ a b c, D a b → D b c → D a c} {P : σ → Prop} {Q : α → σ → Prop} {E : ε → σ → Prop}
    {p : Prog Req Ans ε α} (h : d.Triple P p Q E) : (d.calm D hrefl htrans).Triple P p Q E := by
  intro s hs hp
  apply Safe.anti _ (h s hs hp)
  intro s s' hd hi
  obtain ⟨hi', hdist⟩ := hd hi
  exact ⟨hi', hdist.1⟩

end Discipline

end StorageNode.Program
