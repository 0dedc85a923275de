import StorageNode.Program.Contract
import Mathlib.Logic.Function.Basic

/-!
# Machines that run one program at a time

A machine has a state, runs at most one program at a time, and is disturbed by steps of its
surroundings: some may happen at any time (`meanwhile`), some only while nothing runs (`idle`). A
running program may end, fail or be killed at any point where `stop` allows it.

`Machine.Follows.reachable` is the rule used for every statement about all runs: when the programs
that start follow a discipline, its invariant holds in every reachable state, and the program that
runs there still follows it. `Family` runs one machine per index; `Family.component` projects its
runs.
-/

set_option autoImplicit false

namespace StorageNode.Program

/-- The parts of a machine. -/
structure Machine (Req : Type) (Ans : Req → Type) (ε σ C : Type) where
  exec : (r : Req) → C → σ → Ans r × σ
  start : σ → Prog Req Ans ε Unit → Prop
  stop : σ → Prop
  meanwhile : σ → σ → Prop
  idle : σ → σ → Prop

/-- A state together with the rest of the program that runs in it. -/
structure Running (Req : Type) (Ans : Req → Type) (ε σ : Type) where
  state : σ
  thread : Option (Prog Req Ans ε Unit) := none

variable {Req : Type} {Ans : Req → Type} {ε σ C ι : Type}

/-- One step of a machine. `stop` is the end of the running program, by its own result or by a
crash. -/
inductive Machine.Step (m : Machine Req Ans ε σ C) :
    Running Req Ans ε σ → Running Req Ans ε σ → Prop
  | start (s : σ) (p : Prog Req Ans ε Unit) (h : m.start s p) : Step m ⟨s, none⟩ ⟨s, some p⟩
  | request (s : σ) (r : Req) (k : Ans r → Prog Req Ans ε Unit) (c : C) :
      Step m ⟨s, some (.call r k)⟩ ⟨(m.exec r c s).2, some (k (m.exec r c s).1)⟩
  | stop (s : σ) (p : Prog Req Ans ε Unit) (h : m.stop s) : Step m ⟨s, some p⟩ ⟨s, none⟩
  | meanwhile (s s' : σ) (thread : Option (Prog Req Ans ε Unit)) (h : m.meanwhile s s') :
      Step m ⟨s, thread⟩ ⟨s', thread⟩
  | idle (s s' : σ) (h : m.idle s s') : Step m ⟨s, none⟩ ⟨s', none⟩

/-- The states that a machine reaches from an idle state. -/
def Machine.Reachable (m : Machine Req Ans ε σ C) (init : σ) (x : Running Req Ans ε σ) : Prop :=
  Relation.ReflTransGen m.Step ⟨init, none⟩ x

/-- A running program may take any number of its steps. -/
theorem Machine.Reachable.run {m : Machine Req Ans ε σ C} {init : σ} :
    ∀ (cs : List C) {p : Prog Req Ans ε Unit} {s : σ}, m.Reachable init ⟨s, some p⟩ →
      m.Reachable init ⟨p.after m.exec cs s, some (p.rest m.exec cs s)⟩ := by
  intro cs
  induction cs with
  | nil =>
      intro p s h
      cases p with
      | _ => exact h
  | cons c cs ih =>
      intro p s h
      cases p with
      | ret a => exact h
      | raise e => exact h
      | call r k => exact ih (h.tail (.request s r k c))

/-- Steps of the surroundings. -/
theorem Machine.Reachable.disturbed {m : Machine Req Ans ε σ C} {init s s' : σ}
    {thread : Option (Prog Req Ans ε Unit)} (h : m.Reachable init ⟨s, thread⟩)
    (hs : Relation.ReflTransGen m.meanwhile s s') : m.Reachable init ⟨s', thread⟩ := by
  induction hs with
  | refl => exact h
  | tail _ hstep ih => exact ih.tail (.meanwhile _ _ thread hstep)

/-- The obligations of an invariant proof: the machine follows the discipline, and `J` holds whenever
no program runs. -/
structure Machine.Follows (m : Machine Req Ans ε σ C) (d : Discipline m.exec) (J : σ → Prop) :
    Prop where
  meanwhile : ∀ s s', d.inv s → m.meanwhile s s' → d.inv s' ∧ d.disturb s s'
  rest_meanwhile : ∀ s s', d.inv s → J s → m.meanwhile s s' → J s'
  idle : ∀ s s', d.inv s → J s → m.idle s s' → d.inv s' ∧ J s'
  stop : ∀ s, d.inv s → m.stop s → J s
  start : ∀ s p, d.inv s → J s → m.start s p → d.Runs (fun _ _ => True) (fun _ _ => True) p s

/-- What holds in every reachable state: the invariant, the condition between two programs, and the
safety of the running program. -/
structure Machine.Sound (m : Machine Req Ans ε σ C) (d : Discipline m.exec) (J : σ → Prop)
    (x : Running Req Ans ε σ) : Prop where
  inv : d.inv x.state
  rest : x.thread = none → J x.state
  thread : ∀ p, x.thread = some p → d.Runs (fun _ _ => True) (fun _ _ => True) p x.state

section

variable {m : Machine Req Ans ε σ C} {d : Discipline m.exec} {J : σ → Prop}

theorem Machine.Follows.step (h : m.Follows d J) {x y : Running Req Ans ε σ} (hx : m.Sound d J x)
    (hstep : m.Step x y) : m.Sound d J y := by
  cases hstep with
  | start s p hp =>
      refine ⟨hx.inv, fun hnone => absurd hnone (by simp), fun q hq => ?_⟩
      obtain rfl := Option.some.inj hq
      exact h.start s _ hx.inv (hx.rest rfl) hp
  | request s r k c =>
      have hsafe := hx.thread _ rfl s (d.disturbs_refl s)
      refine ⟨d.keeps r c s hx.inv hsafe.1, fun hnone => absurd hnone (by simp), fun q hq => ?_⟩
      obtain rfl := Option.some.inj hq
      exact hsafe.2 c
  | stop s p hs =>
      exact ⟨hx.inv, fun _ => h.stop s hx.inv hs, fun q hq => absurd hq (by simp)⟩
  | meanwhile s s' thread hs =>
      obtain ⟨hinv, hd⟩ := h.meanwhile s s' hx.inv hs
      refine ⟨hinv, fun hnone => h.rest_meanwhile s s' hx.inv (hx.rest hnone) hs, fun q hq => ?_⟩
      -- the running program keeps its guarantee, weakened at its end to what is stable
      have hrun : Safe m.exec (Disturbs d.inv d.disturb) d.allow (fun _ s => d.inv s)
          (fun _ s => d.inv s) q s :=
        (hx.thread q hq).mono_post (fun _ _ h => h.1) fun _ _ h => h.1
      have hstable := Safe.stable (R := Disturbs d.inv d.disturb) d.disturbs_trans
        (fun _ s s' hs hr => (hr hs).1) (fun _ s s' hs hr => (hr hs).1) hrun
        (fun _ => ⟨hinv, hd⟩ : Disturbs d.inv d.disturb s s')
      exact hstable.mono_post (fun _ _ h => ⟨h, trivial⟩) fun _ _ h => ⟨h, trivial⟩
  | idle s s' hs =>
      obtain ⟨hinv, hrest⟩ := h.idle s s' hx.inv (hx.rest rfl) hs
      exact ⟨hinv, fun _ => hrest, fun q hq => absurd hq (by simp)⟩

/-- The invariant rule for machines. -/
theorem Machine.Follows.reachable (h : m.Follows d J) {init : σ} (hI : d.inv init) (hJ : J init)
    {x : Running Req Ans ε σ} (hx : m.Reachable init x) : m.Sound d J x := by
  induction hx with
  | refl => exact ⟨hI, fun _ => hJ, fun p hp => absurd hp (by simp)⟩
  | tail _ hstep ih => exact h.step ih hstep

/-- A condition that permitted requests and the surroundings keep. -/
theorem Machine.Follows.keeps (h : m.Follows d J) {F : σ → Prop}
    (hrequest : ∀ r c s, d.inv s → d.allow r s → F s → F (m.exec r c s).2)
    (hmeanwhile : ∀ s s', d.inv s → m.meanwhile s s' → F s → F s')
    (hidle : ∀ s s', d.inv s → m.idle s s' → F s → F s') {x y : Running Req Ans ε σ}
    (hx : m.Sound d J x) (hstep : Relation.ReflTransGen m.Step x y) (hF : F x.state) :
    m.Sound d J y ∧ F y.state := by
  induction hstep with
  | refl => exact ⟨hx, hF⟩
  | tail _ hstep ih =>
      obtain ⟨hsound, hF⟩ := ih
      refine ⟨h.step hsound hstep, ?_⟩
      cases hstep with
      | start s p hp => exact hF
      | request s r k c =>
          exact hrequest r c s hsound.inv (hsound.thread _ rfl s (d.disturbs_refl s)).1 hF
      | stop s p hs => exact hF
      | meanwhile s s' thread hs => exact hmeanwhile s s' hsound.inv hs hF
      | idle s s' hs => exact hidle s s' hsound.inv hs hF

/-- The request that a sound machine is about to issue is permitted. -/
theorem Machine.Sound.permitted {x : Running Req Ans ε σ} (hx : m.Sound d J x) {r : Req}
    {k : Ans r → Prog Req Ans ε Unit} (hr : x.thread = some (.call r k)) : d.allow r x.state :=
  (hx.thread _ hr x.state (d.disturbs_refl _)).1

end

/-! ## Families of machines -/

/-- One step of a family: a step of one member, or a crash that ends every program. -/
inductive Family.Step (m : ι → Machine Req Ans ε σ C) :
    (ι → Running Req Ans ε σ) → (ι → Running Req Ans ε σ) → Prop
  | member (x y : ι → Running Req Ans ε σ) (i : ι) (h : (m i).Step (x i) (y i))
      (others : ∀ j, j ≠ i → y j = x j) : Step m x y
  | crash (x : ι → Running Req Ans ε σ) (h : ∀ i, (m i).stop (x i).state) :
      Step m x fun i => ⟨(x i).state, none⟩

/-- The states that a family reaches when every member starts idle. -/
def Family.Reachable (m : ι → Machine Req Ans ε σ C) (init : ι → σ)
    (x : ι → Running Req Ans ε σ) : Prop :=
  Relation.ReflTransGen (Family.Step m) (fun i => ⟨init i, none⟩) x

/-- A member of a reachable family is reachable on its own. -/
theorem Family.component {m : ι → Machine Req Ans ε σ C} {init : ι → σ}
    {x : ι → Running Req Ans ε σ} (hx : Family.Reachable m init x) (i : ι) :
    (m i).Reachable (init i) (x i) := by
  induction hx with
  | refl => exact .refl
  | tail _ hstep ih =>
      cases hstep with
      | member y j h others =>
          by_cases hj : i = j
          · subst hj
            exact ih.tail h
          · rw [others i hj]
            exact ih
      | crash h =>
          refine ih.trans ?_
          rename_i y _
          have hstop := h i
          rcases hy : y i with ⟨s, thread⟩
          rw [hy] at hstop
          simp only [hy]
          cases thread with
          | none => exact .refl
          | some p => exact .single (.stop s p hstop)

/-- A run of one member is a run of the family in which the others stay idle. -/
theorem Family.of_member [DecidableEq ι] {m : ι → Machine Req Ans ε σ C} {init : ι → σ} {i : ι}
    {y : Running Req Ans ε σ} (hy : (m i).Reachable (init i) y) :
    Family.Reachable m init (Function.update (fun j => ⟨init j, none⟩) i y) := by
  induction hy with
  | refl =>
      rw [Function.update_eq_self]
      exact .refl
  | tail _ hstep ih =>
      refine ih.tail (.member _ _ i ?_ fun j hj => ?_)
      · simpa using hstep
      · simp [hj]

end StorageNode.Program
