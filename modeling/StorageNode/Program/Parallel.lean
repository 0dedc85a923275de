import StorageNode.Program.Contract
import Mathlib.Logic.Function.Basic

/-!
# Threads that share a state

Any number of programs run over one state. At each step one of them issues a request, or a program is
started, ends or is killed, or the machine fails and ends them all. When a thread has ended, the system
takes back what it held (`reap`).

A `Protocol` says for each thread which requests it may issue and what it tolerates of the others. Its
conditions are those of rely-guarantee reasoning: what one thread is allowed to do keeps the common
invariant and is tolerated by every other thread. `System.Follows.reachable` is the rule: when every
program that starts keeps to the protocol, the invariant holds in every reachable state, and every
thread still meets its contract there.
-/

set_option autoImplicit false

namespace StorageNode.Program

/-- A thread: the task it was started for, the state then, and what is left of its program. -/
structure Thread (τ Req : Type) (Ans : Req → Type) (ε α σ : Type) where
  task : τ
  since : σ
  rest : Prog Req Ans ε α

/-- A state with the threads that run over it. -/
structure Threads (ι τ Req : Type) (Ans : Req → Type) (ε α σ : Type) where
  state : σ
  thread : ι → Option (Thread τ Req Ans ε α σ)

/-- The parts of a system. -/
structure System (ι τ Req : Type) (Ans : Req → Type) (ε α σ C : Type) where
  exec : ι → (r : Req) → C → σ → Ans r × σ
  program : τ → Prog Req Ans ε α
  start : ι → σ → τ → Prop
  reap : ι → σ → σ
  fail : σ → σ → Prop

variable {ι τ Req : Type} {Ans : Req → Type} {ε α σ C : Type} [DecidableEq ι]

/-- Another state, and another thread in one place. -/
def Threads.put (x : Threads ι τ Req Ans ε α σ) (i : ι) (s : σ) (t : Option (Thread τ Req Ans ε α σ)) :
    Threads ι τ Req Ans ε α σ :=
  ⟨s, Function.update x.thread i t⟩

@[simp]
theorem Threads.put_state (x : Threads ι τ Req Ans ε α σ) (i : ι) (s : σ)
    (t : Option (Thread τ Req Ans ε α σ)) : (x.put i s t).state = s := rfl

theorem Threads.put_same {x : Threads ι τ Req Ans ε α σ} {i : ι} {t : Option (Thread τ Req Ans ε α σ)}
    (h : x.thread i = t) : x.put i x.state t = x := by
  rw [Threads.put, ← h, Function.update_eq_self]

/-- What the threads are after one of them has changed. -/
theorem Threads.put_thread {x : Threads ι τ Req Ans ε α σ} {i j : ι} {s : σ}
    {t : Option (Thread τ Req Ans ε α σ)} {u : Thread τ Req Ans ε α σ}
    (h : (x.put i s t).thread j = some u) : (j = i ∧ t = some u) ∨ (i ≠ j ∧ x.thread j = some u) := by
  rw [Threads.put] at h
  by_cases hij : j = i
  · subst hij
    exact .inl ⟨rfl, by simpa using h⟩
  · exact .inr ⟨Ne.symm hij, by simpa [hij] using h⟩

/-- One step of a system. `stop` is the end of a thread, by its own result or because it was killed. -/
inductive System.Step (m : System ι τ Req Ans ε α σ C) :
    Threads ι τ Req Ans ε α σ → Threads ι τ Req Ans ε α σ → Prop
  | start (x : Threads ι τ Req Ans ε α σ) (i : ι) (task : τ) (idle : x.thread i = none)
      (h : m.start i x.state task) :
      Step m x (x.put i x.state (some ⟨task, x.state, m.program task⟩))
  | request (x : Threads ι τ Req Ans ε α σ) (i : ι) (task : τ) (since : σ) (r : Req)
      (k : Ans r → Prog Req Ans ε α) (c : C) (running : x.thread i = some ⟨task, since, .call r k⟩) :
      Step m x (x.put i (m.exec i r c x.state).2 (some ⟨task, since, k (m.exec i r c x.state).1⟩))
  | stop (x : Threads ι τ Req Ans ε α σ) (i : ι) :
      Step m x (x.put i (m.reap i x.state) none)
  | fail (x : Threads ι τ Req Ans ε α σ) (s : σ) (h : m.fail x.state s) : Step m x ⟨s, fun _ => none⟩

/-- Any number of steps. -/
abbrev System.Steps (m : System ι τ Req Ans ε α σ C) :
    Threads ι τ Req Ans ε α σ → Threads ι τ Req Ans ε α σ → Prop :=
  Relation.ReflTransGen m.Step

/-- The states that a system reaches without threads at the start. -/
def System.Reachable (m : System ι τ Req Ans ε α σ C) (init : σ) (x : Threads ι τ Req Ans ε α σ) : Prop :=
  m.Steps ⟨init, fun _ => none⟩ x

/-- A thread may take any number of its steps while the others rest. -/
theorem System.Steps.run {m : System ι τ Req Ans ε α σ C} {i : ι} {task : τ} {since : σ} :
    ∀ (cs : List C) {p : Prog Req Ans ε α} {x : Threads ι τ Req Ans ε α σ},
      x.thread i = some ⟨task, since, p⟩ →
      m.Steps x (x.put i (p.after (m.exec i) cs x.state)
        (some ⟨task, since, p.rest (m.exec i) cs x.state⟩)) := by
  intro cs
  induction cs with
  | nil =>
    intro p x hx
    have hstay : m.Steps x (x.put i x.state (some ⟨task, since, p⟩)) := by
      rw [Threads.put_same hx]
    cases p with
    | _ => exact hstay
  | cons c cs ih =>
    intro p x hx
    have hstay : m.Steps x (x.put i x.state (some ⟨task, since, p⟩)) := by
      rw [Threads.put_same hx]
    cases p with
    | ret a => exact hstay
    | raise e => exact hstay
    | call r k =>
      refine .head (.request x i task since r k c hx) ?_
      have hrest := ih (p := k (m.exec i r c x.state).1) (x := x.put i (m.exec i r c x.state).2
        (some ⟨task, since, k (m.exec i r c x.state).1⟩)) (by simp [Threads.put])
      simpa [Threads.put, Prog.after, Prog.run, Prog.rest] using hrest

/-- A thread may run to its end at once. -/
theorem System.Steps.complete {m : System ι τ Req Ans ε α σ C} {x : Threads ι τ Req Ans ε α σ} {i : ι}
    {task : τ} {cs : List C} {a : α} {s : σ} (hidle : x.thread i = none) (hstart : m.start i x.state task)
    (hrun : (m.program task).run (m.exec i) cs x.state = (.ok a, s)) :
    m.Steps x (x.put i s (some ⟨task, x.state, .ret a⟩)) := by
  refine .head (.start x i task hidle hstart) ?_
  have hrunning : (x.put i x.state (some ⟨task, x.state, m.program task⟩)).thread i =
      some ⟨task, x.state, m.program task⟩ := by simp [Threads.put]
  have hrest : (m.program task).rest (m.exec i) cs x.state = .ret a :=
    Prog.rest_of_value (by rw [hrun]; rfl)
  simpa [Threads.put, Prog.after, hrun, hrest] using System.Steps.run (m := m) cs hrunning

/-- A common invariant, and for each thread what it may do and what it tolerates. -/
structure Protocol (exec : ι → (r : Req) → C → σ → Ans r × σ) where
  inv : σ → Prop
  disturb : ι → σ → σ → Prop
  allow : ι → Req → σ → Prop
  refl : ∀ i s, disturb i s s
  trans : ∀ i a b c, disturb i a b → disturb i b c → disturb i a c
  keeps : ∀ i r c s, inv s → allow i r s → inv (exec i r c s).2
  tolerated : ∀ i j r c s, i ≠ j → inv s → allow i r s → disturb j s (exec i r c s).2

/-- The discipline of one thread. -/
def Protocol.discipline {exec : ι → (r : Req) → C → σ → Ans r × σ} (P : Protocol exec) (i : ι) :
    Discipline (exec i) where
  inv := P.inv
  disturb := P.disturb i
  allow := P.allow i
  refl := P.refl i
  trans := P.trans i
  keeps := P.keeps i

/-- What a thread promises of the result of a task that starts in a state, and of an exception. -/
structure Promise (ι τ ε α σ : Type) where
  ok : ι → τ → σ → α → σ → Prop
  error : ι → τ → σ → ε → σ → Prop

/-- The obligations of a proof about all runs of a system. -/
structure System.Follows (m : System ι τ Req Ans ε α σ C) (P : Protocol m.exec)
    (promise : Promise ι τ ε α σ) : Prop where
  start : ∀ i s task, P.inv s → m.start i s task →
    (P.discipline i).Runs (promise.ok i task s) (promise.error i task s) (m.program task) s
  reap : ∀ i s, P.inv s → P.inv (m.reap i s) ∧ ∀ j, i ≠ j → P.disturb j s (m.reap i s)
  fail : ∀ s s', P.inv s → m.fail s s' → P.inv s'
  ok_stable : ∀ i task s a, (P.discipline i).Stable (promise.ok i task s a)
  error_stable : ∀ i task s e, (P.discipline i).Stable (promise.error i task s e)

/-- What holds in every reachable state. -/
structure System.Sound (m : System ι τ Req Ans ε α σ C) (P : Protocol m.exec)
    (promise : Promise ι τ ε α σ) (x : Threads ι τ Req Ans ε α σ) : Prop where
  inv : P.inv x.state
  thread : ∀ i t, x.thread i = some t →
    (P.discipline i).Runs (promise.ok i t.task t.since) (promise.error i t.task t.since) t.rest x.state

section

variable {m : System ι τ Req Ans ε α σ C} {P : Protocol m.exec} {promise : Promise ι τ ε α σ}

omit [DecidableEq ι] in
/-- A thread meets its contract after a step of another one. -/
theorem System.Follows.tolerates (h : m.Follows P promise) {i : ι} {t : Thread τ Req Ans ε α σ} {s s' : σ}
    (hs' : P.inv s') (hd : P.disturb i s s')
    (ht : (P.discipline i).Runs (promise.ok i t.task t.since) (promise.error i t.task t.since) t.rest s) :
    (P.discipline i).Runs (promise.ok i t.task t.since) (promise.error i t.task t.since) t.rest s' := by
  refine Safe.stable (P.discipline i).disturbs_trans (fun a u u' hu hr => ?_) (fun e u u' hu hr => ?_) ht
    fun _ => ⟨hs', hd⟩
  · obtain ⟨hu', hdu⟩ := hr hu.1
    exact ⟨hu', h.ok_stable i _ _ a u u' hu.1 hu' hdu hu.2⟩
  · obtain ⟨hu', hdu⟩ := hr hu.1
    exact ⟨hu', h.error_stable i _ _ e u u' hu.1 hu' hdu hu.2⟩

theorem System.Follows.step (h : m.Follows P promise) {x y : Threads ι τ Req Ans ε α σ}
    (hx : m.Sound P promise x) (hstep : m.Step x y) : m.Sound P promise y := by
  cases hstep with
  | start i task idle hp =>
    refine ⟨hx.inv, fun j t ht => ?_⟩
    obtain ⟨rfl, hnew⟩ | ⟨-, hold⟩ := Threads.put_thread ht
    · obtain rfl := Option.some.inj hnew
      exact h.start j _ task hx.inv hp
    · exact hx.thread j t hold
  | request i task since r k c running =>
    have hsafe := hx.thread i _ running x.state ((P.discipline i).disturbs_refl _)
    have hinv := P.keeps i r c x.state hx.inv hsafe.1
    refine ⟨hinv, fun j t ht => ?_⟩
    obtain ⟨rfl, hnew⟩ | ⟨hij, hold⟩ := Threads.put_thread ht
    · obtain rfl := Option.some.inj hnew
      exact hsafe.2 c
    · exact h.tolerates hinv (P.tolerated i j r c _ hij hx.inv hsafe.1) (hx.thread j t hold)
  | stop i =>
    obtain ⟨hinv, hd⟩ := h.reap i x.state hx.inv
    refine ⟨hinv, fun j t ht => ?_⟩
    obtain ⟨-, hnew⟩ | ⟨hij, hold⟩ := Threads.put_thread ht
    · exact absurd hnew (by simp)
    · exact h.tolerates hinv (hd j hij) (hx.thread j t hold)
  | fail s hs => exact ⟨h.fail _ s hx.inv hs, fun j t ht => absurd ht (by simp)⟩

theorem System.Follows.steps (h : m.Follows P promise) {x y : Threads ι τ Req Ans ε α σ}
    (hx : m.Sound P promise x) (hsteps : m.Steps x y) : m.Sound P promise y := by
  induction hsteps with
  | refl => exact hx
  | tail _ hstep ih => exact h.step ih hstep

/-- The invariant rule for systems of threads. -/
theorem System.Follows.reachable (h : m.Follows P promise) {init : σ} (hinit : P.inv init)
    {x : Threads ι τ Req Ans ε α σ} (hx : m.Reachable init x) : m.Sound P promise x :=
  h.steps ⟨hinit, fun i t ht => absurd ht (by simp)⟩ hx

omit [DecidableEq ι] in
/-- A thread that has returned has kept its promise. -/
theorem System.Sound.returned {x : Threads ι τ Req Ans ε α σ} (hx : m.Sound P promise x) {i : ι}
    {task : τ} {since : σ} {a : α} (h : x.thread i = some ⟨task, since, .ret a⟩) :
    promise.ok i task since a x.state :=
  (hx.thread i _ h).2

omit [DecidableEq ι] in
theorem System.Sound.raised {x : Threads ι τ Req Ans ε α σ} (hx : m.Sound P promise x) {i : ι}
    {task : τ} {since : σ} {e : ε} (h : x.thread i = some ⟨task, since, .raise e⟩) :
    promise.error i task since e x.state :=
  (hx.thread i _ h).2

/-- A condition that permitted requests, the end of threads and failures of the machine keep. -/
theorem System.Follows.keeps (h : m.Follows P promise) {F : σ → Prop}
    (hrequest : ∀ i r c s, P.inv s → P.allow i r s → F s → F (m.exec i r c s).2)
    (hreap : ∀ i s, P.inv s → F s → F (m.reap i s)) (hfail : ∀ s s', P.inv s → m.fail s s' → F s → F s')
    {x y : Threads ι τ Req Ans ε α σ} (hx : m.Sound P promise x) (hsteps : m.Steps x y)
    (hF : F x.state) : F y.state := by
  induction hsteps with
  | refl => exact hF
  | tail hsteps hstep ih =>
    have hsound := h.steps hx hsteps
    cases hstep with
    | start i task idle hp => exact ih
    | request i task since r k c running =>
      exact hrequest i r c _ hsound.inv
        (hsound.thread i _ running _ ((P.discipline i).disturbs_refl _)).1 ih
    | stop i => exact hreap i _ hsound.inv ih
    | fail s hs => exact hfail _ s hsound.inv hs ih

end

end StorageNode.Program
