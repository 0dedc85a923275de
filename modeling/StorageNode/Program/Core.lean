import Mathlib.Logic.Relation

/-!
# Programs that issue requests one at a time

A program is a tree: it returns, raises, or issues a request and continues with the answer. The
requests and their answer types are parameters, so the same tree serves a controller that writes a
journal, a helper process that truncates a file, and a supervisor that starts and stops processes.

`Prog.run` executes a program against a state. The environment supplies one choice per request (a
fault, a helper result, an elapsed time), and the program is cut off where the choices end. A crash
after any number of steps is therefore a short list of choices, and a statement about every list of
choices is a statement about every crash point.
-/

set_option autoImplicit false

namespace StorageNode.Program

/-- A program that issues requests `r : Req`, receives answers of type `Ans r`, and ends with a
value of type `α` or an exception of type `ε`. -/
inductive Prog (Req : Type) (Ans : Req → Type) (ε α : Type) : Type where
  | ret (a : α)
  | raise (e : ε)
  | call (r : Req) (k : Ans r → Prog Req Ans ε α)

variable {Req : Type} {Ans : Req → Type} {ε α β σ C : Type}

namespace Prog

/-- Sequencing: an exception of the first part skips the second. -/
def bind : Prog Req Ans ε α → (α → Prog Req Ans ε β) → Prog Req Ans ε β
  | ret a, f => f a
  | raise e, _ => raise e
  | call r k, f => call r fun a => (k a).bind f

instance : Monad (Prog Req Ans ε) where
  pure := ret
  bind := bind

/-- The program that issues one request and returns its answer. -/
def ask (r : Req) : Prog Req Ans ε (Ans r) :=
  call r ret

/-- `try p except e: h e`. -/
def catchWith : Prog Req Ans ε α → (ε → Prog Req Ans ε α) → Prog Req Ans ε α
  | ret a, _ => ret a
  | raise e, h => h e
  | call r k, h => call r fun a => (k a).catchWith h

/-- `try p finally q`: `q` runs after `p`, whichever way `p` ends, and an exception of `q` replaces
the outcome of `p`. -/
def andFinally : Prog Req Ans ε α → Prog Req Ans ε Unit → Prog Req Ans ε α
  | ret a, q => q.bind fun _ => ret a
  | raise e, q => q.bind fun _ => raise e
  | call r k, q => call r fun a => (k a).andFinally q

/-- `if bad: raise e`. -/
def raiseIf (bad : Prop) [Decidable bad] (e : ε) : Prog Req Ans ε Unit :=
  if bad then raise e else ret ()

/-- `if condition: p`. -/
def when (condition : Prop) [Decidable condition] (p : Prog Req Ans ε Unit) : Prog Req Ans ε Unit :=
  if condition then p else ret ()

/-- Unwrap a value whose absence is an exception. -/
def orRaise (e : ε) : Option α → Prog Req Ans ε α
  | some a => ret a
  | none => raise e

/-- Run a program and keep an exception as a value. -/
def attempt (p : Prog Req Ans ε α) : Prog Req Ans ε (Except ε α) :=
  (p.bind fun a => ret (.ok a)).catchWith fun e => ret (.error e)

/-- `for x in xs: body x`. -/
def forEach : List β → (β → Prog Req Ans ε Unit) → Prog Req Ans ε Unit
  | [], _ => ret ()
  | x :: xs, body => (body x).bind fun _ => forEach xs body

@[simp] theorem pure_eq (a : α) : (pure a : Prog Req Ans ε α) = ret a := rfl

@[simp] theorem bind_eq (p : Prog Req Ans ε α) (f : α → Prog Req Ans ε β) :
    (p >>= f) = p.bind f := rfl

@[simp] theorem ret_bind (a : α) (f : α → Prog Req Ans ε β) :
    (ret a : Prog Req Ans ε α).bind f = f a := rfl

@[simp] theorem raise_bind (e : ε) (f : α → Prog Req Ans ε β) :
    (raise e : Prog Req Ans ε α).bind f = raise e := rfl

theorem bind_assoc {γ : Type} (f : α → Prog Req Ans ε β) (g : β → Prog Req Ans ε γ) :
    ∀ p : Prog Req Ans ε α, (p.bind f).bind g = p.bind fun a => (f a).bind g := by
  intro p
  induction p with
  | ret a => rfl
  | raise e => rfl
  | call r k ih =>
      simp only [bind]
      exact congrArg (call r) (funext ih)

end Prog

/-- How a cut-off run ended. `crashed` means that the choices ended before the program did. -/
inductive Outcome (ε α : Type) : Type where
  | ok (a : α)
  | raised (e : ε)
  | crashed
  deriving DecidableEq, Repr

/-- Execute a program with one choice of the environment per request. -/
def Prog.run (exec : (r : Req) → C → σ → Ans r × σ) :
    Prog Req Ans ε α → List C → σ → Outcome ε α × σ
  | .ret a, _, s => (.ok a, s)
  | .raise e, _, s => (.raised e, s)
  | .call _ _, [], s => (.crashed, s)
  | .call r k, c :: cs, s => (k (exec r c s).1).run exec cs (exec r c s).2

/-- A run with a known outcome ends in some state. -/
theorem exists_state_of_outcome {r : Outcome ε α × σ} {o : Outcome ε α} (h : r.1 = o) :
    ∃ s, r = (o, s) :=
  ⟨r.2, by rw [← h]⟩

/-- The value of a normal return. -/
def Outcome.value : Outcome ε α → Option α
  | .ok a => some a
  | _ => none

theorem exists_state_of_value {r : Outcome ε α × σ} {a : α} (h : r.1.value = some a) :
    ∃ s, r = (.ok a, s) := by
  obtain ⟨o, s⟩ := r
  cases o with
  | ok b =>
      obtain rfl := Option.some.inj h
      exact ⟨s, rfl⟩
  | raised e => exact absurd h (by simp [Outcome.value])
  | crashed => exact absurd h (by simp [Outcome.value])

/-- The requests a cut-off run issues, each with the state in which it is issued. The last entry is
the request at which a crashed run stopped. -/
def Prog.issued (exec : (r : Req) → C → σ → Ans r × σ) :
    Prog Req Ans ε α → List C → σ → List (Req × σ)
  | .ret _, _, _ => []
  | .raise _, _, _ => []
  | .call r _, [], s => [(r, s)]
  | .call r k, c :: cs, s => (r, s) :: (k (exec r c s).1).issued exec cs (exec r c s).2

/-- What is left of a program when the choices end. -/
def Prog.rest (exec : (r : Req) → C → σ → Ans r × σ) :
    Prog Req Ans ε α → List C → σ → Prog Req Ans ε α
  | .call r k, c :: cs, s => (k (exec r c s).1).rest exec cs (exec r c s).2
  | p, _, _ => p

/-- Nothing is left of a program that has returned. -/
theorem Prog.rest_of_value {exec : (r : Req) → C → σ → Ans r × σ} {p : Prog Req Ans ε α} {cs : List C}
    {s : σ} {a : α} (h : (p.run exec cs s).1.value = some a) : p.rest exec cs s = .ret a := by
  induction p generalizing cs s with
  | ret b =>
      obtain rfl := Option.some.inj h
      rfl
  | raise e => exact absurd h (by simp [run, Outcome.value])
  | call r k ih =>
      cases cs with
      | nil => exact absurd h (by simp [run, Outcome.value])
      | cons c cs => exact ih _ h

/-- The request that a program issues next. -/
def Prog.next : Prog Req Ans ε α → Option Req
  | .call r _ => some r
  | _ => none

theorem Prog.eq_call_of_next {p : Prog Req Ans ε α} {r : Req} (h : p.next = some r) :
    ∃ k, p = .call r k := by
  cases p with
  | ret a => exact absurd h (by simp [next])
  | raise e => exact absurd h (by simp [next])
  | call r' k =>
      obtain rfl : r' = r := by simpa [next] using h
      exact ⟨k, rfl⟩

/-- The state after a cut-off run. -/
def Prog.after (exec : (r : Req) → C → σ → Ans r × σ) (p : Prog Req Ans ε α) (cs : List C) (s : σ) :
    σ :=
  (p.run exec cs s).2

end StorageNode.Program
