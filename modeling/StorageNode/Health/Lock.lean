import Mathlib.Logic.Relation
import Mathlib.Tactic.ByContra

/-!
# The lock of the health state

Every method of `HealthState` holds one `threading.Lock` for its whole body. The main thread calls
these methods from everywhere in the guardian, other threads (the health server, the admission
controller) call some of them too, and the handler of `SIGTERM` and `SIGINT`, which runs on the main
thread between any two of its instructions, calls `set`. A thread is a list of instructions; the main
thread is a stack of frames, since a handler may itself be interrupted.

`self_deadlock_iff`: when no signal is delivered while a frame of the main thread holds the lock, no
handler ever waits for an interrupted frame; at any point of such a run a signal can make it wait
exactly if a frame of the main thread holds the lock there.
-/

set_option autoImplicit false

namespace StorageNode.Health

/-- Instructions, as far as the lock is concerned. -/
inductive Instr where
  | plain
  | acquire
  | release
  deriving DecidableEq

/-- The locked methods of `HealthState`. -/
inductive Method where
  | set
  | setStorage
  | startProbe
  | setAdmission
  | setBlockedRecovery
  | recordProbe
  | setRecoveryStableSince
  | setWriter
  | setGeneration
  | setGenerationHistory
  | setSeaweedVolumes
  | setIndexRepair
  | incrementFailure
  | incrementRecovery
  | snapshot
  deriving DecidableEq

/-- The number of statements under the lock. -/
def Method.statements : Method → Nat
  | .set => 4
  | .recordProbe => 4
  | .incrementFailure => 3
  | .incrementRecovery => 2
  | _ => 1

/-- `with self._lock: ...`. -/
def Method.instrs (m : Method) : List Instr :=
  .acquire :: (List.replicate m.statements .plain ++ [.release])

/-- What a thread does next: something else, or a call of a locked method. -/
inductive Statement where
  | other
  | call (m : Method)

/-- The instructions of a statement. -/
def Statement.instrs : Statement → List Instr
  | .other => [.plain]
  | .call m => m.instrs

/-- The instructions of a thread. -/
def compile (body : List Statement) : List Instr :=
  body.flatMap Statement.instrs

/-- The signal handler: it logs, sets `stopping` and publishes `STOPPING`. -/
def handler : List Instr :=
  compile [.other, .other, .call .set]

/-- Who holds the lock: a frame of the main thread, by its depth, or another thread. -/
inductive Owner where
  | frame (depth : Nat)
  | thread (i : Nat)
  deriving DecidableEq

/-- All threads. The innermost frame of the main thread comes first; the frames below it are
interrupted. -/
structure Threads where
  frames : List (List Instr)
  others : Nat → List Instr
  owner : Option Owner := none

/-- The effect of an instruction on the lock. A lock that is held is waited for, whoever holds it. -/
inductive Instr.Acts (self : Owner) : Instr → Option Owner → Option Owner → Prop
  | plain (owner : Option Owner) : Acts self .plain owner owner
  | acquire : Acts self .acquire none (some self)
  | release (owner : Option Owner) : Acts self .release owner none

/-- One step of the main thread or of another thread. -/
inductive Threads.Runs : Threads → Threads → Prop
  | main (s : Threads) (i : Instr) (rest : List Instr) (below : List (List Instr))
      (owner : Option Owner) (hframes : s.frames = (i :: rest) :: below)
      (h : i.Acts (.frame below.length) s.owner owner) :
      Runs s { s with frames := rest :: below, owner := owner }
  | back (s : Threads) (frame : List Instr) (below : List (List Instr))
      (hframes : s.frames = [] :: frame :: below) : Runs s { s with frames := frame :: below }
  | other (s : Threads) (j : Nat) (i : Instr) (rest : List Instr) (owner : Option Owner)
      (hthread : s.others j = i :: rest) (h : i.Acts (.thread j) s.owner owner) :
      Runs s { s with others := fun k => if k = j then rest else s.others k, owner := owner }

/-- The state when the handler starts. -/
def Threads.interrupted (s : Threads) : Threads :=
  { s with frames := handler :: s.frames }

/-- A frame of the main thread holds the lock. -/
def Threads.MainHolds (s : Threads) : Prop :=
  ∃ depth, s.owner = some (.frame depth)

/-- The innermost frame waits for the lock while an interrupted frame below it holds it. -/
def Threads.SelfDeadlocked (s : Threads) : Prop :=
  ∃ rest below depth, s.frames = (.acquire :: rest) :: below ∧ s.owner = some (.frame depth) ∧
    depth < below.length

/-- One step, with signals at any point where `allowed` holds. -/
inductive Threads.Step (allowed : Threads → Prop) : Threads → Threads → Prop
  | run (s t : Threads) (h : Runs s t) : Step allowed s t
  | signal (s : Threads) (h : allowed s) : Step allowed s s.interrupted

/-- The start of a guardian with any main program and any other threads. -/
def Threads.start (main : List Statement) (others : Nat → List Statement) : Threads where
  frames := [compile main]
  others j := compile (others j)

/-- The states of runs in which signals are delivered at allowed points. -/
def Threads.Reachable (allowed : Threads → Prop) (main : List Statement)
    (others : Nat → List Statement) (s : Threads) : Prop :=
  Relation.ReflTransGen (Step allowed) (start main others) s

/-! ## Balanced instructions -/

/-- The instructions acquire and release the lock in turn, and end without it. -/
def Balanced : Bool → List Instr → Prop
  | held, [] => held = false
  | held, .plain :: rest => Balanced held rest
  | held, .acquire :: rest => held = false ∧ Balanced true rest
  | held, .release :: rest => held = true ∧ Balanced false rest

theorem balanced_append {xs ys : List Instr} (hys : Balanced false ys) :
    ∀ held, Balanced held xs → Balanced held (xs ++ ys) := by
  induction xs with
  | nil =>
      intro held h
      obtain rfl : held = false := h
      exact hys
  | cons x xs ih =>
      intro held h
      cases x with
      | plain => exact ih held h
      | acquire => exact ⟨h.1, ih true h.2⟩
      | release => exact ⟨h.1, ih false h.2⟩

theorem balanced_plain (n : Nat) {rest : List Instr} {held : Bool} (h : Balanced held rest) :
    Balanced held (List.replicate n .plain ++ rest) := by
  induction n with
  | zero => exact h
  | succ n ih => exact ih

theorem balanced_instrs (s : Statement) : Balanced false s.instrs := by
  cases s with
  | other => rfl
  | call m => exact ⟨rfl, balanced_plain m.statements ⟨rfl, rfl⟩⟩

theorem balanced_compile (body : List Statement) : Balanced false (compile body) := by
  induction body with
  | nil => rfl
  | cons s body ih => exact balanced_append ih false (balanced_instrs s)

/-! ## Cautious runs -/

/-- Signals are delivered only while no frame of the main thread holds the lock. -/
def Cautious (s : Threads) : Prop :=
  ¬ s.MainHolds

/-- The invariant of cautious runs: only the innermost frame may hold the lock, and what is left of
every frame and thread acquires and releases it in turn. -/
structure Orderly (s : Threads) : Prop where
  top : ∃ frame below, s.frames = frame :: below ∧
    Balanced (decide (s.owner = some (.frame below.length))) frame ∧
    (∀ depth, s.owner = some (.frame depth) → depth = below.length) ∧
    ∀ f ∈ below, Balanced false f
  others : ∀ j, Balanced (decide (s.owner = some (.thread j))) (s.others j)

theorem orderly_start (main : List Statement) (others : Nat → List Statement) :
    Orderly (Threads.start main others) where
  top := ⟨compile main, [], rfl, by simpa [Threads.start] using balanced_compile main,
    fun _ h => absurd h (by simp [Threads.start]), by simp⟩
  others j := by simpa [Threads.start] using balanced_compile (others j)

/-- An instruction of one owner leaves the others as they were. -/
theorem Instr.Acts.foreign {self : Owner} (other : Owner) {i : Instr} {before after : Option Owner}
    {rest : List Instr} (h : i.Acts self before after) (hne : other ≠ self)
    (hbalanced : Balanced (decide (before = some self)) (i :: rest)) :
    after = some other ↔ before = some other := by
  cases h with
  | plain => exact Iff.rfl
  | acquire => exact iff_of_false (fun heq => hne (Option.some.inj heq).symm) (by simp)
  | release =>
      have hheld : before = some self := of_decide_eq_true hbalanced.1
      refine iff_of_false (by simp) fun heq => ?_
      exact hne (Option.some.inj (heq.symm.trans hheld))

/-- What is left of the acting thread stays balanced. -/
theorem Instr.Acts.balanced {self : Owner} {i : Instr} {before after : Option Owner}
    {rest : List Instr} (h : i.Acts self before after)
    (hbalanced : Balanced (decide (before = some self)) (i :: rest)) :
    Balanced (decide (after = some self)) rest := by
  cases h with
  | plain => exact hbalanced
  | acquire =>
      rw [decide_eq_true rfl]
      exact hbalanced.2
  | release =>
      rw [decide_eq_false (by simp)]
      exact hbalanced.2

theorem Orderly.runs {s t : Threads} (h : Orderly s) (hstep : Threads.Runs s t) : Orderly t := by
  obtain ⟨frame, below, hframes, htop, howner, hbelow⟩ := h.top
  cases hstep with
  | main i rest below' owner hs hacts =>
      rw [hframes] at hs
      obtain ⟨rfl, rfl⟩ := List.cons.inj hs
      refine ⟨⟨rest, below, rfl, hacts.balanced htop, fun depth hdepth => ?_, hbelow⟩, fun j => ?_⟩
      · by_contra hne
        have hforeign := hacts.foreign (.frame depth) (by simpa using hne) htop
        exact hne (howner depth (hforeign.1 hdepth))
      · have hforeign := hacts.foreign (.thread j) (by simp) htop
        have hj := h.others j
        simp only [hforeign]
        exact hj
  | back next below' hs =>
      rw [hframes] at hs
      obtain ⟨rfl, rfl⟩ := List.cons.inj hs
      -- a frame that returns does not hold the lock, so no frame does
      have hfree : ∀ depth, s.owner ≠ some (.frame depth) := by
        intro depth hdepth
        have hlast := howner depth hdepth
        subst hlast
        exact absurd htop (by simp [Balanced, hdepth])
      refine ⟨⟨next, below', rfl, ?_, fun depth hdepth => absurd hdepth (hfree depth),
        fun f hf => hbelow f (List.mem_cons_of_mem _ hf)⟩, h.others⟩
      rw [decide_eq_false (hfree _)]
      exact hbelow next List.mem_cons_self
  | other j i rest owner hs hacts =>
      have hj := h.others j
      rw [hs] at hj
      refine ⟨⟨frame, below, hframes, ?_, fun depth hdepth => ?_, hbelow⟩, fun k => ?_⟩
      · have hforeign := hacts.foreign (.frame below.length) (by simp) hj
        simp only [hforeign]
        exact htop
      · exact howner depth ((hacts.foreign (.frame depth) (by simp) hj).1 hdepth)
      · by_cases hk : k = j
        · subst hk
          simp only [↓reduceIte]
          exact hacts.balanced hj
        · have hforeign := hacts.foreign (.thread k) (by simpa using hk) hj
          simp only [hk, ↓reduceIte, hforeign]
          exact h.others k

theorem Orderly.interrupted {s : Threads} (h : Orderly s) (hs : Cautious s) :
    Orderly s.interrupted := by
  obtain ⟨frame, below, hframes, htop, -, hbelow⟩ := h.top
  have hfree : ∀ depth, s.owner ≠ some (.frame depth) := fun depth hdepth => hs ⟨depth, hdepth⟩
  refine ⟨⟨handler, s.frames, rfl, ?_, fun depth hdepth => absurd hdepth (hfree depth), ?_⟩, h.others⟩
  · have hnot : s.interrupted.owner ≠ some (.frame s.frames.length) := hfree _
    rw [decide_eq_false hnot]
    exact balanced_compile _
  · intro f hf
    rw [hframes] at hf
    rcases List.mem_cons.1 hf with rfl | hf
    · rwa [decide_eq_false (hfree _)] at htop
    · exact hbelow f hf

theorem orderly_of_reachable {main : List Statement} {others : Nat → List Statement} {s : Threads}
    (h : Threads.Reachable Cautious main others s) : Orderly s := by
  induction h with
  | refl => exact orderly_start main others
  | tail _ hstep ih =>
      cases hstep with
      | run _ hruns => exact ih.runs hruns
      | signal hallowed => exact ih.interrupted hallowed

/-- A thread that waits does not hold the lock itself. -/
theorem Orderly.not_deadlocked {s : Threads} (h : Orderly s) : ¬ s.SelfDeadlocked := by
  rintro ⟨rest, below', depth, hs, howner, hlt⟩
  obtain ⟨frame, below, hframes, -, hdepth, -⟩ := h.top
  rw [hframes] at hs
  obtain ⟨-, rfl⟩ := List.cons.inj hs
  exact absurd hlt (by simp [hdepth depth howner])

/-! ## The handler -/

/-- The handler up to its call of `set`: the lock is as it was. -/
theorem handler_reaches_set (s : Threads) :
    Relation.ReflTransGen Threads.Runs s.interrupted
      { s with frames := Method.set.instrs :: s.frames } := by
  refine .head (.main _ .plain _ s.frames s.owner rfl (.plain _)) ?_
  exact .single (.main _ .plain _ s.frames s.owner rfl (.plain _))

/-- At any point of a cautious run, whatever the main program and the other threads: the states so far
have no self-deadlock, and the handler can come to wait for an interrupted frame if a signal is
delivered here exactly when a frame of the main thread holds the lock. -/
theorem self_deadlock_iff {main : List Statement} {others : Nat → List Statement} {s : Threads}
    (h : Threads.Reachable Cautious main others s) :
    ¬ s.SelfDeadlocked ∧
      ((∃ t, Relation.ReflTransGen Threads.Runs s.interrupted t ∧ t.SelfDeadlocked) ↔
        s.MainHolds) := by
  have horderly := orderly_of_reachable h
  refine ⟨horderly.not_deadlocked, ?_, ?_⟩
  · rintro ⟨t, hruns, hdeadlocked⟩
    by_contra hs
    -- where the main thread held no lock, the handler finds orderly frames and keeps them so
    have ht : Orderly t := by
      clear hdeadlocked
      induction hruns with
      | refl => exact horderly.interrupted hs
      | tail _ hstep ih => exact ih.runs hstep
    exact ht.not_deadlocked hdeadlocked
  · rintro ⟨depth, howner⟩
    -- the handler reaches `set`, which waits for the lock that the interrupted frame holds
    obtain ⟨frame, below, hframes, -, hdepth, -⟩ := horderly.top
    refine ⟨_, handler_reaches_set s, _, s.frames, depth, rfl, howner, ?_⟩
    rw [hframes, hdepth depth howner]
    exact Nat.lt_succ_self _

/-- A guardian that is about to publish its first state. -/
def publishing : Threads :=
  Threads.start [.call .set] fun _ => []

/-- The same guardian inside `set`, with the lock. -/
def insideSet : Threads :=
  { publishing with frames := [Method.set.instrs.tail], owner := some (.frame 0) }

theorem insideSet_reachable (allowed : Threads → Prop) :
    Threads.Reachable allowed [.call .set] (fun _ => []) insideSet :=
  .single (.run _ _ (.main publishing .acquire _ [] (some (.frame 0)) rfl .acquire))

theorem self_deadlock_iff_insideSet : ¬ insideSet.SelfDeadlocked ∧
    ∃ t, Relation.ReflTransGen Threads.Runs insideSet.interrupted t ∧ t.SelfDeadlocked := by
  obtain ⟨hnot, hiff⟩ := self_deadlock_iff (insideSet_reachable Cautious)
  exact ⟨hnot, hiff.2 ⟨0, rfl⟩⟩

/-- With signals at any point, a handler waits for the frame that it interrupted. -/
theorem handler_waits_for_its_frame :
    ¬ ∀ (main : List Statement) (others : Nat → List Statement) (s : Threads),
      Threads.Reachable (fun _ => True) main others s → ¬ s.SelfDeadlocked := by
  intro hall
  have hsignal := (insideSet_reachable fun _ => True).tail (.signal insideSet trivial)
  have hlift : Relation.ReflTransGen (Threads.Step fun _ => True) insideSet.interrupted
      { insideSet with frames := Method.set.instrs :: insideSet.frames } :=
    Relation.ReflTransGen.mono (fun s t h => Threads.Step.run s t h) _ _
      (handler_reaches_set insideSet)
  refine hall _ _ _ (hsignal.trans hlift) ?_
  exact ⟨_, insideSet.frames, 0, rfl, rfl, by simp [insideSet]⟩

end StorageNode.Health
