import StorageNode.Text.Fields

/-!
# Generation numbers

`GenerationFactory` of `generation` and the part of `_begin_generation` that tells the history which
number a generation has. A number is taken from a counter file, which is replaced as a whole; a
replacement is certain to last only when the directory has been synchronised.

When creation fails, the guardian records the number that was allocated last. The field behind it
outlives the call, so that a failure before the allocation records an earlier number again. The numbers
of a run increase exactly when this does not happen (`recorded_numbers_increase_iff`).
-/

set_option autoImplicit false

namespace StorageNode.GenerationFactory

open StorageNode.Text

/-! ## The counter file -/

/-- `f"{next_value}\n"`. -/
def counterText (n : Nat) : Text := Nat.toDigits 10 n ++ ['\n']

/-- The number in the counter file, zero where there is no file and where `int` raises a `ValueError`.
Other spellings that `int` accepts do not occur in a file that the factory has written. -/
def readCounter : Option Text → Nat
  | none => 0
  | some text =>
    let digits := strip text
    if digits ≠ [] ∧ digits.all Char.isDigit then Nat.ofDigitChars 10 digits 0 else 0

/-- What a read of the counter file finds, and what a read may find once the machine has failed. -/
structure Counter where
  content : Option Text
  survivors : List (Option Text)
  content_survives : content ∈ survivors

namespace Counter

/-- `temporary.replace(self.counter_path)`. -/
def replace (c : Counter) (text : Text) : Counter :=
  ⟨some text, some text :: c.survivors, List.mem_cons_self⟩

/-- `os.fsync` of the directory. -/
def sync (c : Counter) : Counter :=
  ⟨c.content, [c.content], List.mem_singleton_self _⟩

/-- The machine fails, and one of the contents that could survive is found. -/
def fail (c : Counter) (survivor : Nat) : Counter :=
  let found := (c.survivors[survivor]?).getD c.content
  ⟨found, [found], List.mem_singleton_self _⟩

/-- The file with the next number, not yet synchronised. -/
def advance (c : Counter) : Counter :=
  c.replace (counterText (readCounter c.content + 1))

end Counter

/-! ## The factory -/

/-- The places where creating a generation can fail. -/
inductive Step where
  | makeStateDirectory
  | readCounterFile
  | writeTemporary
  | replaceCounter
  | openDirectory
  | syncDirectory
  | closeDirectory
  | buildGeneration
  | makeRuntimeDirectory
  | startGeneration
  deriving DecidableEq

/-- The steps of `_next_generation`. -/
def allocationSteps : List Step :=
  [.makeStateDirectory, .readCounterFile, .writeTemporary, .replaceCounter, .openDirectory,
    .syncDirectory, .closeDirectory]

/-- `GenerationFactory`. -/
structure Factory where
  counter : Counter
  lastAllocated : Nat

section

variable (fails : Step → Bool)

/-- `_next_generation`, which returns no number where it raises. -/
def nextGeneration (c : Counter) : Option Nat × Counter :=
  if fails .makeStateDirectory || fails .readCounterFile then (none, c)
  else if fails .writeTemporary || fails .replaceCounter then (none, c)
  else if fails .openDirectory || fails .syncDirectory then (none, c.advance)
  else if fails .closeDirectory then (none, c.advance.sync)
  else (some (readCounter c.content + 1), c.advance.sync)

/-- `create`. -/
def create (f : Factory) : Option Nat × Factory :=
  match nextGeneration fails f.counter with
  | (none, counter) => (none, { f with counter := counter })
  | (some generation, counter) =>
    let f := { counter := counter, lastAllocated := generation }
    if fails .buildGeneration || fails .makeRuntimeDirectory || fails .startGeneration then (none, f)
    else (some generation, f)

end

/-! ## The guardian -/

/-- A call of `GenerationHistory.start`, with the counter file as it was then. -/
structure Recorded where
  number : Nat
  counter : Counter

/-- The factory of the running process, and the calls of all processes, the latest first. -/
structure World where
  factory : Factory
  recorded : List Recorded

/-- `_begin_generation`, from the creation on. The number of a failed creation is the one that was
allocated last. -/
def beginGeneration (fails : Step → Bool) (w : World) : World :=
  let (created, factory) := create fails w.factory
  let number := match created with
    | some generation => some generation
    | none => if 0 < factory.lastAllocated then some factory.lastAllocated else none
  { factory := factory
    recorded := (number.map fun n => Recorded.mk n factory.counter).toList ++ w.recorded }

/-- How far a process got with the counter file when it was cut off. -/
inductive Progress where
  | untouched
  | replaced
  | synchronised
  deriving DecidableEq

/-- What happens in a run. -/
inductive Event where
  | begin (fails : Step → Bool)
  /-- The guardian dies and a new process starts. With a survivor, the machine has failed too. -/
  | cutOff (progress : Progress) (survivor : Option Nat)

def Progress.counter : Progress → Counter → Counter
  | .untouched, c => c
  | .replaced, c => c.advance
  | .synchronised, c => c.advance.sync

def Event.apply : Event → World → World
  | .begin fails, w => beginGeneration fails w
  | .cutOff progress survivor, w =>
    let counter := progress.counter w.factory.counter
    let counter := match survivor with
      | none => counter
      | some survivor => counter.fail survivor
    { w with factory := { counter := counter, lastAllocated := 0 } }

/-- A world without a counter file. -/
def World.fresh : World where
  factory := ⟨⟨none, [none], List.mem_singleton_self _⟩, 0⟩
  recorded := []

/-- A run. -/
def World.run (w : World) : List Event → World
  | [] => w
  | event :: events => (event.apply w).run events

/-- The recorded numbers increase, and each was in the counter file for good when it was used. -/
structure Increasing (recorded : List Recorded) : Prop where
  increase : recorded.Pairwise fun later earlier => earlier.number < later.number
  durable : ∀ r ∈ recorded, r.counter.survivors = [some (counterText r.number)]

/-- No step of an allocation fails in a process that has allocated a number before. -/
def Event.Harmless : Event → World → Prop
  | .begin fails, w => w.factory.lastAllocated = 0 ∨ ∀ step ∈ allocationSteps, fails step = false
  | .cutOff _ _, _ => True

def AllHarmless : List Event → World → Prop
  | [], _ => True
  | event :: events, w => event.Harmless w ∧ AllHarmless events (event.apply w)

/-! ## Allocation -/

theorem isSpace_of_isDigit {c : Char} (h : c.isDigit = true) : isSpace c = false := by
  have hbounds : 48 ≤ c.toNat ∧ c.toNat ≤ 57 := by
    simpa [Char.isDigit, UInt32.le_iff_toNat_le] using h
  simp only [isSpace, List.mem_cons, List.not_mem_nil, or_false, Bool.or_eq_false_iff,
    Bool.and_eq_false_iff, decide_eq_false_iff_not]
  omega

theorem isWord_toDigits (n : Nat) : IsWord (Nat.toDigits 10 n) := by
  refine ⟨Nat.toDigits_ne_nil, ?_⟩
  intro c hc
  exact isSpace_of_isDigit (Nat.isDigit_of_mem_toDigits (by omega) (by omega) hc)

/-- The line feed behind a word is stripped. -/
theorem strip_line {w : Text} (h : IsWord w) : strip (w ++ ['\n']) = w := by
  have hdrop : (w ++ ['\n']).dropWhile isSpace = w ++ ['\n'] := by
    obtain ⟨c, rest, rfl⟩ := List.exists_cons_of_ne_nil h.1
    have hc := h.2 c List.mem_cons_self
    rw [List.cons_append, List.dropWhile_cons_of_neg (by simp [hc])]
  rw [strip, hdrop, List.rdropWhile_concat_pos _ _ _ (by decide), List.rdropWhile_eq_self_iff]
  intro hne
  simp [h.2 _ (List.getLast_mem hne)]

/-- A read finds the number that was written. -/
theorem readCounter_counterText (n : Nat) : readCounter (some (counterText n)) = n := by
  have hword := isWord_toDigits n
  have hdigits : (Nat.toDigits 10 n).all Char.isDigit = true := by
    rw [List.all_eq_true]
    intro c hc
    exact Nat.isDigit_of_mem_toDigits (by omega) (by omega) hc
  rw [readCounter, counterText, strip_line hword, if_pos ⟨hword.1, hdigits⟩,
    Nat.ofDigitChars_ten_toDigits]

/-- No content that may be found after a failure is below a number. -/
def Counter.AtLeast (c : Counter) (n : Nat) : Prop :=
  ∀ content ∈ c.survivors, n ≤ readCounter content

section

variable {c : Counter} {n : Nat}

theorem Counter.AtLeast.advance (h : c.AtLeast n) : c.advance.AtLeast n := by
  intro content hcontent
  obtain rfl | hcontent := List.mem_cons.mp hcontent
  · rw [readCounter_counterText]
    exact Nat.le_succ_of_le (h _ c.content_survives)
  · exact h content hcontent

theorem Counter.AtLeast.sync (h : c.AtLeast n) : c.sync.AtLeast n := by
  intro content hcontent
  rw [List.mem_singleton.mp hcontent]
  exact h _ c.content_survives

theorem Counter.AtLeast.fail (h : c.AtLeast n) (survivor : Nat) : (c.fail survivor).AtLeast n := by
  intro content hcontent
  rw [List.mem_singleton.mp hcontent]
  cases hfound : c.survivors[survivor]? with
  | none => exact h _ c.content_survives
  | some found => exact h found (List.mem_of_getElem? hfound)

theorem Progress.atLeast (progress : Progress) (h : c.AtLeast n) :
    (progress.counter c).AtLeast n := by
  cases progress with
  | untouched => exact h
  | replaced => exact h.advance
  | synchronised => exact h.advance.sync

/-- The next number is durable once it is returned. -/
theorem advance_sync_survivors (c : Counter) :
    c.advance.sync.survivors = [some (counterText (readCounter c.content + 1))] := rfl

variable {fails : Step → Bool}

theorem nextGeneration_returns (h : ∀ step ∈ allocationSteps, fails step = false) (c : Counter) :
    nextGeneration fails c = (some (readCounter c.content + 1), c.advance.sync) := by
  simp only [allocationSteps, List.forall_mem_cons, List.not_mem_nil, false_implies, implies_true,
    and_true] at h
  obtain ⟨h₁, h₂, h₃, h₄, h₅, h₆, h₇⟩ := h
  simp [nextGeneration, h₁, h₂, h₃, h₄, h₅, h₆, h₇]

/-- An allocation that fails leaves the file at one of its stages. -/
theorem nextGeneration_raises (h : ¬ ∀ step ∈ allocationSteps, fails step = false) (c : Counter) :
    ∃ progress : Progress, nextGeneration fails c = (none, progress.counter c) := by
  rw [nextGeneration]
  split
  · exact ⟨.untouched, rfl⟩
  · split
    · exact ⟨.untouched, rfl⟩
    · split
      · exact ⟨.replaced, rfl⟩
      · split
        · exact ⟨.synchronised, rfl⟩
        · rename_i h₁ h₂ h₃ h₄
          simp only [Bool.or_eq_true, not_or, Bool.not_eq_true] at h₁ h₂ h₃ h₄
          refine absurd ?_ h
          simp [allocationSteps, h₁, h₂, h₃, h₄]

end

/-! ## Runs -/

/-- What holds in every run: the counter file is never below a recorded number, and the number that the
running process has allocated last is recorded. -/
structure World.Numbered (w : World) : Prop where
  atLeast : ∀ r ∈ w.recorded, w.factory.counter.AtLeast r.number
  last : 0 < w.factory.lastAllocated → ∃ r ∈ w.recorded, r.number = w.factory.lastAllocated

section

variable {w : World} {fails : Step → Bool}

/-- A number is allocated, whether or not the generation comes up, and recorded. -/
theorem beginGeneration_allocates (h : ∀ step ∈ allocationSteps, fails step = false) :
    beginGeneration fails w =
      { factory := ⟨w.factory.counter.advance.sync, readCounter w.factory.counter.content + 1⟩
        recorded := ⟨readCounter w.factory.counter.content + 1, w.factory.counter.advance.sync⟩ ::
          w.recorded } := by
  rw [beginGeneration, create, nextGeneration_returns h]
  by_cases hfails : (fails .buildGeneration || fails .makeRuntimeDirectory ||
      fails .startGeneration) = true
  · simp [hfails]
  · simp [hfails]

/-- Without an allocation the last number is recorded again. -/
theorem beginGeneration_repeats (h : ¬ ∀ step ∈ allocationSteps, fails step = false) :
    ∃ progress : Progress,
      (beginGeneration fails w).factory =
        ⟨progress.counter w.factory.counter, w.factory.lastAllocated⟩ ∧
      (beginGeneration fails w).recorded =
        if 0 < w.factory.lastAllocated then
          ⟨w.factory.lastAllocated, progress.counter w.factory.counter⟩ :: w.recorded
        else w.recorded := by
  obtain ⟨progress, hnext⟩ := nextGeneration_raises h w.factory.counter
  refine ⟨progress, ?_, ?_⟩
  · rw [beginGeneration, create, hnext]
  · rw [beginGeneration, create, hnext]
    by_cases hlast : 0 < w.factory.lastAllocated
    · simp [hlast]
    · simp [hlast]

theorem World.Numbered.begin (h : w.Numbered) : (beginGeneration fails w).Numbered := by
  by_cases hsteps : ∀ step ∈ allocationSteps, fails step = false
  · rw [beginGeneration_allocates hsteps]
    refine ⟨?_, fun _ => ⟨_, List.mem_cons_self, rfl⟩⟩
    intro r hr
    obtain rfl | hr := List.mem_cons.mp hr
    · intro content hcontent
      rw [advance_sync_survivors, List.mem_singleton] at hcontent
      rw [hcontent, readCounter_counterText]
    · exact (h.atLeast r hr).advance.sync
  · obtain ⟨progress, hfactory, hrecorded⟩ := beginGeneration_repeats (w := w) hsteps
    refine ⟨?_, ?_⟩
    · rw [hfactory, hrecorded]
      intro r hr
      split at hr
      · rename_i hlast
        obtain rfl | hr := List.mem_cons.mp hr
        · obtain ⟨earlier, hearlier, hnumber⟩ := h.last hlast
          rw [← hnumber]
          exact progress.atLeast (h.atLeast earlier hearlier)
        · exact progress.atLeast (h.atLeast r hr)
      · exact progress.atLeast (h.atLeast r hr)
    · rw [hfactory, hrecorded]
      intro hlast
      rw [if_pos hlast]
      exact ⟨_, List.mem_cons_self, rfl⟩

theorem World.Numbered.apply (h : w.Numbered) (event : Event) : (event.apply w).Numbered := by
  cases event with
  | begin fails => exact h.begin
  | cutOff progress survivor =>
    refine ⟨?_, fun hlast => absurd hlast (Nat.lt_irrefl 0)⟩
    intro r hr
    have hprogress := progress.atLeast (h.atLeast r hr)
    cases survivor with
    | none => exact hprogress
    | some survivor => exact hprogress.fail survivor

theorem Increasing.of_cons {r : Recorded} {recorded : List Recorded} (h : Increasing (r :: recorded)) :
    Increasing recorded :=
  ⟨h.increase.of_cons, fun r' hr' => h.durable r' (List.mem_cons_of_mem _ hr')⟩

/-- One event keeps the numbers increasing exactly when it is harmless. -/
theorem increasing_apply (h : w.Numbered) (event : Event) :
    Increasing (event.apply w).recorded ↔ Increasing w.recorded ∧ event.Harmless w := by
  cases event with
  | cutOff progress survivor => exact (and_iff_left trivial).symm
  | begin fails =>
    -- only a generation whose allocation failed may repeat a number
    by_cases hsteps : ∀ step ∈ allocationSteps, fails step = false
    · change Increasing (beginGeneration fails w).recorded ↔ _
      rw [beginGeneration_allocates hsteps]
      constructor
      · exact fun hnew => ⟨hnew.of_cons, .inr hsteps⟩
      · rintro ⟨hold, -⟩
        refine ⟨List.pairwise_cons.mpr ⟨?_, hold.increase⟩, ?_⟩
        · -- the file was not below any earlier number, and the new number is above it
          intro r hr
          exact Nat.lt_succ_of_le (h.atLeast r hr _ w.factory.counter.content_survives)
        · intro r hr
          obtain rfl | hr := List.mem_cons.mp hr
          · rfl
          · exact hold.durable r hr
    · obtain ⟨progress, -, hrecorded⟩ := beginGeneration_repeats (w := w) hsteps
      change Increasing (beginGeneration fails w).recorded ↔ _
      rw [hrecorded]
      -- it repeats the last number of this process, when there is one
      by_cases hlast : 0 < w.factory.lastAllocated
      · rw [if_pos hlast]
        apply iff_of_false
        · intro hnew
          -- that number was recorded before, so the numbers no longer increase
          obtain ⟨r, hr, hnumber⟩ := h.last hlast
          have hlt := (List.pairwise_cons.mp hnew.increase).1 r hr
          exact absurd hlt (hnumber ▸ Nat.lt_irrefl _)
        · rintro ⟨-, hzero | hnone⟩
          · omega
          · exact hsteps hnone
      · rw [if_neg hlast]
        exact (and_iff_left (.inl (by omega))).symm

theorem increasing_run (h : w.Numbered) (events : List Event) :
    Increasing (w.run events).recorded ↔ Increasing w.recorded ∧ AllHarmless events w := by
  induction events generalizing w with
  | nil => exact (and_iff_left trivial).symm
  | cons event events ih =>
    rw [World.run, ih (h.apply event), increasing_apply h event, AllHarmless, and_assoc]

end

/-- In a run from an empty state directory, the recorded numbers increase and are durable exactly when no
allocation fails in a process that has allocated a number before. -/
theorem recorded_numbers_increase_iff (events : List Event) :
    Increasing (World.fresh.run events).recorded ↔ AllHarmless events .fresh := by
  have hnumbered : World.fresh.Numbered := by
    refine ⟨fun r hr => absurd hr List.not_mem_nil, fun hlast => absurd hlast (Nat.lt_irrefl 0)⟩
  have hempty : Increasing World.fresh.recorded :=
    ⟨List.Pairwise.nil, fun r hr => absurd hr List.not_mem_nil⟩
  rw [increasing_run hnumbered, and_iff_right hempty]

/-- One generation comes up, and the temporary file of the next number cannot be written. -/
def fullDisk : List Event :=
  [.begin fun _ => false, .begin fun step => decide (step = .writeTemporary)]

/-- The failed creation is recorded under the number of the generation before it. -/
theorem full_disk_repeats_number :
    (World.fresh.run fullDisk).recorded.map Recorded.number = [1, 1] ∧
      ¬ Increasing (World.fresh.run fullDisk).recorded := by
  have hnumbers : (World.fresh.run fullDisk).recorded.map Recorded.number = [1, 1] := rfl
  refine ⟨hnumbers, ?_⟩
  intro h
  have hpairs : [1, 1].Pairwise fun later earlier : Nat => earlier < later := by
    rw [← hnumbers]
    exact List.pairwise_map.mpr h.increase
  revert hpairs
  decide

end StorageNode.GenerationFactory
