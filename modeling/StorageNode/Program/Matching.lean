import Mathlib.Data.Finset.Card
import Mathlib.Data.Finset.Range

/-!
# Matching needs with earlier supplies

Along a history, each moment may need a permission and each moment may supply one. When up to every
moment there were at least as many supplies as needs, every need can be given an earlier supply of
its own.
-/

set_option autoImplicit false

namespace StorageNode.Program

section

variable (needs supplies : Nat → Prop) [DecidablePred needs] [DecidablePred supplies]

/-- The moments before `n` that satisfy a condition. -/
def momentsBefore (p : Nat → Prop) [DecidablePred p] (n : Nat) : Finset Nat :=
  (Finset.range n).filter p

@[simp] theorem mem_momentsBefore {p : Nat → Prop} [DecidablePred p] {n i : Nat} :
    i ∈ momentsBefore p n ↔ i < n ∧ p i := by
  simp [momentsBefore]

theorem momentsBefore_succ (p : Nat → Prop) [DecidablePred p] (n : Nat) :
    momentsBefore p (n + 1) = if p n then insert n (momentsBefore p n) else momentsBefore p n := by
  rw [momentsBefore, Finset.range_add_one, Finset.filter_insert]
  rfl

theorem card_momentsBefore_succ (p : Nat → Prop) [DecidablePred p] (n : Nat) :
    (momentsBefore p (n + 1)).card = (momentsBefore p n).card + if p n then 1 else 0 := by
  rw [momentsBefore_succ]
  split
  · exact Finset.card_insert_of_notMem (by simp)
  · rfl

variable {needs supplies}

/-- Every need before `n` gets an earlier supply, and no supply is used twice. -/
theorem exists_matching (hdisjoint : ∀ i, needs i → ¬ supplies i) (n : Nat)
    (hcount : ∀ k ≤ n, (momentsBefore needs k).card ≤ (momentsBefore supplies k).card) :
    ∃ f : Nat → Nat, (∀ i, i < n → needs i → f i < i ∧ supplies (f i)) ∧
      ∀ i j, i < n → j < n → needs i → needs j → f i = f j → i = j := by
  -- the induction is on the moment; each need takes a supply that no earlier need took
  induction n with
  | zero => exact ⟨id, by simp, by simp⟩
  | succ n ih =>
      obtain ⟨f, hf, hinj⟩ := ih fun k hk => hcount k (Nat.le_succ_of_le hk)
      by_cases hn : needs n
      · -- one supply before `n` is not used yet
        have hused : ((momentsBefore needs n).image f).card < (momentsBefore supplies n).card := by
          have hle := hcount (n + 1) (Nat.le_refl _)
          rw [card_momentsBefore_succ, card_momentsBefore_succ, if_pos hn,
            if_neg (hdisjoint n hn)] at hle
          exact Nat.lt_of_le_of_lt Finset.card_image_le hle
        obtain ⟨g, hg, hfresh⟩ := Finset.exists_mem_notMem_of_card_lt_card hused
        have hne : ∀ i, i < n → needs i → f i ≠ g := fun i hi hneed heq =>
          hfresh (Finset.mem_image.2 ⟨i, mem_momentsBefore.2 ⟨hi, hneed⟩, heq⟩)
        refine ⟨Function.update f n g, fun i hi hneed => ?_, fun i j hi hj hneed hneed' heq => ?_⟩
        · rcases Nat.lt_succ_iff_lt_or_eq.1 hi with hi | rfl
          · rw [Function.update_of_ne (Nat.ne_of_lt hi)]
            exact hf i hi hneed
          · rw [Function.update_self]
            exact mem_momentsBefore.1 hg
        -- two needs with one supply: the new one took a fresh supply, so both are old
        · rcases Nat.lt_succ_iff_lt_or_eq.1 hi with hi | rfl <;>
            rcases Nat.lt_succ_iff_lt_or_eq.1 hj with hj | rfl
          · rw [Function.update_of_ne (Nat.ne_of_lt hi), Function.update_of_ne (Nat.ne_of_lt hj)] at heq
            exact hinj i j hi hj hneed hneed' heq
          · rw [Function.update_of_ne (Nat.ne_of_lt hi), Function.update_self] at heq
            exact absurd heq (hne i hi hneed)
          · rw [Function.update_of_ne (Nat.ne_of_lt hj), Function.update_self] at heq
            exact absurd heq.symm (hne j hj hneed')
          · rfl
      -- without a need at `n` the old matching is kept
      · have hlt : ∀ i, i < n + 1 → needs i → i < n := by
          intro i hi hneed
          rcases Nat.lt_succ_iff_lt_or_eq.1 hi with hi | rfl
          · exact hi
          · exact absurd hneed hn
        exact ⟨f, fun i hi hneed => hf i (hlt i hi hneed) hneed, fun i j hi hj hneed hneed' =>
          hinj i j (hlt i hi hneed) (hlt j hj hneed') hneed hneed'⟩

end

end StorageNode.Program
