import StorageNode.Json.Reader
import Mathlib.Data.Option.Basic

/-!
# The fuel of the reader

The scanner never uses up the fuel that `loads` gives it: any two amounts that cover a text give the same
result (`loads_eq_of_le`). What is left of a text behind a value is never longer than the text.
-/

set_option autoImplicit false

namespace StorageNode.Json

open StorageNode.Text

variable {ft : FloatText} {t rest : Text} {v : Value}

/-! ## What is left of a text -/

theorem skipBlanks_length (t : Text) : (skipBlanks t).length ≤ t.length :=
  (List.dropWhile_sublist _).length_le

theorem scanUnit_length {n : Nat} (h : scanUnit t = some (n, rest)) : rest.length ≤ t.length := by
  unfold scanUnit at h
  split at h
  · split at h
    · obtain ⟨-, rfl⟩ := Prod.mk.inj (Option.some.inj h)
      simp only [List.length_cons]
      omega
    · cases h
  · cases h

theorem scanUnicode_length {c : Char} (h : scanUnicode t = some (c, rest)) :
    rest.length ≤ t.length := by
  unfold scanUnicode at h
  split at h
  · cases h
  · rename_i n behindUnit hunit
    have hlength := scanUnit_length hunit
    split at h
    · split at h
      · split at h
        · cases h
        · rename_i rest' m rest'' hlow
          have hlength' := scanUnit_length hlow
          split at h
          · obtain ⟨-, rfl⟩ := Prod.mk.inj (Option.some.inj h)
            simp only [List.length_cons] at hlength
            omega
          · cases h
      · cases h
    · obtain ⟨-, rfl⟩ := Prod.mk.inj (Option.some.inj h)
      exact hlength

theorem scanEscape_length {c : Char} (h : scanEscape t = some (c, rest)) : rest.length ≤ t.length := by
  cases t with
  | nil => cases h
  | cons d t =>
    rw [List.length_cons]
    simp only [scanEscape] at h
    split at h
    · have := scanUnicode_length h
      omega
    · repeat' (first | split at h | (obtain ⟨-, rfl⟩ := Prod.mk.inj (Option.some.inj h); omega) | cases h)

theorem scanString_length {fuel : Nat} {s : Text} (h : scanString fuel t = some (s, rest)) :
    rest.length ≤ t.length := by
  induction fuel generalizing t s with
  | zero => cases h
  | succ fuel ih =>
    cases t with
    | nil => cases h
    | cons c t =>
      rw [List.length_cons]
      simp only [scanString] at h
      split at h
      · obtain ⟨-, rfl⟩ := Prod.mk.inj (Option.some.inj h)
        omega
      · split at h
        · obtain ⟨⟨d, t'⟩, hescape, hrest⟩ := Option.bind_eq_some_iff.mp h
          obtain ⟨⟨s', rest'⟩, hscan, hpair⟩ := Option.map_eq_some_iff.mp hrest
          obtain ⟨-, rfl⟩ := Prod.mk.inj hpair
          have hlength : t'.length ≤ t.length := scanEscape_length hescape
          have hrest' : rest'.length ≤ t'.length := ih hscan
          exact Nat.le_succ_of_le (Nat.le_trans hrest' hlength)
        · split at h
          · cases h
          · obtain ⟨⟨s', rest'⟩, hscan, hpair⟩ := Option.map_eq_some_iff.mp h
            obtain ⟨-, rfl⟩ := Prod.mk.inj hpair
            have := ih hscan
            omega

theorem scanDigits_length (t : Text) : (scanDigits t).2.length ≤ t.length := by
  rw [scanDigits, List.span_eq_takeWhile_dropWhile]
  exact (List.dropWhile_sublist _).length_le

theorem scanNatural_length {digits : Text} (h : scanNatural t = some (digits, rest)) :
    rest.length ≤ t.length := by
  unfold scanNatural at h
  split at h
  · obtain ⟨-, rfl⟩ := Prod.mk.inj (Option.some.inj h)
    simp
  · split at h
    · cases h
    · obtain rfl : (scanDigits t).2 = rest := congrArg Prod.snd (Option.some.inj h)
      exact scanDigits_length t

theorem scanInteger_length {integer : Text} (h : scanInteger t = some (integer, rest)) :
    rest.length ≤ t.length := by
  unfold scanInteger at h
  split at h
  · obtain ⟨⟨digits, rest'⟩, hscan, hpair⟩ := Option.map_eq_some_iff.mp h
    obtain ⟨-, rfl⟩ := Prod.mk.inj hpair
    exact Nat.le_succ_of_le (scanNatural_length hscan)
  · exact scanNatural_length h

theorem scanFraction_length (t : Text) : (scanFraction t).2.length ≤ t.length := by
  unfold scanFraction
  split
  · rename_i rest
    have := scanDigits_length rest
    split <;> simp only [List.length_cons] <;> omega
  · exact Nat.le_refl _

theorem scanSign_length (t : Text) : (scanSign t).2.length ≤ t.length := by
  unfold scanSign
  split <;> simp

theorem scanExponent_length (t : Text) : (scanExponent t).2.length ≤ t.length := by
  unfold scanExponent
  split
  · exact Nat.le_refl _
  · rename_i c rest
    have := scanSign_length rest
    have := scanDigits_length (scanSign rest).2
    split <;> simp only [List.length_cons] <;> omega

theorem scanNumber_length (h : scanNumber ft t = some (v, rest)) : rest.length ≤ t.length := by
  obtain ⟨⟨integer, behindInteger⟩, hinteger, h⟩ := Option.bind_eq_some_iff.mp h
  have hlength := scanInteger_length hinteger
  have hfraction := scanFraction_length behindInteger
  have hexponent := scanExponent_length (scanFraction behindInteger).2
  obtain rfl : (scanExponent (scanFraction behindInteger).2).2 = rest := by
    dsimp only at h
    split at h
    · obtain ⟨n, -, hpair⟩ := Option.map_eq_some_iff.mp h
      exact (Prod.mk.inj hpair).2
    · exact congrArg Prod.snd (Option.some.inj h)
  omega

theorem behind_length {word : Text} (h : behind word t = some rest) : rest.length ≤ t.length := by
  unfold behind at h
  split at h
  · obtain rfl := Option.some.inj h
    simp
  · cases h

theorem scanPlain_length (h : scanPlain ft t = some (v, rest)) : rest.length ≤ t.length := by
  unfold scanPlain at h
  repeat'
    split at h
    · obtain ⟨-, rfl⟩ := Prod.mk.inj (Option.some.inj h)
      exact behind_length ‹_›
  exact scanNumber_length h

theorem scanColon_length (h : scanColon t = some rest) : rest.length ≤ t.length := by
  unfold scanColon at h
  split at h
  · rename_i rest' hskip
    obtain rfl := Option.some.inj h
    have hcolon : (skipBlanks t).length = rest'.length + 1 := by rw [hskip, List.length_cons]
    have := skipBlanks_length t
    have := skipBlanks_length rest'
    omega
  · cases h

section

variable (ft)

/-- No value, list of items or list of members leaves more than there was. -/
theorem scan_length : ∀ fuel,
    (∀ t v rest, scanValue ft fuel t = some (v, rest) → rest.length ≤ t.length) ∧
    (∀ t vs rest, scanItems ft fuel t = some (vs, rest) → rest.length ≤ t.length) ∧
    (∀ t ms rest, scanMembers ft fuel t = some (ms, rest) → rest.length ≤ t.length) := by
  intro fuel
  induction fuel with
  | zero => exact ⟨fun _ _ _ h => (by cases h), fun _ _ _ h => (by cases h), fun _ _ _ h => (by cases h)⟩
  | succ fuel ih =>
    obtain ⟨hvalue, hitems, hmembers⟩ := ih
    refine ⟨fun t v rest h => ?_, fun t vs rest h => ?_, fun t ms rest h => ?_⟩
    · unfold scanValue at h
      split at h
      · obtain ⟨⟨s, r⟩, hscan, hpair⟩ := Option.map_eq_some_iff.mp h
        obtain ⟨-, rfl⟩ := Prod.mk.inj hpair
        exact Nat.le_succ_of_le (scanString_length hscan)
      · rename_i rest'
        have hskip := skipBlanks_length rest'
        rw [List.length_cons]
        split at h
        · rename_i r hr
          obtain ⟨-, rfl⟩ := Prod.mk.inj (Option.some.inj h)
          rw [hr, List.length_cons] at hskip
          omega
        · obtain ⟨⟨vs, r⟩, hscan, hpair⟩ := Option.map_eq_some_iff.mp h
          obtain ⟨-, rfl⟩ := Prod.mk.inj hpair
          exact Nat.le_succ_of_le (Nat.le_trans (hitems _ _ _ hscan) hskip)
      · rename_i rest'
        have hskip := skipBlanks_length rest'
        rw [List.length_cons]
        split at h
        · rename_i r hr
          obtain ⟨-, rfl⟩ := Prod.mk.inj (Option.some.inj h)
          rw [hr, List.length_cons] at hskip
          omega
        · obtain ⟨⟨ms, r⟩, hscan, hpair⟩ := Option.map_eq_some_iff.mp h
          obtain ⟨-, rfl⟩ := Prod.mk.inj hpair
          exact Nat.le_succ_of_le (Nat.le_trans (hmembers _ _ _ hscan) hskip)
      · exact scanPlain_length h
    · unfold scanItems at h
      split at h
      · cases h
      · rename_i v r hscan
        have hfirst := hvalue _ _ _ hscan
        have hskip := skipBlanks_length r
        split at h
        · rename_i r' hr
          obtain ⟨-, rfl⟩ := Prod.mk.inj (Option.some.inj h)
          rw [hr, List.length_cons] at hskip
          omega
        · rename_i r' hr
          obtain ⟨⟨vs', r''⟩, hmore, hpair⟩ := Option.map_eq_some_iff.mp h
          obtain ⟨-, rfl⟩ := Prod.mk.inj hpair
          have hrest : r''.length ≤ (skipBlanks r').length := hitems _ _ _ hmore
          have hskip' := skipBlanks_length r'
          rw [hr, List.length_cons] at hskip
          show r''.length ≤ t.length
          omega
        · cases h
    · unfold scanMembers at h
      split at h
      · rename_i rest'
        split at h
        · cases h
        · rename_i name r hname
          have hstring := scanString_length hname
          split at h
          · cases h
          · rename_i v r₁ hbind
            obtain ⟨r₀, hcolon, hscan⟩ := Option.bind_eq_some_iff.mp hbind
            have hcolon := scanColon_length hcolon
            have hfirst := hvalue _ _ _ hscan
            have hskip := skipBlanks_length r₁
            rw [List.length_cons]
            split at h
            · rename_i r' hr
              obtain ⟨-, rfl⟩ := Prod.mk.inj (Option.some.inj h)
              rw [hr, List.length_cons] at hskip
              omega
            · rename_i r' hr
              obtain ⟨⟨ms', r''⟩, hmore, hpair⟩ := Option.map_eq_some_iff.mp h
              obtain ⟨-, rfl⟩ := Prod.mk.inj hpair
              have hrest : r''.length ≤ (skipBlanks r').length := hmembers _ _ _ hmore
              have hskip' := skipBlanks_length r'
              rw [hr, List.length_cons] at hskip
              show r''.length ≤ rest'.length + 1
              omega
            · cases h
      · cases h

/-! ## Amounts of fuel -/

/-- Two amounts that cover a text give the same result. -/
theorem scan_fuel : ∀ n,
    (∀ m t, 2 * t.length + 1 ≤ n → 2 * t.length + 1 ≤ m → scanValue ft n t = scanValue ft m t) ∧
    (∀ m t, 2 * t.length + 2 ≤ n → 2 * t.length + 2 ≤ m → scanItems ft n t = scanItems ft m t) ∧
    (∀ m t, 2 * t.length + 2 ≤ n → 2 * t.length + 2 ≤ m → scanMembers ft n t = scanMembers ft m t) := by
  intro n
  induction n with
  | zero => exact ⟨fun _ _ hn => by omega, fun _ _ hn => by omega, fun _ _ hn => by omega⟩
  | succ n ih =>
    obtain ⟨hvalue, hitems, hmembers⟩ := ih
    refine ⟨fun m t hn hm => ?_, fun m t hn hm => ?_, fun m t hn hm => ?_⟩
    · obtain ⟨m, rfl⟩ : ∃ k, m = k + 1 := ⟨m - 1, by omega⟩
      unfold scanValue
      split
      · rfl
      · rename_i rest
        have hskip := skipBlanks_length rest
        rw [List.length_cons] at hn hm
        split
        · rfl
        · rw [hitems m _ (by omega) (by omega)]
      · rename_i rest
        have hskip := skipBlanks_length rest
        rw [List.length_cons] at hn hm
        split
        · rfl
        · rw [hmembers m _ (by omega) (by omega)]
      · rfl
    · obtain ⟨m, rfl⟩ : ∃ k, m = k + 1 := ⟨m - 1, by omega⟩
      unfold scanItems
      rw [hvalue m t (by omega) (by omega)]
      split
      · rfl
      · rename_i v r hscan
        have hfirst := (scan_length ft m).1 _ _ _ hscan
        have hskip := skipBlanks_length r
        split
        · rfl
        · rename_i r' hr
          have hskip' := skipBlanks_length r'
          rw [hr, List.length_cons] at hskip
          rw [hitems m _ (by omega) (by omega)]
        · rfl
    · obtain ⟨m, rfl⟩ : ∃ k, m = k + 1 := ⟨m - 1, by omega⟩
      unfold scanMembers
      split
      · rename_i rest
        rw [List.length_cons] at hn hm
        split
        · rfl
        · rename_i name r hname
          have hstring := scanString_length hname
          have hsame : (scanColon r).bind (scanValue ft n) = (scanColon r).bind (scanValue ft m) := by
            cases hcolon : scanColon r with
            | none => rfl
            | some r₀ =>
              have hlength := scanColon_length hcolon
              exact hvalue m r₀ (by omega) (by omega)
          rw [hsame]
          split
          · rfl
          · rename_i v r₁ hbind
            obtain ⟨r₀, hcolon, hscan⟩ := Option.bind_eq_some_iff.mp hbind
            have hcolon := scanColon_length hcolon
            have hfirst := (scan_length ft m).1 _ _ _ hscan
            have hskip := skipBlanks_length r₁
            split
            · rfl
            · rename_i r' hr
              have hskip' := skipBlanks_length r'
              rw [hr, List.length_cons] at hskip
              rw [hmembers m _ (by omega) (by omega)]
            · rfl
      · rfl

/-- More fuel than `loads` takes changes nothing. -/
theorem loads_eq_of_le {fuel : Nat} (t : Text) (h : 2 * t.length + 1 ≤ fuel) :
    loadsWith ft fuel t = loads ft t := by
  have hskip := skipBlanks_length t
  rw [loads, loadsWith, loadsWith,
    (scan_fuel ft fuel).1 (2 * t.length + 1) (skipBlanks t) (by omega) (by omega)]

end

end StorageNode.Json
