import Mathlib.Algebra.Order.Field.Power
import Mathlib.Algebra.Order.Round
import Mathlib.Data.Int.Log
import Mathlib.Data.Rat.Floor
import Mathlib.Tactic.FieldSimp
import Mathlib.Tactic.Linarith
import Mathlib.Tactic.Ring

/-!
# Rounding to the nearest number of a binary format

A format has a precision and a least exponent. `Format.nearest` rounds a rational number to a multiple
of its unit in the last place, and to the even multiple of two; it knows no overflow.

Rounding is monotone (`Format.nearest_mono`), it leaves the numbers of the format as they are
(`Format.nearest_of_multiple`), and on sums and differences of such numbers its relative error is at
most one half unit of the precision (`Format.abs_nearest_sub_le`): gradual underflow makes the small ones
exact.
-/

set_option autoImplicit false

namespace StorageNode.FloatingPoint

/-! ## Integers -/

/-- An integer is nearest to a rational number, and the even one if two are. -/
structure HalfEven (x : ℚ) (n : ℤ) : Prop where
  near : |x - n| ≤ 1 / 2
  even : |x - n| = 1 / 2 → Even n

/-- The nearest integer, with ties to even. -/
def halfEven (x : ℚ) : ℤ :=
  if Int.fract x = 1 / 2 then ⌊x⌋ + ⌊x⌋ % 2 else round x

theorem even_add_emod_two (n : ℤ) : Even (n + n % 2) := by
  rw [Int.even_iff]
  omega

theorem halfEven_spec (x : ℚ) : HalfEven x (halfEven x) := by
  unfold halfEven
  by_cases htie : Int.fract x = 1 / 2
  · -- halfway between two integers
    rw [if_pos htie]
    refine ⟨?_, fun _ => even_add_emod_two _⟩
    have hfloor : x - ⌊x⌋ = 1 / 2 := htie
    obtain hmod | hmod := Int.emod_two_eq_zero_or_one ⌊x⌋
    · rw [hmod, add_zero, hfloor, abs_of_pos one_half_pos]
    · rw [hmod, Int.cast_add, Int.cast_one, ← sub_sub, hfloor]
      norm_num [abs_of_neg]
  · rw [if_neg htie]
    refine ⟨abs_sub_round x, fun heq => absurd ?_ htie⟩
    rw [abs_sub_round_eq_min] at heq
    have hone : 1 - Int.fract x = 1 / 2 ∨ Int.fract x = 1 / 2 := by
      obtain h | h := min_choice (Int.fract x) (1 - Int.fract x)
      · exact .inr (h.symm.trans heq)
      · exact .inl (h.symm.trans heq)
    obtain h | h := hone
    · linarith
    · exact h

/-- Two ties to even are not next to each other, so the order is kept. -/
theorem HalfEven.le {x y : ℚ} {m n : ℤ} (hm : HalfEven x m) (hn : HalfEven y n) (h : x ≤ y) :
    m ≤ n := by
  by_contra hlt
  have hstep : ((n + 1 : ℤ) : ℚ) ≤ m := Int.cast_le.mpr (by omega)
  rw [Int.cast_add, Int.cast_one] at hstep
  have hx := abs_le.mp hm.near
  have hy := abs_le.mp hn.near
  have hxm : x - m = -(1 / 2) := by linarith
  have hyn : y - n = 1 / 2 := by linarith
  obtain rfl : m = n + 1 := by
    have hcast : (m : ℚ) = (n + 1 : ℤ) := by
      rw [Int.cast_add, Int.cast_one]
      linarith
    exact Int.cast_injective hcast
  have hm' := hm.even (by rw [hxm, abs_neg, abs_of_pos one_half_pos])
  have hn' := hn.even (by rw [hyn, abs_of_pos one_half_pos])
  rw [Int.even_iff] at hm' hn'
  omega

theorem HalfEven.eq {x : ℚ} {n : ℤ} (h : HalfEven x n) : halfEven x = n :=
  le_antisymm ((halfEven_spec x).le h le_rfl) (h.le (halfEven_spec x) le_rfl)

theorem halfEven_mono {x y : ℚ} (h : x ≤ y) : halfEven x ≤ halfEven y :=
  (halfEven_spec x).le (halfEven_spec y) h

@[simp]
theorem halfEven_intCast (n : ℤ) : halfEven n = n :=
  HalfEven.eq ⟨by simp, fun h => by simp at h⟩

theorem halfEven_neg (x : ℚ) : halfEven (-x) = -halfEven x := by
  have h := halfEven_spec x
  have hdist : |-x - (-halfEven x : ℤ)| = |x - halfEven x| := by
    rw [Int.cast_neg, ← abs_neg]
    congr 1
    ring
  exact HalfEven.eq ⟨hdist ▸ h.near, fun htie => (h.even (hdist ▸ htie)).neg⟩

/-! ## Formats -/

/-- A binary format: the number of bits of a significand, and the exponents of the least positive number
and of the first power of two that is too large. -/
structure Format where
  precision : ℕ
  minExponent : ℤ
  maxExponent : ℤ
  precision_pos : 0 < precision

namespace Format

variable (f : Format)

/-- The exponent of the unit in the last place of a number. -/
def exponent (x : ℚ) : ℤ :=
  max (Int.log 2 |x| + 1 - f.precision) f.minExponent

/-- The unit in the last place. -/
def ulp (x : ℚ) : ℚ :=
  2 ^ f.exponent x

/-- The nearest multiple of the unit in the last place, with ties to even. -/
def nearest (x : ℚ) : ℚ :=
  halfEven (x / f.ulp x) * f.ulp x

/-- The multiples of the least positive number. -/
def OnGrid (x : ℚ) : Prop :=
  ∃ k : ℤ, x = k * 2 ^ f.minExponent

variable {f} {x y : ℚ}

theorem ulp_pos : 0 < f.ulp x :=
  zpow_pos two_pos _

theorem ulp_neg : f.ulp (-x) = f.ulp x := by
  rw [ulp, ulp, exponent, exponent, abs_neg]

/-- A power of two is a multiple of every smaller one. -/
theorem exists_mul_zpow {d e : ℤ} (h : d ≤ e) : ∃ k : ℤ, (2 : ℚ) ^ e = k * 2 ^ d := by
  refine ⟨2 ^ (e - d).toNat, ?_⟩
  rw [Int.cast_pow, Int.cast_ofNat, ← zpow_natCast, Int.toNat_of_nonneg (by omega),
    ← zpow_add₀ two_ne_zero]
  congr 1
  omega

/-- Rounding does not pass a multiple of the unit in the last place. -/
theorem nearest_le_mul {k : ℤ} (h : x ≤ k * f.ulp x) : f.nearest x ≤ k * f.ulp x := by
  have hdiv : x / f.ulp x ≤ k := (div_le_iff₀ ulp_pos).mpr h
  have hround : halfEven (x / f.ulp x) ≤ k := by
    simpa only [halfEven_intCast] using halfEven_mono hdiv
  exact mul_le_mul_of_nonneg_right (Int.cast_le.mpr hround) ulp_pos.le

theorem mul_le_nearest {k : ℤ} (h : k * f.ulp x ≤ x) : k * f.ulp x ≤ f.nearest x := by
  have hdiv : (k : ℚ) ≤ x / f.ulp x := (le_div_iff₀ ulp_pos).mpr h
  have hround : k ≤ halfEven (x / f.ulp x) := by
    simpa only [halfEven_intCast] using halfEven_mono hdiv
  exact mul_le_mul_of_nonneg_right (Int.cast_le.mpr hround) ulp_pos.le

/-- A multiple of its unit in the last place stays. -/
theorem nearest_of_multiple {k : ℤ} (h : x = k * f.ulp x) : f.nearest x = x := by
  refine le_antisymm ?_ ?_
  · exact (nearest_le_mul h.le).trans h.ge
  · exact h.le.trans (mul_le_nearest h.ge)

@[simp]
theorem nearest_zero : f.nearest 0 = 0 :=
  nearest_of_multiple (by rw [Int.cast_zero, zero_mul] : (0 : ℚ) = (0 : ℤ) * f.ulp 0)

theorem nearest_neg (x : ℚ) : f.nearest (-x) = -f.nearest x := by
  rw [nearest, nearest, ulp_neg, neg_div, halfEven_neg, Int.cast_neg, neg_mul]

/-! ## Order -/

theorem nearest_nonneg (h : 0 ≤ x) : 0 ≤ f.nearest x := by
  have hzero : ((0 : ℤ) : ℚ) * f.ulp x ≤ x := by rwa [Int.cast_zero, zero_mul]
  simpa only [Int.cast_zero, zero_mul] using mul_le_nearest hzero

/-- Where the unit in the last place grows, a power of two lies in between. It is a multiple of both
units. -/
theorem nearest_le_of_pos (hx : 0 < x) (h : x ≤ y) : f.nearest x ≤ f.nearest y := by
  have hy : 0 < y := hx.trans_le h
  have hlog : Int.log 2 x ≤ Int.log 2 y := Int.log_mono_right hx h
  have hex : f.exponent x = max (Int.log 2 x + 1 - f.precision) f.minExponent := by
    rw [exponent, abs_of_pos hx]
  have hey : f.exponent y = max (Int.log 2 y + 1 - f.precision) f.minExponent := by
    rw [exponent, abs_of_pos hy]
  obtain heq | hlt : f.exponent x = f.exponent y ∨ f.exponent x < f.exponent y := by omega
  · -- both are rounded to multiples of one unit
    have hulp : f.ulp x = f.ulp y := congrArg ((2 : ℚ) ^ ·) heq
    unfold nearest
    rw [hulp]
    refine mul_le_mul_of_nonneg_right (Int.cast_le.mpr (halfEven_mono ?_)) ulp_pos.le
    exact div_le_div_of_nonneg_right h ulp_pos.le
  · have hprecision := f.precision_pos
    have hbelow : x ≤ (2 : ℚ) ^ Int.log 2 y :=
      calc x ≤ (2 : ℚ) ^ (Int.log 2 x + 1) := (Int.lt_zpow_succ_log_self one_lt_two x).le
        _ ≤ (2 : ℚ) ^ Int.log 2 y := zpow_le_zpow_right₀ one_le_two (by omega)
    have habove : (2 : ℚ) ^ Int.log 2 y ≤ y := Int.zpow_log_le_self one_lt_two hy
    obtain ⟨k, hk⟩ := exists_mul_zpow (show f.exponent x ≤ Int.log 2 y by omega)
    obtain ⟨l, hl⟩ := exists_mul_zpow (show f.exponent y ≤ Int.log 2 y by omega)
    calc f.nearest x ≤ k * f.ulp x := nearest_le_mul (hbelow.trans_eq hk)
      _ = l * f.ulp y := hk.symm.trans hl
      _ ≤ f.nearest y := mul_le_nearest (hl.ge.trans habove)

theorem nearest_mono (h : x ≤ y) : f.nearest x ≤ f.nearest y := by
  obtain hx | hx := lt_or_ge 0 x
  · exact nearest_le_of_pos hx h
  · have hx' : f.nearest x ≤ 0 := by
      have hneg := nearest_nonneg (f := f) (neg_nonneg.mpr hx)
      rwa [nearest_neg, neg_nonneg] at hneg
    obtain hy | hy := le_or_gt 0 y
    · exact hx'.trans (nearest_nonneg hy)
    · have hneg := nearest_le_of_pos (f := f) (neg_pos.mpr hy) (neg_le_neg h)
      rwa [nearest_neg, nearest_neg, neg_le_neg_iff] at hneg

/-! ## Error -/

theorem abs_nearest_sub_le_half : |f.nearest x - x| ≤ f.ulp x / 2 := by
  have hscaled : f.nearest x - x = -(x / f.ulp x - halfEven (x / f.ulp x)) * f.ulp x := by
    rw [nearest, neg_mul, sub_mul, div_mul_cancel₀ _ ulp_pos.ne']
    ring
  rw [hscaled, abs_mul, abs_neg, abs_of_pos ulp_pos]
  calc |x / f.ulp x - halfEven (x / f.ulp x)| * f.ulp x
      ≤ 1 / 2 * f.ulp x := mul_le_mul_of_nonneg_right (halfEven_spec _).near ulp_pos.le
    _ = f.ulp x / 2 := by ring

/-- The relative error of rounding on the grid. -/
theorem abs_nearest_sub_le (h : f.OnGrid x) :
    |f.nearest x - x| ≤ |x| * 2 ^ (-(f.precision : ℤ)) := by
  obtain rfl | hx := eq_or_ne x 0
  · simp
  by_cases hnormal : f.minExponent ≤ Int.log 2 |x| + 1 - f.precision
  · have hulp : f.ulp x / 2 = 2 ^ Int.log 2 |x| * 2 ^ (-(f.precision : ℤ)) := by
      rw [ulp, exponent, max_eq_left hnormal, ← zpow_add₀ two_ne_zero, div_eq_mul_inv,
        ← zpow_neg_one, ← zpow_add₀ two_ne_zero]
      congr 1
      ring
    refine abs_nearest_sub_le_half.trans (hulp.trans_le ?_)
    refine mul_le_mul_of_nonneg_right ?_ (zpow_nonneg two_pos.le _)
    exact Int.zpow_log_le_self one_lt_two (abs_pos.mpr hx)
  · -- a subnormal number on the grid is exact
    obtain ⟨k, hk⟩ := h
    have hulp : f.ulp x = 2 ^ f.minExponent := by
      rw [ulp, exponent, max_eq_right (by omega)]
    rw [nearest_of_multiple (hk.trans (by rw [hulp])), sub_self, abs_zero]
    positivity

/-- On the grid, rounding keeps the sign. -/
theorem nearest_pos (h : f.OnGrid x) (hx : 0 < x) : 0 < f.nearest x := by
  have herror := (abs_le.mp (abs_nearest_sub_le h)).1
  rw [abs_of_pos hx] at herror
  have hlt : (2 : ℚ) ^ (-(f.precision : ℤ)) < 1 :=
    zpow_lt_one_of_neg₀ one_lt_two (by have := f.precision_pos; omega)
  have hsmall : x * 2 ^ (-(f.precision : ℤ)) < x := mul_lt_of_lt_one_right hx hlt
  linarith

theorem nearest_le_zero_iff (h : f.OnGrid x) : f.nearest x ≤ 0 ↔ x ≤ 0 := by
  constructor
  · intro hround
    by_contra hpos
    exact absurd hround (not_le.mpr (nearest_pos h (not_le.mp hpos)))
  · intro hx
    simpa only [nearest_zero] using nearest_mono (f := f) hx

theorem OnGrid.sub (hx : f.OnGrid x) (hy : f.OnGrid y) : f.OnGrid (x - y) := by
  obtain ⟨k, rfl⟩ := hx
  obtain ⟨l, rfl⟩ := hy
  exact ⟨k - l, by rw [Int.cast_sub, sub_mul]⟩

theorem onGrid_nearest (x : ℚ) : f.OnGrid (f.nearest x) := by
  obtain ⟨k, hk⟩ := exists_mul_zpow (show f.minExponent ≤ f.exponent x from le_max_right _ _)
  refine ⟨halfEven (x / f.ulp x) * k, ?_⟩
  rw [nearest, ulp, hk, Int.cast_mul, mul_assoc]

end Format

end StorageNode.FloatingPoint
