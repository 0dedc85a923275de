import StorageNode.FloatingPoint.Nearest
import Mathlib.Algebra.Order.Field.Rat
import Mathlib.Order.WithBotTop

/-!
# Numbers of a binary format

`Number` is a finite number of a format: rounding leaves its value as it is. A sum or a difference of
numbers is rounded, and infinite where it is too large (`Format.round`); its value is `Extended`. There
is no result that is not a number, because the operands are finite.

What a comparison with a rounded difference says about the exact one is `Number.min_le_of_le_sub`.
-/

set_option autoImplicit false

namespace StorageNode.FloatingPoint

/-- A rational number or an infinity. -/
abbrev Extended := WithBotTop ℚ

namespace Format

variable (f : Format)

/-- Rounding to nearest, with overflow to the infinities. -/
def round (x : ℚ) : Extended :=
  if |f.nearest x| < 2 ^ f.maxExponent then (f.nearest x : Extended)
  else if 0 < x then ⊤
  else ⊥

/-- A finite number of the format. -/
structure Number where
  value : ℚ
  rounded : f.nearest value = value
  finite : |value| < 2 ^ f.maxExponent
  deriving DecidableEq

variable {f} {x y : ℚ}

theorem round_mono (h : x ≤ y) : f.round x ≤ f.round y := by
  have hround := nearest_mono (f := f) h
  have hpos : ∀ z : ℚ, 0 < f.nearest z → 0 < z := by
    intro z hz
    by_contra hneg
    have hle := nearest_mono (f := f) (not_lt.mp hneg)
    rw [nearest_zero] at hle
    exact absurd hz (not_lt.mpr hle)
  unfold round
  by_cases hx : |f.nearest x| < 2 ^ f.maxExponent
  · by_cases hy : |f.nearest y| < 2 ^ f.maxExponent
    · rw [if_pos hx, if_pos hy]
      exact WithBotTop.coe_le_coe.mpr hround
    · -- the larger one is too large, so it is positive
      have hlarge : 0 < f.nearest y := by
        by_contra hneg
        rw [abs_of_nonpos (not_lt.mp hneg), not_lt] at hy
        have hsmall := (abs_lt.mp hx).1
        linarith
      rw [if_neg hy, if_pos (hpos y hlarge)]
      exact le_top
  · rw [if_neg hx]
    by_cases hx' : 0 < x
    · -- the larger one is too large as well
      have hlarge : ¬ |f.nearest y| < 2 ^ f.maxExponent := by
        have hnonneg := nearest_nonneg (f := f) hx'.le
        rw [abs_of_nonneg hnonneg] at hx
        rw [abs_of_nonneg (hnonneg.trans hround)]
        exact fun hlt => hx (hround.trans_lt hlt)
      rw [if_pos hx', if_neg hlarge, if_pos (hx'.trans_le h)]
    · rw [if_neg hx']
      exact bot_le

/-- A bound on a rounded number is one on the number without overflow, as far as the format goes. -/
theorem min_le_nearest {w : ℚ} (h : (w : Extended) ≤ f.round x) :
    min w (2 ^ f.maxExponent) ≤ f.nearest x := by
  unfold round at h
  split at h
  · exact (min_le_left _ _).trans (WithBotTop.coe_le_coe.mp h)
  · rename_i hlarge
    split at h
    · rename_i hx
      rw [abs_of_nonneg (nearest_nonneg hx.le), not_lt] at hlarge
      exact (min_le_right _ _).trans hlarge
    · exact absurd (le_bot_iff.mp h) (WithBotTop.coe_ne_bot w)

/-- `float(n)` of an integer, which fails where the result is infinite. -/
def ofInt (f : Format) (n : ℤ) : Option ℚ :=
  if |f.nearest n| < 2 ^ f.maxExponent then some (f.nearest n) else none

namespace Number

theorem value_injective : Function.Injective (value : f.Number → ℚ) := by
  rintro ⟨x, _, _⟩ ⟨y, _, _⟩ rfl
  rfl

instance : LinearOrder f.Number :=
  LinearOrder.lift' value value_injective

instance : Zero f.Number where
  zero := ⟨0, nearest_zero, by rw [abs_zero]; exact zpow_pos two_pos _⟩

instance : HAdd f.Number ℚ Extended where
  hAdd x y := f.round (x.value + y)

instance : HSub f.Number f.Number Extended where
  hSub x y := f.round (x.value - y.value)

/-- A number is subtracted from a result. -/
def subFrom (y : f.Number) : Extended → Extended
  | ⊥ => ⊥
  | ⊤ => ⊤
  | (x : ℚ) => f.round (x - y.value)

variable {a b c : f.Number}

theorem le_def : a ≤ b ↔ a.value ≤ b.value :=
  Iff.rfl

theorem onGrid (a : f.Number) : f.OnGrid a.value :=
  a.rounded ▸ onGrid_nearest a.value

/-- The later of two numbers leaves the smaller difference. -/
theorem sub_antitone (h : b ≤ c) : a - c ≤ a - b :=
  round_mono (sub_le_sub_left (le_def.mp h) _)

/-- A bound on a rounded difference is one on the exact difference, up to the relative error of one
rounding and as far as the format goes. -/
theorem min_le_of_le_sub {w : ℚ} (hw : 0 < w) (h : (w : Extended) ≤ a - b) :
    min w (2 ^ f.maxExponent) ≤
      (1 + 2 ^ (-(f.precision : ℤ))) * (a.value - b.value) := by
  have hround := min_le_nearest h
  have hmin : 0 < min w (2 ^ f.maxExponent) := lt_min hw (zpow_pos two_pos _)
  have hgrid := a.onGrid.sub b.onGrid
  have hpos : 0 < a.value - b.value := by
    by_contra hneg
    have hle := (nearest_le_zero_iff hgrid).mpr (not_lt.mp hneg)
    exact absurd (hmin.trans_le hround) (not_lt.mpr hle)
  have herror := (abs_le.mp (abs_nearest_sub_le hgrid)).2
  rw [abs_of_pos hpos] at herror
  calc min w (2 ^ f.maxExponent)
      ≤ f.nearest (a.value - b.value) := hround
    _ ≤ (a.value - b.value) + (a.value - b.value) * 2 ^ (-(f.precision : ℤ)) := by linarith
    _ = (1 + 2 ^ (-(f.precision : ℤ))) * (a.value - b.value) := by ring

/-- A result that is at most a number leaves nothing when the number is subtracted. -/
theorem subFrom_le_zero {x : Extended} (h : x ≤ b.value) :
    b.subFrom x ≤ ((0 : ℚ) : Extended) := by
  induction x using WithBotTop.rec with
  | bot => exact bot_le
  | top => exact absurd (top_le_iff.mp h) (WithBotTop.coe_ne_top b.value)
  | coe x =>
    have hle : x - b.value ≤ 0 := sub_nonpos.mpr (WithBotTop.coe_le_coe.mp h)
    refine (round_mono hle : f.round (x - b.value) ≤ f.round 0).trans ?_
    rw [round, nearest_zero, abs_zero, if_pos (zpow_pos two_pos _)]

end Number

end Format

/-- The format of Python's floats. -/
def binary64 : Format where
  precision := 53
  minExponent := -1074
  maxExponent := 1024
  precision_pos := by decide

/-- The finite values of Python's `float`. -/
abbrev Float64 := binary64.Number

end StorageNode.FloatingPoint
