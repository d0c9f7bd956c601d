import Mathlib.Algebra.Order.Archimedean.Basic
import Mathlib.Data.Int.Log
import Mathlib.Data.Rat.Floor
import RevenueRescue.Base.Text

/-!
# Decimal arithmetic

The decimals of the source language are exact, and the results of operations are rounded to the
precision of the context, 28 digits. Shifting a value to a number of places does not round to
the precision: it raises when the result has more digits.

A decimal is its value here, a rational number, so `NaN`, the infinities and the sign of zero are
left out, and no value is too small to be kept apart from zero.
-/

namespace Python

/-- `decimal.InvalidOperation`. -/
inductive DecimalFault where
  | invalidOperation
  deriving DecidableEq, Repr

namespace Decimal

/-- The digits of the default context. -/
def precision : ℕ := 28

/-- The unit of the last digit that the context keeps of a value. -/
def unit (x : ℚ) : ℚ := 10 ^ (Int.log 10 |x| - (precision - 1 : ℤ))

/-- The nearest value with so many digits, the even one of two. -/
def round (x : ℚ) : ℚ := roundHalfEven (x / unit x) * unit x

/-- `a * b`. -/
def mul (a b : ℚ) : ℚ := round (a * b)

/-- The nearest integer, the one farther from zero of two: `ROUND_HALF_UP`. -/
def roundHalfUp (x : ℚ) : ℤ :=
  if 0 ≤ x then (x + 1 / 2).floor else -(-x + 1 / 2).floor

/-- `x.quantize(Decimal("0.1"), rounding=rounding)` and the like for other numbers of places. -/
def quantize (rounding : ℚ → ℤ) (places : ℕ) (x : ℚ) : Except DecimalFault ℚ :=
  let coefficient := rounding (x * 10 ^ places)
  if coefficient.natAbs < 10 ^ precision then .ok (coefficient / 10 ^ places)
  else .error .invalidOperation

example : mul (10 ^ 28 - 1) (1 / 2) = 5 * 10 ^ 27 := by decide +kernel

example : quantize roundHalfUp 0 (5 / 2) = .ok 3 := by decide +kernel

/-! ## Bounds -/

/-- A value that is not an integer has its floor below every integer that it does not pass. -/
theorem floor_lt_of_le {x : ℚ} {n : ℤ} (h : x ≤ n) (hrest : 0 < x - x.floor) : x.floor < n := by
  rw [Rat.floor_lt_iff]
  refine lt_of_le_of_ne h fun hsame => ?_
  rw [hsame, Rat.floor_intCast, sub_self] at hrest
  exact lt_irrefl 0 hrest

/-- Rounding does not pass an integer from below. -/
theorem roundHalfEven_le {x : ℚ} {n : ℤ} (h : x ≤ n) : roundHalfEven x ≤ n := by
  have hfloor : x.floor ≤ n := Int.cast_le.mp ((Rat.floor_le x).trans h)
  unfold roundHalfEven
  dsimp only
  split_ifs with hbelow habove heven
  · exact hfloor
  · have hlt := floor_lt_of_le h (by linarith)
    omega
  · exact hfloor
  · have hlt := floor_lt_of_le h (by linarith)
    omega

/-- Rounding does not pass an integer from above. -/
theorem le_roundHalfEven {x : ℚ} {n : ℤ} (h : n ≤ x) : n ≤ roundHalfEven x := by
  have hfloor : n ≤ x.floor := Rat.le_floor_iff.mpr h
  unfold roundHalfEven
  dsimp only
  split_ifs <;> omega

theorem roundHalfUp_le {x : ℚ} {n : ℤ} (hpos : 0 ≤ x) (h : x ≤ n) : roundHalfUp x ≤ n := by
  unfold roundHalfUp
  rw [if_pos hpos]
  have hlt : (x + 1 / 2).floor < n + 1 := by
    rw [Rat.floor_lt_iff]
    push_cast
    linarith
  omega

theorem roundHalfUp_nonneg {x : ℚ} (h : 0 ≤ x) : 0 ≤ roundHalfUp x := by
  unfold roundHalfUp
  rw [if_pos h, Rat.le_floor_iff]
  push_cast
  linarith

theorem unit_pos (x : ℚ) : 0 < unit x :=
  zpow_pos (by norm_num) _

theorem round_nonneg {x : ℚ} (h : 0 ≤ x) : 0 ≤ round x := by
  unfold round
  have hquotient : ((0 : ℤ) : ℚ) ≤ x / unit x := by
    rw [Int.cast_zero]
    exact div_nonneg h (unit_pos x).le
  have hcoefficient := le_roundHalfEven hquotient
  have hcast : (0 : ℚ) ≤ roundHalfEven (x / unit x) := Int.cast_nonneg hcoefficient
  exact mul_nonneg hcast (unit_pos x).le

/-- The last digit that is kept of a value below the precision is no higher than the units. -/
theorem unit_exponent_nonpos {x : ℚ} (hpos : 0 ≤ x) (h : x < 10 ^ precision) :
    Int.log 10 |x| - (precision - 1 : ℤ) ≤ 0 := by
  rcases hpos.eq_or_lt with hzero | hlt
  · rw [← hzero, abs_zero, Int.log_zero_right]
    decide
  · rw [abs_of_pos hlt]
    have hlog : Int.log 10 x < (precision : ℤ) := by
      rw [← Int.lt_zpow_iff_log_lt (by norm_num) hlt, zpow_natCast]
      exact_mod_cast h
    omega

/-- Rounding to the precision does not pass an integer within the precision. -/
theorem round_le {x : ℚ} {n : ℕ} (hpos : 0 ≤ x) (h : x ≤ n) (hn : n < 10 ^ precision) :
    round x ≤ n := by
  have hsmall : x < 10 ^ precision := h.trans_lt (by exact_mod_cast hn)
  obtain ⟨places, hplaces⟩ := Int.eq_ofNat_of_zero_le
    (neg_nonneg.mpr (unit_exponent_nonpos hpos hsmall))
  have hunit : unit x = (10 ^ places : ℚ)⁻¹ := by
    unfold unit
    rw [← neg_neg (Int.log 10 |x| - (precision - 1 : ℤ)), hplaces, zpow_neg, zpow_natCast]
  have hbound : x / unit x ≤ ((n * 10 ^ places : ℤ) : ℚ) := by
    rw [hunit, div_inv_eq_mul]
    push_cast
    exact mul_le_mul_of_nonneg_right h (by positivity)
  have hcoefficient : ((roundHalfEven (x / unit x) : ℤ) : ℚ) ≤ ((n * 10 ^ places : ℤ) : ℚ) :=
    Int.cast_le.mpr (roundHalfEven_le hbound)
  unfold round
  calc (roundHalfEven (x / unit x) : ℚ) * unit x
      ≤ ((n * 10 ^ places : ℤ) : ℚ) * unit x :=
        mul_le_mul_of_nonneg_right hcoefficient (unit_pos x).le
    _ = n := by
      rw [hunit]
      push_cast
      field_simp

/-! ## Order -/

theorem roundHalfEven_mono {x y : ℚ} (h : x ≤ y) : roundHalfEven x ≤ roundHalfEven y := by
  rcases (Rat.floor_monotone h).lt_or_eq with hlt | heq
  · have hx : roundHalfEven x ≤ x.floor + 1 := by
      unfold roundHalfEven
      dsimp only
      split_ifs <;> omega
    have hy : y.floor ≤ roundHalfEven y := le_roundHalfEven (Rat.floor_le y)
    omega
  · unfold roundHalfEven
    dsimp only
    rw [← heq]
    split_ifs <;> first | omega | linarith

theorem roundHalfUp_mono {x y : ℚ} (hpos : 0 ≤ x) (h : x ≤ y) : roundHalfUp x ≤ roundHalfUp y := by
  unfold roundHalfUp
  rw [if_pos hpos, if_pos (hpos.trans h)]
  exact Rat.floor_monotone (by linarith)

/-- Powers of ten of a value and of its unit. -/
theorem pow_mul_unit {x : ℚ} (hpos : 0 < x) (digits : ℕ) :
    ((10 ^ digits : ℤ) : ℚ) * unit x = 10 ^ (Int.log 10 x + (digits - 27)) := by
  unfold unit precision
  rw [abs_of_pos hpos]
  push_cast
  rw [← zpow_natCast, ← zpow_add₀ (by norm_num)]
  congr 1
  ring

/-- Rounding stays between the powers of ten around a value. -/
theorem round_between {x : ℚ} (hpos : 0 < x) :
    (10 : ℚ) ^ Int.log 10 x ≤ round x ∧ round x ≤ 10 ^ (Int.log 10 x + 1) := by
  have hbelow : ((10 ^ 27 : ℤ) : ℚ) * unit x = 10 ^ Int.log 10 x := by
    rw [pow_mul_unit hpos]
    simp
  have habove : ((10 ^ 28 : ℤ) : ℚ) * unit x = 10 ^ (Int.log 10 x + 1) := by
    rw [pow_mul_unit hpos]
    norm_num
  have hlow : ((10 ^ 27 : ℤ) : ℚ) ≤ x / unit x := by
    rw [le_div_iff₀ (unit_pos x), hbelow]
    exact Int.zpow_log_le_self (by norm_num) hpos
  have hhigh : x / unit x ≤ ((10 ^ 28 : ℤ) : ℚ) := by
    rw [div_le_iff₀ (unit_pos x), habove]
    exact (Int.lt_zpow_succ_log_self (by norm_num) x).le
  unfold round
  constructor
  · rw [← hbelow]
    exact mul_le_mul_of_nonneg_right (Int.cast_le.mpr (le_roundHalfEven hlow)) (unit_pos x).le
  · rw [← habove]
    exact mul_le_mul_of_nonneg_right (Int.cast_le.mpr (roundHalfEven_le hhigh)) (unit_pos x).le

/-- Rounding to the precision keeps the order. -/
theorem round_mono {x y : ℚ} (hpos : 0 ≤ x) (h : x ≤ y) : round x ≤ round y := by
  rcases hpos.eq_or_lt with rfl | hlt
  · have hzero : round 0 = 0 := by decide +kernel
    rw [hzero]
    exact round_nonneg h
  have hy : 0 < y := hlt.trans_le h
  rcases (Int.log_mono_right hlt h : Int.log 10 x ≤ Int.log 10 y).lt_or_eq with hlog | hlog
  · calc round x ≤ 10 ^ (Int.log 10 x + 1) := (round_between hlt).2
      _ ≤ 10 ^ Int.log 10 y := zpow_le_zpow_right₀ (by norm_num) hlog
      _ ≤ round y := (round_between hy).1
  · have hunit : unit y = unit x := by
      unfold unit
      rw [abs_of_pos hy, abs_of_pos hlt, hlog]
    unfold round
    rw [hunit]
    refine mul_le_mul_of_nonneg_right (Int.cast_le.mpr (roundHalfEven_mono ?_)) (unit_pos x).le
    exact div_le_div_of_nonneg_right h (unit_pos x).le

/-- A coefficient within the precision is kept. -/
theorem quantize_eq_ok {rounding : ℚ → ℤ} {places : ℕ} {x : ℚ}
    (h : (rounding (x * 10 ^ places)).natAbs < 10 ^ precision) :
    quantize rounding places x = .ok (rounding (x * 10 ^ places) / 10 ^ places) :=
  if_pos h

theorem of_quantize_eq_ok {rounding : ℚ → ℤ} {places : ℕ} {x y : ℚ}
    (h : quantize rounding places x = .ok y) :
    (rounding (x * 10 ^ places)).natAbs < 10 ^ precision ∧
      y = rounding (x * 10 ^ places) / 10 ^ places := by
  unfold quantize at h
  dsimp only at h
  split_ifs at h with hsmall
  rw [Except.ok.injEq] at h
  exact ⟨hsmall, h.symm⟩

end Decimal

end Python
