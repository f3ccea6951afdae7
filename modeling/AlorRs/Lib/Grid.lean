import Mathlib.Algebra.Order.Floor.Ring
import Mathlib.Data.Rat.Floor
import Mathlib.RingTheory.Coprime.Lemmas
import Mathlib.Tactic.Linarith

/-!
# The multiples of a step

`OnGrid step x` says that `x` is a multiple of a step.  Rounding down and up to a step gives a multiple on
the side that one expects (`floor_div_mul_le`, `le_ceil_div_mul`).  Rounding to the nearest integer is
`⌊x + 1 / 2⌋`; what it gives is a multiple of a rational step when `x` is within one half of a multiple of
the numerator (`onGrid_nearest_iff`).
-/

namespace Grid

section Field

variable {K : Type} [Field K] {step scale x : K}

def OnGrid (step x : K) : Prop := ∃ k : ℤ, x = k * step

theorem onGrid_mul (k : ℤ) (step : K) : OnGrid step (k * step) := ⟨k, rfl⟩

/-- A finer unit for the step and for its multiples. -/
theorem onGrid_div_iff (hscale : scale ≠ 0) : OnGrid step (x / scale) ↔ OnGrid (step * scale) x := by
  constructor
  · rintro ⟨k, hk⟩
    exact ⟨k, by rw [← mul_assoc, ← hk, div_mul_cancel₀ x hscale]⟩
  · rintro ⟨k, hk⟩
    exact ⟨k, by rw [hk, ← mul_assoc, mul_div_cancel_right₀ _ hscale]⟩

end Field

section Rounding

variable {K : Type} [Field K] [LinearOrder K] [IsStrictOrderedRing K] [FloorRing K] {step x y : K}

theorem floor_div_mul_le (x : K) (hstep : 0 < step) : ⌊x / step⌋ * step ≤ x :=
  (le_div_iff₀ hstep).mp (Int.floor_le (x / step))

theorem le_ceil_div_mul (x : K) (hstep : 0 < step) : x ≤ ⌈x / step⌉ * step :=
  (div_le_iff₀ hstep).mp (Int.le_ceil (x / step))

/-- The nearest integer, halves up. -/
theorem nearest_eq_iff {n : ℤ} : ⌊x + 1 / 2⌋ = n ↔ n - 1 / 2 ≤ x ∧ x < n + 1 / 2 := by
  rw [Int.floor_eq_iff]
  constructor
  all_goals
    rintro ⟨hle, hlt⟩
    exact ⟨by linarith, by linarith⟩

theorem nearest_of_fract_lt (h : Int.fract x < 1 / 2) : ⌊x + 1 / 2⌋ = ⌊x⌋ := by
  have hx := Int.floor_add_fract x
  have hnonneg := Int.fract_nonneg x
  rw [nearest_eq_iff]
  exact ⟨by linarith, by linarith⟩

theorem nearest_of_le_fract (h : 1 / 2 ≤ Int.fract x) : ⌊x + 1 / 2⌋ = ⌊x⌋ + 1 := by
  have hx := Int.floor_add_fract x
  have hlt := Int.fract_lt_one x
  rw [nearest_eq_iff]
  push_cast
  exact ⟨by linarith, by linarith⟩

theorem one_le_nearest_iff : 1 ≤ ⌊x + 1 / 2⌋ ↔ 1 / 2 ≤ x := by
  rw [Int.le_floor]
  push_cast
  constructor <;> intro h <;> linarith

/-- The nearest integer is not above a bound that `x` keeps: it lies below `x`, or the bound reaches the
next integer. -/
theorem nearest_le_iff (hxy : x ≤ y) :
    (⌊x + 1 / 2⌋ : K) ≤ y ↔ Int.fract x < 1 / 2 ∨ (⌊x⌋ + 1 : K) ≤ y := by
  by_cases hfract : Int.fract x < 1 / 2
  · rw [nearest_of_fract_lt hfract]
    exact iff_of_true ((Int.floor_le x).trans hxy) (.inl hfract)
  · rw [nearest_of_le_fract (not_lt.mp hfract)]
    push_cast
    exact (or_iff_right hfract).symm

end Rounding

/-! ### Rational steps -/

/-- The integers among the multiples of a rational step are the multiples of its numerator. -/
theorem onGrid_intCast_iff {step : ℚ} {n : ℤ} : OnGrid step (n : ℚ) ↔ step.num ∣ n := by
  have hden : (step.den : ℚ) ≠ 0 := Nat.cast_ne_zero.mpr step.den_ne_zero
  constructor
  · rintro ⟨k, hk⟩
    have hcross : n * step.den = k * step.num := by
      have hq : (n : ℚ) * step.den = k * step.num := by
        rw [hk, mul_assoc, Rat.mul_den_eq_num]
      exact_mod_cast hq
    exact (Rat.isCoprime_num_den step).dvd_of_dvd_mul_right ⟨k, by rw [hcross, mul_comm]⟩
  · rintro ⟨j, rfl⟩
    refine ⟨j * step.den, ?_⟩
    rw [Int.cast_mul, Int.cast_mul, mul_assoc, Int.cast_natCast, mul_comm (step.den : ℚ),
      Rat.mul_den_eq_num, mul_comm]

theorem onGrid_nearest_iff {step x : ℚ} :
    OnGrid step (⌊x + 1 / 2⌋ : ℚ) ↔
      ∃ j : ℤ, j * step.num - 1 / 2 ≤ x ∧ x < j * step.num + 1 / 2 := by
  rw [onGrid_intCast_iff]
  constructor
  · rintro ⟨j, hj⟩
    rw [mul_comm] at hj
    have hnear := nearest_eq_iff.mp hj
    push_cast at hnear
    exact ⟨j, hnear⟩
  · rintro ⟨j, hnear⟩
    refine ⟨j, ?_⟩
    rw [mul_comm, nearest_eq_iff]
    push_cast
    exact hnear

end Grid
