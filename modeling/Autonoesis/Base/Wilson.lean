import Mathlib.Analysis.SpecialFunctions.Pow.Real
import Mathlib.Tactic.LinearCombination

/-!
# The Wilson score interval

For a rate `x` between zero and one and `k = z² / n` the bounds are the two solutions `y` of
`(y - x)² = k y (1 - y)`. They enclose the rate, stay between zero and one, mirror each other and
rise with the rate: the root grows by less than the rate does.
-/

namespace Base.Wilson

/-- Half the width of the interval, up to the factor `1 + k`. -/
noncomputable def root (k x : ℝ) : ℝ := √(k * (x * (1 - x)) + k ^ 2 / 4)

noncomputable def lower (k x : ℝ) : ℝ := (x + k / 2 - root k x) / (1 + k)

noncomputable def upper (k x : ℝ) : ℝ := (x + k / 2 + root k x) / (1 + k)

variable {k x y : ℝ}

theorem root_nonneg (k x : ℝ) : 0 ≤ root k x := Real.sqrt_nonneg _

theorem root_sq (positive : 0 < k) (low : 0 ≤ x) (high : x ≤ 1) :
    root k x ^ 2 = k * (x * (1 - x)) + k ^ 2 / 4 := by
  apply Real.sq_sqrt
  have product : 0 ≤ x * (1 - x) := mul_nonneg low (by linarith)
  positivity

theorem root_pos (positive : 0 < k) (low : 0 ≤ x) (high : x ≤ 1) : 0 < root k x := by
  apply Real.sqrt_pos.mpr
  have product : 0 ≤ x * (1 - x) := mul_nonneg low (by linarith)
  positivity

/-- The interval of the other outcome is the mirror image. -/
theorem root_mirror (k x : ℝ) : root k (1 - x) = root k x := by
  unfold root
  congr 1
  ring

theorem upper_eq (positive : 0 < k) (x : ℝ) : upper k x = 1 - lower k (1 - x) := by
  have scale : (1 + k) ≠ 0 := by linarith
  unfold upper lower
  rw [root_mirror]
  field_simp
  ring

/-- The root is at least the distance of the rate from its shrunken value. -/
theorem le_root (positive : 0 < k) (low : 0 ≤ x) (high : x ≤ 1) : k / 2 - k * x ≤ root k x := by
  apply le_trans (le_abs_self _)
  apply Real.abs_le_sqrt
  have product : 0 ≤ k * (x * (1 - x)) * (1 + k) := by
    have inner : 0 ≤ x * (1 - x) := mul_nonneg low (by linarith)
    positivity
  nlinarith [product]

theorem lt_root (positive : 0 < k) (low : 0 < x) (high : x ≤ 1) : k / 2 - k * x < root k x := by
  by_cases top : x = 1
  · have some := root_nonneg k x
    subst top
    linarith
  · have below : x < 1 := lt_of_le_of_ne high top
    have product : 0 < k * (x * (1 - x)) * (1 + k) := by
      have inner : 0 < x * (1 - x) := mul_pos low (by linarith)
      positivity
    have square := root_sq positive low.le high
    have some := root_nonneg k x
    nlinarith [product]

/-- The bounds stay between zero and one. -/
theorem root_le (positive : 0 < k) (low : 0 ≤ x) : root k x ≤ x + k / 2 := by
  apply Real.sqrt_le_iff.mpr
  constructor
  · linarith
  · nlinarith [mul_nonneg (sq_nonneg x) positive.le, sq_nonneg x]

theorem lower_nonneg (positive : 0 < k) (low : 0 ≤ x) : 0 ≤ lower k x := by
  apply div_nonneg
  · have bound := root_le positive low
    linarith
  · linarith

theorem lower_lt_one (positive : 0 < k) (high : x ≤ 1) : lower k x < 1 := by
  rw [lower, div_lt_one (by linarith)]
  have some := root_nonneg k x
  linarith

theorem lower_le (positive : 0 < k) (low : 0 ≤ x) (high : x ≤ 1) : lower k x ≤ x := by
  rw [lower, div_le_iff₀ (by linarith)]
  have bound := le_root positive low high
  linarith

/-- The lower bound rises with the rate. -/
theorem lower_lt_lower (positive : 0 < k) (low : 0 ≤ x) (below : x < y) (high : y ≤ 1) :
    lower k x < lower k y := by
  have slower : root k y - root k x < y - x := by
    have sum : k * (1 - x - y) < root k x + root k y := by
      have left := le_root positive low (below.le.trans high)
      have right := lt_root positive (low.trans_lt below) high
      linarith
    have squares : (root k y - root k x) * (root k x + root k y) =
        (y - x) * (k * (1 - x - y)) := by
      have left := root_sq positive low (below.le.trans high)
      have right := root_sq positive (low.trans below.le) high
      linear_combination right - left
    have positive' : 0 < root k x + root k y :=
      add_pos (root_pos positive low (below.le.trans high)) (root_pos positive (low.trans below.le) high)
    by_contra faster
    rw [not_lt] at faster
    have product := mul_le_mul_of_nonneg_right faster positive'.le
    rw [squares] at product
    have smaller := le_of_mul_le_mul_left product (sub_pos.mpr below)
    linarith
  unfold lower
  apply div_lt_div_of_pos_right _ (by linarith)
  linarith

theorem le_upper (positive : 0 < k) (low : 0 ≤ x) (high : x ≤ 1) : x ≤ upper k x := by
  rw [upper_eq positive]
  have bound := lower_le positive (x := 1 - x) (by linarith) (by linarith)
  linarith

theorem upper_le_one (positive : 0 < k) (high : x ≤ 1) : upper k x ≤ 1 := by
  rw [upper_eq positive]
  have bound := lower_nonneg positive (x := 1 - x) (by linarith)
  linarith

theorem upper_pos (positive : 0 < k) (low : 0 ≤ x) : 0 < upper k x := by
  rw [upper_eq positive]
  have bound := lower_lt_one positive (x := 1 - x) (by linarith)
  linarith

theorem upper_lt_upper (positive : 0 < k) (low : 0 ≤ x) (below : x < y) (high : y ≤ 1) :
    upper k x < upper k y := by
  rw [upper_eq positive, upper_eq positive]
  have mirrored := lower_lt_lower positive (x := 1 - y) (y := 1 - x) (by linarith) (by linarith)
    (by linarith)
  linarith

end Base.Wilson
