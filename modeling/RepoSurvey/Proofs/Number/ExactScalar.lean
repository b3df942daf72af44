import Mathlib.Algebra.Order.Ring.Abs
import Mathlib.Tactic.Linarith
import RepoSurvey.Number.Scalar

/-!
# Scalars in exact arithmetic

Over the rationals the operations of scalars are those of the ordered field.

* `Scalar.smaller_rat`, `Scalar.larger_rat`, `Scalar.clamp_rat`, `Scalar.magnitude_rat`: choices between numbers.
* `Scalar.sum_rat`: sums of lists.
-/

namespace RepoSurvey
namespace Scalar

variable (x y : Rat)

theorem smaller_rat : smaller x y = min x y := by
  simp only [smaller, lt, decide_eq_true_eq, min_def]
  split_ifs <;> linarith

theorem larger_rat : larger x y = max x y := by
  simp only [larger, lt, decide_eq_true_eq, max_def]
  split_ifs <;> linarith

theorem clamp_rat (low high : Rat) : clamp low high x = min (max x low) high := by
  rw [clamp, larger_rat, smaller_rat]

theorem magnitude_rat : magnitude x = |x| := by
  have hopened : magnitude x = if x < 0 then -x else x := by
    simp only [magnitude, lt, decide_eq_true_eq]
    rfl
  rw [hopened]
  split_ifs with hx
  · exact (abs_of_neg hx).symm
  · exact (abs_of_nonneg (not_lt.mp hx)).symm

theorem sum_rat (xs : List Rat) : sum xs = xs.sum := by
  show xs.foldl (· + ·) 0 = xs.sum
  rw [List.sum_eq_foldl]

end Scalar
end RepoSurvey
