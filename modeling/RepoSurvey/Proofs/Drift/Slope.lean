import Mathlib.Algebra.Order.Chebyshev
import Mathlib.Algebra.BigOperators.Intervals
import Mathlib.Algebra.Order.BigOperators.Group.Finset
import Mathlib.Data.List.GetD
import Mathlib.Tactic.Linarith
import Mathlib.Tactic.NormNum
import RepoSurvey.Drift.Trend
import RepoSurvey.Proofs.Number.ExactScalar

/-!
# The slope of a series in exact arithmetic

The slope of a series lies between its smallest and its greatest step. What is left of a series when a straight line of
the smallest step is taken off it never falls, and by Chebyshev's inequality a series that never falls has no negative
slope.

* `Series.moment`, `Series.spread`: the numerator of the slope and its denominator.
* `Series.spread_pos`, `Series.moment_nonneg`: the denominator, and the numerator of a series that never falls.
* `slope_eq`, `le_slope`, `slope_le`: the slope, between two bounds of the steps.
* `slope_shift`, `slope_reverse`: the slope of a series that is shifted, and of one from its end.
* `TrendDirection.of_steps`: what that means for the direction of a trend.
-/

namespace RepoSurvey

open Finset

/-! ### Numbers by their places -/

namespace Series

variable {n : Nat} {f g : Nat → Rat} {m : Rat}

/-- The distance of a place from the middle of `n` places. -/
def offset (n i : Nat) : Rat := i - ((n : Rat) - 1) / 2

/-- The sum of the numbers, each times the distance of its place from the middle. -/
def moment (n : Nat) (f : Nat → Rat) : Rat := ∑ i ∈ range n, offset n i * f i

/-- The sum of the squared distances from the middle. -/
def spread (n : Nat) : Rat := ∑ i ∈ range n, offset n i * offset n i

theorem sum_offset (n : Nat) : ∑ i ∈ range n, offset n i = 0 := by
  have hplaces (k : Nat) : ∑ i ∈ range k, (i : Rat) = k * ((k : Rat) - 1) / 2 := by
    induction k with
    | zero => simp
    | succ k ih =>
      rw [sum_range_succ, ih]
      push_cast
      ring
  simp only [offset, sum_sub_distrib, hplaces, sum_const, card_range, nsmul_eq_mul]
  ring

theorem spread_pos (h : 2 ≤ n) : 0 < spread n := by
  have hn : (2 : Rat) ≤ n := by exact_mod_cast h
  have hfirst : offset n 0 ≠ 0 := by
    rw [offset, Nat.cast_zero]
    linarith
  exact sum_pos' (fun i _ => mul_self_nonneg _) ⟨0, mem_range.mpr (by omega), mul_self_pos.mpr hfirst⟩

theorem moment_congr (h : ∀ i < n, f i = g i) : moment n f = moment n g :=
  sum_congr rfl fun i hi => by rw [h i (mem_range.mp hi)]

/-- A straight line that is added to a series adds its slope. -/
theorem moment_add_line (n : Nat) (f : Nat → Rat) (m c : Rat) :
    moment n (fun i => f i + (m * i + c)) = moment n f + m * spread n := by
  have hline : ∀ i ∈ range n, offset n i * (f i + (m * i + c)) = offset n i * f i + m * (offset n i * offset n i) +
      (m * (((n : Rat) - 1) / 2) + c) * offset n i := by
    intro i _
    rw [offset]
    ring
  rw [moment, sum_congr rfl hline, sum_add_distrib, sum_add_distrib, ← mul_sum, ← mul_sum, sum_offset, mul_zero,
    add_zero, moment, spread]

theorem moment_neg (n : Nat) (f : Nat → Rat) : moment n (fun i => -f i) = -moment n f := by
  simp only [moment, mul_neg, sum_neg_distrib]

/-- Seen from its end the series has the opposite moment. -/
theorem moment_reflect (n : Nat) (f : Nat → Rat) : moment n (fun i => f (n - 1 - i)) = -moment n f := by
  have hmirror : ∀ i ∈ range n, offset n (n - 1 - i) * f (n - 1 - i) = -(offset n i * f (n - 1 - i)) := by
    intro i hi
    have hin : i + 1 ≤ n := mem_range.mp hi
    have hplace : ((n - 1 - i : Nat) : Rat) = (n : Rat) - 1 - i := by
      rw [Nat.sub_sub, Nat.cast_sub (by omega)]
      push_cast
      ring
    rw [offset, hplace, offset]
    ring
  have hsum := sum_range_reflect (fun i => offset n i * f i) n
  rw [sum_congr rfl hmirror, sum_neg_distrib] at hsum
  rw [moment, moment, ← hsum, neg_neg]

/-- A series that never falls has no negative moment. -/
theorem moment_nonneg (h : ∀ i, i + 1 < n → f i ≤ f (i + 1)) : 0 ≤ moment n f := by
  have hrises : MonotoneOn f (range n) := by
    intro i _ j hj hij
    have hj : j < n := mem_range.mp hj
    induction j, hij using Nat.le_induction with
    | base => exact le_rfl
    | succ j _ ih => exact (ih (mem_coe.mpr (mem_range.mpr (by omega))) (by omega)).trans (h j hj)
  have hplaces : MonotoneOn (offset n) (range n) := by
    intro i _ j _ hij
    exact sub_le_sub_right (Nat.cast_le.mpr hij) _
  have hchebyshev := (hplaces.monovaryOn hrises).sum_mul_sum_le_card_mul_sum
  rw [sum_offset, zero_mul, card_range] at hchebyshev
  rcases Nat.eq_zero_or_pos n with rfl | hn
  · exact le_rfl
  · exact nonneg_of_mul_nonneg_right hchebyshev (Nat.cast_pos.mpr hn)

/-- A series that rises by at least so much at every step. -/
theorem mul_spread_le_moment (h : ∀ i, i + 1 < n → m ≤ f (i + 1) - f i) : m * spread n ≤ moment n f := by
  have hrest : ∀ i, i + 1 < n → f i + (-m * i + 0) ≤ f (i + 1) + (-m * (i + 1 : Nat) + 0) := by
    intro i hi
    have hstep := h i hi
    push_cast
    linarith
  have hnonneg := moment_nonneg hrest
  rw [moment_add_line] at hnonneg
  linarith

end Series

/-! ### Slopes -/

section Slopes

open Series

variable {values : List Rat} {m M : Rat}

theorem fromMiddle_eq (n i : Nat) : (fromMiddle n i : Rat) = offset n i := by
  show ((i : Int) : Rat) - (((n : Int) - 1 : Int) : Rat) / ((2 : Int) : Rat) = offset n i
  rw [offset]
  push_cast
  ring

theorem sum_mapIdx (values : List Rat) (f : Nat → Rat → Rat) :
    (values.mapIdx f).sum = ∑ i ∈ range values.length, f i (values.getD i 0) := by
  induction values using List.reverseRecOn with
  | nil => rfl
  | append_singleton values v ih =>
    have hbefore : ∀ i ∈ range values.length, f i ((values ++ [v]).getD i 0) = f i (values.getD i 0) := by
      intro i hi
      rw [List.getD_append _ _ _ _ (mem_range.mp hi)]
    have hlast : (values ++ [v]).getD values.length 0 = v := by
      rw [List.getD_append_right _ _ _ _ le_rfl, Nat.sub_self]
      rfl
    rw [List.mapIdx_concat, List.sum_append, ih, List.length_append, List.length_singleton, sum_range_succ,
      sum_congr rfl hbefore, hlast, List.sum_singleton]

/-- The sum of the squared distances from the middle, as the slope is divided by it. -/
theorem spread_eq (n : Nat) :
    Scalar.sum ((List.range n).map fun i => (fromMiddle n i * fromMiddle n i : Rat)) = spread n := by
  simp only [Scalar.sum_rat, fromMiddle_eq]
  rfl

theorem slope_eq (h : 2 ≤ values.length) :
    slope values = moment values.length (fun i => values.getD i 0) / spread values.length := by
  have hopened : slope values =
      Scalar.sum (values.mapIdx fun i v => fromMiddle values.length i * (v - Scalar.mean values)) /
        Scalar.sum ((List.range values.length).map fun i =>
          (fromMiddle values.length i * fromMiddle values.length i : Rat)) :=
    if_neg (by omega)
  have hmean := moment_add_line values.length (fun i => values.getD i 0) 0 (-Scalar.mean values)
  rw [zero_mul, add_zero] at hmean
  rw [hopened, spread_eq, Scalar.sum_rat, sum_mapIdx, ← hmean]
  simp only [fromMiddle_eq, zero_mul, zero_add, sub_eq_add_neg]
  rfl

theorem slope_of_short (h : values.length < 2) : slope values = 0 := if_pos h

/-- A series of the same length whose moment is a multiple of the other one's has that multiple of its slope. -/
theorem slope_of_moment {values' : List Rat} {factor : Rat} (hlength : values'.length = values.length)
    (hmoment : moment values.length (fun i => values'.getD i 0) =
      factor * moment values.length fun i => values.getD i 0) : slope values' = factor * slope values := by
  by_cases h : 2 ≤ values.length
  · rw [slope_eq h, slope_eq (hlength ▸ h), hlength, hmoment, mul_div_assoc]
  · rw [slope_of_short (by omega), slope_of_short (by omega), mul_zero]

theorem getD_map (f : Rat → Rat) {i : Nat} (hi : i < values.length) :
    (values.map f).getD i 0 = f (values.getD i 0) := by
  rw [List.getD_eq_getElem _ _ hi, List.getD_eq_getElem _ _ (by rwa [List.length_map]), List.getElem_map]

/-- **A series that is shifted** keeps its slope. -/
theorem slope_shift (values : List Rat) (c : Rat) : slope (values.map (· + c)) = slope values := by
  have hline := moment_add_line values.length (fun i => values.getD i 0) 0 c
  rw [zero_mul, add_zero] at hline
  rw [← one_mul (slope values)]
  refine slope_of_moment (List.length_map _) ?_
  rw [one_mul, ← hline]
  exact moment_congr fun i hi => by rw [getD_map _ hi, zero_mul, zero_add]

theorem slope_neg (values : List Rat) : slope (values.map (-·)) = -slope values := by
  rw [neg_eq_neg_one_mul]
  refine slope_of_moment (List.length_map _) ?_
  rw [← neg_eq_neg_one_mul, ← moment_neg]
  exact moment_congr fun i hi => getD_map (-·) hi

/-- **Seen from its end** a series has the opposite slope. -/
theorem slope_reverse (values : List Rat) : slope values.reverse = -slope values := by
  rw [neg_eq_neg_one_mul]
  refine slope_of_moment List.length_reverse ?_
  rw [← neg_eq_neg_one_mul, ← moment_reflect]
  exact moment_congr fun i hi => congrFun (List.getD_reverse i hi) 0

/-! ### Bounds by the steps -/

theorem getD_step {R : Rat → Rat → Prop} (h : values.IsChain R) {i : Nat} (hi : i + 1 < values.length) :
    R (values.getD i 0) (values.getD (i + 1) 0) := by
  rw [List.getD_eq_getElem _ _ hi, List.getD_eq_getElem _ _ (by omega)]
  exact List.isChain_iff_getElem.mp h i hi

/-- The slope is not less than a bound below all steps. -/
theorem le_slope (h : 2 ≤ values.length) (hsteps : values.IsChain fun v w => m ≤ w - v) : m ≤ slope values := by
  rw [slope_eq h, le_div_iff₀ (spread_pos h)]
  exact mul_spread_le_moment fun i hi => getD_step hsteps hi

/-- The steps of a series with two values or more have a smallest one. -/
theorem exists_smallest_step (h : 2 ≤ values.length) : ∃ i, i + 1 < values.length ∧
    values.IsChain fun v w => values.getD (i + 1) 0 - values.getD i 0 ≤ w - v := by
  obtain ⟨i, hi, hleast⟩ := exists_min_image (range (values.length - 1))
    (fun i => values.getD (i + 1) 0 - values.getD i 0) ⟨0, mem_range.mpr (by omega)⟩
  rw [mem_range] at hi
  refine ⟨i, by omega, List.isChain_iff_getElem.mpr fun j hj => ?_⟩
  have hstep := hleast j (mem_range.mpr (by omega))
  rwa [List.getD_eq_getElem (n := j + 1) _ _ hj, List.getD_eq_getElem (n := j) _ _ (by omega)] at hstep

theorem lt_slope (h : 2 ≤ values.length) (hsteps : values.IsChain fun v w => m < w - v) : m < slope values := by
  obtain ⟨i, hi, hleast⟩ := exists_smallest_step h
  exact (getD_step hsteps hi).trans_le (le_slope h hleast)

theorem slope_le (h : 2 ≤ values.length) (hsteps : values.IsChain fun v w => w - v ≤ M) : slope values ≤ M := by
  have hopposite : -M ≤ slope (values.map (-·)) := by
    refine le_slope (by rwa [List.length_map]) ((List.isChain_map _).mpr (hsteps.imp fun v w hstep => ?_))
    linarith
  rw [slope_neg] at hopposite
  linarith

theorem slope_lt (h : 2 ≤ values.length) (hsteps : values.IsChain fun v w => w - v < M) : slope values < M := by
  have hopposite : -M < slope (values.map (-·)) := by
    refine lt_slope (by rwa [List.length_map]) ((List.isChain_map _).mpr (hsteps.imp fun v w hstep => ?_))
    linarith
  rw [slope_neg] at hopposite
  linarith

end Slopes

/-! ### Directions -/

namespace TrendDirection

variable {values : List Rat}

/-- The direction of a series seen from its end. -/
def opposite : TrendDirection → TrendDirection
  | improving => degrading
  | stable => stable
  | degrading => improving

theorem of_eq (values : List Rat) : of values =
    if 0.05 < slope values then degrading else if slope values < -0.05 then improving else stable := by
  show (if Scalar.lt (0.05 : Rat) (slope values) then degrading
    else if Scalar.lt (slope values) (-0.05 : Rat) then improving else stable) = _
  simp only [Scalar.lt, decide_eq_true_eq]

theorem of_neg_slope {values' : List Rat} (h : slope values' = -slope values) : of values' = (of values).opposite := by
  rw [of_eq, of_eq, h]
  split_ifs <;> first | rfl | linarith

/-- **The direction of a trend by its steps.** The slope of two values or more lies between any two bounds of the steps,
and its denominator is positive. So a series is degrading, improving or stable if all its steps are beyond the limit, or
within it. A series that is shifted keeps its direction, and seen from its end it has the opposite one. -/
theorem of_steps (values : List Rat) :
    (2 ≤ values.length →
      (0 : Rat) < Scalar.sum ((List.range values.length).map fun i =>
        fromMiddle values.length i * fromMiddle values.length i) ∧
      (∀ m M : Rat, (values.IsChain fun v w => m ≤ w - v ∧ w - v ≤ M) → m ≤ slope values ∧ slope values ≤ M) ∧
      ((values.IsChain fun v w => 0.05 < w - v) → of values = degrading) ∧
      ((values.IsChain fun v w => w - v < -0.05) → of values = improving) ∧
      ((values.IsChain fun v w => -0.05 ≤ w - v ∧ w - v ≤ 0.05) → of values = stable)) ∧
    (∀ c : Rat, of (values.map (· + c)) = of values) ∧ of values.reverse = (of values).opposite := by
  refine ⟨?_, ?_, of_neg_slope (slope_reverse values)⟩
  · intro h
    refine ⟨?_, ?_, ?_, ?_, ?_⟩
    · rw [spread_eq]
      exact Series.spread_pos h
    · intro m M hsteps
      exact ⟨le_slope h (hsteps.imp fun _ _ hstep => hstep.1), slope_le h (hsteps.imp fun _ _ hstep => hstep.2)⟩
    · intro hsteps
      rw [of_eq, if_pos (lt_slope h hsteps)]
    · intro hsteps
      have hfalls := slope_lt h hsteps
      rw [of_eq, if_neg (by linarith), if_pos hfalls]
    · intro hsteps
      have hlow := le_slope h (hsteps.imp fun _ _ hstep => hstep.1)
      have hhigh := slope_le h (hsteps.imp fun _ _ hstep => hstep.2)
      rw [of_eq, if_neg (not_lt.mpr hhigh), if_neg (not_lt.mpr hlow)]
  · intro c
    rw [of_eq, of_eq, slope_shift]

/-- Three values with two different steps, both beyond the limit. -/
theorem of_steps_of_three : 2 ≤ [1, 2, (5 : Rat)].length ∧
    ([1, 2, (5 : Rat)].IsChain fun v w => 1 ≤ w - v ∧ w - v ≤ 3) ∧ 1 ≤ slope [1, 2, (5 : Rat)] ∧
    slope [1, 2, (5 : Rat)] ≤ 3 ∧ of [1, 2, (5 : Rat)] = degrading ∧ of [1, 2, (5 : Rat)].reverse = improving := by
  have hsteps : [1, 2, (5 : Rat)].IsChain fun v w => 1 ≤ w - v ∧ w - v ≤ 3 := by
    norm_num
  have hrises : [1, 2, (5 : Rat)].IsChain fun v w => 0.05 < w - v := by
    norm_num
  obtain ⟨hbounds, -, hreverse⟩ := of_steps [1, 2, 5]
  obtain ⟨-, hbetween, hdegrading, -, -⟩ := hbounds (by decide)
  have hdirection := hdegrading hrises
  obtain ⟨hlow, hhigh⟩ := hbetween 1 3 hsteps
  rw [hdirection] at hreverse
  exact ⟨by decide, hsteps, hlow, hhigh, hdirection, hreverse⟩

end TrendDirection
end RepoSurvey
