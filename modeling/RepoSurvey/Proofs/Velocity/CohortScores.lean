import RepoSurvey.Proofs.Number.DoubleWhole
import RepoSurvey.Proofs.Number.ExactScalar
import RepoSurvey.Proofs.Velocity.CohortOrder

/-!
# The scores of a cohort in exact arithmetic

A member of a cohort is scored by a function of its own value that never decreases. The other members decide only
whether the cohort is scaled down, and how far.

* `Cohort.finish_eq`: the last step rounds to two places and keeps the score between 0 and 100.
* `Cohort.peak_spec`: the peak of some rationals is the greatest of them.
* `Cohort.scoreUnder_mono`, `scoreUnder_of_le`, `scoreUnder_peak`: what a member gets under a peak.
* `Cohort.IsScoring`: what the scores of a cohort are.
* `Cohort.normalize_scores`: the scores of every cohort, beside those of another one.
-/

namespace RepoSurvey
namespace Cohort

variable {reference referenceScore x y v v' top : Rat} {values others : List Rat}

/-! ### The last step -/

section Finish

theorem clamp_eq (x : Rat) : clamp x = min (max x 0) 100 := Scalar.clamp_rat x 0 100

theorem clamp_mono (h : x ≤ y) : clamp x ≤ clamp y := by
  rw [clamp_eq, clamp_eq]
  exact min_le_min_right 100 (max_le_max_right 0 h)

/-- Rounding a hundredfold to a whole number is rounding to two places. -/
theorem finish_eq (x : Rat) : finish x = clamp (Rat.roundPlaces 2 x) := by
  have hopened : finish x = clamp (Rat.roundPlaces 0 (x * 100) / 100) := by
    rw [← Scalar.roundPlaces_rat]
    rfl
  have hone : (pow10 0 : Nat) = 1 := rfl
  have hhundred : (pow10 2 : Nat) = 100 := rfl
  rw [hopened, Rat.roundPlaces, Rat.roundPlaces, Rat.mkRat_eq_div, Rat.mkRat_eq_div, hone, hhundred, Nat.cast_one,
    mul_one, div_one, Nat.cast_ofNat]

theorem finish_mono (h : x ≤ y) : finish x ≤ finish y := by
  rw [finish_eq, finish_eq]
  exact clamp_mono (Rat.roundPlaces_mono 2 h)

theorem finish_inRange (x : Rat) : 0 ≤ finish x ∧ finish x ≤ 100 := by
  rw [finish_eq, clamp_eq]
  exact ⟨le_min (le_max_right _ _) (by norm_num), min_le_right _ _⟩

/-- The greatest score is not changed by the last step. -/
theorem finish_hundred : finish (100 : Rat) = 100 := by
  have hkept := Rat.roundPlaces_natCast 2 100
  rw [Nat.cast_ofNat] at hkept
  rw [finish_eq, hkept, clamp_eq]
  norm_num

end Finish

/-! ### The peak -/

section Peak

/-- The peak of some rationals is one of them that none exceeds. -/
theorem peak_spec (h : values ≠ []) : peak values ∈ values ∧ ∀ v ∈ values, v ≤ peak values := by
  obtain ⟨x, rest, rfl⟩ := List.exists_cons_of_ne_nil h
  have hpeak : peak (x :: rest) = rest.foldl max x := congrArg (rest.foldl · x) (funext₂ Scalar.larger_rat)
  rw [hpeak]
  exact List.max?_eq_some_iff.mp List.max?_cons'

end Peak

/-! ### Scores under a peak -/

section Scores

theorem scoreUnder_eq (hreference : 0 < reference) : scoreUnder top reference referenceScore v =
    finish (if 100 < top then v / reference * referenceScore / top * 100 else v / reference * referenceScore) := by
  have hpositive : Scalar.le reference Scalar.zero = false := decide_eq_false (not_le.mpr hreference)
  have hopened : scoreUnder top reference referenceScore v =
      finish (if Scalar.lt 100 top then v / reference * referenceScore / top * 100
        else v / reference * referenceScore) := by
    rw [scoreUnder, hpositive]
    rfl
  rw [hopened]
  simp only [Scalar.lt, decide_eq_true_eq]

/-- A greater value does not get a lower score. -/
theorem scoreUnder_mono (hreference : 0 < reference) (hscore : 0 ≤ referenceScore) (h : v ≤ v') :
    scoreUnder top reference referenceScore v ≤ scoreUnder top reference referenceScore v' := by
  have hprovisional : v / reference * referenceScore ≤ v' / reference * referenceScore :=
    mul_le_mul_of_nonneg_right (div_le_div_of_nonneg_right h hreference.le) hscore
  rw [scoreUnder_eq hreference, scoreUnder_eq hreference]
  refine finish_mono ?_
  split_ifs with htop
  · have hpos : 0 ≤ top := by linarith
    exact mul_le_mul_of_nonneg_right (div_le_div_of_nonneg_right hprovisional hpos) (by norm_num)
  · exact hprovisional

/-- Under a peak that is not too high every member has its own score. -/
theorem scoreUnder_of_le (hreference : 0 < reference) (htop : top ≤ 100) : scoreUnder top reference referenceScore v =
    clamp (Rat.roundPlaces 2 (v / reference * referenceScore)) := by
  rw [scoreUnder_eq hreference, if_neg (not_lt.mpr htop), finish_eq]

/-- Under a peak that is too high its own member gets the greatest score. -/
theorem scoreUnder_peak (hreference : 0 < reference) (htop : 100 < v / reference * referenceScore) :
    scoreUnder (v / reference * referenceScore) reference referenceScore v = 100 := by
  have hne : v / reference * referenceScore ≠ 0 := by linarith
  rw [scoreUnder_eq hreference, if_pos htop, div_self hne, one_mul, finish_hundred]

end Scores

/-! ### Cohorts -/

section Cohorts

/-- What the scores of a cohort are. The values are measured on the scale on which the reference has its score. -/
structure IsScoring (reference referenceScore : Rat) (values scores : List Rat) : Prop where
  length_eq : scores.length = values.length
  inRange : ∀ s ∈ scores, 0 ≤ s ∧ s ≤ 100
  /-- A smaller value never gets a greater score. -/
  ordered : ∀ p ∈ values.zip scores, ∀ p' ∈ values.zip scores, p.1 ≤ p'.1 → p.2 ≤ p'.2
  /-- If a value is above the scale, the greatest score is 100. -/
  reachesTop : (∃ v ∈ values, 100 < v / reference * referenceScore) → 100 ∈ scores
  /-- If no value is above the scale, each one is its own score. -/
  ownScore : (∀ v ∈ values, v / reference * referenceScore ≤ 100) →
    ∀ p ∈ values.zip scores, p.2 = clamp (Rat.roundPlaces 2 (p.1 / reference * referenceScore))

/-- The values of a cohort on the scale of the reference, and the greatest of them. -/
abbrev topOf (reference referenceScore : Rat) (values : List Rat) : Rat :=
  peak (values.map (provisional reference referenceScore))

theorem topOf_spec (reference referenceScore : Rat) (h : values ≠ []) :
    (∃ v ∈ values, v / reference * referenceScore = topOf reference referenceScore values) ∧
      ∀ v ∈ values, v / reference * referenceScore ≤ topOf reference referenceScore values := by
  have hne : values.map (provisional reference referenceScore) ≠ [] := by simpa using h
  obtain ⟨hmem, hle⟩ := peak_spec hne
  exact ⟨List.mem_map.mp hmem, fun v hv => hle _ (List.mem_map_of_mem hv)⟩

theorem zip_normalize (reference referenceScore : Rat) (values : List Rat) :
    values.zip (normalize values reference referenceScore) =
      values.map fun v => (v, scoreUnder (topOf reference referenceScore values) reference referenceScore v) := by
  rw [normalize_eq]
  exact List.map_prod_left_eq_zip.symm

/-- Members of a cohort in another order have the same peak. -/
theorem topOf_of_perm (h : values.Perm others) :
    topOf reference referenceScore values = topOf reference referenceScore others := by
  by_cases hvalues : values = []
  · subst hvalues
    rw [List.nil_perm.mp h]
  · have hothers : others ≠ [] := fun hnil => hvalues (List.perm_nil.mp (hnil ▸ h))
    obtain ⟨⟨v, hv, htop⟩, hle⟩ := topOf_spec reference referenceScore hvalues
    obtain ⟨⟨w, hw, htop'⟩, hle'⟩ := topOf_spec reference referenceScore hothers
    refine le_antisymm ?_ ?_
    · rw [← htop]
      exact hle' v (h.mem_iff.mp hv)
    · rw [← htop']
      exact hle w (h.mem_iff.mpr hw)

theorem topOf_le (h : ∀ v ∈ values, v / reference * referenceScore ≤ 100) :
    topOf reference referenceScore values ≤ 100 := by
  by_cases hvalues : values = []
  · rw [hvalues]
    exact (by norm_num : (0 : Rat) ≤ 100)
  · obtain ⟨⟨v, hv, htop⟩, -⟩ := topOf_spec reference referenceScore hvalues
    rw [← htop]
    exact h v hv

theorem isScoring_normalize (hreference : 0 < reference) (hscore : 0 ≤ referenceScore) (values : List Rat) :
    IsScoring reference referenceScore values (normalize values reference referenceScore) where
  length_eq := by rw [normalize_eq, List.length_map]
  inRange := by
    intro s hs
    rw [normalize_eq] at hs
    obtain ⟨v, -, rfl⟩ := List.mem_map.mp hs
    rw [scoreUnder_eq hreference]
    exact finish_inRange _
  ordered := by
    intro p hp p' hp' h
    rw [zip_normalize] at hp hp'
    obtain ⟨v, -, rfl⟩ := List.mem_map.mp hp
    obtain ⟨v', -, rfl⟩ := List.mem_map.mp hp'
    exact scoreUnder_mono hreference hscore h
  reachesTop := by
    rintro ⟨v, hv, habove⟩
    obtain ⟨⟨w, hw, htop⟩, hle⟩ := topOf_spec reference referenceScore
      (List.ne_nil_of_mem hv)
    have hscaled : 100 < w / reference * referenceScore := by
      rw [htop]
      exact habove.trans_le (hle v hv)
    rw [normalize_eq, List.mem_map]
    refine ⟨w, hw, ?_⟩
    rw [← topOf, ← htop, scoreUnder_peak hreference hscaled]
  ownScore := by
    intro hbelow p hp
    rw [zip_normalize] at hp
    obtain ⟨v, -, rfl⟩ := List.mem_map.mp hp
    exact scoreUnder_of_le hreference (topOf_le hbelow)

/-- **The scores of a cohort in exact arithmetic.** There is one score between 0 and 100 for each value, a smaller value
never gets a greater score, and the greatest score is 100 if a value is above the scale. In a cohort without such values
every score is that of its own value, the same as in any other cohort without them, be it one with members added or
removed. In another order every value keeps its score. -/
theorem normalize_scores (hreference : 0 < reference) (hscore : 0 ≤ referenceScore) (values : List Rat) :
    IsScoring reference referenceScore values (normalize values reference referenceScore) ∧
      ∀ others : List Rat,
        ((∀ v ∈ values ++ others, v / reference * referenceScore ≤ 100) →
          ∀ p ∈ values.zip (normalize values reference referenceScore),
            ∀ p' ∈ others.zip (normalize others reference referenceScore), p.1 = p'.1 → p.2 = p'.2) ∧
        (values.Perm others →
          (values.zip (normalize values reference referenceScore)).Perm
            (others.zip (normalize others reference referenceScore))) := by
  refine ⟨isScoring_normalize hreference hscore values, fun others => ⟨?_, ?_⟩⟩
  · intro hbelow p hp p' hp' h
    obtain ⟨hvalues, hothers⟩ := List.forall_mem_append.mp hbelow
    rw [(isScoring_normalize hreference hscore values).ownScore hvalues p hp,
      (isScoring_normalize hreference hscore others).ownScore hothers p' hp', h]
  · intro hperm
    rw [zip_normalize, zip_normalize, topOf_of_perm hperm]
    exact hperm.map _

/-- A cohort with a value below zero and one above the scale, and two cohorts on the scale that share a member. -/
theorem normalize_scores_of_scaled :
    let scaled : List Rat := normalize [3000, -5, 1, 375] 750 50
    let small : List Rat := [375, -5]
    let large : List Rat := [1500, 375, 2]
    (0 : Rat) < 750 ∧ (0 : Rat) ≤ 50 ∧
      scaled = [100, 0, 0.03, 12.5] ∧ IsScoring 750 50 [3000, -5, 1, 375] scaled ∧
      (∀ v ∈ small ++ large, v / 750 * 50 ≤ 100) ∧
      (∀ p ∈ small.zip (normalize small 750 50), ∀ p' ∈ large.zip (normalize large 750 50),
        p.1 = p'.1 → p.2 = p'.2) ∧
      small.Perm [-5, 375] ∧
      (small.zip (normalize small 750 50)).Perm ([-5, 375].zip (normalize [-5, 375] 750 50)) := by
  intro scaled small large
  have hreference : (0 : Rat) < 750 := by decide
  have hscore : (0 : Rat) ≤ 50 := by decide
  have hbelow : ∀ v ∈ small ++ large, v / 750 * 50 ≤ 100 := by decide +kernel
  have hperm : small.Perm [-5, 375] := .swap _ _ _
  obtain ⟨hscaled, -⟩ := normalize_scores hreference hscore [3000, -5, 1, 375]
  obtain ⟨-, hsmall⟩ := normalize_scores hreference hscore small
  exact ⟨hreference, hscore, by decide +kernel, hscaled, hbelow, (hsmall large).1 hbelow, hperm,
    (hsmall [-5, 375]).2 hperm⟩

end Cohorts

end Cohort
end RepoSurvey
