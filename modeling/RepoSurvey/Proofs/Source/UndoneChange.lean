import Mathlib.Algebra.Order.BigOperators.Group.List
import RepoSurvey.Proofs.Number.ExactScalar
import RepoSurvey.Proofs.Number.Nearest
import RepoSurvey.Source.ComplexityDelta

/-!
# Changes that are undone

In exact arithmetic a change that is undone has the reductions and additions of the change the other way round, and its
refactoring ratio is what the ratio of the change leaves of one.

* `ComplexityDelta.IsSplit`: a change is a reduction or an addition, never both.
* `ComplexityDelta.undone`: the change from the later value to the earlier one.
* `ComplexityDelta.refactoringRatio_undone`: the ratio of changes that are undone.
* `ComplexityDelta.ofTexts_exchange`: the changes between two states of a repository, there and back.
-/

namespace RepoSurvey
namespace ComplexityDelta

/-! ### One file -/

section Delta

/-- A change is split into a reduction and an addition, one of which is zero. -/
structure IsSplit (d : ComplexityDelta Rat) : Prop where
  one_sided : d.reduction = 0 ∨ d.addition = 0
  change : d.change = d.addition - d.reduction
  reduction_nonneg : 0 ≤ d.reduction
  addition_nonneg : 0 ≤ d.addition

/-- The change from the later value to the earlier one. -/
def undone (d : ComplexityDelta Rat) : ComplexityDelta Rat :=
  { d with
    before := d.after, after := d.before, change := -d.change, reduction := d.addition, addition := d.reduction }

variable (filePath : String) (before after : Rat)

theorem change_ofValues : (ofValues filePath before after).change = Rat.roundPlaces 2 (after - before) :=
  Scalar.roundPlaces_rat 2 _

/-- A reduction is what the earlier value has more than the later one. -/
theorem reduction_ofValues :
    (ofValues filePath before after).reduction = Rat.roundPlaces 2 (max (before - after) 0) := by
  have hopened : (ofValues filePath before after).reduction =
      if decide (after - before < 0) then Scalar.roundPlaces 2 (-(after - before)) else 0 := rfl
  rw [hopened, Scalar.roundPlaces_rat, neg_sub]
  simp only [decide_eq_true_eq]
  split
  · next hless => rw [max_eq_left (by linarith)]
  · next hless => rw [max_eq_right (by linarith), Rat.roundPlaces_zero]

/-- An addition is what the later value has more than the earlier one. -/
theorem addition_ofValues :
    (ofValues filePath before after).addition = Rat.roundPlaces 2 (max (after - before) 0) := by
  have hopened : (ofValues filePath before after).addition =
      if decide (0 < after - before) then Scalar.roundPlaces 2 (after - before) else 0 := rfl
  rw [hopened, Scalar.roundPlaces_rat]
  simp only [decide_eq_true_eq]
  split
  · next hless => rw [max_eq_left hless.le]
  · next hless => rw [max_eq_right (not_lt.mp hless), Rat.roundPlaces_zero]

theorem isSplit_ofValues : (ofValues filePath before after).IsSplit := by
  rcases le_total before after with hle | hle
  · have hreduction : (ofValues filePath before after).reduction = 0 := by
      rw [reduction_ofValues, max_eq_right (sub_nonpos.mpr hle), Rat.roundPlaces_zero]
    have haddition : (ofValues filePath before after).addition = Rat.roundPlaces 2 (after - before) := by
      rw [addition_ofValues, max_eq_left (sub_nonneg.mpr hle)]
    refine ⟨.inl hreduction, ?_, hreduction.ge, ?_⟩
    · rw [change_ofValues, haddition, hreduction, sub_zero]
    · rw [haddition]
      exact Rat.roundPlaces_nonneg 2 (sub_nonneg.mpr hle)
  · have haddition : (ofValues filePath before after).addition = 0 := by
      rw [addition_ofValues, max_eq_right (sub_nonpos.mpr hle), Rat.roundPlaces_zero]
    have hreduction : (ofValues filePath before after).reduction = Rat.roundPlaces 2 (before - after) := by
      rw [reduction_ofValues, max_eq_left (sub_nonneg.mpr hle)]
    refine ⟨.inr haddition, ?_, ?_, haddition.ge⟩
    · rw [change_ofValues, haddition, hreduction, zero_sub, ← Rat.roundPlaces_neg, neg_sub]
    · rw [hreduction]
      exact Rat.roundPlaces_nonneg 2 (sub_nonneg.mpr hle)

theorem ofValues_exchange : ofValues filePath after before = (ofValues filePath before after).undone := by
  have hchange : (ofValues filePath after before).change = -(ofValues filePath before after).change := by
    rw [change_ofValues, change_ofValues, ← Rat.roundPlaces_neg, neg_sub]
  have hreduction : (ofValues filePath after before).reduction = (ofValues filePath before after).addition := by
    rw [reduction_ofValues, addition_ofValues]
  have haddition : (ofValues filePath after before).addition = (ofValues filePath before after).reduction := by
    rw [reduction_ofValues, addition_ofValues]
  rw [undone, ← hchange, ← hreduction, ← haddition]
  rfl

end Delta

theorem IsSplit.undone {d : ComplexityDelta Rat} (h : d.IsSplit) : d.undone.IsSplit where
  one_sided := h.one_sided.symm
  change := by
    show -d.change = d.reduction - d.addition
    rw [h.change, neg_sub]
  reduction_nonneg := h.addition_nonneg
  addition_nonneg := h.reduction_nonneg

/-! ### The ratio -/

section Ratio

variable {deltas : List (ComplexityDelta Rat)}

/-- All reductions together. -/
def allReduction (deltas : List (ComplexityDelta Rat)) : Rat := (deltas.map (·.reduction)).sum

/-- All additions together. -/
def allAddition (deltas : List (ComplexityDelta Rat)) : Rat := (deltas.map (·.addition)).sum

/-- The reductions as a share of reductions and additions, before it is rounded. -/
def exactRatio (deltas : List (ComplexityDelta Rat)) : Rat :=
  allReduction deltas / (allReduction deltas + allAddition deltas)

theorem allReduction_undone : allReduction (deltas.map undone) = allAddition deltas := by
  rw [allReduction, List.map_map]
  rfl

theorem allAddition_undone : allAddition (deltas.map undone) = allReduction deltas := by
  rw [allAddition, List.map_map]
  rfl

theorem exactRatio_undone (hne : allReduction deltas + allAddition deltas ≠ 0) :
    exactRatio (deltas.map undone) = 1 - exactRatio deltas := by
  rw [exactRatio, exactRatio, allReduction_undone, allAddition_undone, eq_sub_iff_add_eq,
    add_comm (allAddition deltas) (allReduction deltas), ← add_div, add_comm (allAddition deltas), div_self hne]

section Split

variable (hsplit : ∀ d ∈ deltas, d.IsSplit)
include hsplit

theorem isSplit_undone : ∀ d ∈ deltas.map undone, d.IsSplit :=
  List.forall_mem_map.mpr fun d hd => (hsplit d hd).undone

theorem allReduction_nonneg : 0 ≤ allReduction deltas :=
  List.sum_nonneg (List.forall_mem_map.mpr fun d hd => (hsplit d hd).reduction_nonneg)

theorem allAddition_nonneg : 0 ≤ allAddition deltas :=
  List.sum_nonneg (List.forall_mem_map.mpr fun d hd => (hsplit d hd).addition_nonneg)

theorem exactRatio_mem : exactRatio deltas ∈ Set.Icc 0 1 := by
  have hreduction := allReduction_nonneg hsplit
  have haddition := allAddition_nonneg hsplit
  have hall := add_nonneg hreduction haddition
  exact ⟨div_nonneg hreduction hall, div_le_one_of_le₀ (le_add_of_nonneg_right haddition) hall⟩

/-- The bounds that the ratio is kept between are never reached over, and nothing changed leaves a quotient by zero. -/
theorem refactoringRatio_eq : refactoringRatio deltas = Rat.roundPlaces 3 (exactRatio deltas) := by
  have hopened : refactoringRatio deltas = if decide (Scalar.sum (deltas.map (·.reduction)) +
      Scalar.sum (deltas.map (·.addition)) ≤ 0) then 0 else Scalar.roundPlaces 3 (Scalar.clamp 0 1
        (Scalar.sum (deltas.map (·.reduction)) /
          (Scalar.sum (deltas.map (·.reduction)) + Scalar.sum (deltas.map (·.addition))))) := rfl
  rw [hopened, Scalar.sum_rat, Scalar.sum_rat, Scalar.roundPlaces_rat, Scalar.clamp_rat]
  simp only [decide_eq_true_eq]
  change (if allReduction deltas + allAddition deltas ≤ 0 then 0 else
    Rat.roundPlaces 3 (min (max (exactRatio deltas) 0) 1)) = _
  split
  · next hle =>
    have hzero := le_antisymm hle (add_nonneg (allReduction_nonneg hsplit) (allAddition_nonneg hsplit))
    rw [exactRatio, hzero, div_zero, Rat.roundPlaces_zero]
  · obtain ⟨hlow, hhigh⟩ := exactRatio_mem hsplit
    rw [max_eq_left hlow, min_eq_left hhigh]

/-- Nothing changed at all where reductions and additions add up to zero. -/
theorem all_zero_of_add_eq_zero (h : allReduction deltas + allAddition deltas = 0) :
    ∀ d ∈ deltas, d.reduction = 0 ∧ d.addition = 0 := by
  have hreduction := allReduction_nonneg hsplit
  have haddition := allAddition_nonneg hsplit
  intro d hd
  constructor
  · refine List.all_zero_of_le_zero_le_of_sum_eq_zero (l := deltas.map (·.reduction)) ?_ ?_ (List.mem_map_of_mem hd)
    · exact List.forall_mem_map.mpr fun d hd => (hsplit d hd).reduction_nonneg
    · show allReduction deltas = 0
      linarith
  · refine List.all_zero_of_le_zero_le_of_sum_eq_zero (l := deltas.map (·.addition)) ?_ ?_ (List.mem_map_of_mem hd)
    · exact List.forall_mem_map.mpr fun d hd => (hsplit d hd).addition_nonneg
    · show allAddition deltas = 0
      linarith

/-- **The ratio of changes that are undone** is what theirs leaves of one. -/
theorem refactoringRatio_undone (hchanged : ∃ d ∈ deltas, d.reduction ≠ 0 ∨ d.addition ≠ 0) :
    refactoringRatio (deltas.map undone) = 1 - refactoringRatio deltas := by
  have hne : allReduction deltas + allAddition deltas ≠ 0 := fun hzero => by
    obtain ⟨d, hd, hdelta⟩ := hchanged
    obtain ⟨hreduction, haddition⟩ := all_zero_of_add_eq_zero hsplit hzero d hd
    exact hdelta.elim (absurd hreduction) (absurd haddition)
  obtain ⟨hlow, hhigh⟩ := exactRatio_mem hsplit
  rw [refactoringRatio_eq (isSplit_undone hsplit), refactoringRatio_eq hsplit, exactRatio_undone hne]
  exact Rat.roundPlaces_one_sub (by decide) hlow hhigh

theorem refactoringRatio_unchanged (hzero : ∀ d ∈ deltas, d.reduction = 0 ∧ d.addition = 0) :
    refactoringRatio deltas = 0 := by
  have hsum : allReduction deltas = 0 := List.sum_eq_zero (List.forall_mem_map.mpr fun d hd => (hzero d hd).1)
  rw [refactoringRatio_eq hsplit, exactRatio, hsum, zero_div, Rat.roundPlaces_zero]

end Split

end Ratio

/-! ### There and back -/

/-- One list of changes undoes the other, and so do the ratios unless nothing changed. -/
structure IsMirrored (there back : List (ComplexityDelta Rat)) : Prop where
  undone : back = there.map undone
  ratio : (∃ d ∈ there, d.reduction ≠ 0 ∨ d.addition ≠ 0) → refactoringRatio back = 1 - refactoringRatio there
  unchanged : (∀ d ∈ there, d.reduction = 0 ∧ d.addition = 0) →
    refactoringRatio there = 0 ∧ refactoringRatio back = 0

theorem isMirrored_undone {deltas : List (ComplexityDelta Rat)} (hsplit : ∀ d ∈ deltas, d.IsSplit) :
    IsMirrored deltas (deltas.map undone) where
  undone := rfl
  ratio := refactoringRatio_undone hsplit
  unchanged hzero := ⟨refactoringRatio_unchanged hsplit hzero, refactoringRatio_unchanged (isSplit_undone hsplit)
    (List.forall_mem_map.mpr fun d hd => (hzero d hd).symm)⟩

section Texts

variable (changed : List ChangedFile) (before after : Texts)

theorem isSplit_ofTexts : ∀ d ∈ (ofTexts changed before after : List (ComplexityDelta Rat)), d.IsSplit :=
  List.forall_mem_map.mpr fun _ _ => isSplit_ofValues _ _ _

theorem ofTexts_undone (hpath : ∀ c ∈ changed, c.oldPath = c.newPath) :
    (ofTexts changed after before : List (ComplexityDelta Rat)) = (ofTexts changed before after).map undone := by
  rw [ofTexts, ofTexts, List.map_map]
  refine List.map_congr_left fun c hc => ?_
  rw [Function.comp_apply, ofChange, ofChange, hpath c hc, ofValues_exchange]

/-- **A change and its undoing.** Every change between two states is a reduction or an addition, and the ratio is a
share. The way back mirrors the way there, for files that keep their paths. -/
theorem ofTexts_exchange :
    (∀ d ∈ (ofTexts changed before after : List (ComplexityDelta Rat)), d.IsSplit) ∧
    refactoringRatio (ofTexts changed before after) ∈ Set.Icc (0 : Rat) 1 ∧
    ((∀ c ∈ changed, c.oldPath = c.newPath) →
      IsMirrored (ofTexts changed before after) (ofTexts changed after before)) := by
  have hsplit := isSplit_ofTexts changed before after
  refine ⟨hsplit, ?_, fun hpath => ?_⟩
  · rw [refactoringRatio_eq hsplit]
    exact Rat.roundPlaces_mem_Icc 3 (exactRatio_mem hsplit)
  · rw [ofTexts_undone changed before after hpath]
    exact isMirrored_undone hsplit

end Texts

/-- One file loses two branches and another gains one: two thirds of the change is reduction, and one third of the
change that undoes it. -/
theorem ofTexts_exchange_of_two :
    let changed : List ChangedFile := [.path "a.ts", .path "b.ts"]
    let before : Texts := [("a.ts", some "function f(x) { if (x) { if (x) { return x; } } }"),
      ("b.ts", some "function g(x) { return x; }")]
    let after : Texts := [("a.ts", some "function f(x) { return x; }"),
      ("b.ts", some "function g(x) { if (x) { return x; } }")]
    let there : List (ComplexityDelta Rat) := ofTexts changed before after
    let back : List (ComplexityDelta Rat) := ofTexts changed after before
    (∀ c ∈ changed, c.oldPath = c.newPath) ∧ (∃ d ∈ there, d.reduction ≠ 0 ∨ d.addition ≠ 0) ∧
      refactoringRatio back = 1 - refactoringRatio there ∧
      refactoringRatio there = 667 / 1000 ∧ refactoringRatio back = 333 / 1000 := by
  intro changed before after there back
  have hpath : ∀ c ∈ changed, c.oldPath = c.newPath := by decide
  have hchanged : ∃ d ∈ there, d.reduction ≠ 0 ∨ d.addition ≠ 0 := by decide +kernel
  have hback : refactoringRatio back = 1 - refactoringRatio there :=
    ((ofTexts_exchange changed before after).2.2 hpath).ratio hchanged
  have hthere : refactoringRatio there = 667 / 1000 := by decide +kernel
  refine ⟨hpath, hchanged, hback, hthere, ?_⟩
  rw [hback, hthere]
  norm_num

end ComplexityDelta
end RepoSurvey
