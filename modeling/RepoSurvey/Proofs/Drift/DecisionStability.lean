import Mathlib.Algebra.Order.BigOperators.Group.List
import Mathlib.Tactic.Positivity
import RepoSurvey.Drift.Trend
import RepoSurvey.Proofs.Number.ExactScalar
import RepoSurvey.Proofs.Text.Distinct

/-!
# The stability of decisions in exact arithmetic

The stability of a series is read off the sets of titles of its snapshots: what neighbours do not share counts against
it, in either direction alike.

* `Snapshot.SameTitles`: two snapshots have the same set of titles.
* `changeRate_comm`, `changeRate_eq_zero`: the change between two snapshots has no direction, and there is none between
  equal sets only.
* `changeRates_reverse`, `changeRates_eq_zero`: the same for all neighbours of a series.
* `decisionStability_of_titles`: what that means for the stability.
-/

namespace RepoSurvey

variable {before before' after after' : List String} {s s' : Snapshot Rat} {ss ss' : List (Snapshot Rat)}

/-! ### The change between two sets of titles -/

section Rate

theorem changeRate_nonneg (before after : List String) : (0 : Rat) ≤ changeRate before after :=
  div_nonneg (Int.cast_nonneg (Int.natCast_nonneg _)) (Int.cast_nonneg (Int.natCast_nonneg _))

/-- What comes in one direction goes in the other one. -/
theorem changeRate_comm (before after : List String) : (changeRate before after : Rat) = changeRate after before := by
  simp only [changeRate]
  rw [Nat.add_comm, Nat.max_comm before.length]

/-- Nothing is missing from a list that the other one holds. -/
theorem length_missing_eq_zero : (before.filter (!after.contains ·)).length = 0 ↔ ∀ t ∈ before, t ∈ after := by
  rw [List.length_eq_zero_iff, List.filter_eq_nil_iff]
  simp

theorem changeRate_eq_zero : (changeRate before after : Rat) = 0 ↔ ∀ t, t ∈ before ↔ t ∈ after := by
  have hscale : max (max before.length after.length) 1 ≠ 0 := by omega
  have hopened : (changeRate before after : Rat) =
      (((after.filter (!before.contains ·)).length + (before.filter (!after.contains ·)).length : Nat) : Rat) /
        ((max (max before.length after.length) 1 : Nat) : Rat) := by
    simp only [changeRate, Scalar.quot, Int.cast_natCast]
    rfl
  rw [hopened, div_eq_zero_iff, or_iff_left (Nat.cast_ne_zero.mpr hscale), Nat.cast_eq_zero, Nat.add_eq_zero_iff,
    length_missing_eq_zero, length_missing_eq_zero, and_comm, ← forall_and]
  exact forall_congr' fun t => iff_iff_implies_and_implies.symm

theorem changeRate_of_perm (hbefore : before.Perm before') (hafter : after.Perm after') :
    (changeRate before after : Rat) = changeRate before' after' := by
  have hmissing {l l' k k' : List String} (hl : l.Perm l') (hk : k.Perm k') :
      (l.filter (!k.contains ·)).length = (l'.filter (!k'.contains ·)).length := by
    have hcontains : (fun t => !k.contains t) = fun t => !k'.contains t := by
      funext t
      rw [Bool.eq_iff_iff]
      simp [hk.mem_iff]
    rw [hcontains]
    exact (hl.filter _).length_eq
  simp only [changeRate]
  rw [hmissing hbefore hafter, hmissing hafter hbefore, hbefore.length_eq, hafter.length_eq]

end Rate

/-! ### The changes between neighbours -/

section Rates

variable {series series' : List (List String)}

theorem length_changeRates (series : List (List String)) :
    (changeRates series : List Rat).length = series.length - 1 := by
  induction series using List.twoStepInduction with
  | nil => rfl
  | singleton first => rfl
  | cons_cons first second rest _ ih => exact congrArg (· + 1) (ih second)

theorem changeRates_nonneg {rate : Rat} (h : rate ∈ (changeRates series : List Rat)) : 0 ≤ rate := by
  induction series using List.twoStepInduction with
  | nil => exact absurd h List.not_mem_nil
  | singleton first => exact absurd h List.not_mem_nil
  | cons_cons first second rest _ ih =>
    rcases List.mem_cons.mp h with rfl | h
    · exact changeRate_nonneg first second
    · exact ih second h

/-- One more snapshot adds the change from the one before it. -/
theorem changeRates_concat (series : List (List String)) (before after : List String) :
    (changeRates (series ++ [before, after]) : List Rat) =
      changeRates (series ++ [before]) ++ [changeRate before after] := by
  induction series using List.twoStepInduction with
  | nil => rfl
  | singleton first => rfl
  | cons_cons first second rest _ ih => exact congrArg (changeRate first second :: ·) (ih second)

/-- Seen from the end of a series the same changes come in the opposite order. -/
theorem changeRates_reverse (series : List (List String)) :
    (changeRates series.reverse : List Rat) = (changeRates series).reverse := by
  induction series using List.twoStepInduction with
  | nil => rfl
  | singleton first => rfl
  | cons_cons first second rest _ ih =>
    have hends : (first :: second :: rest).reverse = rest.reverse ++ [second, first] := by simp
    rw [hends, changeRates_concat, ← List.reverse_cons, ih second, changeRates, List.reverse_cons, changeRate_comm]

theorem changeRates_eq_zero : (∀ rate ∈ (changeRates series : List Rat), rate = 0) ↔
    series.IsChain fun before after => ∀ t, t ∈ before ↔ t ∈ after := by
  induction series using List.twoStepInduction with
  | nil => exact iff_of_true nofun .nil
  | singleton first => exact iff_of_true nofun (.singleton first)
  | cons_cons first second rest _ ih =>
    rw [changeRates, List.forall_mem_cons, ih second, List.isChain_cons_cons, changeRate_eq_zero]

theorem changeRates_of_perm (h : List.Forall₂ List.Perm series series') :
    (changeRates series : List Rat) = changeRates series' := by
  induction h with
  | nil => rfl
  | cons hbefore hrest ih =>
    cases hrest with
    | nil => rfl
    | cons hafter hrest => rw [changeRates, changeRates, ih, changeRate_of_perm hbefore hafter]

end Rates

/-! ### Stability -/

section Stability

/-- The snapshots have the same set of titles, whatever their decisions are otherwise. -/
def Snapshot.SameTitles (s s' : Snapshot Rat) : Prop :=
  ∀ title, (∃ d ∈ s.decisions, d.title = title) ↔ ∃ d ∈ s'.decisions, d.title = title

theorem mem_titles {title : String} : title ∈ titles s ↔ ∃ d ∈ s.decisions, d.title = title := by
  rw [titles, List.mem_eraseDups, List.mem_map]

theorem Snapshot.SameTitles.perm (h : s.SameTitles s') : (titles s).Perm (titles s') :=
  perm_eraseDups fun title => by simpa only [List.mem_map] using h title

/-- The mean of the changes between neighbours. -/
def meanChange (ss : List (Snapshot Rat)) : Rat :=
  (changeRates (ss.map titles)).sum / (changeRates (ss.map titles) : List Rat).length

theorem decisionStability_eq (h : 2 ≤ ss.length) : decisionStability ss = max 0 (1 - meanChange ss) := by
  have hopened : decisionStability ss =
      Scalar.larger 0 (1 - Scalar.sum (changeRates (ss.map titles) : List Rat) /
        (changeRates (ss.map titles) : List Rat).length) := if_neg (by omega)
  rw [hopened, Scalar.larger_rat, Scalar.sum_rat, meanChange]

theorem decisionStability_of_short (h : ss.length < 2) : decisionStability ss = 1 := if_pos h

/-- Only the changes between neighbours are read. -/
theorem decisionStability_of_rates (hlength : ss'.length = ss.length)
    (h : (changeRates (ss'.map titles) : List Rat).Perm (changeRates (ss.map titles))) :
    decisionStability ss' = decisionStability ss := by
  by_cases hshort : ss.length < 2
  · rw [decisionStability_of_short hshort, decisionStability_of_short (hlength ▸ hshort)]
  · have hmean : meanChange ss' = meanChange ss := by rw [meanChange, meanChange, h.sum_eq, h.length_eq]
    rw [decisionStability_eq (by omega), decisionStability_eq (by omega), hmean]

theorem meanChange_nonneg (ss : List (Snapshot Rat)) : 0 ≤ meanChange ss :=
  div_nonneg (List.sum_nonneg fun _ hrate => changeRates_nonneg hrate) (Nat.cast_nonneg _)

/-- Nothing changes on average exactly if nothing changes at all. -/
theorem meanChange_eq_zero (h : 2 ≤ ss.length) : meanChange ss = 0 ↔ ss.IsChain Snapshot.SameTitles := by
  have hlength : (changeRates (ss.map titles) : List Rat).length ≠ 0 := by
    rw [length_changeRates, List.length_map]
    omega
  have hsame : (ss.map titles).IsChain (fun before after => ∀ t, t ∈ before ↔ t ∈ after) ↔
      ss.IsChain Snapshot.SameTitles := by
    rw [List.isChain_map]
    simp only [mem_titles]
    rfl
  rw [meanChange, div_eq_zero_iff, or_iff_left (Nat.cast_ne_zero.mpr hlength), ← hsame, ← changeRates_eq_zero]
  constructor
  · exact fun hsum rate hrate =>
      List.all_zero_of_le_zero_le_of_sum_eq_zero (fun _ => changeRates_nonneg) hsum hrate
  · exact List.sum_eq_zero

theorem decisionStability_inUnit (ss : List (Snapshot Rat)) :
    0 ≤ decisionStability ss ∧ decisionStability ss ≤ 1 := by
  by_cases hshort : ss.length < 2
  · rw [decisionStability_of_short hshort]
    exact ⟨zero_le_one, le_rfl⟩
  · rw [decisionStability_eq (by omega)]
    exact ⟨le_max_left _ _, max_le zero_le_one (sub_le_self 1 (meanChange_nonneg ss))⟩

/-- Changes count against the stability, and nothing else does. -/
theorem decisionStability_eq_one (h : 2 ≤ ss.length) :
    decisionStability ss = 1 ↔ ss.IsChain Snapshot.SameTitles := by
  rw [decisionStability_eq h, ← meanChange_eq_zero h]
  constructor
  · intro hone
    rcases max_eq_iff.mp hone with ⟨hzero, -⟩ | ⟨hrest, -⟩
    · exact absurd hzero zero_ne_one
    · exact sub_eq_self.mp hrest
  · intro hnone
    rw [hnone, sub_zero, max_eq_right zero_le_one]

/-- **The stability of decisions by the titles.** It lies between 0 and 1, and is 1 for two snapshots or more exactly if
all neighbours have the same set of titles. It is the same for the series in reverse, and for every series of snapshots
with the same sets of titles, whatever the decisions are otherwise, in whatever order and however often they are there. -/
theorem decisionStability_of_titles (ss : List (Snapshot Rat)) :
    (0 ≤ decisionStability ss ∧ decisionStability ss ≤ 1) ∧
      (2 ≤ ss.length → (decisionStability ss = 1 ↔ ss.IsChain Snapshot.SameTitles)) ∧
      decisionStability ss.reverse = decisionStability ss ∧
      ∀ ss' : List (Snapshot Rat), List.Forall₂ Snapshot.SameTitles ss ss' →
        decisionStability ss' = decisionStability ss := by
  refine ⟨decisionStability_inUnit ss, decisionStability_eq_one, ?_, ?_⟩
  · refine decisionStability_of_rates List.length_reverse ?_
    rw [List.map_reverse, changeRates_reverse]
    exact List.reverse_perm _
  · intro ss' h
    have htitles : List.Forall₂ List.Perm (ss.map titles) (ss'.map titles) :=
      List.forall₂_map_left_iff.mpr (List.forall₂_map_right_iff.mpr (h.imp fun _ _ hsame => hsame.perm))
    refine decisionStability_of_rates h.length_eq.symm ?_
    rw [changeRates_of_perm htitles]

/-- Three snapshots of which the middle one loses a decision of two, and three that show the same titles otherwise. -/
theorem decisionStability_of_titles_of_three :
    let decision (id title : String) (confidence : Rat) : Decision Rat := ⟨id, title, confidence⟩
    let snapshot (decisions : List (Decision Rat)) : Snapshot Rat :=
      ⟨"s", "web", "abc", 0, decisions, 0, ⟨0, 0, 0, 0, 0⟩, ⟨⟨2024, 6, 1⟩, 0, none⟩⟩
    let ss := [snapshot [decision "1" "Layers" 1, decision "2" "Events" 0.5], snapshot [decision "1" "Layers" 1],
      snapshot [decision "1" "Layers" 1]]
    let ss' := [snapshot [decision "7" "Events" 0, decision "8" "Layers" 1, decision "9" "Events" 1],
      snapshot [decision "3" "Layers" 0], snapshot [decision "4" "Layers" 0, decision "5" "Layers" 1]]
    2 ≤ ss.length ∧ List.Forall₂ Snapshot.SameTitles ss ss' ∧ decisionStability ss = 3 / 4 ∧
      decisionStability ss.reverse = 3 / 4 ∧ decisionStability ss' = 3 / 4 ∧ ¬ ss.IsChain Snapshot.SameTitles := by
  intro decision snapshot ss ss'
  have hsame : List.Forall₂ Snapshot.SameTitles ss ss' := by
    refine .cons ?_ (.cons ?_ (.cons ?_ .nil)) <;> intro title
    · simpa [decision, snapshot] using Or.inr
    · simp [decision, snapshot]
    · simp [decision, snapshot]
  have hvalue : decisionStability ss = 3 / 4 := by decide +kernel
  obtain ⟨-, hone, hreverse, hothers⟩ := decisionStability_of_titles ss
  refine ⟨by decide, hsame, hvalue, hreverse.trans hvalue, (hothers ss' hsame).trans hvalue, ?_⟩
  rw [← hone (by decide), hvalue]
  decide +kernel

end Stability
end RepoSurvey
