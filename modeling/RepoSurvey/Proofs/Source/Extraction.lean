import Mathlib.Tactic.Linarith
import RepoSurvey.Proofs.Number.Nearest
import RepoSurvey.Proofs.Number.Totals
import RepoSurvey.Proofs.Source.Alignment
import RepoSurvey.Proofs.Source.Braces
import RepoSurvey.Source.FileComplexity

/-!
# Blocks and measures of a file

Whatever a text holds, its blocks lie on its lines one after the other, and their scores have a mean and a maximum.

* `IsWellFormed`: what can be relied on for the blocks of a text.
* `FileComplexity.IsSummary`: what can be relied on for the mean and the maximum of counts.
* `FileComplexity.ofText_isWellFormed`: both for every file.
-/

namespace RepoSurvey
namespace Source

variable {style : CommentStyle} {text : List Char}

/-! ### Functions on lines -/

section Functions

variable {number : Nat} {ls : List Line} {f : Block}

theorem first_of_mem_functions (h : f ∈ functions style number ls) : number ≤ f.first := by
  obtain ⟨name, k, -, rfl⟩ := mem_functions h
  exact Nat.le_add_right number k

/-- Functions are found in the order of their first lines. -/
theorem pairwise_first_functions (style : CommentStyle) (number : Nat) (ls : List Line) :
    ((functions style number ls).map (·.first)).Pairwise (· < ·) := by
  induction ls generalizing number with
  | nil => exact List.Pairwise.nil
  | cons line rest ih =>
    simp only [functions]
    cases functionName? line.code with
    | none => exact ih (number + 1)
    | some name =>
      simp only [List.map_cons, List.pairwise_cons, List.mem_map]
      refine ⟨?_, ih (number + 1)⟩
      rintro first ⟨later, hlater, rfl⟩
      exact first_of_mem_functions hlater

/-- A function is not longer than the search for its end. -/
theorem length_of_mem_functions (h : f ∈ functions style number ls) : f.last - f.first ≤ maxBodyLines + 1 := by
  obtain ⟨name, k, -, rfl⟩ := mem_functions h
  have hend := bodyEnd_le (ls.drop k)
  simp only [declaredFunction, score]
  omega

/-- There is no function where no line declares one. -/
theorem functions_eq_nil_iff : functions style number ls = [] ↔ ∀ line ∈ ls, functionName? line.code = none := by
  induction ls generalizing number with
  | nil => simp [functions]
  | cons line rest ih =>
    simp only [functions, List.forall_mem_cons]
    cases functionName? line.code with
    | none => simp [ih]
    | some name => simp

theorem map_code_lines (style : CommentStyle) (text : List Char) :
    (lines style text).map (·.code) = (stripped style text).splitOn '\n' := by
  have hlength : ((stripped style text).splitOn '\n').length = (text.splitOn '\n').length := by
    rw [splitOn_stripped, length_codeFrom]
  rw [lines, List.map_map]
  exact List.map_snd_zip (Nat.le_of_eq hlength)

/-- A text has no function if none of its stripped lines declares one. -/
theorem functions_lines_eq_nil_iff : functions style 1 (lines style text) = [] ↔
    ∀ line ∈ (stripped style text).splitOn '\n', functionName? line = none := by
  rw [functions_eq_nil_iff, ← map_code_lines]
  simp

end Functions

/-! ### Blocks -/

section Blocks

/-- What can be relied on for the blocks of a text. -/
structure IsWellFormed (style : CommentStyle) (text : List Char) : Prop where
  nonempty : (blocks style text).blocks ≠ []
  /-- Functions come in the order of their first lines. -/
  increasing : ∀ found, blocks style text = .functions found → (found.map (·.first)).Pairwise (· < ·)
  /-- A function lies on lines of the text, and not on too many. -/
  within : ∀ found, blocks style text = .functions found → ∀ f ∈ found,
    1 ≤ f.first ∧ f.first ≤ f.last ∧ f.last ≤ (text.splitOn '\n').length ∧ f.last - f.first ≤ maxBodyLines + 1
  /-- The text is one block exactly if no stripped line declares a function. -/
  whole_iff : (∃ block, blocks style text = .wholeFile block) ↔
    ∀ line ∈ (stripped style text).splitOn '\n', functionName? line = none
  /-- That block goes from the first line to the last. -/
  whole : ∀ block, blocks style text = .wholeFile block →
    block.name = "<module>" ∧ block.first = 1 ∧ block.last = (text.splitOn '\n').length
  scores : ∀ f ∈ (blocks style text).blocks, 1 ≤ f.cyclomatic ∧ 0 ≤ f.cognitive

theorem blocks_of_nil (h : functions style 1 (lines style text) = []) :
    blocks style text = .wholeFile (score style text "<module>" 1 (text.splitOn '\n').length) := by
  rw [blocks, h]

theorem blocks_of_ne_nil (h : functions style 1 (lines style text) ≠ []) :
    blocks style text = .functions (functions style 1 (lines style text)) := by
  unfold blocks
  split
  · next hnil => exact absurd hnil h
  · rfl

/-- A block is a scored text. -/
theorem exists_score_of_mem_blocks {f : Block} (h : f ∈ (blocks style text).blocks) :
    ∃ body name first last, f = score style body name first last := by
  by_cases hnil : functions style 1 (lines style text) = []
  · rw [blocks_of_nil hnil] at h
    exact ⟨_, _, _, _, List.mem_singleton.mp h⟩
  · rw [blocks_of_ne_nil hnil] at h
    obtain ⟨name, k, -, hf⟩ := mem_functions h
    exact ⟨_, _, _, _, hf⟩

theorem blocks_isWellFormed (style : CommentStyle) (text : List Char) : IsWellFormed style text where
  nonempty := by
    by_cases hnil : functions style 1 (lines style text) = []
    · rw [blocks_of_nil hnil]
      exact List.cons_ne_nil _ _
    · rw [blocks_of_ne_nil hnil]
      exact hnil
  increasing := by
    intro found hfound
    rw [blocks_eq_functions hfound]
    exact pairwise_first_functions style 1 (lines style text)
  within := by
    intro found hfound f hf
    rw [blocks_eq_functions hfound] at hf
    obtain ⟨hfirst, hle, hlast⟩ := range_of_mem_functions hf
    exact ⟨hfirst, hle, hlast, length_of_mem_functions hf⟩
  whole_iff := by
    rw [← functions_lines_eq_nil_iff]
    constructor
    · rintro ⟨block, hblock⟩
      by_contra hnil
      rw [blocks_of_ne_nil hnil] at hblock
      cases hblock
    · intro hnil
      exact ⟨_, blocks_of_nil hnil⟩
  whole := by
    intro block hblock
    by_cases hnil : functions style 1 (lines style text) = []
    · rw [blocks_of_nil hnil] at hblock
      cases hblock
      exact ⟨rfl, rfl, rfl⟩
    · rw [blocks_of_ne_nil hnil] at hblock
      cases hblock
  scores := by
    intro f hf
    obtain ⟨body, name, first, last, rfl⟩ := exists_score_of_mem_blocks hf
    have hpoints : (score style body name first last).cyclomatic = 1 + decisionPoints (stripped style body) := rfl
    exact ⟨by omega, Nat.zero_le _⟩

end Blocks

end Source

/-! ### Means and maxima -/

namespace FileComplexity

section Summary

variable {counts : List Nat} {peak : Nat}

theorem largest_eq_max (hne : counts ≠ []) : largest counts = counts.max hne := foldl_max_eq_max hne

theorem total_le_mul (h : ∀ n ∈ counts, n ≤ peak) : total counts ≤ counts.length * peak := by
  induction counts with
  | nil => exact Nat.zero_le _
  | cons count rest ih =>
    rw [List.forall_mem_cons] at h
    have hrest := ih h.2
    rw [total_cons, List.length_cons, Nat.add_mul]
    omega

/-- The exact mean of counts. -/
def mean (counts : List Nat) : Rat := (total counts : Rat) / (counts.length : Rat)

theorem mean_le (hne : counts ≠ []) (h : ∀ n ∈ counts, n ≤ peak) : mean counts ≤ peak := by
  have hpos : (0 : Rat) < counts.length := by exact_mod_cast List.length_pos_iff.mpr hne
  have htotal : (total counts : Rat) ≤ counts.length * peak := by exact_mod_cast total_le_mul h
  rw [mean, div_le_iff₀ hpos]
  linarith

/-- What can be relied on for the mean and the maximum of counts, over exact numbers. -/
structure IsSummary (counts : List Nat) (average : Rat) (peak : Nat) : Prop where
  /-- There is something to divide by. -/
  length_ne_zero : counts.length ≠ 0
  average_eq : average = Rat.roundPlaces 2 (mean counts)
  peak_mem : peak ∈ counts
  le_peak : ∀ n ∈ counts, n ≤ peak
  mean_le : mean counts ≤ peak
  average_le : average ≤ peak

theorem isSummary (hne : counts ≠ []) : IsSummary counts (average counts) (largest counts) := by
  have hlargest : ∀ n ∈ counts, n ≤ largest counts := by
    intro n hn
    rw [largest_eq_max hne]
    exact List.le_max_of_mem hn
  have haverage : (average counts : Rat) = Rat.roundPlaces 2 (mean counts) := by
    rw [average, Scalar.roundPlaces_rat]
    rfl
  have hmean := mean_le hne hlargest
  refine ⟨?_, haverage, largest_eq_max hne ▸ List.max_mem hne, hlargest, hmean, ?_⟩
  · rw [Ne, List.length_eq_zero_iff]
    exact hne
  · rw [haverage]
    exact Rat.roundPlaces_le 2 hmean

end Summary

/-- **The blocks and the measures of a file are well-formed**, whatever its text and its path: there is a block,
functions lie on the lines of the text in increasing order and are not too long, the text is one block only without
functions, and no mean is without counts or above the maximum. -/
theorem ofText_isWellFormed (path : Option String) (text : String) :
    let file : FileComplexity Rat := ofText path text
    file.extraction = Source.blocks (.ofPath path) text.toList ∧
      Source.IsWellFormed (.ofPath path) text.toList ∧
      IsSummary (file.extraction.blocks.map (·.cyclomatic)) file.averageCyclomatic file.maxCyclomatic ∧
      IsSummary (file.extraction.blocks.map (·.cognitive)) file.averageCognitive file.maxCognitive := by
  intro file
  have hblocks := Source.blocks_isWellFormed (.ofPath path) text.toList
  have hcounts (measure : Source.Block → Nat) : file.extraction.blocks.map measure ≠ [] := by
    intro hnil
    exact hblocks.nonempty (List.map_eq_nil_iff.mp hnil)
  exact ⟨rfl, hblocks, isSummary (hcounts _), isSummary (hcounts _)⟩

end FileComplexity
end RepoSurvey
