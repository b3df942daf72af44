/-!
# Ranges of characters

A table of ranges is the ascending list of the code points at which membership changes: the first entry begins a
range, the second is the first code point after it, and so on.
-/

namespace RepoSurvey
namespace Text

/-- Whether a code point lies in one of the ranges. -/
def inRanges (table : Array Nat) (code : Nat) : Bool :=
  table.foldl (fun inside bound => if bound ≤ code then !inside else inside) false

/-- A code point below every bound lies in no range. -/
theorem inRanges_of_lt {table : Array Nat} {code : Nat} (h : ∀ b ∈ table.toList, code < b) :
    inRanges table code = false := by
  have step : ∀ (bounds : List Nat) (inside : Bool), (∀ b ∈ bounds, code < b) →
      bounds.foldl (fun inside bound => if bound ≤ code then !inside else inside) inside = inside := by
    intro bounds
    induction bounds with
    | nil => intro inside _; rfl
    | cons b rest ih =>
      intro inside below
      have notLe : ¬ b ≤ code := Nat.not_le.mpr (below b List.mem_cons_self)
      simp only [List.foldl_cons, if_neg notLe]
      exact ih inside fun x hx => below x (List.mem_cons_of_mem b hx)
  rw [inRanges, ← Array.foldl_toList]
  exact step table.toList false h

/-- Code points without a bound between them lie in the same ranges. -/
theorem inRanges_congr {table : Array Nat} {m n : Nat} (h : ∀ b ∈ table.toList, (b ≤ m ↔ b ≤ n)) :
    inRanges table m = inRanges table n := by
  rw [inRanges, inRanges, ← Array.foldl_toList, ← Array.foldl_toList]
  apply List.foldl_rel (r := Eq) rfl
  rintro b hb inside _ rfl
  simp only [h b hb]

end Text
end RepoSurvey
