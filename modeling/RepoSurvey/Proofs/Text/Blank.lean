import Mathlib.Tactic.SplitIfs
import RepoSurvey.Proofs.Text.PatternReading
import RepoSurvey.Text.Identifier

/-!
# White space and names

* `Text.inRanges_of_isBlank`, `ascii_of_isBlank`: how a class of letters or marks leaves white space out.
* `Text.continuesIdentifier_of_isBlank`, `isWord_of_isBlank`, `not_mem_of_isIdentifier`: what no identifier or word
  holds.
* `Text.strip_append`, `strip_eq_self`, `strip_of_not_blank`: white space is taken off the ends only.
-/

namespace RepoSurvey
namespace Text

variable {c : Char} {s front : List Char}

/-! ### Classes without white space -/

section Tables

/-- Above the lowest codes, white space lies in one gap of a table and at three codes. -/
theorem inRanges_of_isBlank {table : Array Nat} (h : isBlank c = true) (hlow : ∀ b ∈ table.toList, 0xA0 < b)
    (hgap : ∀ b ∈ table.toList, b ≤ 0x2000 ∨ 0x202F < b)
    (hcodes : ∀ n ∈ [0x1680, 0x2000, 0x205F, 0x3000], inRanges table n = false) : inRanges table c.toNat = false := by
  simp only [isBlank, Bool.or_eq_true, Bool.and_eq_true, decide_eq_true_eq, beq_iff_eq] at h
  have hplace : c.toNat ≤ 0xA0 ∨ c.toNat = 0x1680 ∨ (0x2000 ≤ c.toNat ∧ c.toNat ≤ 0x202F) ∨ c.toNat = 0x205F ∨
      c.toNat = 0x3000 := by omega
  obtain hcode | hcode | ⟨hfrom, hto⟩ | hcode | hcode := hplace
  · exact inRanges_of_lt fun b hb => hcode.trans_lt (hlow b hb)
  · exact hcode ▸ hcodes 0x1680 (by decide)
  · refine (inRanges_congr fun b hb => ?_).trans (hcodes 0x2000 (by decide))
    have hbound := hgap b hb
    omega
  · exact hcode ▸ hcodes 0x205F (by decide)
  · exact hcode ▸ hcodes 0x3000 (by decide)

/-- Among the lowest codes, white space is ten characters. -/
theorem ascii_of_isBlank (accepts : Char → Bool) (h : isBlank c = true) (hascii : c.toNat < 128)
    (hcodes : ∀ n ∈ [9, 10, 11, 12, 13, 28, 29, 30, 31, 32], accepts (Char.ofNat n) = false) : accepts c = false := by
  simp only [isBlank, Bool.or_eq_true, Bool.and_eq_true, decide_eq_true_eq, beq_iff_eq] at h
  have hmem : c.toNat ∈ [9, 10, 11, 12, 13, 28, 29, 30, 31, 32] := by
    simp only [List.mem_cons, List.not_mem_nil, or_false]
    omega
  have hc := hcodes c.toNat hmem
  rwa [Char.ofNat_toNat] at hc

theorem beginsIdentifier_of_isBlank (h : isBlank c = true) : beginsIdentifier c = false := by
  rw [beginsIdentifier]
  split_ifs with hascii
  · exact ascii_of_isBlank (fun c => c.isAlpha || c == '_') h hascii (by decide)
  · refine inRanges_of_isBlank h (by decide +kernel) (by decide +kernel) ?_
    simp only [inRanges, ← Array.foldl_toList]
    decide +kernel

/-- White space is no part of an identifier. -/
theorem continuesIdentifier_of_isBlank (h : isBlank c = true) : continuesIdentifier c = false := by
  rw [continuesIdentifier, beginsIdentifier_of_isBlank h, Bool.false_or]
  split_ifs with hascii
  · exact ascii_of_isBlank Char.isDigit h hascii (by decide)
  · refine inRanges_of_isBlank h (by decide +kernel) (by decide +kernel) ?_
    simp only [inRanges, ← Array.foldl_toList]
    decide +kernel

/-- White space is no part of a word. -/
theorem isWord_of_isBlank (h : isBlank c = true) : isWord c = false := by
  rw [isWord]
  split_ifs with hascii
  · exact ascii_of_isBlank (fun c => c.isAlphanum || c == '_') h hascii (by decide)
  · refine inRanges_of_isBlank h (by decide +kernel) (by decide +kernel) ?_
    simp only [inRanges, ← Array.foldl_toList]
    decide +kernel

end Tables

/-! ### Identifiers -/

section Identifiers

theorem continuesIdentifier_of_isIdentifier (h : isIdentifier s = true) : ∀ c ∈ s, continuesIdentifier c = true := by
  cases s with
  | nil => cases h
  | cons first rest =>
    rw [isIdentifier, Bool.and_eq_true, List.all_eq_true] at h
    intro c hc
    rcases List.mem_cons.mp hc with rfl | hc
    · simp [continuesIdentifier, h.1]
    · exact h.2 c hc

theorem not_mem_of_isIdentifier (h : isIdentifier s = true) (hc : continuesIdentifier c = false) : c ∉ s := by
  intro hmem
  rw [continuesIdentifier_of_isIdentifier h c hmem] at hc
  cases hc

theorem isBlank_of_isIdentifier (h : isIdentifier s = true) : ∀ c ∈ s, isBlank c = false := by
  intro c hc
  refine Bool.eq_false_iff.mpr fun hblank => ?_
  exact not_mem_of_isIdentifier h (continuesIdentifier_of_isBlank hblank) hc

theorem ne_nil_of_isIdentifier (h : isIdentifier s = true) : s ≠ [] := by
  rintro rfl
  cases h

end Identifiers

/-! ### The ends of a text -/

section Ends

/-- White space behind a text is taken off, and no more. -/
theorem strip_append (hne : front ≠ []) (hfirst : front.head?.any isBlank = false)
    (hlast : front.getLast?.any isBlank = false) (s : List Char) :
    strip (front ++ s) = front ++ s.rdropWhile isBlank := by
  have hstart : (front ++ s).dropWhile isBlank = front ++ s := by
    refine Pattern.dropWhile_eq_self ?_
    rwa [List.head?_append_of_ne_nil _ hne]
  have hend : front.reverse.dropWhile isBlank = front.reverse := Pattern.dropWhile_eq_self (by rwa [List.head?_reverse])
  rw [strip, trim, hstart, List.reverse_append, List.dropWhile_append, List.rdropWhile]
  split_ifs with hblank
  · rw [hend, List.isEmpty_iff.mp hblank]
    simp
  · simp

theorem strip_eq_self (hfirst : s.head?.any isBlank = false) (hlast : s.getLast?.any isBlank = false) :
    strip s = s := by
  by_cases hs : s = []
  · rw [hs]
    rfl
  · have hstrip := strip_append hs hfirst hlast []
    simpa using hstrip

theorem strip_of_not_blank (h : ∀ c ∈ s, isBlank c = false) : strip s = s := by
  refine strip_eq_self ?_ ?_
  · cases hfirst : s.head? with
    | none => rfl
    | some c => exact h c (List.mem_of_head? hfirst)
  · cases hlast : s.getLast? with
    | none => rfl
    | some c => exact h c (List.mem_of_getLast? hlast)

end Ends

end Text
end RepoSurvey
