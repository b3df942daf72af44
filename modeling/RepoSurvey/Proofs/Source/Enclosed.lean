import Mathlib.Data.List.Infix
import RepoSurvey.Proofs.Source.Braces
import RepoSurvey.Proofs.Source.LiteralGap

/-!
# Code in one more pair of braces

The cognitive complexity weighs a construct by the depth of its line. Two runs over the same lines, one of them a level
deeper, stay a level apart as long as the braces of the lines do not close more than has been opened.

* `Text.exists_eq_strip`: a text and the white space at its ends; `countAll_nesting_strip`: it holds no construct.
* `linesScore_deeper`: what a deeper run adds.
* `splitOn_stripped_enclosed`: the code lines of a text in braces, whatever its end leaves open.
* `cognitive_enclosed`: a pair of braces around a text adds one for each construct.
-/

namespace RepoSurvey

/-! ### White space at the ends -/

namespace Text

theorem exists_eq_strip (s : List Char) : ∃ front back, (∀ c ∈ front, isBlank c = true) ∧
    (∀ c ∈ back, isBlank c = true) ∧ s = front ++ (strip s ++ back) := by
  refine ⟨s.takeWhile isBlank, (s.dropWhile isBlank).rtakeWhile isBlank, ?_, ?_, ?_⟩
  · intro c hc
    exact List.mem_takeWhile_imp hc
  · intro c hc
    exact List.mem_rtakeWhile_imp hc
  · have hstrip : strip s = (s.dropWhile isBlank).rdropWhile isBlank := rfl
    rw [hstrip, List.rdropWhile_append_rtakeWhile, List.takeWhile_append_dropWhile]

theorem count_strip {c : Char} (hc : isBlank c = false) (s : List Char) : (strip s).count c = s.count c := by
  obtain ⟨front, back, hfront, hback, hs⟩ := exists_eq_strip s
  have hnone (blank : List Char) (hblank : ∀ c ∈ blank, isBlank c = true) : blank.count c = 0 := by
    rw [List.count_eq_zero]
    intro hmem
    rw [hblank c hmem] at hc
    cases hc
  conv_rhs => rw [hs]
  rw [List.count_append, List.count_append, hnone front hfront, hnone back hback]
  omega

end Text

namespace Source

variable {style : CommentStyle} {depth : Nat} {lines : List (List Char)}

/-! ### Constructs on a line -/

section Nesting

/-- White space behind a text holds no keyword and no sign. -/
theorem hits_append_blanks {letters : List Char} {sign : Char} (hk : IsKeyword letters sign) (s : List Char)
    {blank : List Char} (hblank : ∀ c ∈ blank, Text.isBlank c = true) :
    hits letters sign none (s ++ blank) = hits letters sign none s := by
  have hword : blank.head?.any Text.isWord = false := by
    cases blank with
    | nil => rfl
    | cons c rest => exact Text.isWord_of_isBlank (hblank c List.mem_cons_self)
  have hopens : opens sign blank = false := by
    unfold opens
    rw [List.dropWhile_eq_nil_iff.mpr hblank]
    rfl
  have hnone : hits letters sign none blank = 0 := by
    have hblanks := hits_blanks hk hblank []
    rwa [List.append_nil] at hblanks
  rw [hits_append none (.inr hword) (.inl hopens), hits_of_not_word hk hword, hnone, Nat.add_zero]

theorem hits_strip {letters : List Char} {sign : Char} (hk : IsKeyword letters sign) (s : List Char) :
    hits letters sign none (Text.strip s) = hits letters sign none s := by
  obtain ⟨front, back, hfront, hback, hs⟩ := Text.exists_eq_strip s
  conv_rhs => rw [hs]
  rw [hits_blanks hk hfront, hits_append_blanks hk _ hback]

/-- White space at the ends of a line holds no construct. -/
theorem countAll_nesting_strip (line : List Char) :
    countAll nestingPatterns (Text.strip line) = countAll nestingPatterns line := by
  have hsame (keyword : String) {letters : List Char} (hletters : keyword.toList = letters)
      (hmem : (letters, '(') ∈ keywords) :
      (keywordThen keyword "(").count (Text.strip line) = (keywordThen keyword "(").count line := by
    rw [count_keywordThen hletters rfl hmem, count_keywordThen hletters rfl hmem, hits_strip (isKeyword_of_mem hmem)]
  have hif := hsame "if" rfl (by decide)
  have hfor := hsame "for" rfl (by decide)
  have hwhile := hsame "while" rfl (by decide)
  have hswitch := hsame "switch" rfl (by decide)
  have hcatch := hsame "catch" rfl (by decide)
  simp only [countAll, nestingPatterns, List.map_cons, List.map_nil, hif, hfor, hwhile, hswitch, hcatch]

end Nesting

/-! ### Two runs, one a level deeper -/

section Deeper

/-- A line adds one more for each of its constructs. -/
theorem lineScore_deeper (depth : Nat) (line : List Char) :
    lineScore (depth + 1) line = lineScore depth line + countAll nestingPatterns line := by
  simp only [lineScore, Nat.mul_add, Nat.mul_one]
  omega

/-- The depths stay a level apart if the braces of the line leave the lower one at zero or above. -/
theorem depthAfter_deeper {line : List Char} (h : line.count '\x7d' ≤ depth + line.count '\x7b') :
    depthAfter (depth + 1) line = depthAfter depth line + 1 := by
  unfold depthAfter
  omega

/-- The depth is the balance as long as this is not negative. -/
theorem depthAfter_eq_balance {line : List Char} (h : line.count '\x7d' ≤ depth + line.count '\x7b') :
    (depthAfter depth line : Int) = depth + balance [line] := by
  rw [balance_singleton, depthAfter]
  omega

/-- **A deeper run**: it adds one for each construct, if the balance of the lines is never below the lower depth. -/
theorem linesScore_deeper (h : ∀ n, 0 ≤ (depth : Int) + balance (lines.take n)) :
    linesScore (depth + 1) lines = linesScore depth lines + total (lines.map (countAll nestingPatterns)) := by
  -- The lower depth stays the balance of the lines above, so that neither run is ever stopped at zero.
  induction lines generalizing depth with
  | nil => rfl
  | cons line rest ih =>
    have hopen : (Text.strip line).count '\x7b' = line.count '\x7b' := Text.count_strip (by decide) line
    have hclose : (Text.strip line).count '\x7d' = line.count '\x7d' := Text.count_strip (by decide) line
    have hsame : balance [Text.strip line] = balance [line] := by
      rw [balance_singleton, balance_singleton, hopen, hclose]
    have hfirst : (Text.strip line).count '\x7d' ≤ depth + (Text.strip line).count '\x7b' := by
      have hbalance := h 1
      rw [List.take_succ_cons, List.take_zero, balance_singleton] at hbalance
      omega
    have hrest : ∀ n, 0 ≤ (depthAfter depth (Text.strip line) : Int) + balance (rest.take n) := by
      intro n
      have hbalance := h (n + 1)
      rw [List.take_succ_cons, ← List.singleton_append, balance_append] at hbalance
      rw [depthAfter_eq_balance hfirst, hsame]
      omega
    simp only [linesScore, List.map_cons, total_cons]
    rw [lineScore_deeper, depthAfter_deeper hfirst, ih hrest, countAll_nesting_strip]
    omega

/-- A last line that adds nothing at any depth can be left out. -/
theorem linesScore_concat {last : List Char} (h : ∀ depth, lineScore depth (Text.strip last) = 0) (depth : Nat)
    (lines : List (List Char)) : linesScore depth (lines ++ [last]) = linesScore depth lines := by
  induction lines generalizing depth with
  | nil =>
    simp only [List.nil_append, linesScore, h]
  | cons line rest ih =>
    simp only [List.cons_append, linesScore, ih]

/-- A line with nothing but a brace adds nothing. -/
theorem lineScore_brace {line : List Char} (h : line ∈ [[], ['\x7b'], ['\x7d']]) (depth : Nat) :
    lineScore depth (Text.strip line) = 0 := by
  have hparts : ∀ line ∈ [[], ['\x7b'], ['\x7d']], countAll nestingPatterns (Text.strip line) = 0 ∧
      (elseWord.find? (Text.strip line)).isSome = false ∧ logicalOperator.count (Text.strip line) = 0 ∧
      ternary.count (Text.strip line) = 0 := by decide +kernel
  obtain ⟨hnested, helse, hlogical, hternary⟩ := hparts line h
  simp [lineScore, hnested, helse, hlogical, hternary]

end Deeper

/-! ### A text in braces -/

section Enclosed

/-- A text with an opening brace on a line above it and a closing one on a line below. -/
def enclosed (text : List Char) : List Char := '\x7b' :: '\n' :: (text ++ ['\n', '\x7d'])

theorem splitOn_enclosed (text : List Char) :
    (enclosed text).splitOn '\n' = ['\x7b'] :: (text.splitOn '\n' ++ [['\x7d']]) := by
  have hopen : enclosed text = ['\x7b'] ++ '\n' :: (text ++ '\n' :: ['\x7d']) := rfl
  rw [hopen, List.splitOn_append_cons_self, List.splitOn_append_cons_self]
  rfl

theorem codeFrom_append (s : Scan) (above below : List (List Char)) :
    codeFrom style s (above ++ below) =
      codeFrom style s above ++ codeFrom style (above.foldl (Scan.afterLine style) s) below := by
  induction above generalizing s with
  | nil => rfl
  | cons line rest ih =>
    rw [List.cons_append, codeFrom, codeFrom, ih, List.cons_append, List.foldl_cons]

/-- The code of a text in braces: the closing one is lost where the text leaves a literal or a comment open. -/
theorem splitOn_stripped_enclosed (style : CommentStyle) (text : List Char) :
    ∃ last ∈ [[], ['\x7d']], (stripped style (enclosed text)).splitOn '\n' =
      ['\x7b'] :: ((stripped style text).splitOn '\n' ++ [last]) := by
  have hopen : strippedFrom style .code ['\x7b'] = ['\x7b'] := by cases style <;> decide
  have hcode : Scan.afterLine style .code ['\x7b'] = .code := by cases style <;> decide
  generalize hplace : (text.splitOn '\n').foldl (Scan.afterLine style) .code = place
  have hlast : strippedFrom style place ['\x7d'] ∈ [[], ['\x7d']] := by
    rw [strippedFrom_cons]
    split_ifs <;> simp [strippedFrom]
  refine ⟨_, hlast, ?_⟩
  rw [splitOn_stripped, splitOn_stripped, splitOn_enclosed, codeFrom, hopen, hcode, codeFrom_append, hplace]
  rfl

/-- **A pair of braces around a text adds one for each construct in it**, if the lines of its code nowhere close more
braces than they have opened. -/
theorem cognitive_enclosed (style : CommentStyle) (text : List Char)
    (h : ∀ n, 0 ≤ balance (((stripped style text).splitOn '\n').take n)) :
    cognitive style (enclosed text) = cognitive style text +
      total (((stripped style text).splitOn '\n').map (countAll nestingPatterns)) := by
  obtain ⟨last, hlast, hlines⟩ := splitOn_stripped_enclosed style text
  have hfirst : lineScore 0 (Text.strip ['\x7b']) = 0 := lineScore_brace (by simp) 0
  have hdepth : depthAfter 0 (Text.strip ['\x7b']) = 0 + 1 := by decide
  have hbrace : last ∈ [[], ['\x7b'], ['\x7d']] := by
    simp only [List.mem_cons, List.not_mem_nil, or_false] at hlast ⊢
    exact hlast.imp_right .inr
  rw [cognitive, cognitive, hlines, linesScore, hfirst, hdepth, linesScore_concat (lineScore_brace hbrace),
    Nat.zero_add]
  exact linesScore_deeper (by simpa using h)

/-- A loop inside a condition, and a literal that is left open, so that it swallows the closing brace. -/
theorem cognitive_enclosed_of_open_literal :
    let text := "if (a) \x7b\n  for (;;) \x7b\n  \x7d\n\x7d \x27open".toList
    (∀ n, 0 ≤ balance (((stripped .slashes text).splitOn '\n').take n)) ∧
      cognitive .slashes text = 3 ∧ cognitive .slashes (enclosed text) = 5 := by
  intro text
  have hbalance : ∀ n, 0 ≤ balance (((stripped .slashes text).splitOn '\n').take n) := by
    have hall : ∀ front ∈ ((stripped .slashes text).splitOn '\n').inits, 0 ≤ balance front := by decide +kernel
    intro n
    exact hall _ ((List.mem_inits _ _).mpr (List.take_prefix n _))
  have hscore : cognitive .slashes text = 3 := by decide +kernel
  refine ⟨hbalance, hscore, ?_⟩
  rw [cognitive_enclosed .slashes text hbalance, hscore]
  decide +kernel

end Enclosed

end Source
end RepoSurvey
