import RepoSurvey.Proofs.Source.Hidden
import RepoSurvey.Proofs.Source.LoopHead
import RepoSurvey.Proofs.Source.OperatorRun

/-!
# The gap that a literal leaves

A literal is taken out of code without a trace, and the texts on both sides of it are read as one. A numeral with
blanks in its place keeps them apart. What difference this makes can be told from the two texts at the seam: the rows of
operator signs there, the word there, and a loop's head before it.

* `decisionPoints_eq`: the decision points of code as words, signs and loops.
* `joinedPoints`, `apartPoints`: what counts at a seam with nothing in between, and with a numeral.
* `decisionPoints_seam`: these and the loops are all that differs.
* `cyclomatic_literal_eq_iff`: so a literal changes no decision point around it exactly where they are equal.
-/

namespace RepoSurvey
namespace Source

open Pattern

variable {style : CommentStyle} {before after : List Char}

/-! ### Decision points -/

section DecisionPoints

/-- The keywords that count, each with its sign. -/
def keywords : List (List Char × Char) :=
  [("if".toList, '('), ("for".toList, '('), ("while".toList, '('), ("do".toList, '\x7b'), ("switch".toList, '('),
    ("catch".toList, '(')]

/-- The signs of operators. -/
def signs : List Char := ['&', '|', '?']

theorem isKeyword_of_mem {k : List Char × Char} (h : k ∈ keywords) : IsKeyword k.1 k.2 := by
  have hall : ∀ k ∈ keywords, k.1 ≠ [] ∧ k.1 ≠ ['0'] ∧ k.1.all Text.isWord = true ∧
      Text.isWord k.2 = false ∧ Text.isBlank k.2 = false := by decide
  obtain ⟨hne, hzero, hword, hsign, hblank⟩ := hall k h
  exact ⟨hne, hzero, List.all_eq_true.mp hword, hsign, hblank⟩

theorem count_keywordThen {keyword opening : String} {letters : List Char} {sign : Char}
    (hletters : keyword.toList = letters) (hsign : opening.toList = [sign]) (hmem : (letters, sign) ∈ keywords)
    (code : List Char) : (keywordThen keyword opening).count code = hits letters sign none code := by
  have hpattern : keywordThen keyword opening = sequence [boundary, word letters, blanks, word [sign]] := by
    rw [keywordThen, literal, literal, hletters, hsign]
  rw [hpattern, count_eq_countFrom, countFrom_keyword (isKeyword_of_mem hmem)]

theorem count_doubled {text : String} {sign : Char} (h : text.toList = [sign, sign]) (code : List Char) :
    (literal text).count code = pairs sign code := by
  rw [literal, h, count_eq_countFrom, countFrom_double]

/-- Decision points are keywords before their sign, operator signs, and loops without a parenthesis. -/
theorem decisionPoints_eq (code : List Char) : decisionPoints code =
    total (keywords.map fun k => hits k.1 k.2 none code) + total (signs.map (signPoints · code)) + loops none code := by
  have hif : (keywordThen "if" "(").count code = hits "if".toList '(' none code :=
    count_keywordThen rfl rfl (by decide) code
  have hfor : (keywordThen "for" "(").count code = hits "for".toList '(' none code :=
    count_keywordThen rfl rfl (by decide) code
  have hwhile : (keywordThen "while" "(").count code = hits "while".toList '(' none code :=
    count_keywordThen rfl rfl (by decide) code
  have hdo : (keywordThen "do" "\x7b").count code = hits "do".toList '\x7b' none code :=
    count_keywordThen rfl rfl (by decide) code
  have hswitch : (keywordThen "switch" "(").count code = hits "switch".toList '(' none code :=
    count_keywordThen rfl rfl (by decide) code
  have hcatch : (keywordThen "catch" "(").count code = hits "catch".toList '(' none code :=
    count_keywordThen rfl rfl (by decide) code
  have hand : (literal "&&").count code = pairs '&' code := count_doubled rfl code
  have hor : (literal "||").count code = pairs '|' code := count_doubled rfl code
  have hdefault : (literal "??").count code = pairs '?' code := count_doubled rfl code
  have hternary : ternary.count code = lone none code := countFrom_ternary none code
  have hloop : bareFor.count code = loops none code := rfl
  have hsigns : total (signs.map (signPoints · code)) =
      pairs '&' code + (pairs '|' code + (pairs '?' code + lone none code)) := rfl
  have hkeywords : total (keywords.map fun k => hits k.1 k.2 none code) =
      hits "if".toList '(' none code + (hits "for".toList '(' none code + (hits "while".toList '(' none code +
        (hits "do".toList '\x7b' none code + (hits "switch".toList '(' none code +
          hits "catch".toList '(' none code)))) := rfl
  simp only [decisionPoints, countAll, decisionPatterns, List.map_cons, List.map_nil, total_cons, total_nil, hif, hfor,
    hwhile, hdo, hswitch, hcatch, hand, hor, hdefault, hternary, hloop, hsigns, hkeywords]
  omega

end DecisionPoints

/-! ### At a seam -/

section Seam

/-- What a word counts before a text. -/
def wordPoints (w s : List Char) : Nat := total (keywords.map fun k => wordPoint k.1 k.2 w s)

/-- What counts at the seam of two texts with nothing in between: one word, and one row of each sign. -/
def joinedPoints (before after : List Char) : Nat :=
  wordPoints (seamWord before after) (after.dropWhile Text.isWord) +
    total (signs.map fun sign =>
      rowPoints sign (trailing sign before + leading sign after) (after.dropWhile (· == sign)).head?)

/-- What counts at the seam of two texts with a numeral in between: the word behind it, and two rows of each sign. -/
def apartPoints (before after : List Char) : Nat :=
  wordPoints (after.takeWhile Text.isWord) (after.dropWhile Text.isWord) +
    total (signs.map fun sign => rowPoints sign (trailing sign before) none +
      rowPoints sign (leading sign after) (after.dropWhile (· == sign)).head?)

theorem total_map_add_eq {α : Type} {items : List α} {f g f' g' : α → Nat}
    (h : ∀ a ∈ items, f a + g a = f' a + g' a) :
    total (items.map f) + total (items.map g) = total (items.map f') + total (items.map g') := by
  rw [← total_map_add, ← total_map_add, List.map_congr_left h]

/-- **Decision points at a seam**: a numeral in between changes what counts there, and perhaps the loops. -/
theorem decisionPoints_seam (before after : List Char) :
    decisionPoints (before ++ after) + apartPoints before after + loops none (before ++ spacedZero ++ after) =
      decisionPoints (before ++ spacedZero ++ after) + joinedPoints before after + loops none (before ++ after) := by
  have hwords := total_map_add_eq fun k hk => hits_seam (isKeyword_of_mem (k := k) hk) before after
  have hne : spacedZero ≠ [] := List.cons_ne_nil _ _
  have hgap : ∀ sign ∈ signs, sign ∉ spacedZero := by simp [signs, spacedZero]
  have hjoins : ∀ c ∈ spacedZero, joinsMark c = false := by simp [spacedZero, joinsMark]
  have hsigns := total_map_add_eq fun sign hsign =>
    signPoints_seam before after hne (hgap sign hsign) hjoins
  rw [decisionPoints_eq, decisionPoints_eq, joinedPoints, apartPoints, wordPoints, wordPoints]
  omega

end Seam

/-! ### A literal in code -/

section Literal

/-- A literal on one line leaves nothing. -/
theorem stripped_literal {quote : Char} {body : List Char} (hquote : isLiteralQuote quote = true)
    (hbody : IsLiteralBody quote body) (hline : '\n' ∉ body) (hcode : Scan.after style .code before = .code) :
    stripped style (before ++ quote :: (body ++ [quote]) ++ after) = stripped style before ++ stripped style after := by
  have hhidden : stripped style (before ++ (Hidden.literal quote body hquote hbody : Hidden style).text ++ after) = _ :=
    stripped_hidden _ hcode trivial trivial
  have hnone : lineFeeds body = [] := by rw [lineFeeds, List.count_eq_zero.mpr hline, List.replicate_zero]
  rw [Hidden.body, hnone, List.append_nil] at hhidden
  exact hhidden

/-- A numeral with blanks stays as it is. -/
theorem stripped_spacedZero (hcode : Scan.after style .code before = .code) :
    stripped style (before ++ spacedZero ++ after) = stripped style before ++ spacedZero ++ stripped style after := by
  have hzero : Scan.after style .code spacedZero = .code := by cases style <;> decide
  have hkept : stripped style spacedZero = spacedZero := by cases style <;> decide
  have hcut : IsCut before (spacedZero ++ after) := fun _ => by
    have hfirst : (spacedZero ++ after).head? = some ' ' := rfl
    rw [hfirst]
    decide
  have hcut' : IsCut spacedZero after := fun h => absurd h (by decide)
  rw [List.append_assoc, stripped_append hcode hcut, stripped_append hzero hcut', hkept, List.append_assoc]

/-- **What a literal hides around it**: a literal on one line instead of a numeral with blanks changes the cyclomatic
complexity by what counts at the seam of the code on both sides, apart from loops. Where nothing there joins with a
loop, the two measures are equal exactly if the seam counts the same joined as apart. -/
theorem cyclomatic_literal_eq_iff (style : CommentStyle) {pre post body : List Char} {quote : Char}
    (hcode : Scan.after style .code pre = .code) (hquote : isLiteralQuote quote = true)
    (hbody : IsLiteralBody quote body) (hline : '\n' ∉ body) :
    cyclomatic style (pre ++ quote :: (body ++ [quote]) ++ post) +
        apartPoints (stripped style pre) (stripped style post) +
        loops none (stripped style pre ++ spacedZero ++ stripped style post) =
      cyclomatic style (pre ++ spacedZero ++ post) + joinedPoints (stripped style pre) (stripped style post) +
        loops none (stripped style pre ++ stripped style post) ∧
    (LoopsApart (stripped style pre) (stripped style post) →
      (cyclomatic style (pre ++ quote :: (body ++ [quote]) ++ post) = cyclomatic style (pre ++ spacedZero ++ post) ↔
        joinedPoints (stripped style pre) (stripped style post) =
          apartPoints (stripped style pre) (stripped style post))) := by
  have hseam := decisionPoints_seam (stripped style pre) (stripped style post)
  rw [cyclomatic, cyclomatic, stripped_literal hquote hbody hline hcode, stripped_spacedZero hcode]
  constructor
  · omega
  · intro hloops
    have hsame := loops_seam hloops
    omega

/-- A choice written without blanks is lost with its literal, `ok ?'a':b`, and one with blanks is not. -/
theorem cyclomatic_literal_eq_iff_of_choice :
    let tight := "const v = ok ?".toList
    let spaced := "const v = ok ? ".toList
    Scan.after .slashes .code tight = .code ∧ Scan.after .slashes .code spaced = .code ∧
      isLiteralQuote '\x27' = true ∧ IsLiteralBody '\x27' ['a'] ∧ '\n' ∉ ['a'] ∧
      LoopsApart (stripped .slashes tight) (stripped .slashes ":b;".toList) ∧
      LoopsApart (stripped .slashes spaced) (stripped .slashes " : b;".toList) ∧
      cyclomatic .slashes (tight ++ '\x27' :: (['a'] ++ ['\x27']) ++ ":b;".toList) ≠
        cyclomatic .slashes (tight ++ spacedZero ++ ":b;".toList) ∧
      cyclomatic .slashes (spaced ++ '\x27' :: (['a'] ++ ['\x27']) ++ " : b;".toList) =
        cyclomatic .slashes (spaced ++ spacedZero ++ " : b;".toList) := by
  intro tight spaced
  have htight : Scan.after .slashes .code tight = .code := by decide
  have hspaced : Scan.after .slashes .code spaced = .code := by decide
  have hquote : isLiteralQuote '\x27' = true := rfl
  have hbody : IsLiteralBody '\x27' ['a'] := .plain (by decide) (by decide) .nil
  have hline : '\n' ∉ ['a'] := by decide
  have hloops : LoopsApart (stripped .slashes tight) (stripped .slashes ":b;".toList) :=
    ⟨fun _ hword => absurd rfl hword, fun hfor => absurd hfor (by decide)⟩
  have hloops' : LoopsApart (stripped .slashes spaced) (stripped .slashes " : b;".toList) :=
    ⟨fun _ hword => absurd rfl hword, fun hfor => absurd hfor (by decide)⟩
  refine ⟨htight, hspaced, hquote, hbody, hline, hloops, hloops', ?_, ?_⟩
  · rw [ne_eq, (cyclomatic_literal_eq_iff .slashes htight hquote hbody hline).2 hloops]
    decide
  · rw [(cyclomatic_literal_eq_iff .slashes hspaced hquote hbody hline).2 hloops']
    decide

end Literal

end Source
end RepoSurvey
