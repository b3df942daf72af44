import RepoSurvey.Proofs.Number.DoubleWhole
import RepoSurvey.Proofs.Source.Hidden
import RepoSurvey.Source.ComplexityDelta

/-!
# The estimate from changed lines

The change of a file is estimated from its changed lines, each scanned by itself with slash comments, whatever the
file's language. A function's score scans them with the comments of the language. The two count the same in a language
with slash comments, and on lines in which no comment of either style begins.

* `isUncommented`: no comment of either style begins in a text; `isUncommented_of_no_marks`: nor does it without the
  marks of the two styles.
* `ReadsAs`: the code of a line in both styles, told from the first mark that begins a comment in either.
* `scoredPoints`: what a function's score counts on single lines.
* `ComplexityDelta.ofDiff_counts`: what the estimate counts, and when the score counts the same.
-/

namespace RepoSurvey
namespace Source

/-! ### Texts without comments -/

section Uncommented

/-- Whether a comment of either style begins at a character of code, given the one after it. -/
def opensComment (c : Char) (following : Option Char) : Bool :=
  c == '#' || (c == '/' && (following == some '/' || following == some '*'))

namespace Scan

/-- The places outside comments. -/
def isOutside : Scan → Bool
  | code | literal _ | escape _ => true
  | _ => false

/-- The place after a text in which no comment begins. -/
def past (s : Scan) (text : List Char) : Scan := text.foldl (fun s c => s.next .slashes c none) s

variable {s : Scan} {c : Char} {following : Option Char}

/-- Where no comment begins, neither the style nor what follows makes a difference. -/
theorem next_of_not_opens (hs : s.isOutside = true) (h : s = code → opensComment c following = false)
    (style : CommentStyle) : s.next style c following = s.next .slashes c none := by
  cases s with
  | code =>
    have hc := h rfl
    simp only [opensComment, Bool.or_eq_false_iff, Bool.and_eq_false_imp, beq_iff_eq] at hc
    obtain ⟨hhash, hslash⟩ := hc
    cases style with
    | hash => simp [next, opensLineComment, opensBlockComment, hhash]
    | slashes =>
      by_cases hc : c = '/'
      · simp [next, opensLineComment, opensBlockComment, hslash hc]
      · simp [next, opensLineComment, opensBlockComment, hc]
  | literal quote => rfl
  | escape quote => rfl
  | _ => cases hs

theorem isOutside_next (hs : s.isOutside = true) : (s.next .slashes c none).isOutside = true := by
  cases s with
  | code =>
    by_cases hc : isLiteralQuote c = true <;>
      simp [next, opensLineComment, opensBlockComment, hc, isOutside]
  | literal quote =>
    rw [next]
    split_ifs <;> rfl
  | escape quote => rfl
  | _ => cases hs

end Scan

/-- Whether no comment of either style begins in a text before a given character. -/
def isUncommented : Scan → List Char → Option Char → Bool
  | _, [], _ => true
  | s, c :: rest, following =>
    (s != .code || !opensComment c (rest.head?.or following)) && isUncommented (s.next .slashes c none) rest following

variable {s : Scan} {following : Option Char}

theorem isUncommented_cons {c : Char} {rest : List Char} : isUncommented s (c :: rest) following = true ↔
    (s = .code → opensComment c (rest.head?.or following) = false) ∧
      isUncommented (s.next .slashes c none) rest following = true := by
  rw [isUncommented, Bool.and_eq_true, Bool.or_eq_true, bne_iff_ne, Bool.not_eq_true', imp_iff_not_or]

theorem opensComment_none {c : Char} (h : opensComment c following = false) : opensComment c none = false := by
  simp only [opensComment, Bool.or_eq_false_iff] at h ⊢
  exact ⟨h.1, by simp⟩

/-- A text in which no comment begins is scanned by itself, and in every style alike. -/
theorem strippedFrom_uncommented {before after : List Char} (hs : s.isOutside = true)
    (h : isUncommented s before after.head? = true) (style : CommentStyle) :
    strippedFrom style s (before ++ after) =
      strippedFrom .slashes s before ++ strippedFrom style (s.past before) after := by
  induction before generalizing s with
  | nil => rfl
  | cons c rest ih =>
    obtain ⟨hc, hrest⟩ := isUncommented_cons.mp h
    rw [← List.head?_append] at hc
    have halone : s = .code → opensComment c rest.head? = false := by
      intro hcode
      cases rest with
      | nil => exact opensComment_none (hc hcode)
      | cons d rest => exact hc hcode
    have hnext := Scan.next_of_not_opens hs hc style
    have hnext' := Scan.next_of_not_opens hs halone .slashes
    have hkeeps : s.keeps style c (rest ++ after).head? = s.keeps .slashes c rest.head? := by
      rw [Scan.keeps, Scan.keeps, hnext, hnext']
    rw [List.cons_append, strippedFrom_cons, strippedFrom_cons, hnext, hnext', hkeeps,
      ih (Scan.isOutside_next hs) hrest]
    split_ifs <;> rfl

/-- A text in which no comment begins has the same code in every style. -/
theorem stripped_uncommented {text : List Char} (h : isUncommented .code text none = true) (style : CommentStyle) :
    stripped style text = stripped .slashes text := by
  have hcode : strippedFrom style .code (text ++ []) = strippedFrom .slashes .code text ++ strippedFrom style _ [] :=
    strippedFrom_uncommented rfl h style
  rwa [List.append_nil, strippedFrom, List.append_nil] at hcode

/-- A text begins a comment of either style nowhere, or at a first character of its code. -/
theorem exists_first_comment {text : List Char} (hs : s.isOutside = true) (h : isUncommented s text none = false) :
    ∃ before c after, text = before ++ c :: after ∧ isUncommented s before (some c) = true ∧
      s.past before = .code ∧ opensComment c after.head? = true := by
  induction text generalizing s with
  | nil => cases h
  | cons c rest ih =>
    by_cases hopens : s = .code ∧ opensComment c rest.head? = true
    · exact ⟨[], c, rest, rfl, rfl, hopens.1, hopens.2⟩
    · have hc : s = .code → opensComment c rest.head? = false := by
        intro hcode
        rw [← Bool.not_eq_true]
        exact fun hopen => hopens ⟨hcode, hopen⟩
      have hrest : isUncommented (s.next .slashes c none) rest none = false := by
        rw [← Bool.not_eq_true] at h ⊢
        exact fun hrest => h (isUncommented_cons.mpr ⟨by rwa [Option.or_none], hrest⟩)
      obtain ⟨before, mark, after, rfl, hbefore, hpast, hmark⟩ := ih (Scan.isOutside_next hs) hrest
      refine ⟨c :: before, mark, after, rfl, isUncommented_cons.mpr ⟨?_, hbefore⟩, hpast, hmark⟩
      rwa [List.head?_append, List.head?_cons] at hc

/-- No comment begins in a text without a hash and without a slash before a slash or a star. -/
theorem isUncommented_of_no_marks {text : List Char} (hhash : '#' ∉ text) (hline : ¬ ['/', '/'] <:+: text)
    (hblock : ¬ ['/', '*'] <:+: text) : isUncommented s text none = true := by
  induction text generalizing s with
  | nil => rfl
  | cons c rest ih =>
    rw [List.mem_cons, not_or] at hhash
    rw [List.infix_cons_iff, not_or] at hline hblock
    refine isUncommented_cons.mpr ⟨fun _ => ?_, ih hhash.2 hline.2 hblock.2⟩
    cases rest with
    | nil => simp [opensComment, Ne.symm hhash.1]
    | cons d rest =>
      have hline' := hline.1
      have hblock' := hblock.1
      simp only [List.cons_prefix_cons, List.nil_prefix, and_true, not_and] at hline' hblock'
      simp only [opensComment, List.head?_cons, Option.some_or, Bool.or_eq_false_iff, Bool.and_eq_false_imp,
        beq_iff_eq, beq_eq_false_iff_ne, ne_eq, Option.some.injEq]
      exact ⟨Ne.symm hhash.1, fun hc => ⟨fun hd => hline' hc.symm hd.symm, fun hd => hblock' hc.symm hd.symm⟩⟩

end Uncommented

/-! ### A line in both styles -/

section Line

/-- The code of a line with hash comments and with slash comments. It is the same up to the first mark in the code that
begins a comment of either style; from there on, one of them goes on with the mark. -/
inductive ReadsAs : (line withHash withSlashes : List Char) → Prop
  | alike {line : List Char} (h : isUncommented .code line none = true) :
      ReadsAs line (stripped .slashes line) (stripped .slashes line)
  | hash {before : List Char} (after : List Char) (h : isUncommented .code before (some '#') = true)
      (hcode : Scan.past .code before = .code) :
      ReadsAs (before ++ '#' :: after) (stripped .slashes before)
        (stripped .slashes before ++ '#' :: stripped .slashes after)
  | slashes {before : List Char} (after : List Char) (h : isUncommented .code before (some '/') = true)
      (hcode : Scan.past .code before = .code) :
      ReadsAs (before ++ '/' :: '/' :: after) (stripped .slashes before ++ '/' :: '/' :: stripped .hash after)
        (stripped .slashes before)
  | block {before : List Char} (after : List Char) (h : isUncommented .code before (some '/') = true)
      (hcode : Scan.past .code before = .code) :
      ReadsAs (before ++ '/' :: '*' :: after) (stripped .slashes before ++ '/' :: '*' :: stripped .hash after)
        (stripped .slashes before ++ strippedFrom .slashes .blockComment after)

/-- What follows the mark of a line comment on its line is not kept. -/
theorem strippedFrom_lineComment {style : CommentStyle} {body : List Char} (h : '\n' ∉ body) :
    strippedFrom style .lineComment body = [] := by
  have hbody : strippedFrom style .lineComment (body ++ []) = strippedFrom style .code [] :=
    strippedFrom_lineBody h (by simp)
  rwa [List.append_nil] at hbody

/-- A character of code is kept. -/
theorem strippedFrom_code_cons {style : CommentStyle} {c : Char} {rest : List Char}
    (h : Scan.next style .code c rest.head? = .code) :
    strippedFrom style .code (c :: rest) = c :: strippedFrom style .code rest := by
  rw [strippedFrom_cons, if_pos (Scan.keeps_eq_true.mpr (.inr ⟨rfl, h⟩)), h]

/-- Every line is read so. -/
theorem readsAs {line : List Char} (hline : '\n' ∉ line) :
    ReadsAs line (stripped .hash line) (stripped .slashes line) := by
  by_cases h : isUncommented .code line none = true
  · rw [stripped_uncommented h .hash]
    exact .alike h
  · obtain ⟨before, mark, after, rfl, hbefore, hcode, hmark⟩ := exists_first_comment rfl (Bool.eq_false_iff.mpr h)
    have hcut (style : CommentStyle) : stripped style (before ++ mark :: after) =
        stripped .slashes before ++ strippedFrom style .code (mark :: after) := by
      rw [stripped, strippedFrom_uncommented rfl hbefore style, hcode]
      rfl
    have hafter : '\n' ∉ after := fun hmem => hline (List.mem_append_right _ (List.mem_cons_of_mem _ hmem))
    have hcomment : Scan.lineComment ≠ .code := by simp
    simp only [opensComment, Bool.or_eq_true, Bool.and_eq_true, beq_iff_eq] at hmark
    rw [hcut, hcut]
    rcases hmark with rfl | ⟨rfl, hnext | hnext⟩
    · have hhash : strippedFrom .hash .code ('#' :: after) = [] := by
        rw [strippedFrom_opening (by decide) hcomment rfl, strippedFrom_lineComment hafter]
      rw [hhash, List.append_nil, strippedFrom_code_cons (by simp [Scan.next, opensLineComment, opensBlockComment,
        isLiteralQuote])]
      exact .hash after hbefore hcode
    · obtain ⟨after, rfl⟩ := List.head?_eq_some_iff.mp hnext
      rw [List.mem_cons, not_or] at hafter
      have hslashes : strippedFrom .slashes .code ('/' :: '/' :: after) = [] := by
        rw [strippedFrom_opening (by decide) hcomment rfl, strippedFrom_lineComment (by simp [hafter])]
      rw [hslashes, List.append_nil, strippedFrom_code_cons rfl, strippedFrom_code_cons rfl]
      exact .slashes after hbefore hcode
    · obtain ⟨after, rfl⟩ := List.head?_eq_some_iff.mp hnext
      have hblock : Scan.blockOpening ≠ .code := by simp
      rw [strippedFrom_code_cons rfl, strippedFrom_code_cons rfl,
        strippedFrom_opening (by decide) hblock rfl, strippedFrom_cons_hidden hblock, lineFeeds_cons (by decide)]
      exact .block after hbefore hcode

end Line

/-- What a function's score counts on lines of a file, each of them scored by itself. -/
def scoredPoints (style : CommentStyle) (lines : List (List Char)) : Nat :=
  total (lines.map fun line => (score style line "<module>" 1 1).cyclomatic - 1)

theorem scoredPoints_eq (style : CommentStyle) (lines : List (List Char)) :
    scoredPoints style lines = total (lines.map fun line => decisionPoints (stripped style line)) := by
  rw [scoredPoints]
  refine congrArg total (List.map_congr_left fun line _ => ?_)
  exact Nat.add_sub_cancel_left 1 _

end Source

/-! ### The estimate -/

namespace FileDiff

/-- The added lines of all hunks. -/
def addedLines (d : FileDiff) : List (List Char) := d.hunks.flatMap Hunk.addedLines

/-- The removed lines of all hunks. -/
def removedLines (d : FileDiff) : List (List Char) := d.hunks.flatMap Hunk.removedLines

theorem newline_not_mem_changed {d : FileDiff} {line : List Char} (h : line ∈ d.removedLines ++ d.addedLines) :
    '\n' ∉ line := by
  have hmarked : ∃ hunk mark, line ∈ Hunk.marked mark hunk := by
    rcases List.mem_append.mp h with h | h
    · obtain ⟨hunk, -, hline⟩ := List.mem_flatMap.mp h
      exact ⟨hunk, '-', hline⟩
    · obtain ⟨hunk, -, hline⟩ := List.mem_flatMap.mp h
      exact ⟨hunk, '+', hline⟩
  obtain ⟨hunk, mark, hline⟩ := hmarked
  obtain ⟨whole, hwhole, hbody⟩ := List.mem_filterMap.mp hline
  cases whole with
  | nil => cases hbody
  | cons c body =>
    dsimp only at hbody
    split_ifs at hbody
    obtain rfl := Option.some.inj hbody
    exact fun hmem => not_mem_of_mem_splitOn hwhole (List.mem_cons_of_mem c hmem)

end FileDiff

namespace ComplexityDelta

open Source

section Estimate

/-- A measure is a count: over exact numbers, and as a double as long as the count has at most 53 bits. -/
structure IsCount (n : Nat) (exact : Rat) (double : Float) : Prop where
  exact_eq : exact = n
  double_eq : n < 2 ^ 53 → Double.toRat? double = some (n : Rat)

theorem isCount_roundPlaces (places n : Nat) :
    IsCount n (Scalar.roundPlaces places (Scalar.ofNat n)) (Scalar.roundPlaces places (Scalar.ofNat n)) where
  exact_eq := by
    have hexact : (Scalar.ofNat n : Rat) = n := Int.cast_natCast n
    rw [Scalar.roundPlaces_rat, hexact, Rat.roundPlaces_natCast]
  double_eq := Double.toRat?_roundPlaces_ofNat places

variable (d : FileDiff)

/-- The estimate is the change between two counts, whatever numbers it is computed with. -/
theorem ofDiff_eq {α : Type} [Scalar α] : (ofDiff d : ComplexityDelta α) =
    ofValues d.filePath (Scalar.ofNat (scoredPoints .slashes d.removedLines))
      (Scalar.ofNat (scoredPoints .slashes d.addedLines)) := by
  have hsum (lines : Hunk → List (List Char)) :
      total (d.hunks.map fun h => linePoints (lines h)) = scoredPoints .slashes (d.hunks.flatMap lines) := by
    rw [scoredPoints_eq, List.map_flatMap, total_flatMap]
    rfl
  rw [ofDiff, hsum, hsum]
  rfl

/-- Where no comment begins, the score of every language counts the same. -/
theorem scoredPoints_uncommented {lines : List (List Char)} (h : ∀ line ∈ lines, isUncommented .code line none = true)
    (style : CommentStyle) : scoredPoints .slashes lines = scoredPoints style lines := by
  rw [scoredPoints_eq, scoredPoints_eq]
  refine congrArg total (List.map_congr_left fun line hline => ?_)
  rw [stripped_uncommented (h line hline) style]

/-- **What the estimate counts**: before and after are what a function's score counts on the removed and on the added
lines with slash comments, whatever the language of the file. That is what the score counts in this file if the language
has slash comments, or if no comment of either style begins in a changed line. In any other line the code that the
estimate counts and the code of a language with hash comments part at the first mark of either. -/
theorem ofDiff_counts :
    IsCount (scoredPoints .slashes d.removedLines) (ofDiff d).before (ofDiff d).before ∧
    IsCount (scoredPoints .slashes d.addedLines) (ofDiff d).after (ofDiff d).after ∧
    (CommentStyle.ofPath (some d.filePath) = .slashes ∨
        (∀ line ∈ d.removedLines ++ d.addedLines, isUncommented .code line none = true) →
      (ofDiff d : ComplexityDelta Rat).before = scoredPoints (.ofPath (some d.filePath)) d.removedLines ∧
      (ofDiff d : ComplexityDelta Rat).after = scoredPoints (.ofPath (some d.filePath)) d.addedLines) ∧
    ∀ line ∈ d.removedLines ++ d.addedLines, ReadsAs line (stripped .hash line) (stripped .slashes line) := by
  have hbefore : IsCount (scoredPoints .slashes d.removedLines) (ofDiff d).before (ofDiff d).before := by
    rw [ofDiff_eq, ofDiff_eq]
    exact isCount_roundPlaces 2 _
  have hafter : IsCount (scoredPoints .slashes d.addedLines) (ofDiff d).after (ofDiff d).after := by
    rw [ofDiff_eq, ofDiff_eq]
    exact isCount_roundPlaces 2 _
  refine ⟨hbefore, hafter, fun h => ?_, fun line hline => readsAs (FileDiff.newline_not_mem_changed hline)⟩
  rw [hbefore.exact_eq, hafter.exact_eq]
  rcases h with hslashes | hplain
  · rw [hslashes]
    exact ⟨rfl, rfl⟩
  · obtain ⟨hremoved, hadded⟩ := List.forall_mem_append.mp hplain
    rw [scoredPoints_uncommented hremoved, scoredPoints_uncommented hadded]
    exact ⟨rfl, rfl⟩

/-- A change of a file with hash comments: a line with a comment goes, and one with a whole quotient comes. -/
def quotientDiff : FileDiff where
  filePath := "stats.py"
  hunks := [⟨"stats.py", 1, 1, 1, 1, "-run()  # while (ready), if (late)\n+total = a // b if (a > b) else 0", 1, 1⟩]

/-- A change of the same file in which no comment begins: the hash of the added line stands in a literal. -/
def conditionDiff : FileDiff where
  filePath := "stats.py"
  hunks := [⟨"stats.py", 1, 0, 1, 1, "+x = f('#') if (a) else 0", 1, 0⟩]

/-- The estimate of the first change falls from two to zero, where the score rises from zero to one; in the second
change both count one. -/
theorem ofDiff_counts_of_quotient :
    ((ofDiff quotientDiff : ComplexityDelta Rat).before = 2 ∧
      Double.toRat? (ofDiff quotientDiff : ComplexityDelta Float).before = some 2 ∧
      (ofDiff quotientDiff : ComplexityDelta Rat).after = 0 ∧
      scoredPoints (.ofPath (some "stats.py")) quotientDiff.removedLines = 0 ∧
      scoredPoints (.ofPath (some "stats.py")) quotientDiff.addedLines = 1 ∧
      ReadsAs "run()  # while (ready), if (late)".toList "run()  ".toList
        "run()  # while (ready), if (late)".toList) ∧
    (ofDiff conditionDiff : ComplexityDelta Rat).after =
        scoredPoints (.ofPath (some "stats.py")) conditionDiff.addedLines ∧
      scoredPoints (.ofPath (some "stats.py")) conditionDiff.addedLines = 1 := by
  obtain ⟨hbefore, hafter, -, hreads⟩ := ofDiff_counts quotientDiff
  have hremoved : scoredPoints .slashes quotientDiff.removedLines = 2 := by decide +kernel
  have hadded : scoredPoints .slashes quotientDiff.addedLines = 0 := by decide +kernel
  have hline := hreads "run()  # while (ready), if (late)".toList (by decide +kernel)
  have hhash : stripped .hash "run()  # while (ready), if (late)".toList = "run()  ".toList := by decide +kernel
  have hslashes : stripped .slashes "run()  # while (ready), if (late)".toList =
      "run()  # while (ready), if (late)".toList := by decide +kernel
  rw [hremoved] at hbefore
  rw [hadded] at hafter
  rw [hhash, hslashes] at hline
  have hplain : ∀ line ∈ conditionDiff.removedLines ++ conditionDiff.addedLines,
      isUncommented .code line none = true := by decide +kernel
  have hcondition := ((ofDiff_counts conditionDiff).2.2.1 (.inr hplain)).2
  refine ⟨⟨hbefore.exact_eq, hbefore.double_eq (by decide), hafter.exact_eq, ?_, ?_, hline⟩, hcondition, ?_⟩
  all_goals decide +kernel

end Estimate

end ComplexityDelta
end RepoSurvey
