import RepoSurvey.Proofs.Source.LiteralGap
import RepoSurvey.Proofs.Text.Occurrence

/-!
# Places of decision points

Each pattern of a decision point begins with a mark of its own, so that no two of them match at one place of a text and
their matches can be counted together.

* `markAt`: the word or the signs at a place.
* `reads_marks`: the mark before which each pattern matches; they are distinct.
* `decisionMatches`: the matches of all patterns; `decisionMatches_apart`: no two begin at one place.
-/

namespace RepoSurvey
namespace Source

open Pattern

/-! ### Marks -/

section Marks

/-- What a text begins with: a word, and whether a parenthesis comes next, or else a sign, alone or doubled. -/
def markAt : List Char → List Char × Bool
  | [] => ([], false)
  | c :: rest =>
    if Text.isWord c then ((c :: rest).takeWhile Text.isWord, opens '(' ((c :: rest).dropWhile Text.isWord))
    else (if rest.head? = some c then [c, c] else [c], false)

/-- The patterns with their marks. -/
def decisionMarks : List (Pattern × List Char × Bool) :=
  [(keywordThen "if" "(", "if".toList, true), (keywordThen "for" "(", "for".toList, true),
    (bareFor, "for".toList, false), (keywordThen "while" "(", "while".toList, true),
    (keywordThen "do" "\x7b", "do".toList, false), (keywordThen "switch" "(", "switch".toList, true),
    (keywordThen "catch" "(", "catch".toList, true), (literal "&&", ['&', '&'], false),
    (literal "||", ['|', '|'], false), (literal "??", ['?', '?'], false), (ternary, ['?'], false)]

variable {place : Place} {letters : List Char} {sign : Char}

theorem markAt_of_word {s : List Char} (hword : s.takeWhile Text.isWord = letters) (hne : letters ≠ []) :
    markAt s = (letters, opens '(' (s.dropWhile Text.isWord)) := by
  cases s with
  | nil => exact absurd hword.symm hne
  | cons c rest =>
    have hc : Text.isWord c = true := by
      by_contra hc
      rw [List.takeWhile_cons_of_neg hc] at hword
      exact hne hword.symm
    rw [markAt, if_pos hc, hword]

theorem markAt_of_sign {c : Char} (hc : Text.isWord c = false) (rest : List Char) :
    markAt (c :: rest) = (if rest.head? = some c then [c, c] else [c], false) := by
  rw [markAt, if_neg (by rw [hc]; exact Bool.false_ne_true)]

/-- A keyword is matched before its sign only. -/
theorem markAt_of_keyword (sign : Char) {keyword opening : String} (hletters : keyword.toList = letters)
    (hsign : opening.toList = [sign]) (hmem : (letters, sign) ∈ keywords)
    (h : (keywordThen keyword opening).reads? place ≠ none) : markAt place.2 = (letters, sign == '(') := by
  have hk := isKeyword_of_mem hmem
  have hpattern : keywordThen keyword opening = sequence [boundary, word letters, blanks, word [sign]] := by
    rw [keywordThen, literal, literal, hletters, hsign]
  have hread := reads?_keyword hk place.1 place.2
  rw [← hpattern] at hread
  have hhit : isHit letters sign place.1 place.2 = true := by
    by_contra hnone
    rw [if_neg hnone] at hread
    exact h hread
  simp only [isHit, Bool.and_eq_true, beq_iff_eq] at hhit
  obtain ⟨⟨-, hword⟩, hopens⟩ := hhit
  rw [opens, beq_iff_eq] at hopens
  rw [markAt_of_word hword hk.ne_nil, opens, hopens]
  rfl

/-- A loop without a parenthesis is matched where no parenthesis comes next. -/
theorem markAt_of_bareFor (h : bareFor.reads? place ≠ none) : markAt place.2 = ("for".toList, false) := by
  have hread := map_snd_reads?_bareFor place.1 place.2
  have hrest : loopRest? place.1 place.2 ≠ none := by
    rw [← hread, Ne, Option.map_eq_none_iff]
    exact h
  unfold loopRest? loopCode? at hrest
  split_ifs at hrest with hfor hcode
  · rw [markAt_of_word hfor.2 (List.cons_ne_nil _ _), opens, beq_eq_false_iff_ne.mpr hcode.2]
    rfl
  · exact absurd rfl hrest
  · exact absurd rfl hrest

theorem markAt_of_doubled (hsign : Text.isWord sign = false) (h : (word [sign, sign]).reads? place ≠ none) :
    markAt place.2 = ([sign, sign], false) := by
  have hread := reads?_double sign place.1 place.2
  have hstart : [sign, sign] <+: place.2 := by
    by_contra hnone
    rw [if_neg hnone] at hread
    exact h hread
  obtain ⟨rest, hrest⟩ := hstart
  have hdoubled : place.2 = sign :: sign :: rest := hrest.symm
  rw [hdoubled, markAt_of_sign hsign, if_pos List.head?_cons]

/-- A choice is a question mark behind another sign and before another sign. -/
theorem of_reads?_ternary (h : ternary.reads? place ≠ none) :
    ∃ rest, place.2 = '?' :: rest ∧ isLone place.1 rest.head? = true := by
  obtain ⟨prev, s⟩ := place
  cases s with
  | nil => exact absurd (reads?_ternary_nil prev) h
  | cons c rest =>
    rw [reads?_ternary] at h
    split_ifs at h with hlone
    · exact ⟨rest, by rw [hlone.1], hlone.2⟩
    · exact absurd rfl h

theorem markAt_of_ternary (h : ternary.reads? place ≠ none) : markAt place.2 = (['?'], false) := by
  obtain ⟨rest, hrest, hlone⟩ := of_reads?_ternary h
  have hnext : rest.head? ≠ some '?' := by
    intro hhead
    simp [isLone, hhead, joinsMark] at hlone
  rw [hrest, markAt_of_sign (by decide), if_neg hnext]

/-- Each pattern is matched before its own mark only. -/
theorem markAt_of_mem {k : Pattern × List Char × Bool} (hk : k ∈ decisionMarks) (h : k.1.reads? place ≠ none) :
    markAt place.2 = k.2 := by
  have hall : ∀ k ∈ decisionMarks, k.1.reads? place ≠ none → markAt place.2 = k.2 := by
    simp only [decisionMarks, List.forall_mem_cons]
    refine ⟨?_, ?_, ?_, ?_, ?_, ?_, ?_, ?_, ?_, ?_, ?_, List.forall_mem_nil _⟩
    · exact markAt_of_keyword '(' rfl rfl (by decide)
    · exact markAt_of_keyword '(' rfl rfl (by decide)
    · exact markAt_of_bareFor
    · exact markAt_of_keyword '(' rfl rfl (by decide)
    · exact markAt_of_keyword '\x7b' rfl rfl (by decide)
    · exact markAt_of_keyword '(' rfl rfl (by decide)
    · exact markAt_of_keyword '(' rfl rfl (by decide)
    · exact markAt_of_doubled (by decide)
    · exact markAt_of_doubled (by decide)
    · exact markAt_of_doubled (by decide)
    · exact markAt_of_ternary
  exact hall k hk h

end Marks

/-! ### Matches of all patterns -/

section Matches

variable {code : List Char}

/-- The matches that are counted, pattern by pattern. -/
def decisionMatches (code : List Char) : List Occurrence := decisionPatterns.flatMap (·.findAll code)

theorem length_decisionMatches (code : List Char) : (decisionMatches code).length = decisionPoints code := by
  rw [decisionMatches, decisionPoints, countAll]
  induction decisionPatterns with
  | nil => rfl
  | cons p rest ih =>
    rw [List.flatMap_cons, List.length_append, List.map_cons, total_cons, ih]
    rfl

theorem map_fst_decisionMarks : decisionMarks.map (·.1) = decisionPatterns := rfl

/-- A match begins with the mark of its pattern. -/
theorem markAt_drop_of_mem {k : Pattern × List Char × Bool} (hk : k ∈ decisionMarks) {o : Occurrence}
    (ho : o ∈ k.1.findAll code) : markAt (code.drop o.start) = k.2 := by
  have hplace : (placeIn code o.start).2 = code.drop o.start := rfl
  rw [← hplace]
  refine markAt_of_mem hk fun hnone => ?_
  have hreads := (reads_of_mem_findAll ho).2.2
  rw [reads?, List.head?_eq_none_iff] at hnone
  rw [hnone] at hreads
  exact List.not_mem_nil hreads

/-- Two patterns with different marks are not matched at one place. -/
theorem start_ne {k k' : Pattern × List Char × Bool} (hk : k ∈ decisionMarks) (hk' : k' ∈ decisionMarks)
    (hne : k.2 ≠ k'.2) {o o' : Occurrence} (ho : o ∈ k.1.findAll code) (ho' : o' ∈ k'.1.findAll code) :
    o.start ≠ o'.start := by
  intro hsame
  rw [← markAt_drop_of_mem hk ho, hsame, markAt_drop_of_mem hk' ho'] at hne
  exact hne rfl

theorem pairwise_decisionPatterns (code : List Char) : decisionPatterns.Pairwise fun p q =>
    ∀ o ∈ p.findAll code, ∀ o' ∈ q.findAll code, o.start ≠ o'.start := by
  have hmarks : (decisionMarks.map (·.2)).Nodup := by decide
  rw [← map_fst_decisionMarks, List.pairwise_map]
  refine (List.pairwise_map.mp hmarks).imp_of_mem ?_
  intro k k' hk hk' hne o ho o' ho'
  exact start_ne hk hk' hne ho ho'

/-- A pattern is matched at different places. -/
theorem pairwise_start (p : Pattern) (code : List Char) :
    (p.findAll code).Pairwise fun o o' => o.start ≠ o'.start := by
  refine (pairwise_findAll p code).imp_of_mem fun ho _ hbehind hsame => ?_
  have hlonger := (reads_of_mem_findAll ho).1
  omega

/-- A doubled sign has two characters. -/
theorem of_mem_findAll_doubled (sign : Char) {o : Occurrence} (ho : o ∈ (word [sign, sign]).findAll code) :
    o.finish = o.start + 2 ∧ [sign, sign] <+: code.drop o.start := by
  obtain ⟨-, hfinish, hreads⟩ := reads_of_mem_findAll ho
  rw [readings_word, placeAfter] at hreads
  split_ifs at hreads with hstart
  · have hrest : code.drop o.finish = (code.drop o.start).drop 2 :=
      congrArg Prod.snd (List.mem_singleton.mp hreads)
    have hlength := congrArg List.length hrest
    have hle : 2 ≤ (code.drop o.start).length := hstart.length_le
    simp only [List.length_drop] at hlength hle
    exact ⟨by omega, hstart⟩
  · exact absurd hreads List.not_mem_nil

/-- A choice does not stand right behind a question mark. -/
theorem not_mark_before_of_mem {o : Occurrence} (ho : o ∈ ternary.findAll code) :
    (code.take o.start).getLast? ≠ some '?' := by
  intro hlast
  have hreads := (reads_of_mem_findAll ho).2.2
  have hread : ternary.reads? (placeIn code o.start) ≠ none := by
    rw [reads?, Ne, List.head?_eq_none_iff]
    exact List.ne_nil_of_mem hreads
  obtain ⟨rest, -, hlone⟩ := of_reads?_ternary hread
  rw [placeIn, hlast] at hlone
  simp [isLone] at hlone

/-- **Decision points are counted once**: the matches of all patterns together begin at different places. So a `for` is
not matched both with a parenthesis and without one, and no question mark of a doubled one is matched as a choice. -/
theorem decisionMatches_apart (code : List Char) :
    (decisionMatches code).length = decisionPoints code ∧ ((decisionMatches code).map (·.start)).Nodup ∧
      (∀ o ∈ (keywordThen "for" "(").findAll code, ∀ o' ∈ bareFor.findAll code, o.start ≠ o'.start) ∧
      ∀ o ∈ (literal "??").findAll code, ∀ o' ∈ ternary.findAll code, ¬(o.start ≤ o'.start ∧ o'.start < o.finish) := by
  refine ⟨length_decisionMatches code, ?_, ?_, ?_⟩
  · rw [List.Nodup, List.pairwise_map, decisionMatches, List.pairwise_flatMap]
    exact ⟨fun p _ => pairwise_start p code, pairwise_decisionPatterns code⟩
  · intro o ho o' ho'
    have hparenthesis : (keywordThen "for" "(", "for".toList, true) ∈ decisionMarks :=
      List.mem_of_getElem? (show decisionMarks[1]? = some _ from rfl)
    have hbare : (bareFor, "for".toList, false) ∈ decisionMarks :=
      List.mem_of_getElem? (show decisionMarks[2]? = some _ from rfl)
    exact start_ne hparenthesis hbare (by decide) ho ho'
  · rintro o ho o' ho' ⟨hfrom, hto⟩
    have hmark : (literal "??", ['?', '?'], false) ∈ decisionMarks :=
      List.mem_of_getElem? (show decisionMarks[9]? = some _ from rfl)
    have hchoice : (ternary, ['?'], false) ∈ decisionMarks :=
      List.mem_of_getElem? (show decisionMarks[10]? = some _ from rfl)
    obtain ⟨hfinish, hdoubled⟩ := of_mem_findAll_doubled '?' ho
    obtain hsame | hnext : o.start = o'.start ∨ o'.start = o.start + 1 := by omega
    · exact start_ne hmark hchoice (by decide) ho ho' hsame
    · refine not_mark_before_of_mem ho' ?_
      obtain ⟨rest, hrest⟩ := hdoubled
      have hfirst : code[o.start]? = some '?' := by
        rw [← Nat.add_zero o.start, ← List.getElem?_drop, ← hrest]
        rfl
      rw [hnext, List.take_add_one, hfirst, Option.toList_some, List.getLast?_concat]

end Matches

end Source
end RepoSurvey
