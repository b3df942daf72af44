import RepoSurvey.Proofs.Source.KeywordHit

/-!
# Loops without a parenthesis

Such a loop counts from its `for` to the first `of` or `in` on the line on which the code behind the `for` begins.

* `loopEnd?`, `loopRest?`: what follows that word; `map_snd_reads?_bareFor`: they read the pattern.
* `loops`: the number of matches from a place on.
* `LoopsApart`: what joins two texts without regard to their loops.
* `loops_seam`: such texts have as many loops with a numeral in between.
-/

namespace RepoSurvey
namespace Source

open Pattern

variable {prev : Option Char} {s before after : List Char}

/-! ### Reading a loop -/

section Reading

/-- Whether a word stands between a loop's variable and what it goes through. -/
def isStep (w : List Char) : Bool := w == ['o', 'f'] || w == ['i', 'n']

/-- What follows the first such word on a line. -/
def loopEnd? : Option Char → List Char → Option (List Char)
  | _, [] => none
  | prev, c :: rest =>
    if prev.any Text.isWord = false ∧ isStep ((c :: rest).takeWhile Text.isWord) then
      some ((c :: rest).dropWhile Text.isWord)
    else if c = '\n' then none
    else loopEnd? (some c) rest

/-- What follows a loop whose `for` stands before a text: white space comes first and no parenthesis after it. -/
def loopCode? (s : List Char) : Option (List Char) :=
  if s.head?.any Text.isBlank = true ∧ (s.dropWhile Text.isBlank).head? ≠ some '(' then
    loopEnd? none (s.dropWhile Text.isBlank)
  else none

/-- What follows a loop that begins at a place. -/
def loopRest? (prev : Option Char) (s : List Char) : Option (List Char) :=
  if prev.any Text.isWord = false ∧ s.takeWhile Text.isWord = ['f', 'o', 'r'] then loopCode? (s.dropWhile Text.isWord)
  else none

/-- A whole word. -/
theorem readings_whole {w : List Char} (hne : w ≠ []) (hw : ∀ c ∈ w, Text.isWord c = true) (prev : Option Char)
    (s : List Char) : (sequence [boundary, word w, boundary]).readings (prev, s) =
      if prev.any Text.isWord = false ∧ s.takeWhile Text.isWord = w then [(w.getLast?, s.dropWhile Text.isWord)]
      else [] := by
  have hboundary : sequence [boundary] = boundary := rfl
  rw [readings_boundary_word hne hw, hboundary, readings_boundary]
  by_cases hs : w <+: s
  · obtain ⟨rest, rfl⟩ := hs
    have hlast : w.getLast?.any Text.isWord = true := by
      rw [List.getLast?_eq_some_getLast hne]
      exact hw _ (List.getLast_mem hne)
    rw [List.drop_left, hlast]
    simp only [takeWhile_append_eq_iff hw]
    cases hrest : rest.head?.any Text.isWord with
    | true => simp
    | false => simp [dropWhile_append_edge hw hrest]
  · have hword : s.takeWhile Text.isWord ≠ w := fun h => hs (h ▸ List.takeWhile_prefix Text.isWord)
    rw [if_neg fun h => hs h.2, if_neg fun h => hword h.2]

theorem readings_step (prev : Option Char) (s : List Char) :
    (sequence [boundary, anyWord ["of", "in"], boundary]).readings (prev, s) =
      if prev.any Text.isWord = false ∧ isStep (s.takeWhile Text.isWord) then
        [((s.takeWhile Text.isWord).getLast?, s.dropWhile Text.isWord)] else [] := by
  have hchoice : (sequence [boundary, anyWord ["of", "in"], boundary]).readings (prev, s) =
      (sequence [boundary, word ['o', 'f'], boundary]).readings (prev, s) ++
        (sequence [boundary, word ['i', 'n'], boundary]).readings (prev, s) := by
    have hwords : anyWord ["of", "in"] = alt (word ['o', 'f']) (word ['i', 'n']) := rfl
    simp only [hwords, readings_sequence, readings_boundary]
    split_ifs with hedge
    · simp only [List.flatMap_singleton, readings_sequence, readings_alt, List.flatMap_append]
    · rfl
  have hletters : ∀ c ∈ ['o', 'f'], Text.isWord c = true := List.all_eq_true.mp rfl
  have hletters' : ∀ c ∈ ['i', 'n'], Text.isWord c = true := List.all_eq_true.mp rfl
  rw [hchoice, readings_whole (List.cons_ne_nil _ _) hletters, readings_whole (List.cons_ne_nil _ _) hletters']
  by_cases hof : s.takeWhile Text.isWord = ['o', 'f']
  · simp [isStep, hof]
  · by_cases hin : s.takeWhile Text.isWord = ['i', 'n'] <;> simp [isStep, hof, hin]

theorem map_snd_reads?_loopEnd (prev : Option Char) (s : List Char) :
    ((sequence [fewest 0 (· != '\n'), boundary, anyWord ["of", "in"], boundary]).reads? (prev, s)).map Prod.snd =
      loopEnd? prev s := by
  have hreadings (prev : Option Char) (s : List Char) := readings_fewest_seq (· != '\n')
    (sequence [boundary, anyWord ["of", "in"], boundary]) prev s
  simp only [readings_step] at hreadings
  induction s generalizing prev with
  | nil =>
    refine (congrArg (fun places => places.head?.map Prod.snd) (hreadings prev [])).trans ?_
    simp [isStep, loopEnd?]
  | cons c rest ih =>
    refine (congrArg (fun places => places.head?.map Prod.snd) (hreadings prev (c :: rest))).trans ?_
    rw [loopEnd?]
    split_ifs with hstep hnewline
    · rfl
    · simp [hnewline]
    · have hpass : (c != '\n') = true := by simpa using hnewline
      simp only [hpass, if_true, List.nil_append]
      exact ih (some c)

theorem loopEnd?_congr (prev prev' : Option Char) (h : prev.any Text.isWord = prev'.any Text.isWord) (s : List Char) :
    loopEnd? prev s = loopEnd? prev' s := by
  cases s with
  | nil => rfl
  | cons c rest => rw [loopEnd?, loopEnd?, h]

/-- The pattern of such a loop behind its `for`. -/
def loopTail : List Pattern :=
  [.fewest 0 (· != '\n'), .boundary, anyWord ["of", "in"], .boundary]

theorem readings_loopTail (prev : Option Char) (s : List Char) :
    (sequence (absent (one fun c => Text.isBlank c || c == '(') :: loopTail)).readings (prev, s) =
      if s.head?.any (fun c => Text.isBlank c || c == '(') then [] else (sequence loopTail).readings (prev, s) := by
  rw [loopTail, readings_sequence, readings_absent_one]
  split_ifs
  · rfl
  · exact List.flatMap_singleton _ _

/-- White space behind the `for` is read as far as it goes. -/
theorem readings_loopBlanks (prev : Option Char) (s : List Char) :
    (sequence (someBlanks :: absent (one fun c => Text.isBlank c || c == '(') :: loopTail)).readings (prev, s) =
      if s.head?.any Text.isBlank = true ∧ (s.dropWhile Text.isBlank).head? ≠ some '(' then
        (sequence loopTail).readings ((s.takeWhile Text.isBlank).getLast?.or prev, s.dropWhile Text.isBlank)
      else [] := by
  have hblank (prev : Option Char) (c : Char) (rest : List Char) (hc : Text.isBlank c = true) :
      (sequence (absent (one fun c => Text.isBlank c || c == '(') :: loopTail)).readings (prev, c :: rest) = [] := by
    rw [readings_loopTail, List.head?_cons, Option.any_some, hc, Bool.true_or, if_pos rfl]
  refine (readings_most_seq hblank 1 prev s).trans ?_
  rw [readings_loopTail]
  cases hfirst : s.head?.any Text.isBlank with
  | false =>
    rw [takeWhile_eq_nil hfirst]
    rfl
  | true =>
    have hlength : 1 ≤ (s.takeWhile Text.isBlank).length := by
      cases s with
      | nil => cases hfirst
      | cons c rest =>
        have hc : Text.isBlank c = true := hfirst
        rw [List.takeWhile_cons_of_pos hc]
        exact Nat.succ_pos _
    have hrest := any_head?_dropWhile Text.isBlank s
    cases hcode : (s.dropWhile Text.isBlank).head? with
    | none => simp [hlength]
    | some c =>
      rw [hcode, Option.any_some] at hrest
      by_cases hc : c = '(' <;> simp [hlength, hrest, hc]

theorem map_snd_reads?_loopCode (prev : Option Char) (s : List Char) :
    ((sequence (someBlanks :: absent (one fun c => Text.isBlank c || c == '(') :: loopTail)).reads? (prev, s)).map
      Prod.snd = loopCode? s := by
  rw [reads?, readings_loopBlanks, loopCode?]
  split_ifs with hcode
  · have hspace : s.takeWhile Text.isBlank ≠ [] := fun hnil => by
      rw [any_head?_of_takeWhile_eq_nil hnil] at hcode
      cases hcode.1
    have hlast : ((s.takeWhile Text.isBlank).getLast?.or prev).any Text.isWord = false := by
      rw [List.getLast?_eq_some_getLast hspace, Option.some_or]
      exact Text.isWord_of_isBlank (List.mem_takeWhile_imp (List.getLast_mem hspace))
    exact (map_snd_reads?_loopEnd _ _).trans (loopEnd?_congr _ none hlast _)
  · rfl

theorem map_snd_reads?_bareFor (prev : Option Char) (s : List Char) :
    (bareFor.reads? (prev, s)).map Prod.snd = loopRest? prev s := by
  have hpattern : bareFor = sequence (boundary :: word ['f', 'o', 'r'] :: someBlanks ::
      absent (one fun c => Text.isBlank c || c == '(') :: loopTail) := rfl
  have hletters : ∀ c ∈ ['f', 'o', 'r'], Text.isWord c = true := List.all_eq_true.mp rfl
  rw [hpattern, reads?, readings_boundary_word (by decide) hletters, loopRest?]
  by_cases hs : ['f', 'o', 'r'] <+: s
  · obtain ⟨rest, rfl⟩ := hs
    have hcode := map_snd_reads?_loopCode ['f', 'o', 'r'].getLast? rest
    rw [List.drop_left]
    simp only [takeWhile_append_eq_iff hletters]
    cases hprev : prev.any Text.isWord with
    | true => rfl
    | false =>
      cases hword : rest.head?.any Text.isWord with
      | false =>
        rw [dropWhile_append_edge hletters hword, if_pos ⟨rfl, List.prefix_append _ _⟩, if_pos ⟨rfl, rfl⟩]
        exact hcode
      | true =>
        have hblank : ¬rest.head?.any Text.isBlank = true := fun h => by
          rw [not_word_of_blank h] at hword
          cases hword
        rw [loopCode?, if_neg fun h => hblank h.1] at hcode
        rw [if_pos ⟨rfl, List.prefix_append _ _⟩, if_neg (by simp)]
        exact hcode
  · have hword : s.takeWhile Text.isWord ≠ ['f', 'o', 'r'] := fun h => hs (h ▸ List.takeWhile_prefix Text.isWord)
    rw [if_neg fun h => hs h.2, if_neg fun h => hword h.2]
    rfl

end Reading

/-! ### Counting loops -/

section Count

/-- The number of loops from a place on. -/
def loops (prev : Option Char) (s : List Char) : Nat := bareFor.countFrom (prev, s)

/-- A loop ends with a whole word. -/
theorem loopEnd?_some {rest : List Char} (h : loopEnd? prev s = some rest) :
    rest.length < s.length ∧ rest.head?.any Text.isWord = false := by
  induction s generalizing prev with
  | nil => cases h
  | cons c tail ih =>
    rw [loopEnd?] at h
    split_ifs at h with hstep
    · cases h
      refine ⟨?_, any_head?_dropWhile Text.isWord (c :: tail)⟩
      have hlength := congrArg List.length (List.takeWhile_append_dropWhile (p := Text.isWord) (l := c :: tail))
      have hpos : 0 < ((c :: tail).takeWhile Text.isWord).length := by
        rw [List.length_pos_iff]
        intro hnil
        rw [hnil] at hstep
        cases hstep.2
      rw [List.length_append] at hlength
      omega
    · obtain ⟨hshort, hword⟩ := ih h
      exact ⟨Nat.lt_succ_of_lt hshort, hword⟩

theorem loopRest?_some {rest : List Char} (h : loopRest? prev s = some rest) :
    rest.length < s.length ∧ rest.head?.any Text.isWord = false := by
  rw [loopRest?, loopCode?] at h
  split_ifs at h
  obtain ⟨hshort, hword⟩ := loopEnd?_some h
  have hle := List.length_dropWhile_le Text.isWord s
  have hle' := List.length_dropWhile_le Text.isBlank (s.dropWhile Text.isWord)
  exact ⟨by omega, hword⟩

theorem loopRest?_of_ne (h : s.takeWhile Text.isWord ≠ ['f', 'o', 'r']) (prev : Option Char) :
    loopRest? prev s = none := if_neg fun hplace => h hplace.2

theorem loopRest?_of_word (h : prev.any Text.isWord = true) (s : List Char) : loopRest? prev s = none := by
  rw [loopRest?, h, if_neg fun hplace => Bool.noConfusion hplace.1]

theorem loops_of_none {c : Char} (h : loopRest? prev (c :: s) = none) : loops prev (c :: s) = loops (some c) s := by
  rw [← map_snd_reads?_bareFor, Option.map_eq_none_iff] at h
  exact countFrom_of_reads?_eq_none h

theorem loops_nil (prev : Option Char) : loops prev [] = 0 := countFrom_nil bareFor prev

/-- Before another word than a `for` it does not matter what stands behind the place. -/
theorem loops_of_ne (h : s.takeWhile Text.isWord ≠ ['f', 'o', 'r']) (prev prev' : Option Char) :
    loops prev s = loops prev' s := by
  cases s with
  | nil => rw [loops_nil, loops_nil]
  | cons c rest => rw [loops_of_none (loopRest?_of_ne h prev), loops_of_none (loopRest?_of_ne h prev')]

theorem loops_of_not_word (hs : s.head?.any Text.isWord = false) (prev prev' : Option Char) :
    loops prev s = loops prev' s := loops_of_ne (by rw [takeWhile_eq_nil hs]; decide) prev prev'

/-- A loop is counted, and the count goes on behind it. -/
theorem loops_of_some {rest : List Char} (h : loopRest? prev s = some rest) (prev' : Option Char) :
    loops prev s = loops prev' rest + 1 := by
  obtain ⟨hshort, hword⟩ := loopRest?_some h
  rw [← map_snd_reads?_bareFor] at h
  obtain ⟨place, hplace, rfl⟩ := Option.map_eq_some_iff.mp h
  rw [loops, countFrom_of_reads? hplace hshort]
  exact congrArg (· + 1) (loops_of_not_word hword place.1 prev')

theorem loops_congr {prev prev' : Option Char} (h : prev.any Text.isWord = prev'.any Text.isWord) (s : List Char) :
    loops prev s = loops prev' s := by
  have hrest : loopRest? prev s = loopRest? prev' s := by
    rw [loopRest?, loopRest?, h]
  cases hsome : loopRest? prev s with
  | some rest => rw [loops_of_some hsome none, loops_of_some (hrest.symm.trans hsome) none]
  | none =>
    cases s with
    | nil => rw [loops_nil, loops_nil]
    | cons c rest => rw [loops_of_none hsome, loops_of_none (hrest.symm.trans hsome)]

theorem takeWhile_space (s : List Char) : (' ' :: s).takeWhile Text.isWord = [] :=
  List.takeWhile_cons_of_neg (by decide)

theorem takeWhile_zero (s : List Char) : ('0' :: ' ' :: s).takeWhile Text.isWord = ['0'] := by
  rw [List.takeWhile_cons_of_pos (by decide), takeWhile_space]

/-- A numeral with blanks is passed over. -/
theorem loops_spacedZero (prev : Option Char) (s : List Char) : loops prev (spacedZero ++ s) = loops none s := by
  calc loops prev (spacedZero ++ s)
    _ = loops (some ' ') ('0' :: ' ' :: s) := loops_of_none (loopRest?_of_ne (by rw [takeWhile_space]; decide) prev)
    _ = loops (some '0') (' ' :: s) := loops_of_none (loopRest?_of_ne (by rw [takeWhile_zero]; decide) _)
    _ = loops (some ' ') s := loops_of_none (loopRest?_of_ne (by rw [takeWhile_space]; decide) _)
    _ = loops none s := loops_congr (by decide) s

theorem loopEnd?_cons {c : Char} (h : prev.any Text.isWord = true ∨ isStep ((c :: s).takeWhile Text.isWord) = false) :
    loopEnd? prev (c :: s) = if c = '\n' then none else loopEnd? (some c) s := by
  rw [loopEnd?, if_neg]
  rintro ⟨hprev, hstep⟩
  rcases h with hword | hnone
  · rw [hword] at hprev
    cases hprev
  · rw [hnone] at hstep
    cases hstep

theorem loopEnd?_of_not_step (h : isStep (s.takeWhile Text.isWord) = false) (prev prev' : Option Char) :
    loopEnd? prev s = loopEnd? prev' s := by
  cases s with
  | nil => rfl
  | cons c rest => rw [loopEnd?_cons (.inr h), loopEnd?_cons (.inr h)]

theorem loopEnd?_zero (prev : Option Char) (s : List Char) : loopEnd? prev ('0' :: ' ' :: s) = loopEnd? none s := by
  calc loopEnd? prev ('0' :: ' ' :: s)
    _ = loopEnd? (some '0') (' ' :: s) := loopEnd?_cons (.inr (by rw [takeWhile_zero]; rfl))
    _ = loopEnd? (some ' ') s := loopEnd?_cons (.inr (by rw [takeWhile_space]; rfl))
    _ = loopEnd? none s := loopEnd?_congr (some ' ') none (by decide) s

theorem loopEnd?_spacedZero (prev : Option Char) (s : List Char) :
    loopEnd? prev (spacedZero ++ s) = loopEnd? none s := by
  have hspace : loopEnd? prev (' ' :: '0' :: ' ' :: s) = loopEnd? (some ' ') ('0' :: ' ' :: s) :=
    loopEnd?_cons (.inr (by rw [takeWhile_space]; rfl))
  exact hspace.trans (loopEnd?_zero (some ' ') s)

/-- White space does not end a loop, but a line feed in it ends the line. -/
theorem loopEnd?_blanks {blank : List Char} (hblank : ∀ c ∈ blank, Text.isBlank c = true) (s : List Char) :
    loopEnd? none (blank ++ s) = if '\n' ∈ blank then none else loopEnd? none s := by
  induction blank with
  | nil => rfl
  | cons c blank ih =>
    obtain ⟨hc, hrest⟩ := List.forall_mem_cons.mp hblank
    have hstep : isStep ((c :: (blank ++ s)).takeWhile Text.isWord) = false := by
      rw [List.takeWhile_cons_of_neg (by simp [Text.isWord_of_isBlank hc])]
      rfl
    by_cases hnewline : c = '\n'
    · rw [List.cons_append, loopEnd?_cons (.inr hstep), if_pos hnewline, if_pos (hnewline ▸ List.mem_cons_self)]
    · have hmem : '\n' ∈ c :: blank ↔ '\n' ∈ blank := by simp [Ne.symm hnewline]
      have hprev : (some c).any Text.isWord = Option.any Text.isWord none := Text.isWord_of_isBlank hc
      rw [List.cons_append, loopEnd?_cons (.inr hstep), if_neg hnewline, loopEnd?_congr _ _ hprev, ih hrest]
      simp only [hmem]

end Count

/-! ### At a seam -/

section Seam

/-- Whether a word has a part in a loop. -/
def isLoopWord (w : List Char) : Bool := w == ['f', 'o', 'r'] || isStep w

theorem of_not_loopWord {w : List Char} (h : isLoopWord w = false) : w ≠ ['f', 'o', 'r'] ∧ isStep w = false := by
  rw [isLoopWord, Bool.or_eq_false_iff, beq_eq_false_iff_ne] at h
  exact h

/-- What joins two texts neither makes nor breaks a loop: at a seam inside a word, neither this word nor its parts have
a part in one, and a `for` at the end of the first text has its loop on the next code of the second one, or not at
all. -/
structure LoopsApart (before after : List Char) : Prop where
  words : before.rtakeWhile Text.isWord ≠ [] → after.takeWhile Text.isWord ≠ [] →
    isLoopWord (before.rtakeWhile Text.isWord) = false ∧ isLoopWord (after.takeWhile Text.isWord) = false ∧
      isLoopWord (before.rtakeWhile Text.isWord ++ after.takeWhile Text.isWord) = false
  head : (before.rdropWhile Text.isBlank).rtakeWhile Text.isWord = ['f', 'o', 'r'] →
    loopEnd? none (after.dropWhile Text.isBlank) = none ∨
      (before.getLast?.any Text.isBlank = true ∨ after.head?.any Text.isBlank = true) ∧
        '\n' ∉ after.takeWhile Text.isBlank ∧ (after.dropWhile Text.isBlank).head? ≠ some '('

/-- A text that follows at the seam, with the numeral or without. -/
def Follows (after text : List Char) : Prop := text = after ∨ text = spacedZero ++ after

/-- The same outcome, or the same place in the first text. -/
def SameRest (before after : List Char) (rest rest' : Option (List Char)) : Prop :=
  rest = rest' ∨ ∃ start last, before = start ++ last ∧ rest = some (last ++ after) ∧
    rest' = some (last ++ (spacedZero ++ after))

variable {start last : List Char}

/-- A word that begins in the first text is the same one whether or not a numeral follows, or it has no part in a
loop. -/
theorem word_at_seam (h : LoopsApart before after) (hbefore : before = start ++ last) (hne : last ≠ [])
    (hstart : start.getLast?.any Text.isWord = false) :
    (∃ w rest, last = w ++ rest ∧ ∀ text, Follows after text →
      (last ++ text).takeWhile Text.isWord = w ∧ (last ++ text).dropWhile Text.isWord = rest ++ text) ∨
    ∀ text, Follows after text → isLoopWord ((last ++ text).takeWhile Text.isWord) = false := by
  by_cases hall : ∀ c ∈ last, Text.isWord c = true
  · have hlast : before.rtakeWhile Text.isWord = last := hbefore ▸ rtakeWhile_append_edge hall hstart
    have hspace : (spacedZero ++ after).head?.any Text.isWord = false := by
      show Text.isWord ' ' = false
      decide
    by_cases hafter : after.takeWhile Text.isWord = []
    · refine .inl ⟨last, [], (List.append_nil last).symm, ?_⟩
      rintro text (rfl | rfl)
      · have hfirst := any_head?_of_takeWhile_eq_nil hafter
        exact ⟨takeWhile_append_edge hall hfirst, dropWhile_append_edge hall hfirst⟩
      · exact ⟨takeWhile_append_edge hall hspace, dropWhile_append_edge hall hspace⟩
    · have hwords := h.words (by rwa [hlast]) hafter
      rw [hlast] at hwords
      refine .inr ?_
      rintro text (rfl | rfl)
      · rw [List.takeWhile_append_of_pos hall]
        exact hwords.2.2
      · rw [takeWhile_append_edge hall hspace]
        exact hwords.1
  · refine .inl ⟨last.takeWhile Text.isWord, last.dropWhile Text.isWord, List.takeWhile_append_dropWhile.symm,
      fun text _ => ?_⟩
    exact ⟨takeWhile_append_of_not_all hall text, dropWhile_append_of_not_all hall text⟩

/-- At the seam itself the words of the second text begin, or its first word has no part in a loop. -/
theorem first_word_at_seam (h : LoopsApart before after) :
    before.getLast?.any Text.isWord = false ∨ isLoopWord (after.takeWhile Text.isWord) = false := by
  by_cases hlast : before.rtakeWhile Text.isWord = []
  · exact .inl (any_getLast?_of_rtakeWhile_eq_nil hlast)
  · by_cases hfirst : after.takeWhile Text.isWord = []
    · exact .inr (by rw [hfirst]; rfl)
    · exact .inr (h.words hlast hfirst).2.1

/-- The search for the end of a loop goes on from a place where it does not end. -/
theorem SameRest.cons {c : Char}
    (hnext : SameRest before after (loopEnd? (some c) (last ++ after))
      (loopEnd? (some c) (last ++ (spacedZero ++ after))))
    (hplace : prev.any Text.isWord = true ∨
      ∀ text, Follows after text → isStep ((c :: (last ++ text)).takeWhile Text.isWord) = false) :
    SameRest before after (loopEnd? prev (c :: (last ++ after)))
      (loopEnd? prev (c :: (last ++ (spacedZero ++ after)))) := by
  rw [loopEnd?_cons (hplace.imp_right fun hstep => hstep _ (.inl rfl)),
    loopEnd?_cons (hplace.imp_right fun hstep => hstep _ (.inr rfl))]
  split_ifs
  · exact .inl rfl
  · exact hnext

/-- A loop whose end is looked for in the first text ends at the same place, in this text or in the second one. -/
theorem loopEnd?_same (h : LoopsApart before after) (hbefore : before = start ++ last) :
    SameRest before after (loopEnd? start.getLast? (last ++ after))
      (loopEnd? start.getLast? (last ++ (spacedZero ++ after))) := by
  induction last generalizing start with
  | nil =>
    rw [List.append_nil] at hbefore
    rw [← hbefore, List.nil_append, List.nil_append, loopEnd?_spacedZero]
    rcases first_word_at_seam h with hlast | hfirst
    · exact .inl (loopEnd?_congr _ none hlast after)
    · exact .inl (loopEnd?_of_not_step (of_not_loopWord hfirst).2 _ _)
  | cons c last ih =>
    have hparts : before = (start ++ [c]) ++ last := by rw [hbefore, List.append_assoc]; rfl
    have hnext := ih hparts
    rw [List.getLast?_concat] at hnext
    rw [List.cons_append, List.cons_append]
    cases hstart : start.getLast?.any Text.isWord with
    | true => exact hnext.cons (.inl hstart)
    | false =>
      rcases word_at_seam h hbefore (List.cons_ne_nil c last) hstart with ⟨w, rest, hlast, htext⟩ | hother
      · cases hstep : isStep w with
        | false => exact hnext.cons (.inr fun text hfollows => (htext text hfollows).1 ▸ hstep)
        | true =>
          have hend (text : List Char) (hfollows : Follows after text) :
              loopEnd? start.getLast? (c :: (last ++ text)) = some (rest ++ text) := by
            obtain ⟨hword, hrest⟩ := htext text hfollows
            rw [List.cons_append] at hword hrest
            rw [loopEnd?, hword, hrest, if_pos ⟨hstart, hstep⟩]
          refine .inr ⟨start ++ w, rest, ?_, hend _ (.inl rfl), hend _ (.inr rfl)⟩
          rw [hbefore, hlast, List.append_assoc]
      · exact hnext.cons (.inr fun text hfollows => (of_not_loopWord (hother text hfollows)).2)

/-- A `for` at the end of the first text has its loop on the next code of the second one. -/
theorem loopCode?_of_blank (h : LoopsApart before after) (hbefore : before = start ++ (['f', 'o', 'r'] ++ last))
    (hstart : start.getLast?.any Text.isWord = false) (hblank : ∀ c ∈ last, Text.isBlank c = true) :
    loopCode? (last ++ after) = loopEnd? none after ∧
      loopCode? (last ++ (spacedZero ++ after)) = loopEnd? none after := by
  constructor
  · have hfor : (before.rdropWhile Text.isBlank).rtakeWhile Text.isWord = ['f', 'o', 'r'] := by
      have hlast : (start ++ ['f', 'o', 'r']).getLast?.any Text.isBlank = false := by
        rw [List.getLast?_append_of_ne_nil _ (by decide)]
        decide
      rw [hbefore, ← List.append_assoc, rdropWhile_append_edge hblank hlast,
        rtakeWhile_append_edge (List.all_eq_true.mp rfl) hstart]
    have hafter := loopEnd?_blanks (fun c hc => List.mem_takeWhile_imp (p := Text.isBlank) (l := after) hc)
      (after.dropWhile Text.isBlank)
    rw [List.takeWhile_append_dropWhile] at hafter
    rw [loopCode?, List.dropWhile_append_of_pos hblank, hafter]
    rcases h.head hfor with hnone | ⟨hspace, hline, hparen⟩
    · simp [hnone]
    · have hfirst : (last ++ after).head?.any Text.isBlank = true := by
        cases last with
        | nil =>
          have hlast : before.getLast?.any Text.isBlank = false := by
            rw [hbefore, List.append_nil, List.getLast?_append_of_ne_nil _ (by decide)]
            decide
          exact hspace.resolve_left (by rw [hlast]; exact Bool.noConfusion)
        | cons c last => exact hblank c List.mem_cons_self
      rw [if_pos ⟨hfirst, hparen⟩, if_neg hline]
  · have hfirst : (last ++ (spacedZero ++ after)).head?.any Text.isBlank = true := by
      cases last with
      | nil =>
        show Text.isBlank ' ' = true
        decide
      | cons c last => exact hblank c List.mem_cons_self
    have hcode : (last ++ (spacedZero ++ after)).dropWhile Text.isBlank = '0' :: ' ' :: after := by
      rw [List.dropWhile_append_of_pos hblank]
      rfl
    rw [loopCode?, hcode, if_pos ⟨hfirst, by simp⟩, loopEnd?_zero]

/-- Code behind a `for` in the first text is the same with a numeral behind the text. -/
theorem loopCode?_of_code (h : LoopsApart before after) (hbefore : before = start ++ last)
    (hcode : ¬∀ c ∈ last, Text.isBlank c = true) :
    SameRest before after (loopCode? (last ++ after)) (loopCode? (last ++ (spacedZero ++ after))) := by
  have hne : last.dropWhile Text.isBlank ≠ [] := fun hnil => hcode (List.dropWhile_eq_nil_iff.mp hnil)
  have hopen (text : List Char) : loopCode? (last ++ text) =
      if last.head?.any Text.isBlank = true ∧ (last.dropWhile Text.isBlank).head? ≠ some '(' then
        loopEnd? none (last.dropWhile Text.isBlank ++ text) else none := by
    have hlast : last ≠ [] := by
      rintro rfl
      exact hne rfl
    rw [loopCode?, dropWhile_append_of_not_all hcode, List.head?_append_of_ne_nil _ hlast,
      List.head?_append_of_ne_nil _ hne]
  rw [hopen, hopen]
  split_ifs with hfirst
  · have hparts : before = (start ++ last.takeWhile Text.isBlank) ++ last.dropWhile Text.isBlank := by
      rw [List.append_assoc, List.takeWhile_append_dropWhile, hbefore]
    have hprev : Option.any Text.isWord none = (start ++ last.takeWhile Text.isBlank).getLast?.any Text.isWord := by
      have hspace : last.takeWhile Text.isBlank ≠ [] := fun hnil => by
        rw [any_head?_of_takeWhile_eq_nil hnil] at hfirst
        cases hfirst.1
      rw [List.getLast?_append_of_ne_nil _ hspace, List.getLast?_eq_some_getLast hspace, Option.any_some,
        Text.isWord_of_isBlank (List.mem_takeWhile_imp (List.getLast_mem hspace)), Option.any_none]
    rw [loopEnd?_congr _ _ hprev, loopEnd?_congr _ _ hprev]
    exact loopEnd?_same h hparts
  · exact .inl rfl

/-- A loop that begins in the first text ends at the same place, in this text or in the second one. -/
theorem loopRest?_same (h : LoopsApart before after) (hbefore : before = start ++ last) (hne : last ≠ []) :
    SameRest before after (loopRest? start.getLast? (last ++ after))
      (loopRest? start.getLast? (last ++ (spacedZero ++ after))) := by
  cases hstart : start.getLast?.any Text.isWord with
  | true => exact .inl (by rw [loopRest?_of_word hstart, loopRest?_of_word hstart])
  | false =>
    rcases word_at_seam h hbefore hne hstart with ⟨w, rest, hlast, htext⟩ | hother
    · obtain ⟨hjoined, hjoined'⟩ := htext _ (.inl rfl)
      obtain ⟨hapart, hapart'⟩ := htext _ (.inr rfl)
      by_cases hfor : w = ['f', 'o', 'r']
      · rw [loopRest?, loopRest?, hjoined, hjoined', hapart, hapart', if_pos ⟨hstart, hfor⟩, if_pos ⟨hstart, hfor⟩]
        rw [hlast, hfor] at hbefore
        by_cases hblank : ∀ c ∈ rest, Text.isBlank c = true
        · obtain ⟨hcode, hcode'⟩ := loopCode?_of_blank h hbefore hstart hblank
          exact .inl (hcode.trans hcode'.symm)
        · rw [← List.append_assoc] at hbefore
          exact loopCode?_of_code h hbefore hblank
      · exact .inl (by rw [loopRest?_of_ne (hjoined ▸ hfor), loopRest?_of_ne (hapart ▸ hfor)])
    · have hjoined := (of_not_loopWord (hother _ (.inl rfl))).1
      have hapart := (of_not_loopWord (hother _ (.inr rfl))).1
      exact .inl (by rw [loopRest?_of_ne hjoined, loopRest?_of_ne hapart])

/-- **Loops at a seam**: if nothing joins there, a numeral in between does not change their number. -/
theorem loops_seam (h : LoopsApart before after) : loops none (before ++ after) =
    loops none (before ++ spacedZero ++ after) := by
  have hsame (n : Nat) : ∀ start last : List Char, last.length = n → before = start ++ last →
      loops start.getLast? (last ++ after) = loops start.getLast? (last ++ (spacedZero ++ after)) := by
    induction n using Nat.strongRecOn with
    | _ n ih =>
      intro start last hn hbefore
      cases last with
      | nil =>
        rw [List.append_nil] at hbefore
        rw [← hbefore, List.nil_append, List.nil_append, loops_spacedZero]
        rcases first_word_at_seam h with hlast | hfirst
        · exact loops_congr hlast after
        · exact loops_of_ne (of_not_loopWord hfirst).1 _ _
      | cons c last =>
        have hskip : loops (some c) (last ++ after) = loops (some c) (last ++ (spacedZero ++ after)) := by
          have hnext := ih last.length (hn ▸ Nat.lt_succ_self _) (start ++ [c]) last rfl
            (by rw [hbefore, List.append_assoc]; rfl)
          rwa [List.getLast?_concat] at hnext
        rcases loopRest?_same h hbefore (List.cons_ne_nil c last) with heq | ⟨start', last', hbefore', hrest, hrest'⟩
        · cases hrest : loopRest? start.getLast? (c :: last ++ after) with
          | none =>
            rw [List.cons_append] at hrest heq ⊢
            rw [List.cons_append] at heq ⊢
            rw [loops_of_none hrest, loops_of_none (heq.symm.trans hrest), hskip]
          | some rest => rw [loops_of_some hrest none, loops_of_some (heq.symm.trans hrest) none]
        · have hshort := (loopRest?_some hrest).1
          rw [List.length_append, List.length_append] at hshort
          rw [loops_of_some hrest start'.getLast?, loops_of_some hrest' start'.getLast?,
            ih last'.length (by omega) start' last' rfl hbefore']
  rw [List.append_assoc]
  exact hsame _ [] before rfl rfl

end Seam

end Source
end RepoSurvey
