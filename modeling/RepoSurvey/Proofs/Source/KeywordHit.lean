import RepoSurvey.Proofs.Text.Blank
import RepoSurvey.Proofs.Text.PatternReading
import RepoSurvey.Source.DecisionPoint

/-!
# Keywords before a sign

A keyword counts where a whole word of the text is that keyword and the first character behind it that is not blank is
the keyword's sign.

* `opens`, `hits`: such words, counted from a place on; `countFrom_keywordThen`: they are the matches of the pattern.
* `hits_word`, `hits_cons`: the count word by word.
* `hits_append`: where it is additive.
* `hits_seam`: what changes where two texts are put together.
-/

namespace RepoSurvey
namespace Source

open Pattern

variable {letters : List Char} {sign : Char} {prev : Option Char} {s before after : List Char}

/-! ### Characters -/

section Characters

theorem not_word_of_blank (h : s.head?.any Text.isBlank = true) : s.head?.any Text.isWord = false := by
  cases s with
  | nil => rfl
  | cons c rest => exact Text.isWord_of_isBlank h

end Characters

/-! ### A keyword and its sign -/

section Hits

/-- A word other than a numeral, and a sign that is neither part of a word nor blank. -/
structure IsKeyword (letters : List Char) (sign : Char) : Prop where
  ne_nil : letters ≠ []
  ne_zero : letters ≠ ['0']
  isWord : ∀ c ∈ letters, Text.isWord c = true
  sign_not_word : Text.isWord sign = false
  sign_not_blank : Text.isBlank sign = false

/-- Whether the first character that is not blank is a sign. -/
def opens (sign : Char) (s : List Char) : Bool := (s.dropWhile Text.isBlank).head? == some sign

/-- Whether the word at a place is the keyword, with its sign behind it. -/
def isHit (letters : List Char) (sign : Char) (prev : Option Char) (s : List Char) : Bool :=
  !prev.any Text.isWord && s.takeWhile Text.isWord == letters && opens sign (s.dropWhile Text.isWord)

/-- What a word counts before a text. -/
def wordPoint (letters : List Char) (sign : Char) (w s : List Char) : Nat :=
  if w = letters ∧ opens sign s = true then 1 else 0

/-- The number of places where a keyword stands. -/
def hits (letters : List Char) (sign : Char) : Option Char → List Char → Nat
  | _, [] => 0
  | prev, c :: rest => (if isHit letters sign prev (c :: rest) then 1 else 0) + hits letters sign (some c) rest

/-- What stands before a sign is not part of a word. -/
theorem not_word_of_opens (hk : IsKeyword letters sign) (h : opens sign s = true) :
    s.head?.any Text.isWord = false := by
  cases s with
  | nil => rfl
  | cons c rest =>
    rw [List.head?_cons, Option.any_some]
    by_cases hc : Text.isBlank c = true
    · exact Text.isWord_of_isBlank hc
    · rw [opens, List.dropWhile_cons_of_neg hc, List.head?_cons, beq_iff_eq, Option.some.injEq] at h
      exact h ▸ hk.sign_not_word

/-- The sign behind white space. -/
theorem readings_sign (hk : IsKeyword letters sign) (prev : Option Char) (s : List Char) :
    (sequence [blanks, word [sign]]).readings (prev, s) =
      if opens sign s then [(some sign, (s.dropWhile Text.isBlank).tail)] else [] := by
  have hblank (prev : Option Char) (c : Char) (rest : List Char) (hc : Text.isBlank c = true) :
      (word [sign]).readings (prev, c :: rest) = [] := by
    have hne : sign ≠ c := by
      rintro rfl
      rw [hk.sign_not_blank] at hc
      cases hc
    rw [readings_word, placeAfter_cons, if_neg hne]
  have hmost := readings_most_seq hblank 0 prev s
  rw [if_pos (Nat.zero_le _), readings_word] at hmost
  refine hmost.trans ?_
  rw [opens]
  cases hrest : s.dropWhile Text.isBlank with
  | nil => rfl
  | cons c rest =>
    rw [placeAfter_cons]
    by_cases hc : sign = c
    · simp [hc, placeAfter]
    · simp [hc, Ne.symm hc]

/-- Behind the keyword only the sign matters, since it does not go on with the word. -/
theorem isHit_append (hk : IsKeyword letters sign) (prev : Option Char) (s : List Char) :
    isHit letters sign prev (letters ++ s) = (!prev.any Text.isWord && opens sign s) := by
  cases hopens : opens sign s with
  | true =>
    have hs := not_word_of_opens hk hopens
    rw [isHit, takeWhile_append_edge hk.isWord hs, dropWhile_append_edge hk.isWord hs, hopens, beq_self_eq_true,
      Bool.and_true]
  | false =>
    rw [isHit, Bool.and_assoc, Bool.and_false, Bool.and_eq_false_imp]
    intro _
    rw [Bool.and_eq_false_imp, beq_iff_eq]
    intro hword
    have hrest := List.takeWhile_append_dropWhile (p := Text.isWord) (l := letters ++ s)
    rw [hword] at hrest
    rw [List.append_cancel_left hrest, hopens]

theorem reads?_keyword (hk : IsKeyword letters sign) (prev : Option Char) (s : List Char) :
    (sequence [boundary, word letters, blanks, word [sign]]).reads? (prev, s) =
      if isHit letters sign prev s then
        some (some sign, ((s.dropWhile Text.isWord).dropWhile Text.isBlank).tail) else none := by
  rw [reads?, readings_boundary_word hk.ne_nil hk.isWord, readings_sign hk]
  by_cases hs : letters <+: s
  · obtain ⟨rest, rfl⟩ := hs
    rw [isHit_append hk, List.drop_left]
    cases hopens : opens sign rest with
    | true =>
      rw [dropWhile_append_edge hk.isWord (not_word_of_opens hk hopens)]
      cases hprev : prev.any Text.isWord <;> simp
    | false => simp
  · have hhit : ¬isHit letters sign prev s = true := by
      rw [isHit, Bool.and_eq_true, Bool.and_eq_true, beq_iff_eq]
      rintro ⟨⟨-, hword⟩, -⟩
      exact hs (hword ▸ List.takeWhile_prefix Text.isWord)
    rw [if_neg hhit, if_neg fun h => hs h.2]
    rfl

/-! ### Word by word -/

theorem hits_congr (prev prev' : Option Char) (h : prev.any Text.isWord = prev'.any Text.isWord) (s : List Char) :
    hits letters sign prev s = hits letters sign prev' s := by
  cases s with
  | nil => rfl
  | cons c rest => rw [hits, hits, isHit, isHit, h]

/-- At a character that is not part of a word nothing begins. -/
theorem isHit_of_not_word (hk : IsKeyword letters sign) (hs : s.head?.any Text.isWord = false) (prev : Option Char) :
    isHit letters sign prev s = false := by
  rw [isHit, takeWhile_eq_nil hs, beq_eq_false_iff_ne.mpr (Ne.symm hk.ne_nil), Bool.and_false, Bool.false_and]

theorem hits_of_not_word (hk : IsKeyword letters sign) (hs : s.head?.any Text.isWord = false) (prev : Option Char) :
    hits letters sign prev s = hits letters sign none s := by
  cases s with
  | nil => rfl
  | cons c rest => rw [hits, hits, isHit_of_not_word hk hs, isHit_of_not_word hk hs]

theorem hits_cons (hk : IsKeyword letters sign) {c : Char} (hc : Text.isWord c = false) (prev : Option Char)
    (rest : List Char) : hits letters sign prev (c :: rest) = hits letters sign none rest := by
  have hs : (c :: rest).head?.any Text.isWord = false := hc
  rw [hits, isHit_of_not_word hk hs, hits_congr (some c) none (by rw [Option.any_some, hc, Option.any_none])]
  simp

/-- Inside a word nothing begins. -/
theorem hits_inside (hk : IsKeyword letters sign) {w : List Char} (hw : ∀ c ∈ w, Text.isWord c = true)
    (hs : s.head?.any Text.isWord = false) (prev : Option Char) (hprev : prev.any Text.isWord = true) :
    hits letters sign prev (w ++ s) = hits letters sign none s := by
  induction w generalizing prev with
  | nil => exact hits_of_not_word hk hs prev
  | cons c w ih =>
    obtain ⟨hc, hw⟩ := List.forall_mem_cons.mp hw
    have hnone : isHit letters sign prev (c :: (w ++ s)) = false := by
      rw [isHit, hprev, Bool.not_true, Bool.false_and, Bool.false_and]
    rw [List.cons_append, hits, hnone, ih hw (some c) hc]
    simp

/-- A word counts if it is the keyword and the sign is behind it. -/
theorem hits_word (hk : IsKeyword letters sign) {w : List Char} (hne : w ≠ []) (hw : ∀ c ∈ w, Text.isWord c = true)
    (hs : s.head?.any Text.isWord = false) (prev : Option Char) (hprev : prev.any Text.isWord = false) :
    hits letters sign prev (w ++ s) = wordPoint letters sign w s + hits letters sign none s := by
  have hhit : isHit letters sign prev (w ++ s) = true ↔ w = letters ∧ opens sign s = true := by
    rw [isHit, takeWhile_append_edge hw hs, dropWhile_append_edge hw hs, hprev]
    simp
  obtain ⟨c, rest, rfl⟩ := List.exists_cons_of_ne_nil hne
  obtain ⟨hc, hrest⟩ := List.forall_mem_cons.mp hw
  rw [List.cons_append, hits, hits_inside hk hrest hs (some c) hc, ← List.cons_append]
  simp only [hhit, wordPoint]

theorem hits_blanks (hk : IsKeyword letters sign) {blank : List Char} (h : ∀ c ∈ blank, Text.isBlank c = true)
    (s : List Char) : hits letters sign none (blank ++ s) = hits letters sign none s := by
  induction blank with
  | nil => rfl
  | cons c blank ih =>
    obtain ⟨hc, hblank⟩ := List.forall_mem_cons.mp h
    rw [List.cons_append, hits_cons hk (Text.isWord_of_isBlank hc), ih hblank]

/-- A sign with white space before it. -/
theorem exists_of_opens (h : opens sign s = true) :
    ∃ blank rest, (∀ c ∈ blank, Text.isBlank c = true) ∧ s = blank ++ sign :: rest := by
  rw [opens, beq_iff_eq] at h
  obtain ⟨rest, hrest⟩ := List.head?_eq_some_iff.mp h
  refine ⟨s.takeWhile Text.isBlank, rest, fun c hc => List.mem_takeWhile_imp hc, ?_⟩
  rw [← hrest, List.takeWhile_append_dropWhile]

/-- The matches of a keyword with its sign are the words that count. -/
theorem countFrom_keyword (hk : IsKeyword letters sign) (prev : Option Char) (s : List Char) :
    (sequence [boundary, word letters, blanks, word [sign]]).countFrom (prev, s) = hits letters sign prev s := by
  have hread (prev : Option Char) (s : List Char) (place : Place)
      (h : (sequence [boundary, word letters, blanks, word [sign]]).reads? (prev, s) = some place) :
      ∃ blank rest, (∀ c ∈ blank, Text.isBlank c = true) ∧ prev.any Text.isWord = false ∧
        s = letters ++ (blank ++ sign :: rest) ∧ place = (some sign, rest) := by
    rw [reads?_keyword hk] at h
    split_ifs at h with hhit
    cases h
    rw [isHit, Bool.and_eq_true, Bool.and_eq_true, Bool.not_eq_true', beq_iff_eq] at hhit
    obtain ⟨⟨hprev, hword⟩, hopens⟩ := hhit
    obtain ⟨blank, rest, hblank, hrest⟩ := exists_of_opens hopens
    refine ⟨blank, rest, hblank, hprev, ?_, ?_⟩
    · rw [← hrest, ← hword, List.takeWhile_append_dropWhile]
    · rw [hrest, dropWhile_append_edge (s := sign :: rest) hblank hk.sign_not_blank, List.tail_cons]
  refine countFrom_eq (f := hits letters sign) (fun _ => rfl) ?_ ?_ ?_ prev s
  · rintro ⟨prev, s⟩ place h
    obtain ⟨blank, rest, -, -, rfl, rfl⟩ := hread prev s place h
    simp only [List.length_append, List.length_cons]
    omega
  · rintro ⟨prev, s⟩ place h
    obtain ⟨blank, rest, hblank, hprev, rfl, rfl⟩ := hread prev s place h
    have hsign : (blank ++ sign :: rest).dropWhile Text.isBlank = sign :: rest :=
      dropWhile_append_edge hblank hk.sign_not_blank
    have hopens : opens sign (blank ++ sign :: rest) = true := by
      rw [opens, hsign, List.head?_cons, beq_self_eq_true]
    have hafter : hits letters sign (some sign) rest = hits letters sign none rest :=
      hits_congr (some sign) none hk.sign_not_word rest
    rw [hits_word hk hk.ne_nil hk.isWord (not_word_of_opens hk hopens) prev hprev, wordPoint,
      if_pos ⟨rfl, hopens⟩, hits_blanks hk hblank, hits_cons hk hk.sign_not_word, hafter, Nat.add_comm]
  · intro prev c rest h
    rw [reads?_keyword hk] at h
    split_ifs at h with hhit
    rw [hits, if_neg hhit, Nat.zero_add]

/-! ### Two texts put together -/

/-- A sign is looked for behind white space only, so that what stands before it decides. -/
theorem opens_append (hne : s ≠ []) (h : opens sign after = false ∨ s.getLast?.any Text.isBlank = false) :
    opens sign (s ++ after) = opens sign s := by
  by_cases hblank : ∀ c ∈ s, Text.isBlank c = true
  · have hlast : s.getLast?.any Text.isBlank = true := by
      rw [List.getLast?_eq_some_getLast hne]
      exact hblank _ (List.getLast_mem hne)
    have hafter : opens sign after = false := h.resolve_right (by rw [hlast]; exact Bool.noConfusion)
    have hnone : s.dropWhile Text.isBlank = [] := List.dropWhile_eq_nil_iff.mpr hblank
    rw [opens, List.dropWhile_append_of_pos hblank, opens, hnone]
    exact hafter
  · have hsome : s.dropWhile Text.isBlank ≠ [] := fun hnone => hblank (List.dropWhile_eq_nil_iff.mp hnone)
    rw [opens, List.dropWhile_append, if_neg (by rwa [List.isEmpty_iff]), List.head?_append_of_ne_nil _ hsome, opens]

theorem isHit_append_of_apart (hne : s ≠ [])
    (hword : s.getLast?.any Text.isWord = false ∨ after.head?.any Text.isWord = false)
    (hopens : opens sign after = false ∨ s.getLast?.any Text.isWord = false ∧ s.getLast?.any Text.isBlank = false)
    (prev : Option Char) : isHit letters sign prev (s ++ after) = isHit letters sign prev s := by
  by_cases hall : ∀ c ∈ s, Text.isWord c = true
  · have hlast : s.getLast?.any Text.isWord = true := by
      rw [List.getLast?_eq_some_getLast hne]
      exact hall _ (List.getLast_mem hne)
    have hfirst : after.head?.any Text.isWord = false := hword.resolve_left (by rw [hlast]; exact Bool.noConfusion)
    have hnone : opens sign after = false := hopens.resolve_right (by rw [hlast]; exact fun h => Bool.noConfusion h.1)
    have hself := takeWhile_append_edge hall (s := []) rfl
    have hrest := dropWhile_append_edge hall (s := []) rfl
    rw [List.append_nil] at hself hrest
    rw [isHit, isHit, takeWhile_append_edge hall hfirst, dropWhile_append_edge hall hfirst, hnone, hself, hrest]
    rfl
  · have hsome : s.dropWhile Text.isWord ≠ [] := fun hnone => hall (List.dropWhile_eq_nil_iff.mp hnone)
    have hparts : s.takeWhile Text.isWord ++ s.dropWhile Text.isWord = s := List.takeWhile_append_dropWhile
    have hlast : (s.dropWhile Text.isWord).getLast? = s.getLast? := by
      rw [← List.getLast?_append_of_ne_nil _ hsome, hparts]
    rw [isHit, isHit, takeWhile_append_of_not_all hall, dropWhile_append_of_not_all hall,
      opens_append hsome (hopens.imp_right fun h => hlast ▸ h.2)]

/-- Where neither a word nor a keyword and its sign go across, the words of two texts count by themselves. -/
theorem hits_append (prev : Option Char)
    (hword : before.getLast?.any Text.isWord = false ∨ after.head?.any Text.isWord = false)
    (hopens : opens sign after = false ∨
      before.getLast?.any Text.isWord = false ∧ before.getLast?.any Text.isBlank = false) :
    hits letters sign prev (before ++ after) =
      hits letters sign prev before + hits letters sign (before.getLast?.or prev) after := by
  induction before generalizing prev with
  | nil => simp [hits]
  | cons c rest ih =>
    rw [List.cons_append, hits, ← List.cons_append, isHit_append_of_apart (List.cons_ne_nil c rest) hword hopens]
    cases rest with
    | nil => simp [hits]
    | cons d rest =>
      rw [List.getLast?_cons_cons] at hword hopens
      rw [ih (some c) hword hopens, hits.eq_2 _ _ prev, getLast?_cons_or c, Nat.add_assoc]

end Hits

/-! ### At a seam -/

section Seam

/-- A numeral with a blank on both sides. -/
def spacedZero : List Char := [' ', '0', ' ']

/-- The word at the seam of two texts that a sign in the second one may follow: the last word of the first text, white
space after it included only if the second text does not begin with a word. -/
def seamWord (before after : List Char) : List Char :=
  if after.takeWhile Text.isWord = [] then (before.rdropWhile Text.isBlank).rtakeWhile Text.isWord
  else before.rtakeWhile Text.isWord ++ after.takeWhile Text.isWord

theorem opens_spacedZero (hk : IsKeyword letters sign) (s : List Char) : opens sign (spacedZero ++ s) = false := by
  have hne : '0' ≠ sign := by
    rintro rfl
    exact absurd hk.sign_not_word (by decide)
  have hrest : (spacedZero ++ s).dropWhile Text.isBlank = '0' :: ' ' :: s := rfl
  rw [opens, hrest]
  simpa using hne

/-- The numeral keeps two texts apart. -/
theorem hits_spacedZero (hk : IsKeyword letters sign) (before after : List Char) :
    hits letters sign none (before ++ spacedZero ++ after) =
      hits letters sign none before + hits letters sign none after := by
  have hspace : Text.isWord ' ' = false := by decide
  have hfirst : (spacedZero ++ after).head?.any Text.isWord = false := hspace
  have hnumeral : hits letters sign none ('0' :: ' ' :: after) = hits letters sign none after := by
    have hnext : (' ' :: after).head?.any Text.isWord = false := hspace
    have hword := hits_word hk (List.cons_ne_nil '0' []) (List.all_eq_true.mp rfl) hnext none rfl
    rw [wordPoint, if_neg fun h => hk.ne_zero h.1.symm, Nat.zero_add, hits_cons hk hspace] at hword
    exact hword
  have hgap : hits letters sign none (spacedZero ++ after) = hits letters sign none after :=
    (hits_cons hk hspace none _).trans hnumeral
  rw [List.append_assoc, hits_append none (.inr hfirst) (.inl (opens_spacedZero hk after)),
    hits_of_not_word hk hfirst, hgap]

theorem opens_word (hk : IsKeyword letters sign) {w : List Char} (hne : w ≠ [])
    (hw : ∀ c ∈ w, Text.isWord c = true) (s : List Char) : opens sign (w ++ s) = false := by
  rw [← Bool.not_eq_true]
  intro hopens
  obtain ⟨c, rest, rfl⟩ := List.exists_cons_of_ne_nil hne
  have hc := not_word_of_opens hk hopens
  rw [List.cons_append, List.head?_cons, Option.any_some, hw c List.mem_cons_self] at hc
  cases hc

theorem opens_blanks {blank : List Char} (h : ∀ c ∈ blank, Text.isBlank c = true) (s : List Char) :
    opens sign (blank ++ s) = opens sign s := by
  rw [opens, opens, List.dropWhile_append_of_pos h]

theorem wordPoint_nil (hk : IsKeyword letters sign) (s : List Char) : wordPoint letters sign [] s = 0 := by
  rw [wordPoint, if_neg fun h => hk.ne_nil h.1.symm]

theorem wordPoint_at_end (w : List Char) : wordPoint letters sign w [] = 0 := by
  rw [wordPoint, if_neg]
  rintro ⟨-, hopens⟩
  cases hopens

/-- The count at the last word of a text, with white space behind it. -/
theorem hits_last_word (hk : IsKeyword letters sign) {w blank : List Char} (after : List Char)
    (hbefore : before.getLast?.any Text.isWord = false) (hne : w ≠ [] ∨ before.getLast?.any Text.isBlank = false)
    (hw : ∀ c ∈ w, Text.isWord c = true) (hblank : ∀ c ∈ blank, Text.isBlank c = true)
    (hafter : after.head?.any Text.isWord = false) :
    hits letters sign none (before ++ (w ++ (blank ++ after))) =
      hits letters sign none before + (wordPoint letters sign w after + hits letters sign none after) := by
  have hprev : (before.getLast?.or none).any Text.isWord = false := by rwa [Option.or_none]
  by_cases hword : w = []
  · rw [hword, List.nil_append, hits_append none (.inl hbefore) (.inr ⟨hbefore, hne.resolve_left (· hword)⟩),
      hits_congr _ none hprev, hits_blanks hk hblank, wordPoint_nil hk, Nat.zero_add]
  · have hfirst : (blank ++ after).head?.any Text.isWord = false := by
      cases blank with
      | nil => exact hafter
      | cons c blank => exact Text.isWord_of_isBlank (hblank c List.mem_cons_self)
    rw [hits_append none (.inl hbefore) (.inl (opens_word hk hword hw _)), hits_word hk hword hw hfirst _ hprev,
      hits_blanks hk hblank, wordPoint, wordPoint, opens_blanks hblank]

/-- If the second text does not begin with a word, the last word of the first one stays a word. -/
theorem hits_seam_of_not_word (hk : IsKeyword letters sign) (before : List Char)
    (hafter : after.head?.any Text.isWord = false) : hits letters sign none (before ++ after) =
      hits letters sign none before + hits letters sign none after +
        wordPoint letters sign ((before.rdropWhile Text.isBlank).rtakeWhile Text.isWord) after := by
  have hspace : before.rdropWhile Text.isBlank ++ before.rtakeWhile Text.isBlank = before :=
    List.rdropWhile_append_rtakeWhile
  generalize hcore : before.rdropWhile Text.isBlank = core at hspace ⊢
  have hcoreLast : core.getLast?.any Text.isBlank = false := hcore ▸ any_getLast?_rdropWhile Text.isBlank before
  have hword : core.rdropWhile Text.isWord ++ core.rtakeWhile Text.isWord = core := List.rdropWhile_append_rtakeWhile
  have hne : core.rtakeWhile Text.isWord ≠ [] ∨ (core.rdropWhile Text.isWord).getLast?.any Text.isBlank = false := by
    by_cases hnil : core.rtakeWhile Text.isWord = []
    · rw [hnil, List.append_nil] at hword
      exact .inr (hword.symm ▸ hcoreLast)
    · exact .inl hnil
  have hlast (after : List Char) (h : after.head?.any Text.isWord = false) :=
    hits_last_word hk after (any_getLast?_rdropWhile Text.isWord core) hne (fun c hc => List.mem_rtakeWhile_imp hc)
      (fun c hc => List.mem_rtakeWhile_imp (p := Text.isBlank) (l := before) hc) h
  have hjoined := hlast after hafter
  have halone := hlast [] rfl
  rw [← List.append_assoc, hword, ← List.append_assoc, hspace] at hjoined halone
  rw [List.append_nil, wordPoint_at_end, hits, Nat.add_zero] at halone
  omega

/-- A word at the beginning of the second text goes on with the last word of the first one. -/
theorem hits_seam_of_word (hk : IsKeyword letters sign) (before : List Char) {w : List Char} (hne : w ≠ [])
    (hw : ∀ c ∈ w, Text.isWord c = true) (hafter : after.head?.any Text.isWord = false) :
    hits letters sign none (before ++ (w ++ after)) = hits letters sign none before +
      (wordPoint letters sign (before.rtakeWhile Text.isWord ++ w) after + hits letters sign none after) := by
  have hword : before.rdropWhile Text.isWord ++ before.rtakeWhile Text.isWord = before :=
    List.rdropWhile_append_rtakeWhile
  have hlast (c : Char) (hc : c ∈ before.rtakeWhile Text.isWord) : Text.isWord c = true := List.mem_rtakeWhile_imp hc
  have hedge := any_getLast?_rdropWhile Text.isWord before
  generalize before.rdropWhile Text.isWord = start at hword hedge
  generalize before.rtakeWhile Text.isWord = last at hword hlast ⊢
  have hboth : ∀ c ∈ last ++ w, Text.isWord c = true := List.forall_mem_append.mpr ⟨hlast, hw⟩
  have hnone : ∀ c ∈ ([] : List Char), Text.isBlank c = true := List.forall_mem_nil _
  have hjoined := hits_last_word hk after hedge (.inl (List.append_ne_nil_of_right_ne_nil last hne)) hboth hnone hafter
  have halone : hits letters sign none before = hits letters sign none start := by
    by_cases hnil : last = []
    · rw [← hword, hnil, List.append_nil]
    · have hstart := hits_last_word hk [] hedge (.inl hnil) hlast hnone rfl
      rw [wordPoint_at_end, hits, Nat.add_zero, List.append_nil, List.append_nil, hword] at hstart
      exact hstart
  rw [halone, ← hjoined, ← hword, List.append_assoc, List.append_assoc, List.nil_append]

/-- **Keywords at a seam**: only the word there can differ. -/
theorem hits_seam (hk : IsKeyword letters sign) (before after : List Char) :
    hits letters sign none (before ++ after) +
        wordPoint letters sign (after.takeWhile Text.isWord) (after.dropWhile Text.isWord) =
      hits letters sign none (before ++ spacedZero ++ after) +
        wordPoint letters sign (seamWord before after) (after.dropWhile Text.isWord) := by
  have hafter : after.takeWhile Text.isWord ++ after.dropWhile Text.isWord = after := List.takeWhile_append_dropWhile
  have hrest := any_head?_dropWhile Text.isWord after
  have hw (c : Char) (hc : c ∈ after.takeWhile Text.isWord) : Text.isWord c = true := List.mem_takeWhile_imp hc
  rw [hits_spacedZero hk, seamWord]
  generalize after.takeWhile Text.isWord = w at hafter hw ⊢
  generalize after.dropWhile Text.isWord = rest at hafter hrest ⊢
  subst hafter
  split_ifs with hnil
  · rw [hnil, List.nil_append, wordPoint_nil hk, Nat.add_zero, hits_seam_of_not_word hk before hrest]
  · rw [hits_seam_of_word hk before hnil hw hrest, hits_word hk hnil hw hrest none rfl]
    omega

end Seam

end Source
end RepoSurvey
