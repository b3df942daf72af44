import Mathlib.Data.List.Infix
import RepoSurvey.History.Activity
import RepoSurvey.Proofs.History.Rendering

/-!
# Lines that report a change

* `LogLine.changeText`: a change as a line writes it; `ofChars_changeText`: it is read back.
* `LogLine.newPath_braces`, `newPath_arrow`: the path of a file that has moved, in the two forms of a log.
-/

namespace RepoSurvey

theorem Text.strip_space {s : List Char} (hfirst : s.head?.any isBlank = false)
    (hlast : s.getLast?.any isBlank = false) : strip (' ' :: s) = s := by
  have hfront : (' ' :: s).dropWhile isBlank = s := by
    rw [List.dropWhile_cons_of_pos (by decide), Pattern.dropWhile_eq_self hfirst]
  have hback : s.reverse.dropWhile isBlank = s.reverse := Pattern.dropWhile_eq_self (by rwa [List.head?_reverse])
  rw [strip, trim, hfront, hback, List.reverse_reverse]

namespace LogLine

/-! ### Counts and a path -/

section Written

/-- A count as a line writes it; a hyphen stands for the missing count of a binary file. -/
def countText (digits : List Char) : List Char := if digits.isEmpty then ['-'] else digits

/-- A change as a line writes it, with tabulators between the counts and the path. -/
def changeText (added removed path : List Char) : List Char :=
  countText added ++ '\t' :: (countText removed ++ '\t' :: path)

variable {digits added removed path : List Char}

theorem count?_countText (h : ∀ c ∈ digits, Text.isDigit c = true) (rest : List Char) :
    count? (countText digits ++ '\t' :: rest) = some (digits, rest) := by
  cases digits with
  | nil => rfl
  | cons c others =>
    have hstop : ('\t' :: rest).head?.any Text.isDigit = false := by
      show Text.isDigit '\t' = false
      decide
    have hfirst : c ≠ '-' := by
      rintro rfl
      exact absurd (h '-' List.mem_cons_self) (by decide)
    have htake := Pattern.takeWhile_append_edge h hstop
    have hdrop := Pattern.dropWhile_append_edge h hstop
    show count? (c :: others ++ '\t' :: rest) = _
    unfold count?
    split
    · next hhyphen => exact absurd (List.cons.inj hhyphen).1 hfirst
    · simp only [htake, hdrop, List.isEmpty_cons, Bool.false_eq_true, if_false]

theorem not_mem_countText {c : Char} (h : ∀ c ∈ digits, Text.isDigit c = true) (hdigit : Text.isDigit c = false)
    (hhyphen : c ≠ '-') : c ∉ countText digits := by
  rw [countText]
  split
  · exact fun hc => hhyphen (List.mem_singleton.mp hc)
  · intro hc
    rw [h c hc] at hdigit
    cases hdigit

/-- The bar after a hash does not stand in a count or after it. -/
theorem head?_dropWhile_isHashDigit {front : List Char} (h : '|' ∉ front) (rest : List Char) :
    ((front ++ '\t' :: rest).dropWhile isHashDigit).head? ≠ some '|' := by
  induction front with
  | nil =>
    rw [List.nil_append, List.dropWhile_cons_of_neg (by decide), List.head?_cons]
    decide
  | cons c others ih =>
    rw [List.mem_cons, not_or] at h
    rw [List.cons_append]
    by_cases hc : isHashDigit c = true
    · rw [List.dropWhile_cons_of_pos hc]
      exact ih h.2
    · rw [List.dropWhile_cons_of_neg hc, List.head?_cons]
      exact fun hbar => h.1 (Option.some.inj hbar).symm

theorem commitAuthor?_eq_none {line : List Char} (h : (line.dropWhile isHashDigit).head? ≠ some '|') :
    commitAuthor? line = none := by
  rw [commitAuthor?]
  dsimp only
  split
  · rfl
  · split
    · next hbar => exact absurd (congrArg List.head? hbar) h
    · rfl

/-- A change that is written in a line is read back. -/
theorem ofChars_changeText (hadded : ∀ c ∈ added, Text.isDigit c = true)
    (hremoved : ∀ c ∈ removed, Text.isDigit c = true) (hpath : path ≠ []) (hend : path.getLast? ≠ some '\r') :
    ofChars (changeText added removed path) = .change ⟨added, removed, String.ofList (newPath path)⟩ := by
  have hkept : ((changeText added removed path).reverse.dropWhile (· == '\r')).reverse =
      changeText added removed path := by
    have hlast : (changeText added removed path).getLast? = path.getLast? := by
      obtain ⟨c, rest, rfl⟩ := List.exists_cons_of_ne_nil hpath
      simp [changeText, List.getLast?_append, List.getLast?_cons]
    rw [Pattern.dropWhile_eq_self, List.reverse_reverse]
    rw [List.head?_reverse, hlast]
    cases hc : path.getLast? with
    | none => rfl
    | some c => simpa [hc] using hend
  have hcommit : commitAuthor? (changeText added removed path) = none :=
    commitAuthor?_eq_none (head?_dropWhile_isHashDigit (not_mem_countText hadded (by decide) (by decide)) _)
  have hchange : change? (changeText added removed path) =
      some ⟨added, removed, String.ofList (newPath path)⟩ := by
    have hempty : path.isEmpty = false := by simpa using hpath
    simp only [change?, changeText, count?_countText hadded, count?_countText hremoved, Option.bind_eq_bind,
      Option.bind_some, hempty, Bool.false_eq_true, if_false]
  rw [ofChars]
  simp only [hkept, hcommit, hchange]

end Written

/-! ### Paths of files that have moved -/

section Moved

variable {front body new : List Char}

/-- What holds no brace stays as it is. -/
theorem withNewParts_append (h : ∀ c ∈ front, isBrace c = false) (rest : List Char) :
    withNewParts (front ++ rest) = front ++ withNewParts rest := by
  induction front with
  | nil => rfl
  | cons c others ih =>
    obtain ⟨hc, hothers⟩ := List.forall_mem_cons.mp h
    have hopen : c ≠ '\x7b' := by
      rintro rfl
      cases hc
    rw [List.cons_append, withNewParts, if_neg fun hboth => hopen hboth.1, ih hothers]
    rfl

theorem withNewParts_of_no_brace (h : ∀ c ∈ front, isBrace c = false) : withNewParts front = front := by
  have hwhole := withNewParts_append h []
  rwa [List.append_nil, withNewParts, List.append_nil] at hwhole

/-- A pair of braces stands for its new part. -/
theorem withNewParts_braces {old : List Char} (hbody : ∀ c ∈ body, isBrace c = false)
    (hcut : Text.splitAtLast " => ".toList (fun _ => true) body = some (old, new)) (rest : List Char) :
    withNewParts ('\x7b' :: (body ++ '\x7d' :: rest)) = new ++ withNewParts rest := by
  have htake : (body ++ '\x7d' :: rest).takeWhile (!isBrace ·) = body :=
    Pattern.takeWhile_append_edge (fun c hc => by rw [hbody c hc, Bool.not_false]) rfl
  have hclose : (body ++ '\x7d' :: rest).drop body.length = '\x7d' :: rest := List.drop_left
  have hafter : (body ++ '\x7d' :: rest).drop (body.length + 1) = rest := by
    rw [← List.drop_drop, hclose]
    rfl
  rw [withNewParts]
  simp only [htake, hclose, hafter, List.head?_cons, beq_self_eq_true, and_self, if_true, hcut]

theorem afterFirst?_ne_none {sep : List Char} (hsep : sep ≠ []) (left right : List Char) :
    Text.afterFirst? sep (left ++ (sep ++ right)) ≠ none := by
  induction left with
  | nil =>
    obtain ⟨c, letters, rfl⟩ := List.exists_cons_of_ne_nil hsep
    have hstart : (c :: letters).isPrefixOf (c :: (letters ++ right)) = true :=
      List.isPrefixOf_iff_prefix.mpr (List.prefix_append _ _)
    rw [List.nil_append, List.cons_append, Text.afterFirst?, if_pos hstart]
    exact Option.some_ne_none _
  | cons c others ih =>
    rw [List.cons_append, Text.afterFirst?]
    split_ifs
    · exact Option.some_ne_none _
    · exact ih

/-- The text after the first arrow is that after this one if none begins before it. -/
theorem afterFirst?_arrow {old : List Char} (h : ¬ "=>".toList <:+: old) (rest : List Char) :
    Text.afterFirst? "=>".toList (old ++ " =>".toList ++ rest) = some rest := by
  induction old with
  | nil => rfl
  | cons c others ih =>
    rw [List.infix_cons_iff, not_or] at h
    rw [List.cons_append, List.cons_append, Text.afterFirst?, if_neg, ih h.2]
    intro hstart
    obtain ⟨rest', hrest'⟩ := List.isPrefixOf_iff_prefix.mp hstart
    obtain ⟨rfl, hnext⟩ := List.cons.inj hrest'
    cases others with
    | nil => exact absurd (List.cons.inj hnext).1 (by decide)
    | cons d others =>
      obtain ⟨rfl, -⟩ := List.cons.inj hnext
      exact h.1 (List.prefix_append ['=', '>'] others)

variable {pre suf old : List Char}

/-- The arrow between an old path and a new one is the last one if the new path has none. -/
theorem splitAtLast_arrow (h : ¬ "=>".toList <:+: new) :
    Text.splitAtLast " => ".toList (fun _ => true) (old ++ (" => ".toList ++ new)) = some (old, new) := by
  refine Text.splitAtLast_append (by decide) rfl fun hlater => h ?_
  have hspaced : [' ', '=', '>', ' '] <:+: '=' :: '>' :: ' ' :: new := hlater
  rw [List.infix_cons_iff, List.infix_cons_iff, List.infix_cons_iff] at hspaced
  rcases hspaced with hstart | hstart | hstart | hinside
  · exact absurd (List.cons_prefix_cons.mp hstart).1 (by decide)
  · exact absurd (List.cons_prefix_cons.mp hstart).1 (by decide)
  · exact ((List.prefix_append ['=', '>'] [' ']).trans (List.cons_prefix_cons.mp hstart).2).isInfix
  · exact List.IsInfix.trans ⟨[' '], [' '], rfl⟩ hinside

/-- A file whose path has changed between two others has the new path, in normal form. -/
theorem newPath_braces (hpre : ∀ c ∈ pre, isBrace c = false) (hold : ∀ c ∈ old, isBrace c = false)
    (hnew : ∀ c ∈ new, isBrace c = false) (hsuf : ∀ c ∈ suf, isBrace c = false)
    (harrow : ¬ "=>".toList <:+: new) :
    newPath (pre ++ '\x7b' :: (old ++ (" => ".toList ++ new) ++ '\x7d' :: suf)) =
      Path.normal (pre ++ (new ++ suf)) := by
  have hbody : ∀ c ∈ old ++ (" => ".toList ++ new), isBrace c = false := by
    have hbetween : ∀ c ∈ " => ".toList, isBrace c = false := by simp [isBrace]
    simp only [List.mem_append]
    rintro c (hc | hc | hc)
    · exact hold c hc
    · exact hbetween c hc
    · exact hnew c hc
  have hparts : withNewParts (pre ++ '\x7b' :: (old ++ (" => ".toList ++ new) ++ '\x7d' :: suf)) =
      pre ++ (new ++ suf) := by
    rw [withNewParts_append hpre, withNewParts_braces hbody (splitAtLast_arrow harrow), withNewParts_of_no_brace hsuf]
  have hmoved : Text.afterFirst? "=>".toList (pre ++ '\x7b' :: (old ++ (" => ".toList ++ new) ++ '\x7d' :: suf)) ≠
      none := by
    have hsep : "=>".toList ≠ [] := by decide
    simpa using afterFirst?_ne_none hsep (pre ++ '\x7b' :: (old ++ [' '])) (' ' :: (new ++ '\x7d' :: suf))
  rw [newPath]
  split
  · next hnone => exact absurd hnone hmoved
  · rw [if_pos (by simp), hparts]

/-- A file whose whole path has changed has the new path. -/
theorem newPath_arrow (hold : ∀ c ∈ old, isBrace c = false) (harrow : ¬ "=>".toList <:+: old)
    (hnew : ∀ c ∈ new, isBrace c = false) (hfirst : new.head?.any Text.isBlank = false)
    (hlast : new.getLast?.any Text.isBlank = false) :
    newPath (old ++ (" => ".toList ++ new)) = new := by
  have hafter : Text.afterFirst? "=>".toList (old ++ (" => ".toList ++ new)) = some (' ' :: new) := by
    have h := afterFirst?_arrow harrow (' ' :: new)
    rwa [List.append_assoc] at h
  have hopen : (old ++ (" => ".toList ++ new)).contains '\x7b' = false := by
    have hnone (s : List Char) (hs : ∀ c ∈ s, isBrace c = false) : '\x7b' ∉ s := fun hmem =>
      absurd (hs _ hmem) (by decide)
    rw [← Bool.not_eq_true, List.contains_iff_mem, List.mem_append, List.mem_append]
    rintro (h | h | h)
    · exact hnone old hold h
    · exact absurd h (by decide)
    · exact hnone new hnew h
  rw [newPath, hafter]
  simp only [hopen, Bool.false_eq_true, if_false]
  exact Text.strip_space hfirst hlast

end Moved

end LogLine
end RepoSurvey
