import RepoSurvey.History.Activity
import RepoSurvey.Proofs.History.Sections
import RepoSurvey.Proofs.Text.Lines

/-!
# Whose commit a change belongs to

The changes of a log belong to the commit line above them, so that the log is a row of sections: each with the author
of a commit line and the lines up to the next one.

* `commitsOf`: the commits of a log, each with its own lines.
* `attributed_commitLine`, `attributed_otherLine`: what one line more is attributed to.
* `attributed_eq`: what a section says is attributed to its author, and nothing else is.
* `attributed_append`: a log whose first line that is not blank is a commit line takes no change from the lines above.
-/

namespace RepoSurvey

/-- The author of a commit line. -/
def commitLine? (line : List Char) : Option String :=
  match LogLine.ofChars line with
  | .commit author => some author
  | _ => none

theorem commitLine?_eq_some {line : List Char} {author : String} :
    commitLine? line = some author ↔ LogLine.ofChars line = .commit author := by
  rw [commitLine?]
  cases LogLine.ofChars line <;> simp

/-- The change that a line reports. -/
def changeLine? (line : List Char) : Option WrittenChange :=
  match LogLine.ofChars line with
  | .change c => some c
  | _ => none

/-- The commits of a log with their authors, each with its own lines. -/
def commitsOf (log : String) : List (String × List (List Char)) := (sections commitLine? (Text.linesOf log)).2

/-- The changes that lines below a commit report, with its author. -/
def changesOf (author : String) (lines : List (List Char)) : List (String × Option WrittenChange) :=
  (lines.filterMap changeLine?).map fun c => (author, some c)

/-- A commit and its changes, with the author. -/
def eventsOf (commit : String × List (List Char)) : List (String × Option WrittenChange) :=
  (commit.1, none) :: changesOf commit.1 commit.2

/-! ### One line more -/

section Step

variable {line : List Char} {author : String}

/-- A commit line reports no change. -/
theorem changeLine?_of_commitLine? (h : commitLine? line = some author) : changeLine? line = none := by
  rw [changeLine?, commitLine?_eq_some.mp h]

/-- A commit line goes to its author, and so does what follows it. -/
theorem attributed_commitLine (h : commitLine? line = some author) (before : Option String) (rest : List LogLine) :
    attributed before (LogLine.ofChars line :: rest) = (author, none) :: attributed (some author) rest := by
  rw [commitLine?_eq_some.mp h, attributed]

/-- What any other line reports goes to the author before it, if there is one. -/
theorem attributed_otherLine (h : commitLine? line = none) (before : Option String) (rest : List LogLine) :
    attributed before (LogLine.ofChars line :: rest) =
      (before.elim [] fun author => changesOf author [line]) ++ attributed before rest := by
  cases hline : LogLine.ofChars line with
  | commit author =>
    rw [commitLine?_eq_some.mpr hline] at h
    cases h
  | change c =>
    have hchange : changeLine? line = some c := by rw [changeLine?, hline]
    cases before with
    | none => rfl
    | some author =>
      rw [attributed, Option.elim_some, changesOf, List.filterMap_cons_some hchange]
      rfl
  | noise =>
    have hchange : changeLine? line = none := by rw [changeLine?, hline]
    rw [attributed]
    cases before with
    | none => rfl
    | some author =>
      rw [Option.elim_some, changesOf, List.filterMap_cons_none hchange]
      rfl

theorem changesOf_append (author : String) (xs ys : List (List Char)) :
    changesOf author (xs ++ ys) = changesOf author xs ++ changesOf author ys := by
  rw [changesOf, List.filterMap_append, List.map_append, changesOf, changesOf]

end Step

/-! ### Sections of a log -/

/-- What a section says is attributed to its author; lines above every commit line go to the author `before`. -/
theorem attributed_eq (before : Option String) (lines : List (List Char)) :
    attributed before (lines.map LogLine.ofChars) =
      (before.elim [] fun author => changesOf author (sections commitLine? lines).1) ++
        (sections commitLine? lines).2.flatMap eventsOf := by
  induction lines generalizing before with
  | nil => cases before <;> rfl
  | cons line rest ih =>
    rw [List.map_cons]
    cases hcommit : commitLine? line with
    | some author =>
      rw [attributed_commitLine hcommit, ih, sections_cons_header hcommit]
      cases before <;> rfl
    | none =>
      rw [attributed_otherLine hcommit, ih, sections_cons_other hcommit, ← List.append_assoc]
      cases before with
      | none => rfl
      | some author =>
        rw [Option.elim_some, Option.elim_some, Option.elim_some, ← changesOf_append, List.singleton_append]

/-- A whole log is attributed commit by commit. -/
theorem attributed_linesOf (log : String) :
    attributed none ((Text.linesOf log).map LogLine.ofChars) = (commitsOf log).flatMap eventsOf := by
  rw [attributed_eq, Option.elim_none, List.nil_append, commitsOf]

/-! ### Blank lines -/

/-- No decimal digit is blank. -/
theorem isDigit_of_isBlank {c : Char} (h : Text.isBlank c) : Text.isDigit c = false := by
  have hruns : ∀ first ∈ Text.digitZeros, ∀ k < 10, Text.isBlank (Char.ofNat (first + k)) = false := by
    decide +kernel
  have hnone : Text.digitValue? c = none := by
    rw [Text.digitValue?]
    split_ifs with hascii hdigit
    · have hlow : 48 ≤ c.toNat := hdigit.1
      have hhigh : c.toNat ≤ 57 := hdigit.2
      simp only [Text.isBlank, Bool.or_eq_true, Bool.and_eq_true, decide_eq_true_eq, beq_iff_eq] at h
      omega
    · rfl
    · rw [Option.map_eq_none_iff, List.find?_eq_none]
      intro first hfirst hc
      obtain ⟨hlow, hhigh⟩ := of_decide_eq_true hc
      have hblank := hruns first hfirst (c.toNat - first) (by omega)
      rw [Nat.add_sub_cancel' hlow, Char.ofNat_toNat, h] at hblank
      cases hblank
  rw [Text.isDigit, hnone, Option.isSome_none]

theorem isHashDigit_of_isBlank {c : Char} (h : Text.isBlank c) : LogLine.isHashDigit c = false := by
  rw [← Bool.not_eq_true]
  intro hhash
  simp only [LogLine.isHashDigit, Bool.or_eq_true, Bool.and_eq_true, decide_eq_true_eq] at hhash
  have hdigit : (48 ≤ c.toNat ∧ c.toNat ≤ 57) ∨ (97 ≤ c.toNat ∧ c.toNat ≤ 102) := hhash
  simp only [Text.isBlank, Bool.or_eq_true, Bool.and_eq_true, decide_eq_true_eq, beq_iff_eq] at h
  omega

/-- A line that begins with a blank is no commit line. -/
theorem commitAuthor?_of_blank {line : List Char} (h : line.all Text.isBlank) : LogLine.commitAuthor? line = none := by
  have hhash : line.takeWhile LogLine.isHashDigit = [] := by
    cases line with
    | nil => rfl
    | cons c rest =>
      rw [List.takeWhile_cons_of_neg]
      rw [isHashDigit_of_isBlank (List.all_eq_true.mp h c List.mem_cons_self)]
      exact Bool.false_ne_true
  rw [LogLine.commitAuthor?, hhash]
  rfl

theorem count?_of_blank {s : List Char} (h : s.all Text.isBlank) : LogLine.count? s = none := by
  cases s with
  | nil => rfl
  | cons c rest =>
    have hc : Text.isBlank c := List.all_eq_true.mp h c List.mem_cons_self
    have hdigits : (c :: rest).takeWhile Text.isDigit = [] := by
      rw [List.takeWhile_cons_of_neg]
      rw [isDigit_of_isBlank hc]
      exact Bool.false_ne_true
    unfold LogLine.count?
    split
    · next hhyphen =>
      obtain ⟨rfl, -⟩ := List.cons.inj hhyphen
      exact absurd hc (by decide)
    · rw [hdigits]
      split <;> rfl

/-- A blank line says nothing. -/
theorem ofChars_blank {line : List Char} (h : line.all Text.isBlank) : LogLine.ofChars line = .noise := by
  have hrest : ((line.reverse.dropWhile (· == '\r')).reverse).all Text.isBlank := by
    rw [List.all_eq_true] at h ⊢
    intro c hc
    exact h c (List.mem_reverse.mp ((List.dropWhile_suffix _).subset (List.mem_reverse.mp hc)))
  rw [LogLine.ofChars]
  simp only [commitAuthor?_of_blank hrest, LogLine.change?, count?_of_blank hrest]
  rfl

/-! ### One log after the other -/

/-- Lines whose first that is not blank is a commit line do not depend on the author before them. -/
theorem attributed_of_leading {lines : List (List Char)}
    (h : ∀ line ∈ lines.find? (!·.all Text.isBlank), (commitLine? line).isSome) (author : String) :
    attributed (some author) (lines.map LogLine.ofChars) = attributed none (lines.map LogLine.ofChars) := by
  induction lines with
  | nil => rfl
  | cons line rest ih =>
    rw [List.find?_cons] at h
    cases hblank : line.all Text.isBlank with
    | true =>
      rw [hblank] at h
      rw [List.map_cons, ofChars_blank hblank, attributed, attributed, ih h]
    | false =>
      rw [hblank] at h
      obtain ⟨found, hfound⟩ := Option.isSome_iff_exists.mp (h line rfl)
      rw [List.map_cons, attributed_commitLine hfound, attributed_commitLine hfound]

/-- Lines that do not depend on the author before them are attributed by themselves. -/
theorem attributed_append {lines : List LogLine} {before : Option String}
    (h : ∀ author, attributed (some author) lines = attributed none lines) (above : List LogLine) :
    attributed before (above ++ lines) = attributed before above ++ attributed none lines := by
  induction above generalizing before with
  | nil =>
    cases before with
    | none => rfl
    | some author => exact h author
  | cons line rest ih =>
    rw [List.cons_append]
    cases line with
    | commit author => rw [attributed, attributed, ih, List.cons_append]
    | change c =>
      cases before with
      | none => rw [attributed, attributed, ih]
      | some author => rw [attributed, attributed, ih, List.cons_append]
    | noise => rw [attributed, attributed, ih]

end RepoSurvey
