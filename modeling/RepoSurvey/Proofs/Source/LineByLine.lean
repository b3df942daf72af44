import RepoSurvey.Proofs.Text.Lines
import RepoSurvey.Source.Stripped

/-!
# The scanner line by line

The scanner looks one character ahead, but no further than the end of a line: a line feed opens and closes nothing.
What it keeps of a line depends on the line and on the place where it enters it.

* `Scan.after`: the place after a text.
* `codeFrom`: the lines of a text without comments and literals, each scanned from where the one before it ends.
* `splitOn_stripped`: these are the lines of the stripped text.
* `take_codeFrom`, `drop_codeFrom`: the same of some lines in a row, from the place at the first of them on.
-/

namespace RepoSurvey
namespace Source

variable {style : CommentStyle}

namespace Scan

/-- The place after a text behind which nothing follows. -/
def after (style : CommentStyle) : Scan → List Char → Scan
  | s, [] => s
  | s, c :: rest => after style (s.next style c rest.head?) rest

/-- The place after a line and its line feed. -/
def afterLine (style : CommentStyle) (s : Scan) (line : List Char) : Scan := (s.after style line).next style '\n' none

/-! ### Code -/

theorem keeps_eq_true {s : Scan} {c : Char} {following : Option Char} :
    s.keeps style c following = true ↔ c = '\n' ∨ s = code ∧ s.next style c following = code := by
  simp [keeps]

/-- Code goes on at a character that opens nothing. -/
theorem next_code_eq_code {c : Char} {following : Option Char} :
    next style code c following = code ↔ opensLineComment style c following = false ∧
      opensBlockComment style c following = false ∧ isLiteralQuote c = false := by
  unfold next
  cases opensLineComment style c following <;> cases opensBlockComment style c following <;>
    cases isLiteralQuote c <;> simp

/-! ### A line feed and what is next to it -/

/-- A line feed that follows is as good as nothing. -/
theorem next_newline_ahead (s : Scan) (c : Char) : s.next style c (some '\n') = s.next style c none := by
  cases style <;> cases s <;> simp [next, opensLineComment, opensBlockComment]

theorem keeps_newline_ahead (s : Scan) (c : Char) : s.keeps style c (some '\n') = s.keeps style c none := by
  rw [keeps, keeps, next_newline_ahead]

/-- After a line feed it does not matter what follows. -/
theorem next_newline (s : Scan) (following : Option Char) : s.next style '\n' following = s.next style '\n' none := by
  cases style <;> cases s <;> simp [next, opensLineComment, opensBlockComment]

theorem keeps_newline (s : Scan) (following : Option Char) : s.keeps style '\n' following = true := by
  rw [keeps, beq_self_eq_true, Bool.true_or]

/-- In a line with lines below it, the last character is scanned as it is without them. -/
theorem next_above (s : Scan) (c : Char) (line rest : List Char) :
    s.next style c (line ++ '\n' :: rest).head? = s.next style c line.head? := by
  cases line with
  | nil => exact s.next_newline_ahead c
  | cons d line => rfl

theorem keeps_above (s : Scan) (c : Char) (line rest : List Char) :
    s.keeps style c (line ++ '\n' :: rest).head? = s.keeps style c line.head? := by
  cases line with
  | nil => exact s.keeps_newline_ahead c
  | cons d line => rfl

theorem after_line (s : Scan) (line rest : List Char) :
    s.after style (line ++ '\n' :: rest) = (s.afterLine style line).after style rest := by
  induction line generalizing s with
  | nil =>
    rw [List.nil_append, after, next_newline]
    rfl
  | cons c line ih =>
    rw [List.cons_append, after, next_above, ih]
    rfl

end Scan

/-! ### One line after the other -/

theorem strippedFrom_cons (s : Scan) (c : Char) (rest : List Char) :
    strippedFrom style s (c :: rest) =
      if s.keeps style c rest.head? then c :: strippedFrom style (s.next style c rest.head?) rest
      else strippedFrom style (s.next style c rest.head?) rest := rfl

/-- A line is scanned without regard to the lines below it, and they from the place after it. -/
theorem strippedFrom_line (s : Scan) (line rest : List Char) :
    strippedFrom style s (line ++ '\n' :: rest) =
      strippedFrom style s line ++ '\n' :: strippedFrom style (s.afterLine style line) rest := by
  induction line generalizing s with
  | nil =>
    rw [List.nil_append, strippedFrom_cons, Scan.keeps_newline, if_pos rfl, Scan.next_newline]
    rfl
  | cons c line ih =>
    have hplace : (s.next style c line.head?).afterLine style line = s.afterLine style (c :: line) := rfl
    rw [List.cons_append, strippedFrom_cons, strippedFrom_cons, Scan.next_above, Scan.keeps_above, ih, hplace]
    split_ifs <;> rfl

/-- The place after some lines is reached line by line. -/
theorem after_flatMap_newline (s : Scan) (lines : List (List Char)) :
    s.after style (lines.flatMap (· ++ ['\n'])) = lines.foldl (Scan.afterLine style) s := by
  induction lines generalizing s with
  | nil => rfl
  | cons line rest ih =>
    rw [List.flatMap_cons, List.append_assoc, List.singleton_append, Scan.after_line, ih, List.foldl_cons]

/-- The code of lines, each scanned from where the one before it ends. -/
def codeFrom (style : CommentStyle) : Scan → List (List Char) → List (List Char)
  | _, [] => []
  | s, line :: rest => strippedFrom style s line :: codeFrom style (s.afterLine style line) rest

/-- Joined lines are scanned line by line. -/
theorem strippedFrom_intercalate (s : Scan) (lines : List (List Char)) :
    strippedFrom style s (['\n'].intercalate lines) = ['\n'].intercalate (codeFrom style s lines) := by
  induction lines generalizing s with
  | nil => rfl
  | cons line rest ih =>
    cases rest with
    | nil => simp [codeFrom]
    | cons line' rest =>
      rw [List.intercalate_cons_cons, List.append_assoc, List.singleton_append, strippedFrom_line, ih]
      simp only [codeFrom, List.intercalate_cons_cons, List.append_assoc, List.singleton_append]

theorem length_codeFrom (s : Scan) (lines : List (List Char)) :
    (codeFrom style s lines).length = lines.length := by
  induction lines generalizing s with
  | nil => rfl
  | cons line rest ih => rw [codeFrom, List.length_cons, List.length_cons, ih]

theorem take_codeFrom (s : Scan) (lines : List (List Char)) (n : Nat) :
    (codeFrom style s lines).take n = codeFrom style s (lines.take n) := by
  induction lines generalizing s n with
  | nil => rw [List.take_nil, codeFrom, List.take_nil]
  | cons line rest ih =>
    cases n with
    | zero => rfl
    | succ n => rw [codeFrom, List.take_succ_cons, List.take_succ_cons, codeFrom, ih]

theorem drop_codeFrom (s : Scan) (lines : List (List Char)) (n : Nat) :
    (codeFrom style s lines).drop n =
      codeFrom style ((lines.take n).foldl (Scan.afterLine style) s) (lines.drop n) := by
  induction lines generalizing s n with
  | nil => simp [codeFrom]
  | cons line rest ih =>
    cases n with
    | zero => rfl
    | succ n => rw [codeFrom, List.drop_succ_cons, ih, List.take_succ_cons, List.drop_succ_cons, List.foldl_cons]

/-- The code of a line without a line feed has none either. -/
theorem newline_not_mem_codeFrom {s : Scan} {lines : List (List Char)} (h : ∀ line ∈ lines, '\n' ∉ line) :
    ∀ line ∈ codeFrom style s lines, '\n' ∉ line := by
  induction lines generalizing s with
  | nil => exact fun _ hline => absurd hline List.not_mem_nil
  | cons line rest ih =>
    rw [codeFrom, List.forall_mem_cons]
    refine ⟨fun hmem => h line List.mem_cons_self ((strippedFrom_sublist style s line).subset hmem), ?_⟩
    exact ih fun other hother => h other (List.mem_cons_of_mem line hother)

/-- The lines of a stripped text are the lines of the text, scanned one after the other. -/
theorem splitOn_stripped (text : List Char) :
    (stripped style text).splitOn '\n' = codeFrom style .code (text.splitOn '\n') := by
  have hlines : ∀ line ∈ text.splitOn '\n', '\n' ∉ line := fun _ => not_mem_of_mem_splitOn
  have hne : codeFrom style .code (text.splitOn '\n') ≠ [] := by
    rw [← List.length_pos_iff, length_codeFrom, List.length_pos_iff]
    exact List.splitOn_ne_nil '\n' text
  have htext : stripped style text = ['\n'].intercalate (codeFrom style .code (text.splitOn '\n')) := by
    rw [← strippedFrom_intercalate, List.intercalate_splitOn]
    rfl
  rw [htext, List.splitOn_intercalate '\n' (newline_not_mem_codeFrom hlines) hne]

end Source
end RepoSurvey
