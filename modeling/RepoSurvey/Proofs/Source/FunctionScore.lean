import RepoSurvey.Proofs.Source.LineByLine
import RepoSurvey.Source.FunctionBlock

/-!
# Scores of functions and of the file

A function is scored on its lines alone, as if they were a file of their own. They mean the same there as in the file
if the first of them does not begin inside a comment or a literal.

* `bodyEnd_lt`: a function ends within its file.
* `mem_functions`: which lines a reported function is scored on.
* `linesBetween_stripped`: the stripped lines of the file are what scanning the function's lines yields, from the place
  at which the scanner of the file enters them.
* `cyclomatic_of_mem_blocks`: the score of a function next to the stripped lines of its file.
-/

namespace RepoSurvey
namespace Source

variable {style : CommentStyle}

/-! ### Lines of a text -/

section

/-- The lines of a text from one to another, counted from one, both included. -/
def linesBetween (first last : Nat) (text : List Char) : List Char :=
  ['\n'].intercalate (((text.splitOn '\n').drop (first - 1)).take (last + 1 - first))

/-- The lines of a text above one of them, with their line feeds. -/
def linesAbove (number : Nat) (text : List Char) : List Char :=
  ((text.splitOn '\n').take (number - 1)).flatMap (· ++ ['\n'])

/-- Where the scanner enters a line of a text. -/
def placeAt (style : CommentStyle) (number : Nat) (text : List Char) : Scan :=
  Scan.after style .code (linesAbove number text)

/-- The stripped lines of a text are what scanning these lines yields, from where the scanner enters the first. -/
theorem linesBetween_stripped (first last : Nat) (text : List Char) :
    linesBetween first last (stripped style text) =
      strippedFrom style (placeAt style first text) (linesBetween first last text) := by
  rw [linesBetween, linesBetween, splitOn_stripped, drop_codeFrom, take_codeFrom, ← strippedFrom_intercalate,
    placeAt, linesAbove, after_flatMap_newline]

variable (style) (text : List Char)

theorem length_lines : (lines style text).length = (text.splitOn '\n').length := by
  rw [lines, List.length_map, List.length_zip, splitOn_stripped, length_codeFrom, Nat.min_self]

theorem map_raw_lines : (lines style text).map (·.raw) = text.splitOn '\n' := by
  have hlength : (text.splitOn '\n').length = ((stripped style text).splitOn '\n').length := by
    rw [splitOn_stripped, length_codeFrom]
  rw [lines, List.map_map]
  exact List.map_fst_zip (Nat.le_of_eq hlength)

end

/-! ### The extent of a function -/

section

/-- The search for a closing brace ends on one of its lines. -/
theorem closing_lt {offset : Nat} {depth : Int} {opened : Bool} {ls : List Line} {found : Nat}
    (h : closing offset depth opened ls = .at found) : found < offset + ls.length := by
  induction ls generalizing offset depth opened with
  | nil =>
    rw [closing] at h
    split_ifs at h
  | cons line rest ih =>
    rw [closing] at h
    dsimp only at h
    rw [List.length_cons]
    split_ifs at h
    · obtain rfl := Closing.at.inj h
      omega
    · obtain rfl := Closing.at.inj h
      omega
    · have hfound := ih h
      omega

/-- A function ends within its file. -/
theorem bodyEnd_lt {ls : List Line} (h : ls ≠ []) : bodyEnd ls < ls.length := by
  have hlength : 0 < ls.length := List.length_pos_iff.mpr h
  rw [bodyEnd]
  split
  · next offset hclosing =>
    have hoffset := closing_lt hclosing
    omega
  · omega
  · have htail : (ls.tail.takeWhile fun line => !beginsBlock line.raw).length ≤ ls.tail.length :=
      (List.takeWhile_sublist _).length_le
    rw [List.length_tail] at htail
    omega

/-- The function that is declared on the first of some lines, which is the line `number` of its file. -/
def declaredFunction (style : CommentStyle) (name : String) (number : Nat) (ls : List Line) : Block :=
  score style (['\n'].intercalate ((ls.take (bodyEnd ls + 1)).map (·.raw))) name number (number + bodyEnd ls)

/-- A reported function is declared on a line, and scored on the lines from there to its end. -/
theorem mem_functions {number : Nat} {ls : List Line} {f : Block} (h : f ∈ functions style number ls) :
    ∃ name, ∃ k < ls.length, f = declaredFunction style name (number + k) (ls.drop k) := by
  induction ls generalizing number with
  | nil => exact absurd h List.not_mem_nil
  | cons line rest ih =>
    have hlater (hrest : f ∈ functions style (number + 1) rest) :
        ∃ name, ∃ k < (line :: rest).length, f = declaredFunction style name (number + k) ((line :: rest).drop k) := by
      obtain ⟨name, k, hk, hf⟩ := ih hrest
      refine ⟨name, k + 1, Nat.succ_lt_succ hk, ?_⟩
      rw [List.drop_succ_cons, hf, Nat.add_assoc, Nat.add_comm 1 k]
    rw [functions] at h
    cases hname : functionName? line.code with
    | none =>
      rw [hname] at h
      exact hlater h
    | some name =>
      rw [hname] at h
      rcases List.mem_cons.mp h with rfl | hrest
      · exact ⟨name, 0, Nat.succ_pos _, rfl⟩
      · exact hlater hrest

end

/-! ### Scores -/

section

variable {text : List Char} {found : List Block}

theorem blocks_eq_functions (h : blocks style text = .functions found) :
    found = functions style 1 (lines style text) := by
  rw [blocks] at h
  split at h
  · cases h
  · exact (Extraction.functions.inj h).symm

/-- A function counts the decision points of its lines, scanned by themselves. -/
theorem cyclomatic_declaredFunction (name : String) (k : Nat) :
    (declaredFunction style name (1 + k) ((lines style text).drop k)).cyclomatic =
      1 + decisionPoints (strippedFrom style .code
        (linesBetween (1 + k) (1 + k + bodyEnd ((lines style text).drop k)) text)) := by
  generalize hreach : bodyEnd ((lines style text).drop k) = reach
  have hfirst : 1 + k - 1 = k := Nat.add_sub_cancel_left 1 k
  have hcount : 1 + k + reach + 1 - (1 + k) = reach + 1 := by omega
  rw [linesBetween, hfirst, hcount, ← map_raw_lines style text, ← List.map_drop, ← List.map_take,
    declaredFunction, hreach]
  rfl

/-- The score of a function next to the stripped lines of its file: it counts what scanning the function's lines by
themselves yields, the file has what scanning them from the place of its own scanner yields, and the two agree where
that place is in the code. -/
theorem cyclomatic_of_mem_blocks (h : blocks style text = .functions found) :
    ∀ f ∈ found,
      1 ≤ f.first ∧ f.first ≤ f.last ∧ f.last ≤ (text.splitOn '\n').length ∧
      f.cyclomatic = 1 + decisionPoints (strippedFrom style .code (linesBetween f.first f.last text)) ∧
      linesBetween f.first f.last (stripped style text) =
        strippedFrom style (placeAt style f.first text) (linesBetween f.first f.last text) ∧
      (placeAt style f.first text = .code →
        f.cyclomatic = 1 + decisionPoints (linesBetween f.first f.last (stripped style text))) := by
  intro f hf
  rw [blocks_eq_functions h] at hf
  obtain ⟨name, k, hk, hfunction⟩ := mem_functions hf
  have hfirst : f.first = 1 + k := by rw [hfunction]; rfl
  have hlast : f.last = f.first + bodyEnd ((lines style text).drop k) := by rw [hfunction]; rfl
  have hend : bodyEnd ((lines style text).drop k) < (text.splitOn '\n').length - k := by
    rw [← length_lines style, ← List.length_drop]
    apply bodyEnd_lt
    rw [← List.length_pos_iff, List.length_drop]
    omega
  have hscore : f.cyclomatic =
      1 + decisionPoints (strippedFrom style .code (linesBetween f.first f.last text)) := by
    rw [hlast, hfirst, hfunction]
    exact cyclomatic_declaredFunction name k
  refine ⟨by omega, by omega, by omega, hscore, linesBetween_stripped _ _ _, fun hplace => ?_⟩
  rw [linesBetween_stripped, hplace]
  exact hscore

/-- A text in which the second function is declared on the last line of a comment. -/
def commentedText : List Char := "const f = x => x ? 1 : 2;\n\n/* Starts\n   if (ready) */ function start() \x7b\x7d".toList

/-- The first function has the score of its stripped line. The second one counts a condition of the comment, which the
stripped line does not have. -/
theorem cyclomatic_of_mem_blocks_of_commented :
    blocks .slashes commentedText = .functions [⟨"f", 1, 1, 2, 1⟩, ⟨"start", 4, 4, 2, 1⟩] ∧
    1 + decisionPoints (linesBetween 1 1 (stripped .slashes commentedText)) = 2 ∧
    1 + decisionPoints (strippedFrom .slashes .code (linesBetween 4 4 commentedText)) = 2 ∧
    1 + decisionPoints (linesBetween 4 4 (stripped .slashes commentedText)) = 1 := by
  have hblocks : blocks .slashes commentedText = .functions [⟨"f", 1, 1, 2, 1⟩, ⟨"start", 4, 4, 2, 1⟩] := by
    decide +kernel
  have hscores := cyclomatic_of_mem_blocks hblocks
  obtain ⟨-, -, -, -, -, hcode⟩ := hscores ⟨"f", 1, 1, 2, 1⟩ (by decide)
  obtain ⟨-, -, -, hscore, hfile, -⟩ := hscores ⟨"start", 4, 4, 2, 1⟩ (by decide)
  refine ⟨hblocks, (hcode (by decide +kernel)).symm, hscore.symm, ?_⟩
  rw [hfile]
  decide +kernel

end

end Source
end RepoSurvey
