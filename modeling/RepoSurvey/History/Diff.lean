import RepoSurvey.Number.Numeral
import RepoSurvey.Number.Whole
import RepoSurvey.Text.Cut

/-!
# Unified diffs

* `sections`: lines cut at the lines that a header can be read from.
* `FileDiff`, `Hunk`: the changes of one file.
* `FileDiff.parse`: the files of a diff text, unless a number has more digits than a whole number may have. A section
  whose header cannot be read has no place of its own and is part of the section before it.
-/

namespace RepoSurvey

/-- What happened to a file. -/
inductive ChangeStatus where
  | added
  | modified
  | deleted
  | renamed
  deriving Repr, DecidableEq

namespace ChangeStatus

def name : ChangeStatus → String
  | added => "added"
  | modified => "modified"
  | deleted => "deleted"
  | renamed => "renamed"

def all : List ChangeStatus := [added, modified, deleted, renamed]

end ChangeStatus

/-- A stretch of changed lines; its content is the lines below its header. -/
structure Hunk where
  filePath : String
  oldStart : Int
  oldLines : Int
  newStart : Int
  newLines : Int
  content : String
  additions : Int
  deletions : Int
  deriving Repr, DecidableEq

structure FileDiff where
  filePath : String
  status : ChangeStatus := .modified
  hunks : List Hunk := []
  /-- The path before a renaming. -/
  oldPath : Option String := none
  deriving Repr, DecidableEq

namespace Hunk

/-- The lines of the content that begin with a mark but not with three of it, without the mark. -/
def marked (mark : Char) (h : Hunk) : List (List Char) :=
  (h.content.toList.splitOn '\n').filterMap fun
    | [] => none
    | c :: rest => if c = mark ∧ ¬ [mark, mark].isPrefixOf rest then some rest else none

def addedLines (h : Hunk) : List (List Char) := h.marked '+'

def removedLines (h : Hunk) : List (List Char) := h.marked '-'

end Hunk

/-! ### Sections -/

section

variable {β : Type}

/-- The lines before the first header, and each header with the lines below it. -/
def sections (header? : List Char → Option β) :
    List (List Char) → List (List Char) × List (β × List (List Char))
  | [] => ([], [])
  | line :: rest =>
    let (before, found) := sections header? rest
    match header? line with
    | some h => ([], (h, before) :: found)
    | none => (line :: before, found)

end

/-! ### Headers -/

section

/-- The old and the new path of a file header, cut at the last place that leaves something on both sides. -/
def fileHeader? (line : List Char) : Option (String × String) :=
  let start := "diff --git a/".toList
  if start.isPrefixOf line then
    match line.drop start.length with
    | [] => none
    | c :: rest =>
      (Text.splitAtLast " b/".toList (!·.isEmpty) rest).map fun (old, new) =>
        (String.ofList (c :: old), String.ofList new)
  else none

/-- A range of lines as a hunk header writes it: the digits of the first line's number, and those of the count unless
it is left out. -/
structure WrittenRange where
  start : List Char
  count : Option (List Char)
  deriving Repr, DecidableEq

/-- The first line and the count of a range; a count that is left out is one. -/
def WrittenRange.read (r : WrittenRange) : Except Numeral.ExcessDigits (Nat × Nat) := do
  let start ← Numeral.ofDigits r.start
  let count ← (r.count.map Numeral.ofDigits).getD (.ok 1)
  return (start, count)

/-- The digits at the beginning of a text. -/
def digits? (s : List Char) : Option (List Char × List Char) :=
  let digits := s.takeWhile Text.isDigit
  if digits.isEmpty then none else some (digits, s.dropWhile Text.isDigit)

/-- A range at the beginning of a text. -/
def range? (s : List Char) : Option (WrittenRange × List Char) := do
  let (start, s) ← digits? s
  match s with
  | ',' :: rest => match digits? rest with
    | some (count, rest) => some (⟨start, some count⟩, rest)
    | none => some (⟨start, none⟩, s)
  | _ => some (⟨start, none⟩, s)

/-- The old and the new range of a hunk header. -/
def hunkHeader? (line : List Char) : Option (WrittenRange × WrittenRange) := do
  let s ← Text.after? "@@ -".toList line
  let (old, s) ← range? s
  let s ← Text.after? " +".toList s
  let (new, s) ← range? s
  let _ ← Text.after? " @@".toList s
  some (old, new)

end

/-! ### Files -/

namespace Hunk

/-- How many lines begin with a mark. -/
def countMarked (mark : Char) (body : List (List Char)) : Nat := body.countP (·.head? == some mark)

/-- A hunk from its header and the lines below it. -/
def ofSection (filePath : String) :
    (WrittenRange × WrittenRange) × List (List Char) → Except Numeral.ExcessDigits Hunk
  | ((old, new), body) => do
    let (oldStart, oldLines) ← old.read
    let (newStart, newLines) ← new.read
    return {
      filePath, oldStart, oldLines, newStart, newLines
      content := String.ofList (['\n'].intercalate body)
      additions := countMarked '+' body
      deletions := countMarked '-' body }

end Hunk

namespace FileDiff

/-- The status named by the last of the lines above the hunks that names one. -/
def statusOf (lines : List (List Char)) : ChangeStatus :=
  lines.foldl (fun status line =>
    if "new file mode".toList.isPrefixOf line then .added
    else if "deleted file mode".toList.isPrefixOf line then .deleted
    else status) .modified

/-- A file from its header and the lines below it. -/
def ofSection : (String × String) × List (List Char) → Except Numeral.ExcessDigits FileDiff
  | ((old, new), lines) => do
    let (above, hunks) := sections hunkHeader? lines
    let status := statusOf above
    let renamed := status = .modified ∧ old ≠ new
    return {
      filePath := new
      status := if renamed then .renamed else status
      hunks := ← hunks.mapM (Hunk.ofSection new)
      oldPath := if renamed then some old else none }

/-- The files of a diff. -/
def parse (text : String) : Except Numeral.ExcessDigits (List FileDiff) :=
  (sections fileHeader? (text.toList.splitOn '\n')).2.mapM ofSection

def additions (d : FileDiff) : Int := signedTotal (d.hunks.map (·.additions))

def deletions (d : FileDiff) : Int := signedTotal (d.hunks.map (·.deletions))

end FileDiff
end RepoSurvey
