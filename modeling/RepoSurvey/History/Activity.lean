import RepoSurvey.Number.Numeral
import RepoSurvey.Number.Whole
import RepoSurvey.Path
import RepoSurvey.Text.Cut
import RepoSurvey.Time.Moment

/-!
# Activity of developers

A change log consists of commit lines, each followed by one line for every file that the commit changed.

* `LogLine`: what a line of the log says.
* `attributed`: the commits and changes of a log, each with its author.
* `Activity`: what one developer did in a period.
* `Activity.ofLog`: the developers of a log in ascending order, unless a count in it has more digits than a whole
  number may have.
-/

namespace RepoSurvey

/-- One developer's commits and changes over a period. -/
structure Activity where
  developer : String
  commits : Int := 0
  filesChanged : Int := 0
  linesAdded : Int := 0
  linesRemoved : Int := 0
  /-- How often files of each extension were changed, in order of first appearance. -/
  fileTypes : List (String × Int) := []
  periodStart : Option Moment := none
  periodEnd : Option Moment := none
  filesTouched : List String := []
  deriving Repr, DecidableEq

/-! ### Lines of a log -/

/-- The lines that a commit added to a file and removed from it. -/
structure LogChange where
  added : Nat
  removed : Nat
  path : String
  deriving Repr, DecidableEq

/-- A change as a line reports it: the digits of the two counts, which a binary file does not have, and the path. -/
structure WrittenChange where
  added : List Char
  removed : List Char
  path : String
  deriving Repr, DecidableEq

/-- The change with its counts as numbers; without digits a count is zero. -/
def WrittenChange.read (c : WrittenChange) : Except Numeral.ExcessDigits LogChange := do
  return ⟨← Numeral.ofDigits c.added, ← Numeral.ofDigits c.removed, c.path⟩

inductive LogLine where
  | commit (author : String)
  | change (change : WrittenChange)
  /-- A blank line or one of another form. -/
  | noise
  deriving Repr, DecidableEq

namespace LogLine

section

/-- The digits of a commit's hash. -/
def isHashDigit (c : Char) : Bool := ('0' ≤ c && c ≤ '9') || ('a' ≤ c && c ≤ 'f')

/-- The author of a commit line: a hash of forty digits, a time stamp, the author and a subject between bars. -/
def commitAuthor? (line : List Char) : Option String := do
  let hash := line.takeWhile isHashDigit
  if hash.length ≠ 40 then none
  let '|' :: s := line.dropWhile isHashDigit | none
  if (s.takeWhile Text.isDigit).isEmpty then none
  let '|' :: s := s.dropWhile Text.isDigit | none
  let author := s.takeWhile (· != '|')
  if author.isEmpty then none
  let '|' :: _ := s.dropWhile (· != '|') | none
  some (String.ofList (Text.strip author))

/-- The digits of a count up to a tabulator; a hyphen stands for the missing count of a binary file. -/
def count? (s : List Char) : Option (List Char × List Char) :=
  match s with
  | '-' :: '\t' :: rest => some ([], rest)
  | _ =>
    let digits := s.takeWhile Text.isDigit
    match s.dropWhile Text.isDigit with
    | '\t' :: rest => if digits.isEmpty then none else some (digits, rest)
    | _ => none

def isBrace (c : Char) : Bool := c == '\x7b' || c == '\x7d'

/-- A path in which every `{old => new}` is replaced by the new part. -/
def withNewParts (path : List Char) : List Char :=
  match path with
  | [] => []
  | c :: rest =>
    let body := rest.takeWhile (!isBrace ·)
    let closed := (rest.drop body.length).head? == some '\x7d'
    match (if c = '\x7b' ∧ closed then Text.splitAtLast " => ".toList (fun _ => true) body else none) with
    | some (_, new) => new ++ withNewParts (rest.drop (body.length + 1))
    | none => c :: withNewParts rest
termination_by path.length
decreasing_by all_goals (simp only [List.length_drop, List.length_cons]; omega)

/-- The path that a file has after a change that may rename it. -/
def newPath (path : List Char) : List Char :=
  match Text.afterFirst? "=>".toList path with
  | none => path
  | some new => if path.contains '\x7b' then Path.normal (withNewParts path) else Text.strip new

/-- The change that a line reports: two counts and a path between tabulators. -/
def change? (line : List Char) : Option WrittenChange := do
  let (added, s) ← count? line
  let (removed, s) ← count? s
  if s.isEmpty then none else some ⟨added, removed, String.ofList (newPath s)⟩

/-- What a line says; carriage returns at its end do not count. -/
def ofChars (line : List Char) : LogLine :=
  let line := (line.reverse.dropWhile (· == '\r')).reverse
  match commitAuthor? line with
  | some author => commit author
  | none => match change? line with
    | some c => change c
    | none => noise

end

end LogLine

/-! ### Authors -/

section

/-- The commits (`none`) and changes of a log with their authors; a change belongs to the commit above it, and one
above every commit to nobody. -/
def attributed : Option String → List LogLine → List (String × Option WrittenChange)
  | _, [] => []
  | _, .commit author :: rest => (author, none) :: attributed (some author) rest
  | some author, .change c :: rest => (author, some c) :: attributed (some author) rest
  | none, .change _ :: rest => attributed none rest
  | author, .noise :: rest => attributed author rest

/-- A commit or change of an author, with its counts as numbers. -/
def readEvent (event : String × Option WrittenChange) : Except Numeral.ExcessDigits (String × Option LogChange) := do
  return (event.1, ← event.2.mapM WrittenChange.read)

end

namespace Activity

/-- How often each text occurs, in order of first appearance. -/
def tally (texts : List String) : List (String × Int) :=
  texts.eraseDups.map fun s => (s, (texts.count s : Int))

/-- The file's extension with its dot; a name that only begins with dots has none. -/
def extensionOf (path : String) : String := String.ofList (Path.extension path.toList)

/-- What the commits and changes of one developer amount to. -/
def ofEvents (start finish : Option Moment) (developer : String) (events : List (Option LogChange)) : Activity :=
  let changes := events.filterMap id
  let paths := changes.map (·.path)
  { developer
    commits := events.countP (·.isNone)
    filesChanged := changes.length
    linesAdded := total (changes.map (·.added))
    linesRemoved := total (changes.map (·.removed))
    fileTypes := tally ((paths.map extensionOf).filter (· != ""))
    periodStart := start
    periodEnd := finish
    filesTouched := Text.distinctAscending paths }

/-- The developers of a log, each with the commits and changes attributed to them. -/
def ofLog (log : String) (start finish : Option Moment) : Except Numeral.ExcessDigits (List Activity) := do
  let events ← (attributed none ((log.toList.splitOn '\n').map LogLine.ofChars)).mapM readEvent
  return (Text.distinctAscending (events.map (·.1))).map fun developer =>
    ofEvents start finish developer ((events.filter (·.1 == developer)).map (·.2))

def totalLines (a : Activity) : Int := a.linesAdded + a.linesRemoved

/-- The extension changed most often, of several the first one. -/
def dominantType (a : Activity) : Option String :=
  (a.fileTypes.foldl (fun best entry => match best with
    | some (name, n) => if n < entry.2 then some entry else some (name, n)
    | none => some entry) none).map (·.1)

end Activity
end RepoSurvey
