import RepoSurvey.Path
import RepoSurvey.Source.DecisionPoint

/-!
# Functions of a file

Functions are found line by line in the code without comments and literals, and scored on the text of their lines.

* `functionName?`: the name that a line declares a function by.
* `bodyEnd`: how far the function beginning on the first of some lines reaches.
* `blocks`: the scored functions of a text, or the whole text as one block.
-/

namespace RepoSurvey
namespace Source

open Pattern

/-! ### Declarations -/

section

def binding : Pattern := anyWord ["const", "let", "var"]

/-- A name that is bound, up to its equals sign. -/
def boundName : Pattern :=
  sequence [Pattern.opt (.seq (literal "export") someBlanks), binding, someBlanks, .capture name, blanks, literal "=",
    blanks, Pattern.opt (.seq (literal "async") someBlanks)]

/-- The first character of a parameter that stands without parentheses. -/
def beginsName (c : Char) : Bool := c.isAlpha || c == '_'

/-- The forms of a function declaration; the captured part is the function's name. -/
def functionPatterns : List Pattern :=
  [ sequence [Pattern.opt (.seq (literal "export") someBlanks), Pattern.opt (.seq (literal "async") someBlanks),
      .boundary, literal "function", .boundary, blanks, .opt (literal "*"), blanks, .capture name],
    sequence [boundName,
      .alt (sequence [literal "(", .most 0 (· != ')'), literal ")"]) (.seq (.one beginsName) (.most 0 Text.isWord)),
      blanks, .opt (sequence [literal ":", blanks, .most 1 (· != '=')]), literal "=>"],
    sequence [boundName, literal "function"],
    sequence [.lineStart, someBlanks, .opt (.seq (literal "async") someBlanks), .capture name, blanks, literal "(",
      .most 0 (· != ')'), literal ")", blanks,
      .opt (sequence [literal ":", blanks, .one Text.isWord, .most 0 (· != '\x7b')]), blanks, literal "\x7b"],
    sequence [.lineStart, someBlanks, anyWord ["public", "private", "protected", "static", "async"], someBlanks,
      .opt (.seq (literal "async") someBlanks), .capture name, blanks, literal "("] ]

/-- Keywords that stand before a parenthesis without naming a function. -/
def notFunctions : List String := ["if", "for", "while", "switch", "catch", "with", "return", "function", "else"]

/-- The name of the first form of declaration that a line has. -/
def declaredName? (line : List Char) : Option String :=
  functionPatterns.findSome? fun p =>
    ((p.find? line).bind (·.captured)).map fun (_, name) => String.ofList name

/-- The name by which a line declares a function. -/
def functionName? (line : List Char) : Option String :=
  (declaredName? line).filter fun name => !notFunctions.contains name

/-- A declaration at the beginning of a line. -/
def declaration : Pattern :=
  sequence [Pattern.opt (.seq (literal "export") someBlanks), anyWord ["const", "let", "var", "function", "class"],
    .one Text.isBlank]

/-- Whether a line of the text is blank or begins a declaration. -/
def beginsBlock (line : List Char) : Bool :=
  line.all Text.isBlank || (declaration.match? (.start line)).isSome

end

/-! ### The extent of a function -/

section

/-- A line as it was written, and its code. -/
structure Line where
  raw : List Char
  code : List Char

/-- The lines of a text. -/
def lines (style : CommentStyle) (text : List Char) : List Line :=
  ((text.splitOn '\n').zip ((stripped style text).splitOn '\n')).map fun (raw, code) => ⟨raw, code⟩

/-- The longest distance from a function's first line at which its closing brace is still looked for. -/
def maxBodyLines : Nat := 500

/-- How the search for a closing brace ends. -/
inductive Closing where
  | at (offset : Nat)
  | unclosed
  | braceless

/-- Searches lines for the place where the braces are balanced again. -/
def closing : Nat → Int → Bool → List Line → Closing
  | _, _, opened, [] => if opened then .unclosed else .braceless
  | offset, depth, opened, line :: rest =>
    if !opened && offset != 0 && beginsBlock line.raw then .braceless
    else
      let depth := depth + line.code.count '\x7b' - line.code.count '\x7d'
      let opened := opened || line.code.contains '\x7b'
      if opened && depth ≤ 0 then .at offset
      else if maxBodyLines < offset then .at offset
      else closing (offset + 1) depth opened rest

/-- How many lines after the first one a function reaches: to its closing brace, to the last line if the brace is
missing, and without braces up to a blank line or a declaration. -/
def bodyEnd (lines : List Line) : Nat :=
  match closing 0 0 false lines with
  | .at offset => offset
  | .unclosed => lines.length - 1
  | .braceless => (lines.tail.takeWhile fun line => !beginsBlock line.raw).length

end

/-! ### Blocks -/

section

/-- A scored stretch of a file; its lines are counted from one, both ends included. -/
structure Block where
  name : String
  first : Nat
  last : Nat
  cyclomatic : Nat
  cognitive : Nat
  deriving Repr, DecidableEq

/-- A text scored as a block. -/
def score (style : CommentStyle) (text : List Char) (name : String) (first last : Nat) : Block :=
  ⟨name, first, last, cyclomatic style text, cognitive style text⟩

/-- The functions declared on lines that are counted from `number` on. -/
def functions (style : CommentStyle) : Nat → List Line → List Block
  | _, [] => []
  | number, line :: rest =>
    let later := functions style (number + 1) rest
    match functionName? line.code with
    | none => later
    | some name =>
      let last := bodyEnd (line :: rest)
      let body := ['\n'].intercalate (((line :: rest).take (last + 1)).map (·.raw))
      score style body name number (number + last) :: later

/-- The blocks that a file was split into. -/
inductive Extraction where
  | functions (blocks : List Block)
  /-- No function was found; the file is one block. -/
  | wholeFile (block : Block)
  deriving Repr, DecidableEq

def Extraction.blocks : Extraction → List Block
  | functions blocks => blocks
  | wholeFile block => [block]

/-- The functions of a text; without any, the text as one block. -/
def blocks (style : CommentStyle) (text : List Char) : Extraction :=
  match functions style 1 (lines style text) with
  | [] => .wholeFile (score style text "<module>" 1 (text.splitOn '\n').length)
  | found => .functions found

/-- The extensions of files with `#` comments. -/
def hashExtensions : List String := [".py", ".rb", ".sh", ".yml", ".yaml", ".toml"]

/-- The comments of a file, from the extension of its path. -/
def CommentStyle.ofPath (path : Option String) : CommentStyle :=
  let extension := path.elim [] fun p => Text.lowered (Path.extension p.toList)
  if hashExtensions.contains (String.ofList extension) then .hash else .slashes

end

end Source
end RepoSurvey
