import RepoSurvey.Number.Whole
import RepoSurvey.Source.Stripped
import RepoSurvey.Text.Pattern

/-!
# Decision points and nesting

The measures read code from which comments and literals have been taken out.

* `decisionPoints`: branches, loops, handlers and logical operators, counted by pattern.
* `cyclomatic`: one more than the decision points.
* `cognitive`: constructs weighted by the brace depth of the line they stand on.
-/

namespace RepoSurvey
namespace Source

open Pattern

/-! ### Patterns -/

section

/-- A keyword with a character after it, white space between them allowed. -/
def keywordThen (keyword opening : String) : Pattern :=
  sequence [.boundary, literal keyword, blanks, literal opening]

/-- A `for` without a parenthesis, up to its `of` or `in` on the same line. -/
def bareFor : Pattern :=
  sequence [.boundary, literal "for", someBlanks, .absent (.one fun c => Text.isBlank c || c == '('),
    .fewest 0 (· != '\n'), .boundary, anyWord ["of", "in"], .boundary]

/-- Constructs that nest: a keyword and its parenthesis. -/
def nestingPatterns : List Pattern :=
  [keywordThen "if" "(", keywordThen "for" "(", keywordThen "while" "(", keywordThen "switch" "(",
    keywordThen "catch" "("]

/-- A question mark on its own, neither doubled nor before a dot or a colon. -/
def ternary : Pattern :=
  sequence [.notAfter (· == '?'), literal "?", .absent (.one fun c => c == '?' || c == '.' || c == ':')]

/-- Everything that counts as a decision point. -/
def decisionPatterns : List Pattern :=
  [ keywordThen "if" "(", keywordThen "for" "(", bareFor, keywordThen "while" "(", keywordThen "do" "\x7b",
    keywordThen "switch" "(", keywordThen "catch" "(", literal "&&", literal "||", literal "??", ternary ]

def elseWord : Pattern := sequence [.boundary, literal "else", .boundary]

def logicalOperator : Pattern := anyWord ["&&", "||", "??"]

end

/-! ### Measures of code -/

section

/-- The number of matches of several patterns together. -/
def countAll (patterns : List Pattern) (code : List Char) : Nat := total (patterns.map (·.count code))

def decisionPoints (code : List Char) : Nat := countAll decisionPatterns code

/-- The depth after a line: its opening braces deeper, its closing ones back, never below zero. -/
def depthAfter (depth : Nat) (line : List Char) : Nat := depth + line.count '\x7b' - line.count '\x7d'

/-- What a line adds at a depth: each nesting construct one and the depth; on a line without one, an `else` and each
logical operator one; each ternary one. -/
def lineScore (depth : Nat) (line : List Char) : Nat :=
  let nested := countAll nestingPatterns line
  let flat := if nested = 0 then
      (if (elseWord.find? line).isSome then 1 else 0) + logicalOperator.count line
    else 0
  nested * (1 + depth) + flat + ternary.count line

/-- The scores of lines from a depth on, together. -/
def linesScore : Nat → List (List Char) → Nat
  | _, [] => 0
  | depth, line :: rest =>
    let line := Text.strip line
    lineScore depth line + linesScore (depthAfter depth line) rest

end

/-! ### Measures of source text -/

section

def cyclomatic (style : CommentStyle) (text : List Char) : Nat := 1 + decisionPoints (stripped style text)

def cognitive (style : CommentStyle) (text : List Char) : Nat :=
  linesScore 0 ((stripped style text).splitOn '\n')

end

end Source
end RepoSurvey
