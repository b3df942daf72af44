/-!
# Code without comments and literals

A scanner goes over a text once and keeps the characters of code and every line feed, so that the lines of the result
stand beside the lines of the text.

* `Scan`: where the scanner is.
* `Scan.next`: the place after a character, given the character that follows.
* `stripped`: the characters kept.
-/

namespace RepoSurvey
namespace Source

/-- Where in a text the scanner is. -/
inductive Scan where
  | code
  | lineComment
  /-- Between the slash and the star that open a block comment. -/
  | blockOpening
  | blockComment
  /-- Between the star and the slash that close a block comment. -/
  | blockClosing
  | literal (quote : Char)
  /-- After a backslash inside a literal. -/
  | escape (quote : Char)
  deriving Repr, DecidableEq

/-- Which comments a language has. -/
inductive CommentStyle where
  /-- `//` to the end of the line, and `/* … */`. -/
  | slashes
  /-- `#` to the end of the line. -/
  | hash
  deriving Repr, DecidableEq

/-- The characters that open and close a literal. -/
def isLiteralQuote (c : Char) : Bool := c == '\x27' || c == '\x22' || c == '\x60'

/-- Whether a line comment begins at a character, given the one after it. -/
def opensLineComment (style : CommentStyle) (c : Char) (following : Option Char) : Bool :=
  match style with
  | .hash => c == '#'
  | .slashes => c == '/' && following == some '/'

/-- Whether a block comment begins at a character, given the one after it. -/
def opensBlockComment (style : CommentStyle) (c : Char) (following : Option Char) : Bool :=
  style == .slashes && c == '/' && following == some '*'

namespace Scan

/-- The place after a character, given the one that follows it. -/
def next (style : CommentStyle) (s : Scan) (c : Char) (following : Option Char) : Scan :=
  match s with
  | code =>
    if opensLineComment style c following then lineComment
    else if opensBlockComment style c following then blockOpening
    else if isLiteralQuote c then literal c
    else code
  | lineComment => if c = '\n' then code else lineComment
  | blockOpening => blockComment
  | blockComment => if c = '*' ∧ following = some '/' then blockClosing else blockComment
  | blockClosing => code
  | literal quote => if c = quote then code else if c = '\\' then escape quote else literal quote
  | escape quote => literal quote

/-- Whether a character is kept: a line feed always, any other one if it is code. -/
def keeps (style : CommentStyle) (s : Scan) (c : Char) (following : Option Char) : Bool :=
  c == '\n' || (s == code && next style s c following == code)

end Scan

/-- The characters of a text that are kept from a place on. -/
def strippedFrom (style : CommentStyle) : Scan → List Char → List Char
  | _, [] => []
  | s, c :: rest =>
    let kept := strippedFrom style (s.next style c rest.head?) rest
    if s.keeps style c rest.head? then c :: kept else kept

/-- The code of a text, with all its line feeds. -/
def stripped (style : CommentStyle) (text : List Char) : List Char := strippedFrom style .code text

/-- What is kept is a part of the text in its order. -/
theorem strippedFrom_sublist (style : CommentStyle) (s : Scan) (text : List Char) :
    (strippedFrom style s text).Sublist text := by
  induction text generalizing s with
  | nil => exact List.Sublist.refl _
  | cons c rest ih =>
    simp only [strippedFrom]
    split
    · exact (ih _).cons_cons c
    · exact (ih _).cons c

end Source
end RepoSurvey
