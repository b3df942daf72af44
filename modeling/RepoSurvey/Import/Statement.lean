import RepoSurvey.Import.Language
import RepoSurvey.Number.Whole
import RepoSurvey.Text.Pattern

/-!
# Import statements and type declarations

The statements of each language are described by patterns over the text of a file, without parsing it.

* `importSpecifiers`: the specifiers that a file imports, in order of first appearance.
* `declaredTypes`: how many abstract and how many concrete types a file declares.
-/

namespace RepoSurvey
namespace Statement

open Pattern

/-! ### Pieces of patterns -/

section

/-- A single or double quotation mark. -/
def isQuote (c : Char) : Bool := c == '\x27' || c == '\x22'

def isDoubleQuote (c : Char) : Bool := c == '\x22'

/-- The characters of a dotted name. -/
def isDotted (c : Char) : Bool := Text.isWord c || c == '.'

/-- The beginning of a line and white space, which may run over several lines. -/
def indent : Pattern := .seq .lineStart blanks

/-- A captured stretch between quotation marks. -/
def quotedText (quote : Char → Bool) : Pattern :=
  sequence [.one quote, .capture (.most 1 fun c => !quote c), .one quote]

/-- A word that may stand before a declaration, with the white space after it. -/
def maybe (w : String) : Pattern := .opt (.seq (literal w) someBlanks)

end

/-! ### Imports -/

section

/-- Imports and re-exports with a `from` part, bare imports, and calls of `require` and `import`. -/
def scriptImports : List Pattern :=
  [ sequence [indent, anyWord ["import", "export"], .one Text.isBlank, .fewest 0 (· != ';'), .boundary, literal "from",
      someBlanks, quotedText isQuote],
    sequence [indent, literal "import", someBlanks, quotedText isQuote],
    sequence [.boundary, literal "require(", blanks, quotedText isQuote, blanks, literal ")"],
    sequence [.boundary, literal "import(", blanks, quotedText isQuote, blanks, literal ")"] ]

/-- The patterns whose captured part is a specifier. -/
def importPatterns : Language → List Pattern
  | .python =>
    [ sequence [indent, literal "import", someBlanks, .capture (.most 1 isDotted)],
      sequence [indent, literal "from", someBlanks,
        .capture (.alt (.seq (.most 1 (· == '.')) (.most 0 isDotted)) (.most 1 isDotted)), someBlanks,
        literal "import", .boundary] ]
  | .typescript => scriptImports
  | .javascript => scriptImports
  | .go =>
    [ sequence [indent, literal "import", someBlanks, quotedText isDoubleQuote],
      sequence [indent, literal "import", someBlanks, .most 1 isDotted, someBlanks, quotedText isDoubleQuote] ]
  | .java =>
    [ sequence [indent, literal "import", someBlanks, maybe "static", .capture (.fewest 1 isDotted),
        .opt (literal ".*"), blanks, literal ";"] ]

/-- A parenthesised block of imports; its captured part holds the quoted specifiers. -/
def importBlock : Pattern :=
  sequence [indent, literal "import", blanks, literal "(", .capture (.most 0 (· != ')')), literal ")"]

/-- The captured parts of a pattern's matches, each with its place. -/
def capturedIn (p : Pattern) (s : List Char) : List (Nat × String) :=
  (p.findAll s).filterMap fun o => o.captured.map fun (start, part) => (start, String.ofList part)

/-- The quoted specifiers inside the parenthesised import blocks of a text, each with its place. -/
def blockImports (s : List Char) : List (Nat × String) :=
  (importBlock.findAll s).flatMap fun o => match o.captured with
    | some (start, body) => (capturedIn (quotedText isDoubleQuote) body).map fun (at_, spec) => (start + at_, spec)
    | none => []

/-- The specifiers that the statements of a text name, each with its place, in no particular order. -/
def importsFound (language : Language) (s : List Char) : List (Nat × String) :=
  (importPatterns language).flatMap (capturedIn · s) ++ (if language = .go then blockImports s else [])

/-- The order of specifiers in a text. -/
def comesBefore (a b : Nat × String) : Bool := a.1 < b.1 || (a.1 == b.1 && decide (a.2 ≤ b.2))

/-- The specifiers imported by a text, in order of first appearance. -/
def importSpecifiers (language : Language) (text : String) : List String :=
  (((importsFound language text.toList).mergeSort comesBefore).map (·.2)).eraseDups

end

/-! ### Types -/

section

/-- A word for a base class of abstract types, somewhere after characters of a class. -/
def abstractBase (within : Char → Bool) : Pattern :=
  sequence [.most 0 within, .boundary, anyWord ["ABC", "Protocol"], .boundary]

def abstractTypes : Language → List Pattern
  | .python => [sequence [indent, literal "class", someBlanks, name, blanks, literal "(", abstractBase (· != ')')]]
  | .typescript =>
    [ sequence [indent, maybe "export", literal "interface", someBlanks, name],
      sequence [indent, maybe "export", literal "abstract", someBlanks, literal "class", someBlanks, name] ]
  | .java =>
    [ sequence [indent, maybe "public", literal "interface", someBlanks, name],
      sequence [indent, maybe "public", literal "abstract", someBlanks, literal "class", someBlanks, name] ]
  | .go => [sequence [indent, literal "type", someBlanks, name, someBlanks, literal "interface", .boundary]]
  | .javascript => []

/-- An exported or default class. -/
def scriptClass : Pattern :=
  sequence [indent, maybe "export", maybe "default", literal "class", someBlanks, name]

def concreteTypes : Language → List Pattern
  | .python => [sequence [indent, literal "class", someBlanks, name, .absent (abstractBase (· != ':'))]]
  | .typescript =>
    [scriptClass, sequence [indent, maybe "export", literal "type", someBlanks, name, blanks, literal "="]]
  | .javascript => [scriptClass]
  | .java => [sequence [indent, maybe "public", maybe "final", literal "class", someBlanks, name]]
  | .go => [sequence [indent, literal "type", someBlanks, name, someBlanks, literal "struct", .boundary]]

/-- The number of matches of several patterns together. -/
def countAll (patterns : List Pattern) (s : List Char) : Nat := total (patterns.map (·.count s))

/-- How many abstract and how many concrete types a text declares. -/
def declaredTypes (language : Language) (text : String) : Nat × Nat :=
  (countAll (abstractTypes language) text.toList, countAll (concreteTypes language) text.toList)

/-- Lines that export something. -/
def exportLine : Pattern := sequence [indent, literal "export", .one Text.isBlank]

/-- Lines that begin with a decorator. -/
def decoratorLine : Pattern := sequence [indent, literal "@", name]

end

end Statement
end RepoSurvey
