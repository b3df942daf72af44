import RepoSurvey.Text.Character
import RepoSurvey.Text.CharacterName
import RepoSurvey.Text.LetterCase

/-!
# Sets of characters in brackets

The text between brackets in a regular expression: single characters, ranges, escapes and the classes `\d`, `\s`, `\w`
and their complements, all of it turned around by a leading `^`.

* `Mode`: what can be switched on for a part of an expression.
* `CharacterSet.contains`: whether a set contains a character, in a mode.
* `CharacterSet.read?`: a set and what follows its closing bracket; nothing if the text is no set.
-/

namespace RepoSurvey

/-- What is switched on for a part of an expression. -/
structure Mode where
  /-- Capital and small letters are the same. -/
  anyCase : Bool := false
  /-- Letters, digits and blanks are those of ASCII. -/
  asciiOnly : Bool := false
  /-- `^` and `$` stand for the ends of every line. -/
  everyLine : Bool := false
  /-- `.` stands for line ends, too. -/
  acrossLines : Bool := false
  /-- Blanks and comments in the expression do not count. -/
  spaced : Bool := false
  deriving Repr, DecidableEq

/-- A part of a set: a code point, a range of code points, or a class of characters or its complement. -/
inductive SetItem where
  | single (code : Nat)
  | range (low high : Nat)
  | digits (inside : Bool)
  | blanks (inside : Bool)
  | words (inside : Bool)
  deriving Repr, DecidableEq

structure CharacterSet where
  complement : Bool
  items : List SetItem
  deriving Repr, DecidableEq

/-! ### Membership -/

namespace Mode

/-- The code point that a character is compared by. -/
def key (m : Mode) (c : Char) : Nat :=
  if !m.anyCase then c.toNat else if m.asciiOnly then c.toLower.toNat else Text.smallForm c.toNat

/-- The code points with the same small form as a key, or with a sibling of it. -/
def forms (m : Mode) (key : Nat) : List Nat :=
  if m.asciiOnly then key :: (if 97 ≤ key ∧ key ≤ 122 then [key - 32] else [])
  else (key :: Text.siblings key).flatMap fun small => small :: Text.capitalForms small

def isDigit (m : Mode) (c : Char) : Bool := if m.asciiOnly then c.isDigit else Text.isDigit c

def isBlank (m : Mode) (c : Char) : Bool :=
  if m.asciiOnly then c == ' ' || (9 ≤ c.toNat && c.toNat ≤ 13) else Text.isBlank c

def isWord (m : Mode) (c : Char) : Bool :=
  if m.asciiOnly then c.isAlphanum || c == '_' else Text.isWord c

end Mode

namespace SetItem

/-- Whether an item contains a character as it stands. -/
def contains (m : Mode) (c : Char) : SetItem → Bool
  | single code => c.toNat == code
  | range low high => low ≤ c.toNat && c.toNat ≤ high
  | digits inside => m.isDigit c == inside
  | blanks inside => m.isBlank c == inside
  | words inside => m.isWord c == inside

/-- Whether an item among others contains a character in any case. Beyond the basic plane, a single code point stands
for a small letter only, and a range contains a character with its capital form, too. -/
def containsAnyCase (m : Mode) (c : Char) : SetItem → Bool
  | single code => if code < 0x10000 then (m.forms (m.key c)).contains code else m.key c == code
  | range low high =>
    let further := if high < 0x10000 then [] else [m.key c, Text.capitalForm (m.key c)]
    (m.forms (m.key c) ++ further).any fun code => low ≤ code && code ≤ high
  | item => item.contains m c

end SetItem

namespace CharacterSet

/-- One code point. -/
def ofCode (code : Nat) : CharacterSet := ⟨false, [.single code]⟩

def contains (m : Mode) (s : CharacterSet) (c : Char) : Bool :=
  (if m.anyCase then
    match s.items with
    | [.single code] => (m.forms (m.key c)).contains code
    | items => items.any (·.containsAnyCase m c)
  else s.items.any (·.contains m c)) != s.complement

/-! ### Escapes -/

section

/-- A number of exactly `n` hexadecimal digits, after the number read so far. -/
def hex? : Nat → Nat → List Char → Option (Nat × List Char)
  | 0, read, rest => some (read, rest)
  | n + 1, read, c :: rest => (Text.hexValue? c).bind fun v => hex? n (16 * read + v) rest
  | _ + 1, _, [] => none

def isOctal (c : Char) : Bool := '0' ≤ c && c ≤ '7'

/-- The number that octal digits write. -/
def octalValue (digits : List Char) : Nat := digits.foldl (fun n c => 8 * n + (c.toNat - '0'.toNat)) 0

/-- One to three octal digits, of a value below 256. -/
def octal? (s : List Char) : Option (Nat × List Char) :=
  let digits := (s.take 3).takeWhile isOctal
  if octalValue digits ≤ 255 then some (octalValue digits, s.drop digits.length) else none

/-- A character's name in braces. -/
def braced? : List Char → Option (Nat × List Char)
  | '\x7b' :: rest =>
    let name := rest.takeWhile (· != '\x7d')
    match rest.drop name.length with
    | [] => none
    | _ :: rest => (Text.named? name).map (·, rest)
  | _ => none

/-- The code point that a backslash, a character and what comes after it stand for, inside and outside brackets. -/
def code? (c : Char) (rest : List Char) : Option (Nat × List Char) :=
  match c with
  | 'a' => some (7, rest)
  | 'f' => some (12, rest)
  | 'n' => some (10, rest)
  | 'r' => some (13, rest)
  | 't' => some (9, rest)
  | 'v' => some (11, rest)
  | 'x' => hex? 2 0 rest
  | 'u' => hex? 4 0 rest
  | 'U' => (hex? 8 0 rest).filter (·.1 < 0x110000)
  | 'N' => braced? rest
  | _ => if c.isAlphanum then none else some (c.toNat, rest)

/-- The class that a backslash and a letter stand for. -/
def class? : Char → Option SetItem
  | 'd' => some (.digits true)
  | 'D' => some (.digits false)
  | 's' => some (.blanks true)
  | 'S' => some (.blanks false)
  | 'w' => some (.words true)
  | 'W' => some (.words false)
  | _ => none

/-- A single code point as an item. -/
def single : Nat × List Char → SetItem × List Char
  | (code, rest) => (.single code, rest)

/-- What a backslash and the characters after it stand for between brackets. -/
def escape? : List Char → Option (SetItem × List Char)
  | [] => none
  | c :: rest =>
    match class? c with
    | some item => some (item, rest)
    | none =>
      if c = 'b' then some (.single 8, rest)
      else if isOctal c then (octal? (c :: rest)).map single
      else (code? c rest).map single

/-- An escape or a character as it stands. -/
def item? : List Char → Option (SetItem × List Char)
  | [] => none
  | '\\' :: rest => escape? rest
  | c :: rest => some (.single c.toNat, rest)

end

/-! ### Sets -/

section

/-- The range between two single characters in order. -/
def rangeOf? : SetItem → SetItem → Option SetItem
  | .single low, .single high => if low ≤ high then some (.range low high) else none
  | _, _ => none

/-- The items up to a closing bracket, which does not close an empty set; at most `n` items. -/
def items? : Nat → List SetItem → List Char → Option (List SetItem × List Char)
  | 0, _, _ => none
  | n + 1, found, s =>
    match s, found with
    | ']' :: rest, _ :: _ => some (found.reverse, rest)
    | _, _ => do
      let (low, rest) ← item? s
      match rest with
      | '-' :: ']' :: rest => some ((.single '-'.toNat :: low :: found).reverse, rest)
      | '-' :: rest =>
        let (high, rest) ← item? rest
        let range ← rangeOf? low high
        items? n (range :: found) rest
      | rest => items? n (low :: found) rest

/-- The set whose text begins after an opening bracket, and what follows its closing one. -/
def read? (s : List Char) : Option (CharacterSet × List Char) :=
  let (complement, body) := match s with
    | '^' :: rest => (true, rest)
    | _ => (false, s)
  (items? s.length [] body).map fun (items, rest) => (⟨complement, items.eraseDups⟩, rest)

end

end CharacterSet
end RepoSurvey
