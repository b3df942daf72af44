import RepoSurvey.Number.Numeral
import RepoSurvey.Value.Record

/-!
# Reading JSON

`Record.ofJson?` reads plain data from a JSON text. Numbers are whole unless they have a point or an exponent; the
fields of an object stay in order, and of several values of one field the last counts.
-/

namespace RepoSurvey
namespace Record

/-! ### Tokens -/

def isJsonSpace (c : Char) : Bool := c == ' ' || c == '\t' || c == '\n' || c == '\r'

def skipSpace (cs : List Char) : List Char := cs.dropWhile isJsonSpace

def hexDigit? (c : Char) : Option Nat :=
  if '0' ≤ c ∧ c ≤ '9' then some (c.toNat - '0'.toNat)
  else if 'a' ≤ c ∧ c ≤ 'f' then some (c.toNat - 'a'.toNat + 10)
  else if 'A' ≤ c ∧ c ≤ 'F' then some (c.toNat - 'A'.toNat + 10)
  else Option.none

/-- The number of four hexadecimal digits. -/
def unit? (digits : List Char) : Option Nat :=
  if digits.length = 4 then digits.foldlM (fun n c => (hexDigit? c).map (16 * n + ·)) 0 else Option.none

/-- The character of a unit, with the second half of a pair where one follows; a half alone is replaced. -/
def character (first : Nat) (rest : List Char) : Char × List Char :=
  if 0xD800 ≤ first ∧ first < 0xDC00 then
    match rest.take 2, unit? ((rest.drop 2).take 4) with
    | ['\\', 'u'], some second =>
      if 0xDC00 ≤ second ∧ second < 0xE000 then
        (Char.ofNat (0x10000 + (first - 0xD800) * 0x400 + (second - 0xDC00)), rest.drop 6)
      else ('\uFFFD', rest)
    | _, _ => ('\uFFFD', rest)
  else if 0xDC00 ≤ first ∧ first < 0xE000 then ('\uFFFD', rest)
  else (Char.ofNat first, rest)

/-- The character that a letter after a backslash stands for. -/
def escapedChar : Char → Char
  | 'n' => '\n'
  | 't' => '\t'
  | 'r' => '\r'
  | 'b' => '\x08'
  | 'f' => '\x0c'
  | c => c

/-- The text up to the closing quote; `done` holds what has been read, the last character first. -/
def readText : Nat → List Char → List Char → Option (String × List Char)
  | 0, _, _ => Option.none
  | _ + 1, done, '\x22' :: rest => some (String.ofList done.reverse, rest)
  | n + 1, done, '\\' :: 'u' :: rest => do
    let (c, rest) := character (← unit? (rest.take 4)) (rest.drop 4)
    readText n (c :: done) rest
  | n + 1, done, '\\' :: c :: rest => readText n (escapedChar c :: done) rest
  | n + 1, done, c :: rest => readText n (c :: done) rest
  | _ + 1, _, [] => Option.none

def isNumberChar (c : Char) : Bool := ('0' ≤ c && c ≤ '9') || ['-', '+', '.', 'e', 'E'].contains c

def number? (cs : List Char) : Option Record :=
  if cs.any (['.', 'e', 'E'].contains ·) then (Numeral.float? cs).map number else (Numeral.int? cs).map int

/-- A word or a number. -/
def readPlain (cs : List Char) : Option (Record × List Char) :=
  match Text.after? "true".toList cs, Text.after? "false".toList cs, Text.after? "null".toList cs with
  | some rest, _, _ => some (bool true, rest)
  | _, some rest, _ => some (bool false, rest)
  | _, _, some rest => some (Record.none, rest)
  | _, _, _ => (number? (cs.takeWhile isNumberChar)).map fun r => (r, cs.dropWhile isNumberChar)

/-! ### Values -/

mutual

/-- A value and what follows. -/
def readValue : Nat → List Char → Option (Record × List Char)
  | 0, _ => Option.none
  | n + 1, cs =>
    match skipSpace cs with
    | '\x22' :: rest => (readText (rest.length + 1) [] rest).map fun (s, rest) => (text s, rest)
    | '[' :: rest => readItems n [] (skipSpace rest)
    | '\x7b' :: rest => readFields n [] (skipSpace rest)
    | cs => readPlain cs

/-- The items up to the closing bracket. -/
def readItems : Nat → List Record → List Char → Option (Record × List Char)
  | 0, _, _ => Option.none
  | _ + 1, done, ']' :: rest => some (list done.reverse, rest)
  | n + 1, done, ',' :: rest => readItems n done (skipSpace rest)
  | n + 1, done, cs => do
    let (r, rest) ← readValue n cs
    readItems n (r :: done) (skipSpace rest)

/-- The fields up to the closing brace. -/
def readFields : Nat → Table String Record → List Char → Option (Record × List Char)
  | 0, _, _ => Option.none
  | _ + 1, done, '\x7d' :: rest => some (mapping done, rest)
  | n + 1, done, ',' :: rest => readFields n done (skipSpace rest)
  | n + 1, done, '\x22' :: rest => do
    let (key, rest) ← readText (rest.length + 1) [] rest
    let ':' :: rest := skipSpace rest | Option.none
    let (r, rest) ← readValue n rest
    readFields n (done.put key r) (skipSpace rest)
  | _ + 1, _, _ => Option.none

end

/-- The plain data that a JSON text begins with. -/
def ofJson? (s : String) : Option Record :=
  let cs := s.toList
  (readValue (2 * cs.length + 2) cs).map (·.1)

end Record
end RepoSurvey
