import RepoSurvey.Number.Double
import RepoSurvey.Text.Character

/-!
# Numerals

Whole numbers and decimal numbers as people write them into settings: white space around a number does not count, but
for the information separators; digits of every script are read, and single underscores may stand between digits.

* `Numeral.int?`: a whole number with an optional sign.
* `Numeral.excessDigits?`: the number of digits, where they are more than a setting may have.
* `Numeral.ofDigits`: the number that bare digits write, with the same limit.
* `Numeral.float?`: a decimal number with an optional fraction and exponent, an infinity, or `nan`; the nearest double.
-/

namespace RepoSurvey
namespace Numeral

/-- The digits that go on after a digit, single underscores between them skipped, and the rest. `gap` tells whether
an underscore has just been passed; without a digit after it, it belongs to the rest. -/
def moreDigits (gap : Bool) : List Char → List Nat × List Char
  | [] => ([], if gap then ['_'] else [])
  | c :: rest =>
    match Text.digitValue? c with
    | some v =>
      let (ds, left) := moreDigits false rest
      (v :: ds, left)
    | none =>
      if gap then ([], '_' :: c :: rest)
      else if c = '_' then moreDigits true rest
      else ([], c :: rest)

/-- The digits at the beginning of a text, and the rest. -/
def digits : List Char → List Nat × List Char
  | [] => ([], [])
  | c :: rest =>
    match Text.digitValue? c with
    | some v =>
      let (ds, left) := moreDigits false rest
      (v :: ds, left)
    | none => ([], c :: rest)

/-- The number that digits write. -/
def value (ds : List Nat) : Nat := ds.foldl (fun n d => 10 * n + d) 0

/-- Whether a minus sign stands in front, and what follows the sign. -/
def sign : List Char → Bool × List Char
  | '-' :: rest => (true, rest)
  | '+' :: rest => (false, rest)
  | s => (false, s)

/-- Characters that may stand around a number. -/
def isPadding (c : Char) : Bool := Text.isBlank c && !(28 ≤ c.toNat && c.toNat ≤ 31)

/-- The greatest number of digits that a whole number may be written with. -/
def digitLimit : Nat := 4300

/-- The message about a whole number of too many digits. -/
def limitMessage (count : Nat) : String :=
  "Exceeds the limit (" ++ toString digitLimit ++ " digits) for integer string conversion: value has " ++
    toString count ++ " digits; use sys.set_int_max_str_digits() to increase the limit"

/-- The number of digits at the beginning of a text, if they are too many for a whole number. An underscore after them
that belongs to no digit makes the text no number at all. -/
def excessDigits? (s : List Char) : Option Nat :=
  let (ds, left) := digits (sign (Text.trim isPadding s)).2
  if digitLimit < ds.length ∧ left.head? ≠ some '_' then some ds.length else none

/-- More digits than a whole number may be written with. -/
structure ExcessDigits where
  count : Nat
  deriving Repr, DecidableEq

def ExcessDigits.message (e : ExcessDigits) : String := limitMessage e.count

/-- The number that bare digits write. -/
def ofDigits (digits : List Char) : Except ExcessDigits Nat :=
  if digitLimit < digits.length then .error ⟨digits.length⟩ else .ok (Text.numberOf digits)

/-- A whole number. -/
def int? (s : List Char) : Option Int :=
  let (negative, s) := sign (Text.trim isPadding s)
  match digits s with
  | ([], _) => none
  | (ds, []) => some (if negative then -(value ds : Int) else value ds)
  | _ => none

/-- The double nearest to `n * 10 ^ e`. -/
def scaleTen (n : Nat) (e : Int) : Float :=
  let size := (Nat.toDigits 10 n).length
  if n = 0 ∨ (size : Int) + e < -400 then Double.ofQuot 0 1
  else if 400 < (size : Int) + e then Double.infinity
  else if 0 ≤ e then Double.ofQuot (n * pow10 e.toNat) 1
  else Double.ofQuot n (pow10 (-e).toNat)

/-- A fraction after a point. -/
def fraction : List Char → List Nat × List Char
  | '.' :: rest => digits rest
  | s => ([], s)

/-- An exponent, which may be missing. -/
def exponent? : List Char → Option Int
  | [] => some 0
  | c :: rest =>
    if c = 'e' ∨ c = 'E' then
      let (negative, s) := sign rest
      match digits s with
      | ([], _) => none
      | (ds, []) => some (if negative then -(value ds : Int) else value ds)
      | _ => none
    else none

/-- A decimal number without a sign. -/
def unsigned? (s : List Char) : Option Float :=
  let word := String.ofList (s.map Char.toLower)
  if word = "inf" ∨ word = "infinity" then some Double.infinity
  else if word = "nan" then some Double.notANumber
  else
    let (whole, s) := digits s
    let (part, s) := fraction s
    let ds := whole ++ part
    if ds.isEmpty then none
    else (exponent? s).map fun e => scaleTen (value ds) (e - part.length)

/-- A decimal number. -/
def float? (s : List Char) : Option Float :=
  let (negative, s) := sign (Text.trim isPadding s)
  (unsigned? s).map fun x => if negative then -x else x

end Numeral
end RepoSurvey
