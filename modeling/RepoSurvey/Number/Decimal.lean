import RepoSurvey.Number.Scalar

/-!
# Decimal texts

* `Decimal.shortest`: the fewest significant digits that read back as the same double, the nearest of those.
* `Decimal.significant`: a number rounded to a given count of significant digits.
* `Decimal.Layout`: where positional notation ends and whether a whole number keeps its point.
* `Decimal.fixed`: a number with a fixed count of decimal places.
-/

namespace RepoSurvey

/-- The number `digits * 10 ^ exponent`. -/
structure Decimal where
  digits : Nat
  exponent : Int
  deriving Repr, DecidableEq

namespace Decimal

/-! ### Digits -/

def digitChars (n : Nat) : List Char := Nat.toDigits 10 n

/-- The same number without trailing zeros in its digits. -/
def trim (d : Decimal) : Decimal :=
  let zeros := ((digitChars d.digits).reverse.takeWhile (· == '0')).length
  if d.digits = 0 then ⟨0, 0⟩ else ⟨d.digits / pow10 zeros, d.exponent + zeros⟩

/-- The `p` with `10 ^ (p - 1) ≤ a / b < 10 ^ p`, for a quotient from the range of doubles. -/
def magnitude (a b : Nat) : Int :=
  if b ≤ a then (digitChars (a / b)).length
  else match (List.range 400).find? fun k => b ≤ a * pow10 k with
    | some k => 1 - (k : Int)
    | none => 0

/-- `10 ^ e` as a numerator and a denominator. -/
def tenPower (e : Int) : Nat × Nat :=
  if 0 ≤ e then (pow10 e.toNat, 1) else (1, pow10 (-e).toNat)

/-- The numbers that round to `m * 2 ^ e`, in units of `2 ^ (e - 2)`, and whether the ends belong to them. -/
def interval (m : Nat) (e : Int) : Nat × Nat × Bool :=
  (4 * m - (if m = pow2 52 ∧ -1074 < e then 1 else 2), 4 * m + 2, m % 2 == 0)

/-- The neighbour of `m * 2 ^ e` on the grid of `10 ^ g` that rounds to it, the nearer of two. -/
def onGrid? (m : Nat) (e g : Int) : Option Nat :=
  let (low, high, closed) := interval m e
  let (un, ud) := Double.scaled 1 (e - 2)
  let (gn, gd) := tenPower g
  let floor := 4 * m * un * gd / (ud * gn)
  let hits (c : Nat) : Bool :=
    let x := c * gn * ud
    let l := low * un * gd
    let h := high * un * gd
    if closed then l ≤ x && x ≤ h else l < x && x < h
  match hits floor, hits (floor + 1) with
  | true, true =>
    let twice := 2 * (4 * m * un * gd)
    let middle := (2 * floor + 1) * (gn * ud)
    if twice < middle then some floor
    else if middle < twice then some (floor + 1)
    else some (floor + floor % 2)
  | true, false => some floor
  | false, true => some (floor + 1)
  | false, false => none

/-- The shortest decimal that reads back as the double `m * 2 ^ e`. -/
def shortest (m : Nat) (e : Int) : Decimal :=
  let (a, b) := Double.scaled m e
  let p := magnitude a b
  let found := (List.range 17).findSome? fun i =>
    let g := p - ((i + 1 : Nat) : Int)
    (onGrid? m e g).map fun c => (⟨c, g⟩ : Decimal)
  (found.getD ⟨0, 0⟩).trim

/-- `a / b` rounded to `count` significant digits. -/
def significant (count a b : Nat) : Decimal :=
  if a = 0 then ⟨0, 0⟩ else
  let g := magnitude a b - (count : Int)
  let (gn, gd) := tenPower g
  trim ⟨roundQuot (a * gd) (b * gn), g⟩

/-! ### Texts -/

/-- How a decimal is written. -/
structure Layout where
  /-- Numbers from this power of ten on are written with an exponent. -/
  positionalBelow : Int
  /-- Numbers below this power of ten are written with an exponent. -/
  positionalFrom : Int
  /-- Whether a whole number ends in a point and a zero. -/
  keepPoint : Bool

/-- Every double reads back from its text; positional from `1e-4` up to `1e16`. -/
def Layout.plain : Layout := ⟨16, -4, true⟩

/-- Six significant digits, without a trailing point. -/
def Layout.general : Layout := ⟨6, -4, false⟩

/-- An exponent with its sign and at least two digits. -/
def exponentChars (e : Int) : List Char :=
  let digits := digitChars e.natAbs
  'e' :: (if e < 0 then '-' else '+') :: (if digits.length < 2 then '0' :: digits else digits)

/-- The text of a number without its sign. -/
def write (layout : Layout) (d : Decimal) : List Char :=
  let digits := digitChars d.digits
  let lead : Int := if d.digits = 0 then 0 else d.exponent + (digits.length : Int) - 1
  if layout.positionalFrom ≤ lead ∧ lead < layout.positionalBelow then
    if 0 ≤ d.exponent then
      digits ++ List.replicate d.exponent.toNat '0' ++ (if layout.keepPoint then ['.', '0'] else [])
    else
      let places := (-d.exponent).toNat
      let padded := List.replicate (places + 1 - digits.length) '0' ++ digits
      padded.take (padded.length - places) ++ '.' :: padded.drop (padded.length - places)
  else match digits with
    | [] => []
    | [c] => c :: exponentChars lead
    | c :: rest => c :: '.' :: rest ++ exponentChars lead

section

variable {α : Type} [Scalar α]

/-- The text of a number that `finite` writes when it is one, with the sign in front. -/
def withSign (finite : Rat → List Char) (x : α) : String :=
  let body := match Scalar.toRat? x with
    | some q => finite q
    | none => "inf".toList
  if Scalar.isNumber x then String.ofList (if Scalar.negative x then '-' :: body else body) else "nan"

/-- The number with `places` decimal places, a half to the even digit. -/
def fixed (places : Nat) (x : α) : String :=
  withSign (fun q =>
    let digits := digitChars (roundQuot (q.num.natAbs * pow10 places) q.den)
    let padded := List.replicate (places + 1 - digits.length) '0' ++ digits
    let whole := padded.take (padded.length - places)
    if places = 0 then whole else whole ++ '.' :: padded.drop (padded.length - places)) x

/-- The number with at most six significant digits. -/
def general (x : α) : String :=
  withSign (fun q => write .general (significant 6 q.num.natAbs q.den)) x

end

/-- The shortest text from which a double reads back. -/
def plain (x : Float) : String :=
  match Double.parts x with
  | .finite negative m e =>
    let body := write .plain (if m = 0 then ⟨0, 0⟩ else shortest m e)
    String.ofList (if negative then '-' :: body else body)
  | .infinite negative => if negative then "-inf" else "inf"
  | .notANumber => "nan"

end Decimal
end RepoSurvey
