import RepoSurvey.Number.Rounding

/-!
# Doubles as exact numbers

* `Double.Parts`: a double taken apart into a sign, a natural number and a power of two.
* `Double.toRat?`: the exact value of a finite double.
* `Double.ofQuot n d`: the double nearest to `n / d`, a half to the even significand; too large gives infinity.
* `Double.ofRat`: the same with a sign.
-/

namespace RepoSurvey
namespace Double

/-- What a double stands for: `± m * 2 ^ e`, an infinity, or no number. -/
inductive Parts where
  | finite (negative : Bool) (m : Nat) (e : Int)
  | infinite (negative : Bool)
  | notANumber
  deriving Repr, DecidableEq

/-- The parts of a double, read off its 64 bits. -/
def parts (x : Float) : Parts :=
  let bits := x.toBits.toNat
  let negative : Bool := decide (pow2 63 ≤ bits)
  let exponent : Nat := bits / pow2 52 % pow2 11
  let fraction : Nat := bits % pow2 52
  if exponent = 2047 then
    if fraction = 0 then .infinite negative else .notANumber
  else if exponent = 0 then .finite negative fraction (-1074)
  else .finite negative (pow2 52 + fraction) ((exponent : Int) - 1075)

/-- `m * 2 ^ e` as a numerator and a denominator. -/
def scaled (m : Nat) (e : Int) : Nat × Nat :=
  if 0 ≤ e then (m * pow2 e.toNat, 1) else (m, pow2 (-e).toNat)

/-- The exact value of a finite double. -/
def toRat? (x : Float) : Option Rat :=
  match parts x with
  | .finite negative m e =>
    let (n, d) := scaled m e
    some (mkRat (if negative then -(n : Int) else n) d)
  | _ => none

/-- The bits of the double nearest to `n / d` for `0 < d`, without a sign. -/
def bitsOfQuot (n d : Nat) : Nat :=
  if n = 0 then 0 else
  let size : Int := (n.log2 : Int) - d.log2
  let at_ (e : Int) : Nat × Nat := if 0 ≤ e then (n, d * pow2 e.toNat) else (n * pow2 (-e).toNat, d)
  let high : Int := max (size - 52) (-1074)
  let (a, b) := at_ high
  let e : Int := if a / b < pow2 52 ∧ -1074 < high then high - 1 else high
  let (a, b) := at_ e
  let q := roundQuot a b
  if q < pow2 52 then q else min ((e + 1075).toNat * pow2 52 + (q - pow2 52)) (2047 * pow2 52)

/-- The double nearest to `n / d`. -/
def ofQuot (n d : Nat) : Float :=
  Float.ofBits (UInt64.ofNat (bitsOfQuot n d))

/-- The double nearest to a rational. -/
def ofRat (q : Rat) : Float :=
  if q.num < 0 then -(ofQuot q.num.natAbs q.den) else ofQuot q.num.natAbs q.den

def infinity : Float := Float.ofBits 0x7FF0000000000000

def notANumber : Float := Float.ofBits 0x7FF8000000000000

/-- The largest finite double. -/
def largest : Float := Float.ofBits 0x7FEFFFFFFFFFFFFF

end Double
end RepoSurvey
