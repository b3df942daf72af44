import RepoSurvey.Number.Double

/-!
# Scalars

The measures of the library are computed with the operations of `Scalar`, so that one definition can be run on
doubles and read over exact rationals.

* `Scalar.ofRat`: the scalar nearest to a rational.
* `Scalar.toRat?`: the exact value, if the scalar is a finite number.
* `Scalar.roundPlaces`: correct rounding of the exact value to decimal places, a half to the even digit; over the
  rationals it is `Rat.roundPlaces`.
-/

namespace RepoSurvey

/-- Numbers that the measures can be computed with. -/
class Scalar (α : Type) extends Add α, Sub α, Mul α, Div α, Neg α where
  ofRat : Rat → α
  toRat? : α → Option Rat
  /-- Whether the scalar carries a minus sign. -/
  negative : α → Bool
  /-- The strict order, false on anything that is no number. -/
  lt : α → α → Bool
  /-- The weak order, false on anything that is no number. -/
  le : α → α → Bool
  /-- A finite stand-in: no number and minus infinity become zero, plus infinity the largest number. -/
  settle : α → α

instance : Scalar Float where
  ofRat := Double.ofRat
  toRat? := Double.toRat?
  negative x := decide (pow2 63 ≤ x.toBits.toNat)
  lt x y := decide (x < y)
  le x y := decide (x ≤ y)
  settle x := match Double.parts x with
    | .finite .. => x
    | .infinite false => Double.largest
    | _ => Double.ofRat 0

instance : Scalar Rat where
  ofRat := id
  toRat? := some
  negative q := decide (q < 0)
  lt x y := decide (x < y)
  le x y := decide (x ≤ y)
  settle := id

namespace Scalar

variable {α : Type} [Scalar α]

def ofInt (n : Int) : α := ofRat (n : Rat)

def ofNat (n : Nat) : α := ofInt (n : Int)

/-- The scalar nearest to the quotient of two integers. -/
def quot (n d : Int) : α := ofRat ((n : Rat) / (d : Rat))

def zero : α := ofRat 0

def one : α := ofRat 1

/-- Whether the scalar is a number, an infinity included. -/
def isNumber (x : α) : Bool := le x x

/-- The smaller of two scalars, the first one unless the second is less. -/
def smaller (x y : α) : α := if lt y x then y else x

/-- The larger of two scalars, the first one unless the second is greater. -/
def larger (x y : α) : α := if lt x y then y else x

/-- The magnitude of a scalar. -/
def magnitude (x : α) : α := if lt x zero then -x else x

/-- `x` kept between `low` and `high`. -/
def clamp (low high x : α) : α := smaller (larger x low) high

/-- Zero with the sign of `x`, where zeros have signs. -/
def zeroLike (x : α) : α := if negative x then -zero else zero

/-- `x` rounded to decimal places, a half to the even digit; zero keeps the sign and what is not finite stays. -/
def roundPlaces (places : Nat) (x : α) : α :=
  match toRat? x with
  | some q =>
    let r := Rat.roundPlaces places q
    if r = 0 then zeroLike x else ofRat r
  | none => x

/-- Rationals have one zero. -/
@[simp] theorem zeroLike_rat (q : Rat) : zeroLike q = 0 := by
  have one : (zero : Rat) = 0 := rfl
  rw [zeroLike, one]
  split <;> rfl

@[simp] theorem roundPlaces_rat (places : Nat) (q : Rat) : roundPlaces places q = Rat.roundPlaces places q := by
  have opened : roundPlaces places q =
      if Rat.roundPlaces places q = 0 then zeroLike q else Rat.roundPlaces places q := rfl
  rw [opened, zeroLike_rat]
  split
  · next h => exact h.symm
  · rfl

/-- The sum of a list from the left, starting at zero. -/
def sum (xs : List α) : α := xs.foldl (· + ·) zero

/-- The mean of a list that is not empty. -/
def mean (xs : List α) : α := sum xs / ofNat xs.length

end Scalar
end RepoSurvey
