import RepoSurvey.Number.Whole

/-!
# Rounding of quotients

* `roundQuot n d`: the natural number nearest to `n / d`; a half goes to the even neighbour.
* `Rat.nearest q`: the same for a rational of any sign.
* `Rat.roundPlaces k q`: the multiple of `10 ^ -k` nearest to `q`, a half to the even last digit.
-/

namespace RepoSurvey

/-- The natural number nearest to `n / d`; of two equally near ones the even one. -/
def roundQuot (n d : Nat) : Nat :=
  let q := n / d
  let r := n % d
  if 2 * r < d then q else if d < 2 * r then q + 1 else q + q % 2

namespace Rat

/-- The integer nearest to `q`; of two equally near ones the even one. -/
def nearest (q : Rat) : Int :=
  if q.num < 0 then -(roundQuot q.num.natAbs q.den : Int) else roundQuot q.num.natAbs q.den

/-- `q` rounded to `places` decimal places, a half to the even digit. -/
def roundPlaces (places : Nat) (q : Rat) : Rat :=
  mkRat (nearest (q * (pow10 places : Nat))) (pow10 places)

end Rat

/-! ### Facts about `roundQuot` -/

section

theorem roundQuot_exact (q d : Nat) (h : 0 < d) : roundQuot (q * d) d = q := by
  simp [roundQuot, Nat.mul_div_cancel _ h, h]

/-- The rounded quotient is within half a unit of the exact one. -/
theorem roundQuot_bounds (n d : Nat) (h : 0 < d) :
    2 * (roundQuot n d * d) ≤ 2 * n + d ∧ 2 * n ≤ 2 * (roundQuot n d * d) + d := by
  have key := Nat.div_add_mod n d
  have lt := Nat.mod_lt n h
  have comm : n / d * d = d * (n / d) := Nat.mul_comm _ _
  simp only [roundQuot]
  split
  · omega
  · split
    · rw [Nat.add_mul]; omega
    · rw [Nat.add_mul]
      rcases Nat.mod_two_eq_zero_or_one (n / d) with e | e <;> simp only [e] <;> omega

end

end RepoSurvey
