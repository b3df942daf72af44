import Mathlib.Order.Interval.Set.Defs
import Mathlib.Tactic.Linarith
import RepoSurvey.Number.Rounding

/-!
# Nearest whole numbers

Rounding to a whole number, a half to the even one, told by the exact number alone.

* `IsNearest x k`: the natural number `k` is the one that `x` is rounded to.
* `IsNearest.mono`: what is not less is not rounded to less.
* `isNearest_roundQuot`, `isNearest_nearest`: the two rounding functions give it.
* `Rat.nearest_mono`, `Rat.roundPlaces_mono`: rounding of rationals of any sign keeps the order.
* `Rat.roundPlaces_natCast`, `Rat.roundPlaces_neg`: whole numbers and opposite numbers.
* `Rat.roundPlaces_mem_Icc`, `Rat.roundPlaces_one_sub`: shares, and the two parts of a whole.
-/

namespace RepoSurvey

/-- `k` is the natural number nearest to `x`; an odd one is nearer than all others. -/
structure IsNearest (x : Rat) (k : Nat) : Prop where
  upper : 2 * (k : Rat) ≤ 2 * x + 1
  lower : 2 * x ≤ 2 * (k : Rat) + 1
  odd : k % 2 = 1 → 2 * (k : Rat) < 2 * x + 1 ∧ 2 * x < 2 * (k : Rat) + 1

namespace IsNearest

variable {x y : Rat} {k l : Nat}

theorem of_natCast (k : Nat) : IsNearest k k :=
  ⟨by linarith, by linarith, fun _ => ⟨by linarith, by linarith⟩⟩

theorem mono (hxy : x ≤ y) (hk : IsNearest x k) (hl : IsNearest y l) : k ≤ l := by
  have hupper := hk.upper
  have hlower := hl.lower
  by_contra hless
  -- Both halves are met only by neighbours, and one of two neighbours is odd.
  have hnext : (l : Rat) + 1 ≤ k := by exact_mod_cast Nat.lt_of_not_le hless
  have hadjacent : k = l + 1 := by
    have hle : (k : Rat) ≤ l + 1 := by linarith
    have hle' : k ≤ l + 1 := by exact_mod_cast hle
    omega
  rcases Nat.mod_two_eq_zero_or_one k with heven | hodd
  · have h := (hl.odd (by omega)).2
    linarith
  · have h := (hk.odd hodd).1
    linarith

/-- A whole number that is not passed is not passed by the rounded number. -/
theorem le_of_le (hk : IsNearest x k) (h : x ≤ l) : k ≤ l :=
  hk.mono h (of_natCast l)

theorem ge_of_ge (hk : IsNearest x k) (h : (l : Rat) ≤ x) : l ≤ k :=
  (of_natCast l).mono h hk

theorem unique (hk : IsNearest x k) (hl : IsNearest x l) : k = l :=
  Nat.le_antisymm (hk.mono le_rfl hl) (hl.mono le_rfl hk)

/-- What a number lacks to an even one is rounded to what the rounded number lacks to it. -/
theorem even_sub {m : Nat} (hk : IsNearest x k) (h : k ≤ 2 * m) : IsNearest ((2 * m : Nat) - x) (2 * m - k) := by
  have hupper := hk.upper
  have hlower := hk.lower
  have hcast : ((2 * m - k : Nat) : Rat) = (2 * m : Nat) - k := Nat.cast_sub h
  refine ⟨?_, ?_, fun hodd => ?_⟩
  · linarith
  · linarith
  · obtain ⟨habove, hbelow⟩ := hk.odd (by omega)
    constructor <;> linarith

end IsNearest

/-! ### Rounded quotients -/

section

variable {n d : Nat}

/-- A rounded quotient that is odd is nearer than half a unit. -/
theorem roundQuot_odd (hd : 0 < d) (hodd : roundQuot n d % 2 = 1) :
    2 * (roundQuot n d * d) < 2 * n + d ∧ 2 * n < 2 * (roundQuot n d * d) + d := by
  have hdivision := Nat.div_add_mod n d
  have hremainder := Nat.mod_lt n hd
  have hcomm : n / d * d = d * (n / d) := Nat.mul_comm _ _
  by_cases hbelow : 2 * (n % d) < d
  · have hvalue : roundQuot n d = n / d := by
      simp only [roundQuot]
      rw [if_pos hbelow]
    rw [hvalue]
    omega
  · by_cases habove : d < 2 * (n % d)
    · have hvalue : roundQuot n d = n / d + 1 := by
        simp only [roundQuot]
        rw [if_neg hbelow, if_pos habove]
      rw [hvalue, Nat.add_mul]
      omega
    · have hvalue : roundQuot n d = n / d + n / d % 2 := by
        simp only [roundQuot]
        rw [if_neg hbelow, if_neg habove]
      omega

theorem isNearest_roundQuot (n : Nat) (hd : 0 < d) : IsNearest ((n : Rat) / d) (roundQuot n d) := by
  have hpos : (0 : Rat) < d := by exact_mod_cast hd
  obtain ⟨habove, hbelow⟩ := roundQuot_bounds n d hd
  have hupper : 2 * ((roundQuot n d : Rat) * d) ≤ 2 * n + d := by exact_mod_cast habove
  have hlower : 2 * (n : Rat) ≤ 2 * (roundQuot n d * d) + d := by exact_mod_cast hbelow
  have hscale : (n : Rat) / d * d = n := div_mul_cancel₀ _ (ne_of_gt hpos)
  refine ⟨?_, ?_, ?_⟩
  · refine le_of_mul_le_mul_right ?_ hpos
    linarith
  · refine le_of_mul_le_mul_right ?_ hpos
    linarith
  · intro hodd
    obtain ⟨habove, hbelow⟩ := roundQuot_odd hd hodd
    have habove' : 2 * ((roundQuot n d : Rat) * d) < 2 * n + d := by exact_mod_cast habove
    have hbelow' : 2 * (n : Rat) < 2 * (roundQuot n d * d) + d := by exact_mod_cast hbelow
    constructor
    · refine lt_of_mul_lt_mul_right ?_ hpos.le
      linarith
    · refine lt_of_mul_lt_mul_right ?_ hpos.le
      linarith

/-- A rational that is not negative is rounded to a natural number. -/
theorem isNearest_nearest {q : Rat} (hq : 0 ≤ q) : ∃ k : Nat, Rat.nearest q = k ∧ IsNearest q k := by
  have hnum : 0 ≤ q.num := Rat.num_nonneg.mpr hq
  refine ⟨roundQuot q.num.natAbs q.den, ?_, ?_⟩
  · rw [Rat.nearest, if_neg (not_lt.mpr hnum)]
  · have hvalue : ((q.num.natAbs : Nat) : Rat) / q.den = q := by
      have hcast : ((q.num.natAbs : Nat) : Rat) = q.num := by
        rw [← Int.cast_natCast, Int.natAbs_of_nonneg hnum]
      rw [hcast, Rat.num_div_den]
    have h := isNearest_roundQuot q.num.natAbs q.den_pos
    rwa [hvalue] at h

end

/-! ### Numbers of any sign -/

namespace Rat

variable {q r : Rat}

theorem nearest_nonneg (h : 0 ≤ q) : 0 ≤ nearest q := by
  obtain ⟨k, hk, -⟩ := isNearest_nearest h
  rw [hk]
  exact Int.natCast_nonneg k

/-- Opposite numbers are rounded to opposite ones. -/
theorem nearest_neg (q : Rat) : nearest (-q) = -nearest q := by
  rcases eq_or_ne q 0 with rfl | hne
  · rfl
  · have hnum : q.num ≠ 0 := Rat.num_ne_zero.mpr hne
    rw [nearest, nearest, Rat.num_neg_eq_neg_num, Rat.den_neg_eq_den, Int.natAbs_neg]
    rcases Int.lt_or_gt_of_ne hnum with hlt | hgt
    · rw [if_pos hlt, if_neg (by omega), Int.neg_neg]
    · rw [if_pos (by omega), if_neg (by omega)]

theorem nearest_mono (h : q ≤ r) : nearest q ≤ nearest r := by
  rcases le_or_gt 0 q with hq | hq
  · obtain ⟨k, hk, hnear⟩ := isNearest_nearest hq
    obtain ⟨l, hl, hnear'⟩ := isNearest_nearest (hq.trans h)
    have hkl := hnear.mono h hnear'
    omega
  · have hminus := nearest_nonneg (neg_nonneg.mpr hq.le)
    rw [nearest_neg] at hminus
    rcases le_or_gt 0 r with hr | hr
    · have hplus := nearest_nonneg hr
      omega
    · -- Below zero the order is that of the opposite numbers, the other way round.
      obtain ⟨k, hk, hnear⟩ := isNearest_nearest (neg_nonneg.mpr hr.le)
      obtain ⟨l, hl, hnear'⟩ := isNearest_nearest (neg_nonneg.mpr hq.le)
      have hkl := hnear.mono (neg_le_neg h) hnear'
      rw [nearest_neg] at hk hl
      omega

/-- The scale of decimal places. -/
theorem scale_pos (places : Nat) : (0 : Rat) < (pow10 places : Nat) :=
  Nat.cast_pos.mpr (Nat.pow_pos (Nat.succ_pos 9))

theorem roundPlaces_mono (places : Nat) (h : q ≤ r) : roundPlaces places q ≤ roundPlaces places r := by
  have hscale := scale_pos places
  rw [roundPlaces, roundPlaces, Rat.mkRat_eq_div, Rat.mkRat_eq_div]
  refine div_le_div_of_nonneg_right ?_ hscale.le
  exact Int.cast_le.mpr (nearest_mono (mul_le_mul_of_nonneg_right h hscale.le))

theorem roundPlaces_natCast (places n : Nat) : roundPlaces places n = n := by
  have hwhole : nearest ((n * pow10 places : Nat) : Rat) = (n * pow10 places : Nat) := by
    have hnum : ¬ ((n * pow10 places : Nat) : Int) < 0 := by omega
    have hround := roundQuot_exact (n * pow10 places) 1 Nat.one_pos
    rw [Nat.mul_one] at hround
    rw [nearest, Rat.num_natCast, Rat.den_natCast, if_neg hnum, Int.natAbs_natCast, hround]
  rw [roundPlaces, ← Nat.cast_mul, hwhole, Rat.mkRat_eq_div, Int.cast_natCast, Nat.cast_mul]
  exact mul_div_cancel_right₀ _ (scale_pos places).ne'

/-- A whole number that is not passed is not passed by the number rounded to decimal places. -/
theorem roundPlaces_le (places : Nat) {k : Nat} (h : q ≤ k) : roundPlaces places q ≤ k :=
  (roundPlaces_mono places h).trans_eq (roundPlaces_natCast places k)

theorem roundPlaces_zero (places : Nat) : roundPlaces places 0 = 0 := by
  exact_mod_cast roundPlaces_natCast places 0

theorem roundPlaces_nonneg (places : Nat) (h : 0 ≤ q) : 0 ≤ roundPlaces places q :=
  (roundPlaces_zero places).symm.trans_le (roundPlaces_mono places h)

/-- What is a share is one when it is rounded. -/
theorem roundPlaces_mem_Icc (places : Nat) (h : q ∈ Set.Icc 0 1) : roundPlaces places q ∈ Set.Icc 0 1 :=
  ⟨roundPlaces_nonneg places h.1, by exact_mod_cast roundPlaces_le places (k := 1) (by exact_mod_cast h.2)⟩

theorem roundPlaces_neg (places : Nat) (q : Rat) : roundPlaces places (-q) = -roundPlaces places q := by
  rw [roundPlaces, roundPlaces, neg_mul, nearest_neg, Rat.neg_mkRat]

/-- The two parts of a whole are rounded to two parts of it: the scale of decimal places is even, so that both ties go
the same way. -/
theorem roundPlaces_one_sub {places : Nat} (hplaces : 0 < places) (h : 0 ≤ q) (h' : q ≤ 1) :
    roundPlaces places (1 - q) = 1 - roundPlaces places q := by
  have hscale := scale_pos places
  obtain ⟨m, hm⟩ : ∃ m, pow10 places = 2 * m := by
    obtain ⟨n, rfl⟩ := Nat.exists_eq_add_of_lt hplaces
    refine ⟨5 * pow10 n, ?_⟩
    rw [Nat.zero_add, ← Nat.mul_assoc, Nat.mul_comm]
    rfl
  obtain ⟨k, hk, hnearest⟩ := isNearest_nearest (mul_nonneg h hscale.le)
  obtain ⟨l, hl, hrest⟩ := isNearest_nearest (mul_nonneg (sub_nonneg.mpr h') hscale.le)
  rw [hm] at hnearest hrest hk hl hscale
  have hle : k ≤ 2 * m := hnearest.le_of_le (mul_le_of_le_one_left hscale.le h')
  rw [sub_mul, one_mul] at hrest
  obtain rfl := hrest.unique (hnearest.even_sub hle)
  rw [roundPlaces, roundPlaces, hm, hk, hl, Rat.mkRat_eq_div, Rat.mkRat_eq_div, Int.cast_natCast, Int.cast_natCast,
    Nat.cast_sub hle, sub_div, div_self hscale.ne']

end Rat

end RepoSurvey
