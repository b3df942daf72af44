import Mathlib.Tactic.Linarith
import Mathlib.Tactic.NormNum
import Mathlib.Algebra.Order.Field.Power
import RepoSurvey.Proofs.Number.DoublePlace
import RepoSurvey.Proofs.Number.Nearest

/-!
# Rounding to the places of doubles

Which place a number that is not negative is rounded to, told by the exact number alone: it is measured in the unit of
the doubles around it, and the number of units is rounded to a whole one, a half to the even one.

* `IsUnitAt v e`: the doubles around `v` have the unit `2 ^ e`.
* `IsPlaceOf v p`: `p` is the place that `v` is rounded to, that of infinity for all too great numbers.
* `IsPlaceOf.mono`: a number that is not less is not rounded to a lower place.
* `placed p`: the number at a place; it is rounded to that place.
* `placed_of_units`: the number at a place that is told by its units.
* `IsPlaceOf.error_le`, `IsPlaceOf.placed_le`: how far a number is moved, at most.
-/

namespace RepoSurvey
namespace Double

variable {v w : Rat} {e f : Int} {p q : Nat}

/-! ### Units -/

section Units

/-- The doubles around `v` are multiples of `2 ^ e` with 53 bits, or with fewer where the unit is the least one. -/
structure IsUnitAt (v : Rat) (e : Int) : Prop where
  least : -1074 ≤ e
  above : v < 2 ^ (e + 53)
  below : -1074 < e → 2 ^ (e + 52) ≤ v

theorem two_zpow_pos (e : Int) : (0 : Rat) < 2 ^ e := zpow_pos (by norm_num) e

theorem two_zpow_add (e f : Int) : (2 : Rat) ^ (e + f) = 2 ^ e * 2 ^ f := zpow_add₀ (by norm_num) e f

theorem two_zpow_natCast (n : Nat) : (2 : Rat) ^ (n : Int) = ((2 ^ n : Nat) : Rat) := by
  rw [zpow_natCast, Nat.cast_pow, Nat.cast_ofNat]

theorem two_zpow_mono (h : e ≤ f) : (2 : Rat) ^ e ≤ 2 ^ f := zpow_le_zpow_right₀ (by norm_num) h

namespace IsUnitAt

/-- A greater number does not have a smaller unit. -/
theorem mono (h : v ≤ w) (he : IsUnitAt v e) (hf : IsUnitAt w f) : e ≤ f := by
  by_contra hless
  have hleast := hf.least
  have hbelow := he.below (by omega)
  have habove := hf.above
  have hpowers : (2 : Rat) ^ (f + 53) ≤ 2 ^ (e + 52) := two_zpow_mono (by omega)
  linarith

/-- There are at most 53 bits of units. -/
theorem units_lt (h : IsUnitAt v e) : v / 2 ^ e < ((2 ^ 53 : Nat) : Rat) := by
  rw [div_lt_iff₀ (two_zpow_pos e), ← two_zpow_natCast, ← two_zpow_add, add_comm]
  exact h.above

theorem le_units (h : IsUnitAt v e) (he : -1074 < e) : ((2 ^ 52 : Nat) : Rat) ≤ v / 2 ^ e := by
  rw [le_div_iff₀ (two_zpow_pos e), ← two_zpow_natCast, ← two_zpow_add, add_comm]
  exact h.below he

end IsUnitAt

end Units

/-! ### Places -/

section Places

/-- The place that a number is rounded to. -/
def IsPlaceOf (v : Rat) (p : Nat) : Prop :=
  ∃ e k, IsUnitAt v e ∧ IsNearest (v / 2 ^ e) k ∧ p = min ((e + 1074).toNat * 2 ^ 52 + k) infinitePlace

namespace IsPlaceOf

theorem le_infinitePlace (h : IsPlaceOf v p) : p ≤ infinitePlace := by
  obtain ⟨e, k, -, -, rfl⟩ := h
  exact Nat.min_le_right _ _

theorem mono (h : v ≤ w) (hp : IsPlaceOf v p) (hq : IsPlaceOf w q) : p ≤ q := by
  obtain ⟨e, k, hunit, hnear, rfl⟩ := hp
  obtain ⟨f, l, hunit', hnear', rfl⟩ := hq
  refine min_le_min_right infinitePlace ?_
  have hleast := hunit.least
  rcases (hunit.mono h hunit').lt_or_eq with hlt | rfl
  · -- The units of the lower number end where those of the greater one begin.
    have hk : k ≤ 2 ^ 53 := hnear.le_of_le hunit.units_lt.le
    have hl : 2 ^ 52 ≤ l := hnear'.ge_of_ge (hunit'.le_units (by omega))
    omega
  · have hquot : v / 2 ^ e ≤ w / 2 ^ e := div_le_div_of_nonneg_right h (two_zpow_pos e).le
    exact Nat.add_le_add_left (hnear.mono hquot hnear') _

theorem unique (hp : IsPlaceOf v p) (hq : IsPlaceOf v q) : p = q :=
  Nat.le_antisymm (hp.mono le_rfl hq) (hq.mono le_rfl hp)

end IsPlaceOf

end Places

/-! ### Numbers at places -/

section Placed

/-- The number at a place; at that of infinity the next power of two. -/
def placed (p : Nat) : Rat := significand p * 2 ^ unit p

theorem placed_zero : placed 0 = 0 := by
  have hnone : significand 0 = 0 := rfl
  rw [placed, hnone, Nat.cast_zero, zero_mul]

theorem placed_nonneg (p : Nat) : 0 ≤ placed p :=
  mul_nonneg (Nat.cast_nonneg _) (two_zpow_pos _).le

theorem placed_div_unit (p : Nat) : placed p / 2 ^ unit p = (significand p : Rat) :=
  mul_div_cancel_right₀ _ (two_zpow_pos _).ne'

theorem isUnitAt_placed (p : Nat) : IsUnitAt (placed p) (unit p) := by
  refine ⟨unit_ge, ?_, ?_⟩
  · have hlt : (significand p : Rat) < ((2 ^ 53 : Nat) : Rat) := by exact_mod_cast significand_lt
    rw [add_comm, two_zpow_add, ← Nat.cast_ofNat (n := 53), two_zpow_natCast, placed]
    exact mul_lt_mul_of_pos_right hlt (two_zpow_pos _)
  · intro hunit
    have hle : 2 ^ 52 ≤ significand p := le_significand_or_unit.resolve_right (by omega)
    have hle' : ((2 ^ 52 : Nat) : Rat) ≤ significand p := by exact_mod_cast hle
    rw [add_comm, two_zpow_add, ← Nat.cast_ofNat (n := 52), two_zpow_natCast, placed]
    exact mul_le_mul_of_nonneg_right hle' (two_zpow_pos _).le

/-- The number at a place is not moved. -/
theorem isPlaceOf_placed (h : p ≤ infinitePlace) : IsPlaceOf (placed p) p := by
  refine ⟨unit p, significand p, isUnitAt_placed p, ?_, ?_⟩
  · rw [placed_div_unit]
    exact .of_natCast _
  · rw [place_of_unit, Nat.min_eq_left h]

theorem placed_mono (h : p ≤ q) (hq : q ≤ infinitePlace) : placed p ≤ placed q := by
  by_contra hless
  have hback := (isPlaceOf_placed hq).mono (not_le.mp hless).le (isPlaceOf_placed (h.trans hq))
  have hsame : p = q := Nat.le_antisymm h hback
  rw [hsame] at hless
  exact hless le_rfl

end Placed

/-! ### Errors -/

section Errors

variable {k : Nat} {t : Int}

/-- The number at the place of some units, of a full row of them too. -/
theorem placed_of_units (he : -1074 ≤ e) (hk : k ≤ 2 ^ 53) (hbelow : -1074 < e → 2 ^ 52 ≤ k) :
    placed ((e + 1074).toNat * 2 ^ 52 + k) = k * 2 ^ e := by
  generalize hp : (e + 1074).toNat * 2 ^ 52 + k = p
  rcases Nat.lt_or_eq_of_le hk with hlt | rfl
  · have hunit : unit p = e := by
      rw [unit, field]
      omega
    have hsignificand : significand p = k := by
      rw [significand, field]
      omega
    rw [placed, hunit, hsignificand]
  · -- A full row of units is half a row of the next ones.
    have hunit : unit p = e + 1 := by
      rw [unit, field]
      omega
    have hsignificand : significand p = 2 ^ 52 := by
      rw [significand, field]
      omega
    rw [placed, hunit, hsignificand, two_zpow_add]
    push_cast
    ring

/-- A result below a power of two is finite and at most half a unit away. -/
theorem IsPlaceOf.error_le (h : IsPlaceOf v p) (hv : v < 2 ^ (t + 53)) (hleast : -1074 ≤ t) (hgreatest : t ≤ 970) :
    p < infinitePlace ∧ |placed p - v| ≤ 2 ^ (t - 1) := by
  obtain ⟨e, k, hunit, hnearest, rfl⟩ := h
  have het : e ≤ t := by
    by_contra hgreater
    have hbelow := hunit.below (by omega)
    have hpowers : (2 : Rat) ^ (t + 53) ≤ 2 ^ (e + 52) := two_zpow_mono (by omega)
    linarith
  have hk := hnearest.le_of_le hunit.units_lt.le
  have hplace : (e + 1074).toNat * 2 ^ 52 + k < infinitePlace := by
    rw [infinitePlace]
    omega
  have hplaced := placed_of_units hunit.least hk fun hlt => hnearest.ge_of_ge (hunit.le_units hlt)
  have hnear : |(k : Rat) - v / 2 ^ e| ≤ 1 / 2 := by
    have hupper := hnearest.upper
    have hlower := hnearest.lower
    rw [abs_le]
    constructor <;> linarith
  rw [Nat.min_eq_left hplace.le, hplaced]
  refine ⟨hplace, ?_⟩
  calc |(k : Rat) * 2 ^ e - v| = |(k - v / 2 ^ e) * 2 ^ e| := by
        rw [sub_mul, div_mul_cancel₀ _ (two_zpow_pos e).ne']
    _ = |(k : Rat) - v / 2 ^ e| * 2 ^ e := by rw [abs_mul, abs_of_pos (two_zpow_pos e)]
    _ ≤ 1 / 2 * 2 ^ t := mul_le_mul hnear (two_zpow_mono het) (two_zpow_pos e).le (by norm_num)
    _ = 2 ^ (t - 1) := by
        rw [sub_eq_add_neg, two_zpow_add, zpow_neg_one]
        ring

/-- Rounding does not more than double a number. -/
theorem IsPlaceOf.placed_le (h : IsPlaceOf v p) (hp : p < infinitePlace) (hv : 0 ≤ v) : placed p ≤ 2 * v := by
  obtain ⟨e, k, hunit, hnearest, rfl⟩ := h
  have hfits := hnearest.le_of_le hunit.units_lt.le
  have hleast := hunit.least
  have hvalue := placed_of_units hunit.least hfits fun hlt => hnearest.ge_of_ge (hunit.le_units hlt)
  rw [Nat.min_eq_left (by omega), hvalue]
  have hunits : (k : Rat) ≤ 2 * (v / 2 ^ e) := by
    rcases Nat.eq_zero_or_pos k with rfl | hpos
    · rw [Nat.cast_zero]
      exact mul_nonneg (by norm_num) (div_nonneg hv (two_zpow_pos e).le)
    · have hone : (1 : Rat) ≤ k := by exact_mod_cast hpos
      have hupper := hnearest.upper
      linarith
  calc (k : Rat) * 2 ^ e ≤ 2 * (v / 2 ^ e) * 2 ^ e := mul_le_mul_of_nonneg_right hunits (two_zpow_pos e).le
    _ = 2 * v := by rw [mul_assoc, div_mul_cancel₀ _ (two_zpow_pos e).ne']

end Errors

end Double
end RepoSurvey
