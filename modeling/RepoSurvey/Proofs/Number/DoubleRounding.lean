import RepoSurvey.Proofs.Number.DoubleValue

/-!
# Rounding of doubles

The arithmetic of doubles cuts an exact result down to 53 bits, with two more bits that tell what was cut off. The
place that it ends at is the one that the exact result is rounded to.

* `Tells`: what an extended mantissa says about the number that it was cut down from.
* `isPlaceOf_roundTold`: the rounding of a number that is told by its leading bits and what they leave.
* `isPlaceOf_roundWithAccuracy`, `isPlaceOf_round`: the rounding of a finite number.
-/

namespace RepoSurvey
namespace Double

open Float.Model Float.Model.UnpackedFloat

/-! ### Cutting down -/

section Cutting

/-- What an extended mantissa says about the number that it was cut down from. -/
def Tells : ExtendedMantissa → Rat → Prop
  | ⟨m, false, false⟩, x => x = m
  | ⟨m, false, true⟩, x => (m : Rat) < x ∧ 2 * x < 2 * m + 1
  | ⟨m, true, false⟩, x => 2 * x = 2 * m + 1
  | ⟨m, true, true⟩, x => 2 * (m : Rat) + 1 < 2 * x ∧ x < m + 1

variable {em : ExtendedMantissa} {x : Rat}

theorem Tells.shiftRightOne (h : Tells em x) : Tells em.shiftRightOne (x / 2) := by
  rcases em with ⟨m, roundBit, stickyBit⟩
  have hdivision : 2 * ((m / 2 : Nat) : Rat) + (m % 2 : Nat) = m := by exact_mod_cast Nat.div_add_mod m 2
  rcases Nat.mod_two_eq_zero_or_one m with hlast | hlast
  · have hnext : (ExtendedMantissa.mk m roundBit stickyBit).shiftRightOne = ⟨m / 2, false, roundBit || stickyBit⟩ := by
      simp [ExtendedMantissa.shiftRightOne, hlast]
    rw [hlast, Nat.cast_zero, add_zero] at hdivision
    rw [hnext]
    cases roundBit <;> cases stickyBit <;> simp only [Tells, Bool.or_false, Bool.or_true] at h ⊢
    · linarith
    · constructor <;> linarith
    · constructor <;> linarith
    · constructor <;> linarith
  · have hnext : (ExtendedMantissa.mk m roundBit stickyBit).shiftRightOne = ⟨m / 2, true, roundBit || stickyBit⟩ := by
      simp [ExtendedMantissa.shiftRightOne, hlast]
    rw [hlast, Nat.cast_one] at hdivision
    rw [hnext]
    cases roundBit <;> cases stickyBit <;> simp only [Tells, Bool.or_false, Bool.or_true] at h ⊢
    · linarith
    · constructor <;> linarith
    · constructor <;> linarith
    · constructor <;> linarith

theorem Tells.shiftRight (h : Tells em x) (n : Nat) : Tells (em >>> n) (x / 2 ^ n) := by
  induction n with
  | zero =>
    rw [pow_zero, div_one]
    exact h
  | succ n ih =>
    rw [pow_succ, ← div_div]
    exact ih.shiftRightOne

/-- The two bits suffice to round. -/
theorem Tells.isNearest (h : Tells em x) : IsNearest x em.roundedMantissa := by
  rcases em with ⟨m, ⟨⟩ | ⟨⟩, ⟨⟩ | ⟨⟩⟩ <;> simp only [Tells] at h
  · subst h
    exact .of_natCast m
  · obtain ⟨habove, hbelow⟩ := h
    have hrounded : (ExtendedMantissa.mk m false true).roundedMantissa = m := rfl
    rw [hrounded]
    exact ⟨by linarith, by linarith, fun _ => ⟨by linarith, by linarith⟩⟩
  · have hrounded : (ExtendedMantissa.mk m true false).roundedMantissa = m + m % 2 := rfl
    rw [hrounded]
    rcases Nat.mod_two_eq_zero_or_one m with hlast | hlast
    · rw [hlast, Nat.add_zero]
      exact ⟨by linarith, by linarith, fun hodd => absurd hodd (by omega)⟩
    · rw [hlast]
      exact ⟨by push_cast; linarith, by push_cast; linarith, fun hodd => absurd hodd (by omega)⟩
  · obtain ⟨habove, hbelow⟩ := h
    have hrounded : (ExtendedMantissa.mk m true true).roundedMantissa = m + 1 := rfl
    rw [hrounded]
    exact ⟨by push_cast; linarith, by push_cast; linarith,
      fun _ => ⟨by push_cast; linarith, by push_cast; linarith⟩⟩

end Cutting

/-! ### Rounding -/

section Rounding

variable {s : Sign} {m : Nat} {e : Int}

/-- The exponent of the unit that a finite number is rounded to. -/
def unitOf (m : Nat) (e : Int) : Int := max ((m.log2 : Int) + 1 + e - 53) (-1074)

/-- The unit is told by the whole part alone, unless there is none. -/
theorem isUnitAt_unitOf_floor {x : Rat} (hlow : (m : Rat) ≤ x) (hhigh : x < m + 1) (hm : 0 < m ∨ e ≤ -1074) :
    IsUnitAt (x * 2 ^ e) (unitOf m e) := by
  have habove : (m : Rat) + 1 ≤ 2 ^ ((m.log2 : Int) + 1) := by
    rw [← Nat.cast_succ, ← Nat.cast_succ, two_zpow_natCast]
    exact_mod_cast Nat.succ_le_of_lt Nat.lt_log2_self
  refine ⟨le_max_right _ _, ?_, ?_⟩
  · calc x * 2 ^ e < 2 ^ ((m.log2 : Int) + 1) * 2 ^ e :=
          mul_lt_mul_of_pos_right (hhigh.trans_le habove) (two_zpow_pos e)
      _ = 2 ^ ((m.log2 : Int) + 1 + e) := (two_zpow_add _ _).symm
      _ ≤ 2 ^ (unitOf m e + 53) := two_zpow_mono (by rw [unitOf]; omega)
  · intro hunit
    have hpos : 0 < m := by
      by_contra hnone
      obtain rfl : m = 0 := by omega
      have hlog : Nat.log2 0 = 0 := by decide
      rw [unitOf, hlog] at hunit
      omega
    have hbelow : (2 : Rat) ^ (m.log2 : Int) ≤ m := by
      rw [two_zpow_natCast]
      exact_mod_cast Nat.log2_self_le hpos.ne'
    calc (2 : Rat) ^ (unitOf m e + 52) ≤ 2 ^ ((m.log2 : Int) + e) := two_zpow_mono (by rw [unitOf] at hunit ⊢; omega)
      _ = 2 ^ (m.log2 : Int) * 2 ^ e := two_zpow_add _ _
      _ ≤ x * 2 ^ e := mul_le_mul_of_nonneg_right (hbelow.trans hlow) (two_zpow_pos e).le

theorem isUnitAt_unitOf (hm : 0 < m) : IsUnitAt (m * 2 ^ e) (unitOf m e) :=
  isUnitAt_unitOf_floor le_rfl (lt_add_one _) (.inl hm)

/-- A rounded number of units, shifted once more if the rounding made it a bit too long. -/
def carried (s : Sign) (k : Nat) (t : Int) : UnpackedFloat :=
  if h : (shiftToTargetExponent Format.binary64 k t .exact).1.mantissa = 0 then .zero s
  else .finite s (shiftToTargetExponent Format.binary64 k t .exact).1.mantissa
    (shiftToTargetExponent Format.binary64 k t .exact).2 (Nat.pos_of_ne_zero h)

theorem shiftToTargetExponent_eq : shiftToTargetExponent Format.binary64 m e .exact =
    ((⟨m, false, false⟩ : ExtendedMantissa) >>> (unitOf m e - e).toNat, e + (unitOf m e - e).toNat) :=
  rfl

/-- A number of units is packed into its place above the places with smaller units. -/
theorem place_carried {k : Nat} {t : Int} (ht : -1074 ≤ t) (hk : k ≤ 2 ^ 53) (hbelow : -1074 < t → 2 ^ 52 ≤ k) :
    sign (.ofModel (.pack (carried s k t))) = s ∧
      place (.ofModel (.pack (carried s k t))) = min ((t + 1074).toNat * 2 ^ 52 + k) infinitePlace := by
  -- Only the power that a carry leads to is too long, and its half in the next unit has the same place.
  rcases Nat.lt_or_eq_of_le hk with hlt | rfl
  · have hnone : (unitOf k t - t).toNat = 0 := by
      rcases Nat.eq_zero_or_pos k with rfl | hpos
      · have hlog : Nat.log2 0 = 0 := by decide
        rw [unitOf, hlog]
        omega
      · have hlog : k.log2 < 53 := (Nat.log2_lt (by omega)).mpr hlt
        rw [unitOf]
        omega
    have hshift : shiftToTargetExponent Format.binary64 k t .exact = (⟨k, false, false⟩, t) := by
      rw [shiftToTargetExponent_eq, hnone, Int.natCast_zero, Int.add_zero]
      rfl
    rcases Nat.eq_zero_or_pos k with rfl | hpos
    · have hvalue : carried s 0 t = .zero s := by
        simp only [carried, hshift]
        rfl
      have hleast : t = -1074 := by omega
      rw [hvalue, hleast]
      exact place_pack_zero
    · have hvalue : carried s k t = .finite s k t hpos := by
        simp only [carried, hshift]
        exact dif_neg (by omega)
      rw [hvalue]
      exact place_pack_finite hpos hlt ht (by omega)
  · have hone : (unitOf (2 ^ 53) t - t).toNat = 1 := by
      have hlog : (2 ^ 53).log2 = 53 := Nat.log2_two_pow
      rw [unitOf, hlog]
      omega
    have hshift : shiftToTargetExponent Format.binary64 (2 ^ 53) t .exact = (⟨2 ^ 52, false, false⟩, t + 1) := by
      rw [shiftToTargetExponent_eq, hone]
      rfl
    have hvalue : carried s (2 ^ 53) t = .finite s (2 ^ 52) (t + 1) (by decide) := by
      simp only [carried, hshift]
      exact dif_neg (by decide)
    have hplace : (t + 1 + 1074).toNat * 2 ^ 52 + 2 ^ 52 = (t + 1074).toNat * 2 ^ 52 + 2 ^ 53 := by omega
    rw [hvalue, ← hplace]
    exact place_pack_finite (by decide) (by decide) (by omega) (.inl le_rfl)

/-- The rounding of a number of which the bits above the unit of the result are known, and of the others enough. -/
theorem isPlaceOf_roundTold {x : Rat} {accuracy : Accuracy} (htells : Tells (.ofMantissaAndAccuracy m accuracy) x)
    (hunit : IsUnitAt (x * 2 ^ e) (unitOf m e)) (he : e ≤ unitOf m e) :
    sign (.ofModel (.pack (roundWithAccuracy Format.binary64 s m e accuracy))) = s ∧
      IsPlaceOf (x * 2 ^ e) (place (.ofModel (.pack (roundWithAccuracy Format.binary64 s m e accuracy)))) := by
  generalize hk : (ExtendedMantissa.ofMantissaAndAccuracy m accuracy >>> (unitOf m e - e).toNat).roundedMantissa = k
  have hnearest : IsNearest (x * 2 ^ e / 2 ^ unitOf m e) k := by
    have hscale : x * 2 ^ e / 2 ^ unitOf m e = x / 2 ^ (unitOf m e - e).toNat := by
      have hsplit : unitOf m e = e + ((unitOf m e - e).toNat : Int) := by omega
      have hpower : (2 : Rat) ^ unitOf m e = 2 ^ e * 2 ^ (unitOf m e - e).toNat := by
        rw [← zpow_natCast, ← two_zpow_add, ← hsplit]
      rw [hpower, mul_comm x, mul_div_mul_left _ _ (two_zpow_pos e).ne']
    rw [hscale, ← hk]
    exact (htells.shiftRight _).isNearest
  have hround : roundWithAccuracy Format.binary64 s m e accuracy = carried s k (unitOf m e) := by
    have hexponent : e + ((unitOf m e - e).toNat : Int) = unitOf m e := by omega
    have hopened : roundWithAccuracy Format.binary64 s m e accuracy =
        carried s (ExtendedMantissa.ofMantissaAndAccuracy m accuracy >>> (unitOf m e - e).toNat).roundedMantissa
          (e + ((unitOf m e - e).toNat : Int)) := rfl
    rw [hopened, hk, hexponent]
  have hfits := hnearest.le_of_le hunit.units_lt.le
  obtain ⟨hsign, hplace⟩ := place_carried (s := s) hunit.least hfits fun h => hnearest.ge_of_ge (hunit.le_units h)
  rw [hround]
  exact ⟨hsign, unitOf m e, k, hunit, hnearest, hplace⟩

/-- The rounding of a number that has no fewer units than the result. -/
theorem isPlaceOf_roundWithAccuracy (hm : 0 < m) (he : e ≤ unitOf m e) :
    sign (.ofModel (.pack (roundWithAccuracy Format.binary64 s m e .exact))) = s ∧
      IsPlaceOf (m * 2 ^ e) (place (.ofModel (.pack (roundWithAccuracy Format.binary64 s m e .exact)))) :=
  isPlaceOf_roundTold rfl (isUnitAt_unitOf hm) he

theorem log2_shiftLeft (hm : 0 < m) (j : Nat) : (m <<< j).log2 = m.log2 + j := by
  have hlow := Nat.log2_self_le (n := m) (by omega)
  have hhigh := Nat.lt_log2_self (n := m)
  rw [Nat.shiftLeft_eq]
  have hpos : 0 < m * 2 ^ j := Nat.mul_pos hm (Nat.two_pow_pos j)
  refine (Nat.log2_eq_iff (by omega)).mpr ⟨?_, ?_⟩
  · rw [Nat.pow_add]
    exact Nat.mul_le_mul_right _ hlow
  · rw [Nat.add_right_comm, Nat.pow_add]
    exact Nat.mul_lt_mul_of_pos_right hhigh (Nat.two_pow_pos j)

theorem shiftLeft_mul_zpow (m j : Nat) (e : Int) : ((m <<< j : Nat) : Rat) * 2 ^ (e - j) = m * 2 ^ e := by
  have hsplit : e = (j : Int) + (e - j) := by omega
  rw [Nat.shiftLeft_eq, Nat.cast_mul, ← two_zpow_natCast, mul_assoc, ← two_zpow_add, ← hsplit]

/-- The rounding of a finite number. -/
theorem isPlaceOf_round (hm : 0 < m) :
    sign (.ofModel (.pack (UnpackedFloat.round Format.binary64 s m e))) = s ∧
      IsPlaceOf (m * 2 ^ e) (place (.ofModel (.pack (UnpackedFloat.round Format.binary64 s m e)))) := by
  generalize hj : (e - unitOf m e).toNat = j
  have hround : UnpackedFloat.round Format.binary64 s m e =
      roundWithAccuracy Format.binary64 s (m <<< j) (e - j) .exact := by
    rw [← hj]
    rfl
  have hpos : 0 < m <<< j := by
    rw [Nat.shiftLeft_eq]
    exact Nat.mul_pos hm (Nat.two_pow_pos j)
  have hunit : unitOf (m <<< j) (e - j) = unitOf m e := by
    rw [unitOf, unitOf, log2_shiftLeft hm]
    omega
  rw [hround, ← shiftLeft_mul_zpow m j e]
  exact isPlaceOf_roundWithAccuracy hpos (by omega)

end Rounding

/-! ### Quotients -/

section Quotients

variable {s : Sign} {m m' : Nat} {e e' : Int}

/-- The whole part of a quotient and its remainder tell the quotient. -/
theorem tells_quotient (n : Nat) {d : Nat} (hd : 0 < d) :
    Tells (.ofMantissaAndAccuracy (n / d) (accuracyOfFraction (n % d) d)) ((n : Rat) / d) := by
  have hpos : (0 : Rat) < d := by exact_mod_cast hd
  have hremainder : ((n % d : Nat) : Rat) < d := by exact_mod_cast Nat.mod_lt n hd
  have hvalue : (n : Rat) = ((n / d : Nat) : Rat) * d + (n % d : Nat) := by
    have hdivision := Nat.div_add_mod' n d
    exact_mod_cast hdivision.symm
  rw [hvalue, add_div, mul_div_cancel_right₀ _ hpos.ne', accuracyOfFraction]
  generalize n % d = r at hremainder ⊢
  generalize n / d = q
  by_cases hexact : r = 0
  · rw [if_pos hexact, hexact, Nat.cast_zero, zero_div, add_zero]
    rfl
  · rw [if_neg hexact]
    have hsome : 0 < (r : Rat) / d := div_pos (by exact_mod_cast Nat.pos_of_ne_zero hexact) hpos
    have hless : (r : Rat) / d < 1 := (div_lt_one hpos).mpr hremainder
    have hscale : (r : Rat) / d * d = r := div_mul_cancel₀ _ hpos.ne'
    rcases Nat.lt_trichotomy (2 * r) d with h | h | h
    · have hhalf : 2 * (r : Rat) < d := by exact_mod_cast h
      have hbelow : 2 * ((r : Rat) / d) < 1 := by
        rw [← mul_div_assoc, div_lt_one hpos]
        exact hhalf
      rw [Nat.compare_eq_lt.mpr h]
      exact ⟨by linarith, by linarith⟩
    · have hhalf : 2 * (r : Rat) = d := by exact_mod_cast h
      have hequal : 2 * ((r : Rat) / d) = 1 := by
        rw [← mul_div_assoc, hhalf, div_self hpos.ne']
      rw [Nat.compare_eq_eq.mpr h]
      exact (by linarith : 2 * ((q : Rat) + r / d) = 2 * q + 1)
    · have hhalf : (d : Rat) < 2 * r := by exact_mod_cast h
      have habove : 1 < 2 * ((r : Rat) / d) := by
        rw [← mul_div_assoc, one_lt_div hpos]
        exact hhalf
      rw [Nat.compare_eq_gt.mpr h]
      exact ⟨by linarith, by linarith⟩

/-- The exponent that a quotient is divided down to. -/
def quotientUnit (m : Nat) (e : Int) (m' : Nat) (e' : Int) : Int :=
  min (e - e') (max ((m.log2 : Int) + 1 + e - ((m'.log2 : Int) + 1 + e') - 53) (-1074))

/-- A quotient is divided down until its whole part has the bits of the result, or there are no smaller units. -/
theorem quotient_units (hm : 0 < m) (hm' : 0 < m') {n : Nat} (hn : (n : Int) = e - e' - quotientUnit m e m' e') :
    2 ^ 52 ≤ m <<< n / m' ∨ quotientUnit m e m' e' ≤ -1074 := by
  by_cases hleast : quotientUnit m e m' e' ≤ -1074
  · exact .inr hleast
  · have hshifted : 0 < m <<< n := by
      rw [Nat.shiftLeft_eq]
      exact Nat.mul_pos hm (Nat.two_pow_pos n)
    obtain ⟨hlow, -⟩ := quot_bounds hshifted hm'
    have hpower : ((2 ^ 52 : Nat) : Rat) ≤ 2 ^ (((m <<< n).log2 : Int) - m'.log2 - 1) := by
      rw [← two_zpow_natCast]
      refine two_zpow_mono ?_
      rw [log2_shiftLeft hm]
      rw [quotientUnit] at hn hleast
      omega
    have hpos : (0 : Rat) < m' := by exact_mod_cast hm'
    have hmany := hpower.trans hlow
    rw [le_div_iff₀ hpos] at hmany
    exact .inl ((Nat.le_div_iff_mul_le hm').mpr (by exact_mod_cast hmany))

/-- The rounding of a quotient of finite numbers. -/
theorem isPlaceOf_div (s s' : Sign) (e e' : Int) (hm : 0 < m) (hm' : 0 < m') :
    sign (.ofModel (.pack (UnpackedFloat.div Format.binary64 (.finite s m e hm) (.finite s' m' e' hm')))) = s / s' ∧
      IsPlaceOf (m * 2 ^ e / (m' * 2 ^ e'))
        (place (.ofModel (.pack (UnpackedFloat.div Format.binary64 (.finite s m e hm) (.finite s' m' e' hm'))))) := by
  obtain ⟨n, hn⟩ : ∃ n : Nat, (n : Int) = e - e' - quotientUnit m e m' e' :=
    ⟨(e - e' - quotientUnit m e m' e').toNat, by rw [quotientUnit]; omega⟩
  have hopened : UnpackedFloat.div Format.binary64 (.finite s m e hm) (.finite s' m' e' hm') =
      roundWithAccuracy Format.binary64 (s / s') (m <<< n / m') (quotientUnit m e m' e')
        (accuracyOfFraction (m <<< n % m') m') := by
    obtain rfl : n = (e - e' - quotientUnit m e m' e').toNat := by omega
    rfl
  have hpos : (0 : Rat) < m' := by exact_mod_cast hm'
  have hvalue : ((m <<< n : Nat) : Rat) / m' * 2 ^ quotientUnit m e m' e' = m * 2 ^ e / (m' * 2 ^ e') := by
    have hshift := shiftLeft_mul_zpow m n (e - e')
    have hunit : e - e' - (n : Int) = quotientUnit m e m' e' := by omega
    rw [hunit] at hshift
    rw [div_mul_eq_mul_div, hshift, sub_eq_add_neg, two_zpow_add, zpow_neg, ← mul_assoc, mul_comm (m' : Rat),
      ← div_div, div_eq_mul_inv (_ * _) (2 ^ e')]
  have hunits := quotient_units hm hm' hn
  generalize quotientUnit m e m' e' = t at hopened hvalue hunits
  have hlow : ((m <<< n / m' : Nat) : Rat) ≤ ((m <<< n : Nat) : Rat) / m' := Nat.cast_div_le
  have hhigh : ((m <<< n : Nat) : Rat) / m' < ((m <<< n / m' : Nat) : Rat) + 1 := by
    rw [div_lt_iff₀ hpos]
    exact_mod_cast Nat.lt_mul_of_div_lt (Nat.lt_succ_self _) hm'
  have hunit := isUnitAt_unitOf_floor (e := t) hlow hhigh (by omega)
  have hleast : t ≤ unitOf (m <<< n / m') t := by
    rcases hunits with hmany | hleast
    · have hlog : 52 ≤ (m <<< n / m').log2 := (Nat.le_log2 (by omega)).mpr hmany
      rw [unitOf]
      omega
    · exact hleast.trans hunit.least
  have hrounded := isPlaceOf_roundTold (s := s / s') (tells_quotient (m <<< n) hm') hunit hleast
  rw [hvalue, ← hopened] at hrounded
  exact hrounded

end Quotients

end Double
end RepoSurvey
