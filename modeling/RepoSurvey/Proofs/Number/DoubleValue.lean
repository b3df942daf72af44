import Mathlib.Algebra.Order.Field.Basic
import RepoSurvey.Proofs.Number.DoubleOrder
import RepoSurvey.Proofs.Number.RoundedPlace

/-!
# Values of doubles

* `toRat?_eq`: the exact value of a finite double is the number at its place, with its sign.
* `isPlaceOf_bitsOfQuot`: the bits of the double nearest to a quotient are the place that it is rounded to.
* `rank?_ofRat`: the rank of the double nearest to a rational.
* `isSome_toRat?_ofRat_intCast`: which whole numbers have a finite double.
-/

namespace RepoSurvey
namespace Double

open Float.Model Float.Model.UnpackedFloat

/-! ### Where a double stands -/

section Standing

variable {x : Float} {v : Rat} {s : Sign} {p : Nat}

/-- The double is not negative and stands at a place; zero may have either sign. -/
def StandsAt (x : Float) (p : Nat) : Prop := rank? x = some (p : Int)

theorem standsAt_iff : StandsAt x p ↔ p ≤ infinitePlace ∧ place x = p ∧ (sign x = .positive ∨ p = 0) := by
  rw [StandsAt, rank?]
  constructor
  · intro h
    split at h
    · next hle =>
      have hrank := Option.some.inj h
      rcases hsign : sign x <;> rw [hsign, Sign.apply] at hrank
      · exact ⟨by omega, by omega, .inr (by omega)⟩
      · exact ⟨by omega, by omega, .inl rfl⟩
    · cases h
  · rintro ⟨hle, rfl, hsign⟩
    rw [if_pos hle]
    rcases hsign with hsign | hzero
    · rw [hsign]
      rfl
    · rw [hzero]
      cases sign x <;> rfl

theorem StandsAt.unpack (h : StandsAt x p) : ∃ s, x.toModel.unpack = ofPlace s p ∧ (s = .positive ∨ p = 0) := by
  obtain ⟨-, hplace, hsign⟩ := standsAt_iff.mp h
  exact ⟨sign x, by rw [unpack_eq, hplace], hsign⟩

theorem standsAt_ofPlace (hp : p ≤ infinitePlace) (hs : s = .positive ∨ p = 0) :
    StandsAt (.ofModel (.pack (ofPlace s p))) p := by
  obtain ⟨hsign, hplace⟩ := pack_ofPlace (s := s) hp
  refine standsAt_iff.mpr ⟨hp, hplace, ?_⟩
  rw [hsign]
  exact hs

/-- Infinite numbers included, a number that is not negative stands somewhere. -/
theorem standsAt_of_rank {r : Int} (h : rank? x = some r) (hr : 0 ≤ r) : ∃ p, StandsAt x p := by
  refine ⟨r.toNat, ?_⟩
  rw [StandsAt, h, Int.toNat_of_nonneg hr]

theorem StandsAt.le_iff {y : Float} {q : Nat} (hx : StandsAt x p) (hy : StandsAt y q) : x ≤ y ↔ p ≤ q := by
  rw [Double.le_iff]
  constructor
  · rintro ⟨r, r', hr, hr', hle⟩
    have hp := Option.some.inj (hx.symm.trans hr)
    have hq := Option.some.inj (hy.symm.trans hr')
    omega
  · intro hle
    exact ⟨p, q, hx, hy, by omega⟩

theorem StandsAt.le_infinitePlace (h : StandsAt x p) : p ≤ infinitePlace := (standsAt_iff.mp h).1

theorem StandsAt.place_eq (h : StandsAt x p) : place x = p := (standsAt_iff.mp h).2.1

end Standing

/-! ### Exact values -/

section Exact

variable (x : Float)

theorem place_lt : place x < 2 ^ 63 := Nat.mod_lt _ (by decide)

theorem exponent_eq : x.toBits.toNat / pow2 52 % pow2 11 = place x / 2 ^ 52 := by
  have hbound := place_lt x
  have hsign := (sign x).toBitVec.isLt
  have hfraction : pow2 52 = 2 ^ 52 := rfl
  have hexponent : pow2 11 = 2 ^ 11 := rfl
  rw [toBits_toNat, hfraction, hexponent]
  omega

theorem fraction_eq : x.toBits.toNat % pow2 52 = place x % 2 ^ 52 := by
  have hfraction : pow2 52 = 2 ^ 52 := rfl
  rw [toBits_toNat, hfraction]
  omega

theorem apply_sign (n : Nat) : (if decide (pow2 63 ≤ x.toBits.toNat) then -(n : Int) else n) = (sign x).apply n := by
  have hbound := place_lt x
  have htop : pow2 63 = 2 ^ 63 := rfl
  rw [toBits_toNat, htop]
  cases sign x
  · have hone : Sign.negative.toBitVec.toNat = 1 := rfl
    rw [hone, decide_eq_true (by omega)]
    rfl
  · have hnone : Sign.positive.toBitVec.toNat = 0 := rfl
    rw [hnone, decide_eq_false (by omega)]
    rfl

theorem parts_eq : parts x =
    if place x < infinitePlace then
      .finite (decide (pow2 63 ≤ x.toBits.toNat)) (significand (place x)) (unit (place x))
    else if place x = infinitePlace then .infinite (decide (pow2 63 ≤ x.toBits.toNat)) else .notANumber := by
  have hbound := place_lt x
  have hinfinite : infinitePlace = 2047 * 2 ^ 52 := rfl
  have hfraction : pow2 52 = 2 ^ 52 := rfl
  simp only [parts]
  rw [exponent_eq, fraction_eq]
  by_cases hfinite : place x < infinitePlace
  · rw [if_pos hfinite, if_neg (by omega)]
    by_cases hlow : place x / 2 ^ 52 = 0
    · obtain ⟨hsignificand, hunit⟩ := units_of_subnormal hlow
      rw [if_pos hlow, hsignificand, hunit]
    · obtain ⟨hsignificand, hunit⟩ := units_of_normal hlow
      rw [if_neg hlow, hsignificand, hunit, hfraction]
  · rw [if_neg hfinite, if_pos (by omega)]
    by_cases hinfinity : place x = infinitePlace
    · rw [if_pos hinfinity, if_pos (by omega)]
    · rw [if_neg hinfinity, if_neg (by omega)]

theorem cast_pow2 {e : Int} (h : 0 ≤ e) : ((pow2 e.toNat : Nat) : Rat) = 2 ^ e := by
  conv_rhs => rw [← Int.toNat_of_nonneg h]
  exact (two_zpow_natCast _).symm

/-- A numerator and a denominator of a number of units. -/
theorem mkRat_scaled (s : Sign) (m : Nat) (e : Int) :
    mkRat (s.apply (scaled m e).1) (scaled m e).2 = (s.apply 1 : Int) * ((m : Rat) * 2 ^ e) := by
  have hvalue : ((scaled m e).1 : Rat) / (scaled m e).2 = m * 2 ^ e := by
    rw [scaled]
    split
    · next h => rw [Nat.cast_mul, cast_pow2 h, Nat.cast_one, div_one]
    · next h => rw [cast_pow2 (show 0 ≤ -e by omega), zpow_neg, div_inv_eq_mul]
  rw [Rat.mkRat_eq_div, ← hvalue]
  cases s
  · have hminus : Sign.negative.apply (scaled m e).1 = -((scaled m e).1 : Int) := rfl
    have hone : Sign.negative.apply 1 = -1 := rfl
    rw [hminus, hone]
    push_cast
    rw [neg_div, neg_one_mul]
  · have hplus : Sign.positive.apply (scaled m e).1 = ((scaled m e).1 : Int) := rfl
    have hone : Sign.positive.apply 1 = 1 := rfl
    rw [hplus, hone]
    push_cast
    rw [one_mul]

/-- The exact value of a finite double is the number at its place, with its sign. -/
theorem toRat?_eq : toRat? x =
    if place x < infinitePlace then some (((sign x).apply 1 : Int) * placed (place x)) else none := by
  rw [toRat?, parts_eq]
  by_cases hfinite : place x < infinitePlace
  · rw [if_pos hfinite, if_pos hfinite]
    simp only [apply_sign, mkRat_scaled]
    rfl
  · rw [if_neg hfinite, if_neg hfinite]
    split
    · next h =>
      split at h
      · exact absurd h nofun
      · exact absurd h nofun
    · rfl

/-- The exact value of a finite double that is not negative. -/
theorem StandsAt.toRat?_eq {x : Float} {p : Nat} (h : StandsAt x p) (hp : p < infinitePlace) :
    toRat? x = some (placed p) := by
  obtain ⟨-, hplace, hsign⟩ := standsAt_iff.mp h
  rw [Double.toRat?_eq, hplace, if_pos hp]
  rcases hsign with hsign | rfl
  · have hone : Sign.positive.apply 1 = 1 := rfl
    rw [hsign, hone, Int.cast_one, one_mul]
  · rw [placed_zero, mul_zero]

theorem isSome_toRat? : (toRat? x).isSome ↔ place x < infinitePlace := by
  rw [toRat?_eq]
  by_cases hfinite : place x < infinitePlace
  · rw [if_pos hfinite]
    exact ⟨fun _ => hfinite, fun _ => rfl⟩
  · rw [if_neg hfinite]
    exact ⟨nofun, fun h => absurd h hfinite⟩

end Exact

/-! ### Quotients -/

section Quotients

variable {n d : Nat}

/-- A quotient in units of `2 ^ e`, as a numerator and a denominator. -/
def inUnits (n d : Nat) (e : Int) : Nat × Nat :=
  if 0 ≤ e then (n, d * pow2 e.toNat) else (n * pow2 (-e).toNat, d)

theorem inUnits_pos (hd : 0 < d) (e : Int) : 0 < (inUnits n d e).2 := by
  rw [inUnits]
  split
  · exact Nat.mul_pos hd (Nat.two_pow_pos _)
  · exact hd

theorem inUnits_div (n d : Nat) (e : Int) : ((inUnits n d e).1 : Rat) / (inUnits n d e).2 = n / d / 2 ^ e := by
  rw [inUnits]
  split
  · next h => rw [Nat.cast_mul, cast_pow2 h, div_div]
  · next h =>
    rw [Nat.cast_mul, cast_pow2 (show 0 ≤ -e by omega), zpow_neg, mul_comm, mul_div_assoc, inv_mul_eq_div]

/-- The greatest unit that a quotient can have, told from the bits of its two numbers. -/
def highUnit (n d : Nat) : Int := max ((n.log2 : Int) - d.log2 - 52) (-1074)

/-- The unit of a quotient, one less if it has not enough units of the greatest one. -/
def unitOfQuot (n d : Nat) : Int :=
  if (inUnits n d (highUnit n d)).1 / (inUnits n d (highUnit n d)).2 < pow2 52 ∧ -1074 < highUnit n d then
    highUnit n d - 1
  else highUnit n d

theorem bitsOfQuot_eq (hn : 0 < n) : bitsOfQuot n d =
    if roundQuot (inUnits n d (unitOfQuot n d)).1 (inUnits n d (unitOfQuot n d)).2 < pow2 52 then
      roundQuot (inUnits n d (unitOfQuot n d)).1 (inUnits n d (unitOfQuot n d)).2
    else
      min ((unitOfQuot n d + 1075).toNat * pow2 52 +
        (roundQuot (inUnits n d (unitOfQuot n d)).1 (inUnits n d (unitOfQuot n d)).2 - pow2 52)) (2047 * pow2 52) := by
  rw [bitsOfQuot, if_neg (by omega)]
  rfl

/-- A quotient lies between the powers that the bits of its two numbers tell. -/
theorem quot_bounds (hn : 0 < n) (hd : 0 < d) :
    2 ^ ((n.log2 : Int) - d.log2 - 1) ≤ (n : Rat) / d ∧ (n : Rat) / d < 2 ^ ((n.log2 : Int) - d.log2 + 1) := by
  have hdpos : (0 : Rat) < d := by exact_mod_cast hd
  have hnlow : (2 : Rat) ^ (n.log2 : Int) ≤ n := by
    rw [two_zpow_natCast]
    exact_mod_cast Nat.log2_self_le (by omega : n ≠ 0)
  have hdlow : (2 : Rat) ^ (d.log2 : Int) ≤ d := by
    rw [two_zpow_natCast]
    exact_mod_cast Nat.log2_self_le (by omega : d ≠ 0)
  have hnhigh : (n : Rat) < 2 ^ ((n.log2 : Int) + 1) := by
    rw [← Nat.cast_succ, two_zpow_natCast]
    exact_mod_cast Nat.lt_log2_self
  have hdhigh : (d : Rat) < 2 ^ ((d.log2 : Int) + 1) := by
    rw [← Nat.cast_succ, two_zpow_natCast]
    exact_mod_cast Nat.lt_log2_self
  constructor
  · rw [le_div_iff₀ hdpos]
    calc (2 : Rat) ^ ((n.log2 : Int) - d.log2 - 1) * d
        ≤ 2 ^ ((n.log2 : Int) - d.log2 - 1) * 2 ^ ((d.log2 : Int) + 1) :=
          mul_le_mul_of_nonneg_left hdhigh.le (two_zpow_pos _).le
      _ = 2 ^ (n.log2 : Int) := by
          rw [← two_zpow_add]
          congr 1
          omega
      _ ≤ n := hnlow
  · rw [div_lt_iff₀ hdpos]
    calc (n : Rat) < 2 ^ ((n.log2 : Int) + 1) := hnhigh
      _ = 2 ^ ((n.log2 : Int) - d.log2 + 1) * 2 ^ (d.log2 : Int) := by
          rw [← two_zpow_add]
          congr 1
          omega
      _ ≤ 2 ^ ((n.log2 : Int) - d.log2 + 1) * d := mul_le_mul_of_nonneg_left hdlow (two_zpow_pos _).le

/-- Whether a quotient has at least some number of units. -/
theorem le_inUnits_iff (hd : 0 < d) (e : Int) (k : Nat) :
    k ≤ (inUnits n d e).1 / (inUnits n d e).2 ↔ (k : Rat) * 2 ^ e ≤ n / d := by
  have hpos := inUnits_pos (n := n) hd e
  have hpos' : (0 : Rat) < (inUnits n d e).2 := by exact_mod_cast hpos
  rw [← le_div_iff₀ (two_zpow_pos e), ← inUnits_div, le_div_iff₀ hpos', Nat.le_div_iff_mul_le hpos]
  exact_mod_cast Iff.rfl

theorem isUnitAt_unitOfQuot (hn : 0 < n) (hd : 0 < d) : IsUnitAt ((n : Rat) / d) (unitOfQuot n d) := by
  obtain ⟨hlow, hhigh⟩ := quot_bounds hn hd
  have hsplit := le_inUnits_iff (n := n) hd (highUnit n d) (2 ^ 52)
  have hpower : ((2 ^ 52 : Nat) : Rat) * 2 ^ highUnit n d = 2 ^ (highUnit n d + 52) := by
    rw [add_comm, two_zpow_add, ← two_zpow_natCast, Nat.cast_ofNat]
  rw [hpower] at hsplit
  -- The bits of the two numbers tell the unit up to one, and the division in the greater unit tells which it is.
  by_cases hfew : (inUnits n d (highUnit n d)).1 / (inUnits n d (highUnit n d)).2 < 2 ^ 52 ∧ -1074 < highUnit n d
  · have hunit : unitOfQuot n d = highUnit n d - 1 := if_pos hfew
    rw [hunit]
    refine ⟨by omega, ?_, fun _ => ?_⟩
    · have hless : (n : Rat) / d < 2 ^ (highUnit n d + 52) := not_le.mp fun h => absurd (hsplit.mpr h) (by omega)
      refine hless.trans_le (two_zpow_mono (by omega))
    · refine le_trans (two_zpow_mono ?_) hlow
      rw [highUnit] at hfew ⊢
      omega
  · have hunit : unitOfQuot n d = highUnit n d := if_neg hfew
    rw [hunit]
    refine ⟨le_max_right _ _, ?_, fun habove => ?_⟩
    · refine hhigh.trans_le (two_zpow_mono ?_)
      rw [highUnit]
      omega
    · exact hsplit.mp (by omega)

/-- The bits of the double nearest to a quotient are the place that it is rounded to. -/
theorem isPlaceOf_bitsOfQuot (hd : 0 < d) : IsPlaceOf ((n : Rat) / d) (bitsOfQuot n d) := by
  rcases Nat.eq_zero_or_pos n with rfl | hn
  · have hbits : bitsOfQuot 0 d = 0 := if_pos rfl
    rw [hbits, Nat.cast_zero, zero_div, ← placed_zero]
    exact isPlaceOf_placed (Nat.zero_le _)
  · have hunit := isUnitAt_unitOfQuot hn hd
    have hnearest := isNearest_roundQuot (inUnits n d (unitOfQuot n d)).1 (inUnits_pos (n := n) hd (unitOfQuot n d))
    rw [inUnits_div] at hnearest
    refine ⟨unitOfQuot n d, _, hunit, hnearest, ?_⟩
    rw [bitsOfQuot_eq hn]
    generalize hk : roundQuot (inUnits n d (unitOfQuot n d)).1 (inUnits n d (unitOfQuot n d)).2 = k at hnearest ⊢
    have hleast := hunit.least
    have hfraction : pow2 52 = 2 ^ 52 := rfl
    have htop : infinitePlace = 2047 * 2 ^ 52 := rfl
    rw [hfraction, htop]
    by_cases hfew : k < 2 ^ 52
    · have hunit : unitOfQuot n d = -1074 := by
        by_contra hother
        have henough := hnearest.ge_of_ge (hunit.le_units (by omega))
        omega
      rw [if_pos hfew, hunit]
      omega
    · rw [if_neg hfew]
      omega

end Quotients

/-! ### Conversions -/

section Conversions

theorem standsAt_ofBits {p : Nat} (hp : p ≤ infinitePlace) : StandsAt (Float.ofBits (UInt64.ofNat p)) p := by
  have hbound : p < 2 ^ 63 := Nat.lt_of_le_of_lt hp (by decide)
  have hbits : (UInt64.ofNat p).toBitVec.toNat = p := by
    have hcast : (UInt64.ofNat p).toBitVec.toNat = p % 2 ^ 64 := UInt64.toNat_ofNat'
    omega
  have hopened : Float.ofBits (UInt64.ofNat p) =
      .ofModel (.pack (UnpackedFloat.unpack Format.binary64 (UInt64.ofNat p).toBitVec)) := rfl
  have hsign : Sign.ofBitVec (@unpackSign Format.binary64 (UInt64.ofNat p).toBitVec) = .positive := by
    have hnone : @unpackSign Format.binary64 (UInt64.ofNat p).toBitVec = 0#1 := by
      rw [← BitVec.toNat_inj, toNat_unpackSign, hbits, Nat.div_eq_of_lt hbound]
      rfl
    rw [hnone]
    rfl
  rw [hopened, unpack_bits, hsign, hbits, Nat.mod_eq_of_lt hbound]
  exact standsAt_ofPlace hp (.inl rfl)

theorem rank?_pack_unpack (x : Float) : rank? (.ofModel (.pack x.toModel.unpack)) = rank? x := by
  rw [unpack_eq]
  by_cases h : place x ≤ infinitePlace
  · obtain ⟨hsign, hplace⟩ := pack_ofPlace (s := sign x) h
    rw [rank?, rank?, hsign, hplace]
  · rw [ofPlace_above (Nat.lt_of_not_le h), (rank?_eq_none _).mpr place_pack_notANumber,
      (rank?_eq_none _).mpr (Nat.lt_of_not_le h)]

theorem rank?_neg (x : Float) : rank? (-x) = (rank? x).map Neg.neg := by
  have hopened : -x = .ofModel (.pack x.toModel.unpack.neg) := rfl
  rw [hopened, rank?_pack_neg, rank?_pack_unpack]

/-- The rank of the double nearest to a rational. -/
theorem rank?_ofRat (q : Rat) :
    ∃ p : Nat, IsPlaceOf |q| p ∧ rank? (ofRat q) = some (if q < 0 then -(p : Int) else p) := by
  have hplace := isPlaceOf_bitsOfQuot (n := q.num.natAbs) q.den_pos
  have hvalue : ((q.num.natAbs : Nat) : Rat) / q.den = |q| := by
    rw [Nat.cast_natAbs, Int.cast_abs]
    conv_rhs => rw [← Rat.num_div_den q, abs_div, Nat.abs_cast]
  rw [hvalue] at hplace
  refine ⟨_, hplace, ?_⟩
  have hquot : StandsAt (ofQuot q.num.natAbs q.den) (bitsOfQuot q.num.natAbs q.den) :=
    standsAt_ofBits hplace.le_infinitePlace
  rw [ofRat]
  by_cases hnegative : q < 0
  · rw [if_pos (Rat.num_neg.mpr hnegative), if_pos hnegative, rank?_neg, hquot]
    rfl
  · rw [if_neg (fun h => hnegative (Rat.num_neg.mp h)), if_neg hnegative]
    exact hquot

theorem standsAt_ofRat {q : Rat} (hq : 0 ≤ q) : ∃ p, StandsAt (ofRat q) p ∧ IsPlaceOf q p := by
  obtain ⟨p, hplace, hrank⟩ := rank?_ofRat q
  rw [if_neg (not_lt.mpr hq)] at hrank
  rw [abs_of_nonneg hq] at hplace
  exact ⟨p, hrank, hplace⟩

/-- A rational that is not less is not converted to a lower double. -/
theorem ofRat_mono {q r : Rat} (h : q ≤ r) : ofRat q ≤ ofRat r := by
  obtain ⟨p, hplace, hrank⟩ := rank?_ofRat q
  obtain ⟨p', hplace', hrank'⟩ := rank?_ofRat r
  refine (le_iff _ _).mpr ⟨_, _, hrank, hrank', ?_⟩
  by_cases hq : q < 0
  · rw [if_pos hq]
    by_cases hr : r < 0
    · have hback := hplace'.mono (abs_le_abs_of_nonpos hr.le h) hplace
      rw [if_pos hr]
      omega
    · rw [if_neg hr]
      omega
  · have hr : ¬ r < 0 := fun hr => hq (h.trans_lt hr)
    have hforth := hplace.mono (abs_le_abs_of_nonneg (not_lt.mp hq) h) hplace'
    rw [if_neg hq, if_neg hr]
    omega

end Conversions

/-! ### The range of whole numbers -/

section Range

/-- The least whole number that is rounded to infinity: halfway between the greatest double and the next power of two. -/
def wholeLimit : Nat := 2 ^ 1024 - 2 ^ 970

theorem isPlaceOf_natCast (n : Nat) : IsPlaceOf n (bitsOfQuot n 1) := by
  have hplace := isPlaceOf_bitsOfQuot (n := n) Nat.one_pos
  rwa [Nat.cast_one, div_one] at hplace

theorem isPlaceOf_place_ofRat (q : Rat) : IsPlaceOf |q| (place (ofRat q)) := by
  obtain ⟨p, hplace, hrank⟩ := rank?_ofRat q
  have hp : place (ofRat q) = p := by
    rw [rank?] at hrank
    split at hrank
    · have hvalue := Option.some.inj hrank
      rcases hsign : sign (ofRat q) <;> rw [hsign, Sign.apply] at hvalue <;> split at hvalue <;> omega
    · cases hrank
  rw [hp]
  exact hplace

/-- **The whole numbers that have a finite double.** -/
theorem isSome_toRat?_ofRat_intCast (m : Int) : (toRat? (ofRat m)).isSome ↔ m.natAbs < wholeLimit := by
  have hplace := isPlaceOf_place_ofRat m
  have hvalue : |(m : Rat)| = (m.natAbs : Rat) := by rw [Nat.cast_natAbs, Int.cast_abs]
  rw [hvalue] at hplace
  have hlimit : bitsOfQuot wholeLimit 1 = infinitePlace := by decide +kernel
  have hbelow : bitsOfQuot (wholeLimit - 1) 1 = infinitePlace - 1 := by decide +kernel
  rw [isSome_toRat?]
  constructor
  · intro hfinite
    by_contra hlarge
    have hback := (isPlaceOf_natCast wholeLimit).mono (Nat.cast_le.mpr (Nat.le_of_not_lt hlarge)) hplace
    omega
  · intro hsmall
    have hforth := hplace.mono (Nat.cast_le.mpr (Nat.le_sub_one_of_lt hsmall)) (isPlaceOf_natCast (wholeLimit - 1))
    rw [hbelow] at hforth
    exact Nat.lt_of_le_of_lt hforth (by decide)

end Range

end Double
end RepoSurvey
