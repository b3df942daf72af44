import Mathlib
import RepoSurvey.Number.Scalar

/-!
# Places of doubles

The doubles that are not negative lie on a scale: zero, the smallest ones, and so on up to infinity. The bits of a
double without its sign are its place on that scale.

* `unit`, `significand`: a finite double at a place is so many of its units.
* `unpack_bits`, `unpack_eq`: what bits and doubles stand for, told from their sign and their place.
* `place_pack_finite`, `place_pack_zero`, `place_pack_infinity`: the sign and the place that a value is packed into.
* `pack_ofPlace`: what stands at a place is packed into it.
-/

namespace RepoSurvey
namespace Double

open Float.Model Float.Model.UnpackedFloat

/-! ### The scale -/

section Scale

/-- The place of infinity, above all finite numbers. -/
def infinitePlace : Nat := 2047 * 2 ^ 52

/-- The exponent at a place as the bits have it; the numbers below the first power share its unit. -/
def field (p : Nat) : Nat := max 1 (p / 2 ^ 52)

/-- The exponent of the unit at a place. -/
def unit (p : Nat) : Int := field p - 1075

/-- How many units the number at a place has. -/
def significand (p : Nat) : Nat := p - (field p - 1) * 2 ^ 52

variable {s : Sign} {p : Nat}

theorem significand_pos (h : 0 < p) : 0 < significand p := by
  rw [significand, field]
  omega

theorem significand_lt : significand p < 2 ^ 53 := by
  rw [significand, field]
  omega

theorem unit_ge : -1074 ≤ unit p := by
  rw [unit, field]
  omega

/-- Below the first power of the scale all numbers have the least unit. -/
theorem le_significand_or_unit : 2 ^ 52 ≤ significand p ∨ unit p = -1074 := by
  rw [significand, unit, field]
  omega

theorem units_of_subnormal (h : p / 2 ^ 52 = 0) : significand p = p % 2 ^ 52 ∧ unit p = -1074 := by
  rw [significand, unit, field]
  omega

theorem units_of_normal (h : p / 2 ^ 52 ≠ 0) :
    significand p = 2 ^ 52 + p % 2 ^ 52 ∧ unit p = (p / 2 ^ 52 : Nat) - 1075 := by
  rw [significand, unit, field]
  omega

theorem place_of_unit : (unit p + 1074).toNat * 2 ^ 52 + significand p = p := by
  rw [significand, unit, field]
  omega

/-- What stands at a place with a sign. -/
def ofPlace (s : Sign) (p : Nat) : UnpackedFloat :=
  if h : 0 < p then
    if p < infinitePlace then .finite s (significand p) (unit p) (significand_pos h)
    else if p = infinitePlace then .infinity s
    else .notANumber
  else .zero s

theorem ofPlace_zero : ofPlace s 0 = .zero s := rfl

theorem ofPlace_finite (h : 0 < p) (hp : p < infinitePlace) :
    ofPlace s p = .finite s (significand p) (unit p) (significand_pos h) := by
  rw [ofPlace, dif_pos h, if_pos hp]

theorem ofPlace_infinite : ofPlace s infinitePlace = .infinity s := by
  rw [ofPlace, dif_pos (by decide), if_neg (Nat.lt_irrefl _), if_pos rfl]

theorem ofPlace_above (h : infinitePlace < p) : ofPlace s p = .notANumber := by
  rw [ofPlace, dif_pos (Nat.lt_of_le_of_lt (Nat.zero_le _) h), if_neg (Nat.lt_asymm h), if_neg (Nat.ne_of_gt h)]

/-- A number is zero, finite, or infinite. -/
theorem place_cases (h : p ≤ infinitePlace) : p = 0 ∨ 0 < p ∧ p < infinitePlace ∨ p = infinitePlace := by
  rcases Nat.eq_zero_or_pos p with hzero | hpos
  · exact .inl hzero
  · rcases Nat.lt_or_eq_of_le h with hlt | htop
    · exact .inr (.inl ⟨hpos, hlt⟩)
    · exact .inr (.inr htop)

end Scale

/-! ### Bits -/

section Bits

variable (b : BitVec 64)

theorem toNat_unpackExponent : (@unpackExponent Format.binary64 b).toNat = b.toNat % 2 ^ 63 / 2 ^ 52 := by
  simp [unpackExponent, Nat.shiftRight_eq_div_pow]
  omega

theorem toNat_unpackMantissa : (@unpackMantissa Format.binary64 b).toNat = b.toNat % 2 ^ 63 % 2 ^ 52 := by
  simp [unpackMantissa]

theorem toNat_unpackSign : (@unpackSign Format.binary64 b).toNat = b.toNat / 2 ^ 63 := by
  have hb := b.isLt
  simp [unpackSign, Nat.shiftRight_eq_div_pow]
  omega

theorem sign_toBitVec (s : Sign) : Sign.ofBitVec s.toBitVec = s := by
  cases s <;> rfl

theorem toNat_packComponents (s : Sign) (e : BitVec 11) (m : BitVec 52) :
    (packComponents Format.binary64 s e m).toNat = s.toBitVec.toNat * 2 ^ 63 + (e.toNat * 2 ^ 52 + m.toNat) := by
  have hm := m.isLt
  have he := e.isLt
  rw [packComponents, BitVec.toNat_append, BitVec.toNat_append, ← Nat.shiftLeft_add_eq_or_of_lt hm,
    ← Nat.shiftLeft_add_eq_or_of_lt he, Nat.shiftLeft_eq, Nat.shiftLeft_eq]
  change (s.toBitVec.toNat * 2 ^ 11 + e.toNat) * 2 ^ 52 + m.toNat = _
  omega

end Bits

/-! ### Unpacking -/

section Unpacking

/-- The fraction of some bits with the leading one that is not written. -/
theorem toNat_implicit (b : BitVec 64) :
    (1#1 ++ @unpackMantissa Format.binary64 b).toNat = 2 ^ 52 + b.toNat % 2 ^ 63 % 2 ^ 52 := by
  have hlt : b.toNat % 2 ^ 63 % 2 ^ 52 < 2 ^ 52 := Nat.mod_lt _ (by decide)
  rw [BitVec.toNat_append, toNat_unpackMantissa, ← Nat.shiftLeft_add_eq_or_of_lt hlt]
  rfl

/-- What some bits stand for. -/
theorem unpack_bits (b : BitVec 64) :
    UnpackedFloat.unpack Format.binary64 b =
      ofPlace (Sign.ofBitVec (@unpackSign Format.binary64 b)) (b.toNat % 2 ^ 63) := by
  generalize hp : b.toNat % 2 ^ 63 = p
  have hbound : p < 2 ^ 63 := by
    rw [← hp]
    exact Nat.mod_lt _ (by decide)
  have hinfinite : infinitePlace = 2047 * 2 ^ 52 := rfl
  have hexponent : (@unpackExponent Format.binary64 b).toNat = p / 2 ^ 52 := by
    rw [toNat_unpackExponent, hp]
  have hmantissa : (@unpackMantissa Format.binary64 b).toNat = p % 2 ^ 52 := by
    rw [toNat_unpackMantissa, hp]
  have hones : @unpackExponent Format.binary64 b = -1#_ ↔ p / 2 ^ 52 = 2047 := by
    rw [← BitVec.toNat_inj, hexponent]
    rfl
  have hnone : @unpackExponent Format.binary64 b = 0#_ ↔ p / 2 ^ 52 = 0 := by
    rw [← BitVec.toNat_inj, hexponent]
    rfl
  have hzero : @unpackMantissa Format.binary64 b = 0#_ ↔ p % 2 ^ 52 = 0 := by
    rw [← BitVec.toNat_inj, hmantissa]
    rfl
  have himplicit : (1#1 ++ @unpackMantissa Format.binary64 b).toNat = 2 ^ 52 + p % 2 ^ 52 := by
    rw [toNat_implicit, hp]
  rw [UnpackedFloat.unpack]
  dsimp only
  -- The bits without the sign are the exponent in front of the fraction, so that every case is one of the place.
  simp only [hones, hnone, hzero, hmantissa, himplicit, hexponent]
  by_cases htop : p / 2 ^ 52 = 2047
  · rw [if_pos htop]
    by_cases hfraction : p % 2 ^ 52 = 0
    · have hplace : p = infinitePlace := by omega
      rw [if_pos hfraction, hplace, ofPlace_infinite]
    · rw [if_neg hfraction, ofPlace_above (by omega)]
  · rw [if_neg htop]
    by_cases hlow : p / 2 ^ 52 = 0
    · rw [if_pos hlow]
      by_cases hfraction : p % 2 ^ 52 = 0
      · have hplace : p = 0 := by omega
        rw [dif_pos hfraction, hplace, ofPlace_zero]
      · obtain ⟨hsignificand, hunit⟩ := units_of_subnormal hlow
        rw [dif_neg hfraction, ofPlace_finite (by omega) (by omega)]
        simp only [hsignificand, hunit, hlow]
        rfl
    · obtain ⟨hsignificand, hunit⟩ := units_of_normal hlow
      rw [if_neg hlow, ofPlace_finite (by omega) (by omega)]
      simp only [hsignificand, hunit]
      rfl

variable (x : Float)

/-- The sign of a double. -/
def sign : Sign := Sign.ofBitVec (@unpackSign Format.binary64 x.toBits.toBitVec)

/-- The place of a double: its bits without the sign. -/
def place : Nat := x.toBits.toNat % 2 ^ 63

theorem unpack_eq : x.toModel.unpack = ofPlace (sign x) (place x) :=
  unpack_bits x.toBits.toBitVec

end Unpacking

/-! ### Packing -/

section Packing

variable {s : Sign} {p m : Nat} {e : Int}

/-- The double that some components make up. -/
theorem place_pack {u : UnpackedFloat} {e : BitVec 11} {m : BitVec 52}
    (h : UnpackedFloat.pack Format.binary64 u = packComponents Format.binary64 s e m) :
    sign (.ofModel (.pack u)) = s ∧ place (.ofModel (.pack u)) = e.toNat * 2 ^ 52 + m.toNat := by
  have hbits : (Float.ofModel (.pack u)).toBits.toBitVec = packComponents Format.binary64 s e m := h
  have hm : m.toNat < 2 ^ 52 := m.isLt
  have he : e.toNat < 2 ^ 11 := e.isLt
  have hs : s.toBitVec.toNat < 2 := s.toBitVec.isLt
  constructor
  · have hsign : @unpackSign Format.binary64 (packComponents Format.binary64 s e m) = s.toBitVec := by
      rw [← BitVec.toNat_inj, toNat_unpackSign, toNat_packComponents]
      omega
    rw [sign, hbits, hsign, sign_toBitVec]
  · have hplace : place (.ofModel (.pack u)) = (packComponents Format.binary64 s e m).toNat % 2 ^ 63 :=
      congrArg (fun b : BitVec 64 => b.toNat % 2 ^ 63) hbits
    rw [hplace, toNat_packComponents]
    omega

theorem place_pack_zero : sign (.ofModel (.pack (.zero s))) = s ∧ place (.ofModel (.pack (.zero s))) = 0 := by
  have hpack : UnpackedFloat.pack Format.binary64 (.zero s) = packComponents Format.binary64 s 0#11 0#52 := rfl
  exact place_pack hpack

theorem place_pack_infinity :
    sign (.ofModel (.pack (.infinity s))) = s ∧ place (.ofModel (.pack (.infinity s))) = infinitePlace := by
  have hpack : UnpackedFloat.pack Format.binary64 (.infinity s) = packComponents Format.binary64 s (-1#11) 0#52 := rfl
  have hones : (-1#11).toNat = 2047 := by decide
  have hzeros : (0#52).toNat = 0 := by decide
  have h := place_pack hpack
  rw [hones, hzeros] at h
  exact h

theorem place_pack_notANumber : infinitePlace < place (.ofModel (.pack .notANumber)) := by
  have hpack : UnpackedFloat.pack Format.binary64 .notANumber =
      packComponents Format.binary64 .positive (-1#11) (1#52 <<< 51) := rfl
  rw [(place_pack hpack).2]
  decide

/-- The components of a finite number; from an exponent on it is infinite. -/
theorem pack_finite (h : 0 < m) :
    UnpackedFloat.pack Format.binary64 (.finite s m e h) =
      if 2 ^ 11 ≤ (e + 1075).toNat + 1 then packComponents Format.binary64 s (-1#11) 0#52
      else if m.log2 + 1 = 53 then
        packComponents Format.binary64 s (BitVec.ofNat 11 (e + 1075).toNat) (BitVec.ofNat 52 m)
      else packComponents Format.binary64 s 0#11 (BitVec.ofNat 52 m) := by
  have hbiased : e + Format.binary64.exponentBias + Format.binary64.mantissaBitsWithoutImplicit = e + 1075 := by
    have hbias : (Format.binary64.exponentBias : Int) = 1023 := rfl
    have hfraction : (Format.binary64.mantissaBitsWithoutImplicit : Int) = 52 := rfl
    omega
  rw [UnpackedFloat.pack, hbiased]
  rfl

/-- A number of units that fits its unit is packed into its place, or into infinity. -/
theorem place_pack_finite (h : 0 < m) (hm : m < 2 ^ 53) (he : -1074 ≤ e) (hunit : 2 ^ 52 ≤ m ∨ e = -1074) :
    sign (.ofModel (.pack (.finite s m e h))) = s ∧
      place (.ofModel (.pack (.finite s m e h))) = min ((e + 1074).toNat * 2 ^ 52 + m) infinitePlace := by
  have hpack := pack_finite (s := s) (e := e) h
  by_cases hover : 2 ^ 11 ≤ (e + 1075).toNat + 1
  · rw [if_pos hover] at hpack
    obtain ⟨hsign, hplace⟩ := place_pack hpack
    have htop : infinitePlace ≤ (e + 1074).toNat * 2 ^ 52 + m := by
      rw [infinitePlace]
      omega
    rw [Nat.min_eq_right htop]
    exact ⟨hsign, hplace⟩
  · rw [if_neg hover] at hpack
    have htop : (e + 1074).toNat * 2 ^ 52 + m ≤ infinitePlace := by
      rw [infinitePlace]
      omega
    have hfraction : (BitVec.ofNat 52 m).toNat = m % 2 ^ 52 := BitVec.toNat_ofNat m 52
    rw [Nat.min_eq_left htop]
    -- The leading bit is not written: it is what the exponent of a number that has it is more than `e + 1074`.
    by_cases hlarge : 2 ^ 52 ≤ m
    · have hlog : m.log2 = 52 := (Nat.log2_eq_iff (by omega)).mpr ⟨hlarge, hm⟩
      rw [if_pos (by omega)] at hpack
      obtain ⟨hsign, hplace⟩ := place_pack hpack
      have hexponent : (BitVec.ofNat 11 (e + 1075).toNat).toNat = (e + 1075).toNat % 2 ^ 11 :=
        BitVec.toNat_ofNat _ 11
      refine ⟨hsign, hplace.trans ?_⟩
      rw [hexponent, hfraction]
      omega
    · have hlog : m.log2 < 52 := (Nat.log2_lt (by omega)).mpr (by omega)
      rw [if_neg (by omega)] at hpack
      obtain ⟨hsign, hplace⟩ := place_pack hpack
      have hexponent : (0#11).toNat = 0 := rfl
      refine ⟨hsign, hplace.trans ?_⟩
      rw [hexponent, hfraction]
      omega

/-- What stands at a place is packed into it. -/
theorem pack_ofPlace (h : p ≤ infinitePlace) :
    sign (.ofModel (.pack (ofPlace s p))) = s ∧ place (.ofModel (.pack (ofPlace s p))) = p := by
  rcases place_cases h with rfl | ⟨hpos, hlt⟩ | rfl
  · exact place_pack_zero
  · rw [ofPlace_finite hpos hlt]
    obtain ⟨hsign, hplace⟩ := place_pack_finite (s := s) (significand_pos hpos) significand_lt unit_ge
      le_significand_or_unit
    rw [place_of_unit, Nat.min_eq_left h] at hplace
    exact ⟨hsign, hplace⟩
  · rw [ofPlace_infinite]
    exact place_pack_infinity

end Packing

end Double
end RepoSurvey
