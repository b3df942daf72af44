import RepoSurvey.Proofs.Number.DoubleRounding

/-!
# Arithmetic of doubles of any sign

Each operation on finite doubles gives the exact result rounded: its magnitude goes to the place that it is rounded to,
and its sign is kept.

* `IsRankOf v r`: the rank that a number of any sign is rounded to; `IsRankOf.mono`: rounding keeps the order.
* `Rounded x v`: the double that a number is rounded to.
* `rounded_add`, `rounded_sub`, `rounded_mul`, `rounded_div`: the four operations on finite doubles.
* `Rounded.isSome_of_le`: what is rounded to a finite double.
* `isSome_rank?_add`, `isSome_rank?_sub`: an infinity and a finite double have a sum and a difference.
-/

namespace RepoSurvey
namespace Double

open Float.Model Float.Model.UnpackedFloat

/-! ### Signs -/

section Signs

variable {s s' : Sign} {v w : Rat} {p q : Nat} {r r' : Int}

/-- A magnitude with a sign. -/
def signed (s : Sign) (v : Rat) : Rat := (s.apply 1 : Int) * v

theorem signed_positive (v : Rat) : signed .positive v = v := by
  have hone : Sign.positive.apply 1 = 1 := rfl
  rw [signed, hone, Int.cast_one, one_mul]

theorem signed_negative (v : Rat) : signed .negative v = -v := by
  have hone : Sign.negative.apply 1 = -1 := rfl
  rw [signed, hone, Int.cast_neg, Int.cast_one, neg_one_mul]

theorem signed_zero (s : Sign) : signed s 0 = 0 := mul_zero _

theorem signed_mul_right (s : Sign) (v w : Rat) : signed s (v * w) = signed s v * w := (mul_assoc _ _ _).symm

theorem signed_neg (s : Sign) (v : Rat) : signed (-s) v = -signed s v := by
  cases s
  · have hback : -Sign.negative = Sign.positive := rfl
    rw [hback, signed_positive, signed_negative, neg_neg]
  · have hback : -Sign.positive = Sign.negative := rfl
    rw [hback, signed_positive, signed_negative]

theorem signed_mul (s s' : Sign) (v w : Rat) : signed (s * s') (v * w) = signed s v * signed s' w := by
  have hsigns : (s * s').apply 1 = s.apply 1 * s'.apply 1 := by cases s <;> cases s' <;> rfl
  rw [signed, signed, signed, hsigns, Int.cast_mul]
  ring

theorem signed_div (s s' : Sign) (v w : Rat) : signed (s / s') (v / w) = signed s v / signed s' w := by
  have hsigns : (s / s').apply 1 = s.apply 1 * s'.apply 1 := by cases s <;> cases s' <;> rfl
  have hinverse : ((s'.apply 1 : Int) : Rat)⁻¹ = (s'.apply 1 : Int) := by
    cases s'
    · have hone : Sign.negative.apply 1 = -1 := rfl
      rw [hone]
      norm_num
    · have hone : Sign.positive.apply 1 = 1 := rfl
      rw [hone]
      norm_num
  rw [signed, signed, signed, hsigns, Int.cast_mul, mul_div_mul_comm, div_eq_mul_inv ((s.apply 1 : Int) : Rat), hinverse]

theorem cast_apply (s : Sign) (n : Nat) : ((s.apply n : Int) : Rat) = signed s n := by
  cases s
  · rw [signed_negative]
    exact Int.cast_neg _
  · rw [signed_positive]
    exact Int.cast_natCast _

/-- The rank that a number is rounded to: the place of its magnitude, with its sign. -/
def IsRankOf (v : Rat) (r : Int) : Prop := ∃ p : Nat, IsPlaceOf |v| p ∧ r = if v < 0 then -(p : Int) else p

theorem isRankOf_signed (hv : 0 ≤ v) (h : IsPlaceOf v p) : IsRankOf (signed s v) (s.apply p) := by
  cases s
  · refine ⟨p, ?_, ?_⟩
    · rwa [signed_negative, abs_neg, abs_of_nonneg hv]
    · rw [signed_negative]
      split
      · rfl
      · next hnone =>
        obtain rfl : v = 0 := le_antisymm (by linarith) hv
        have hzero := isPlaceOf_placed (Nat.zero_le infinitePlace)
        rw [placed_zero] at hzero
        rw [h.unique hzero]
        rfl
  · refine ⟨p, ?_, ?_⟩
    · rwa [signed_positive, abs_of_nonneg hv]
    · rw [signed_positive, if_neg (not_lt.mpr hv)]
      rfl

/-- What is not less is not rounded to a lower rank. -/
theorem IsRankOf.mono (h : v ≤ w) (hr : IsRankOf v r) (hr' : IsRankOf w r') : r ≤ r' := by
  obtain ⟨p, hp, rfl⟩ := hr
  obtain ⟨q, hq, rfl⟩ := hr'
  by_cases hv : v < 0
  · rw [if_pos hv]
    by_cases hw : w < 0
    · have hback := hq.mono (abs_le_abs_of_nonpos hw.le h) hp
      rw [if_pos hw]
      omega
    · rw [if_neg hw]
      omega
  · have hw : ¬ w < 0 := fun hw => hv (h.trans_lt hw)
    have hforth := hp.mono (abs_le_abs_of_nonneg (not_lt.mp hv) h) hq
    rw [if_neg hv, if_neg hw]
    omega

end Signs

/-! ### Rounded numbers -/

section Rounded

variable {x y : Float} {s : Sign} {v w : Rat} {p : Nat}

/-- The double that a number is rounded to; a zero may have either sign. -/
def Rounded (x : Float) (v : Rat) : Prop := ∃ r, rank? x = some r ∧ IsRankOf v r

theorem rounded_ofRat (q : Rat) : Rounded (ofRat q) q := by
  obtain ⟨p, hplace, hrank⟩ := rank?_ofRat q
  exact ⟨_, hrank, p, hplace, rfl⟩

theorem rounded_pack {u : UnpackedFloat} (hv : 0 ≤ v) (hsign : sign (.ofModel (.pack u)) = s)
    (hplace : IsPlaceOf v (place (.ofModel (.pack u)))) : Rounded (.ofModel (.pack u)) (signed s v) := by
  refine ⟨s.apply (place (.ofModel (.pack u))), ?_, isRankOf_signed hv hplace⟩
  rw [rank?, if_pos hplace.le_infinitePlace, hsign]

theorem rounded_ofPlace (hp : p ≤ infinitePlace) : Rounded (.ofModel (.pack (ofPlace s p))) (signed s (placed p)) := by
  obtain ⟨hsign, hplace⟩ := pack_ofPlace (s := s) hp
  refine rounded_pack (placed_nonneg p) hsign ?_
  rw [hplace]
  exact isPlaceOf_placed hp

theorem rounded_zero (s : Sign) : Rounded (.ofModel (.pack (.zero s))) 0 := by
  have h := rounded_ofPlace (s := s) (Nat.zero_le infinitePlace)
  rwa [placed_zero, signed_zero] at h

/-- A finite double stands at a place with its sign. -/
theorem unpack_of_toRat? (h : toRat? x = some v) :
    ∃ s, ∃ p < infinitePlace, x.toModel.unpack = ofPlace s p ∧ v = signed s (placed p) := by
  rw [toRat?_eq] at h
  split at h
  · next hfinite => exact ⟨sign x, place x, hfinite, unpack_eq x, (Option.some.inj h).symm⟩
  · exact absurd h nofun

theorem rounded_of_toRat? (h : toRat? x = some v) : Rounded x v := by
  rw [toRat?_eq] at h
  split at h
  · next hfinite =>
    refine ⟨(sign x).apply (place x), if_pos hfinite.le, ?_⟩
    rw [← Option.some.inj h]
    exact isRankOf_signed (placed_nonneg _) (isPlaceOf_placed hfinite.le)
  · exact absurd h nofun

theorem standsAt_zero : StandsAt (ofRat 0) 0 := by
  obtain ⟨p, hstands, hplace⟩ := standsAt_ofRat (q := 0) le_rfl
  have hzero : IsPlaceOf 0 0 := by
    rw [← placed_zero]
    exact isPlaceOf_placed (Nat.zero_le _)
  rwa [hplace.unique hzero] at hstands

theorem standsAt_zeroLike (x : Float) : StandsAt (Scalar.zeroLike x) 0 := by
  have hminus : rank? (-(ofRat 0)) = some 0 := by
    rw [rank?_neg, standsAt_zero]
    rfl
  rw [Scalar.zeroLike]
  split
  · exact hminus
  · exact standsAt_zero

theorem Rounded.le (hx : Rounded x v) (hy : Rounded y w) (h : v ≤ w) : x ≤ y := by
  obtain ⟨r, hr, hrank⟩ := hx
  obtain ⟨r', hr', hrank'⟩ := hy
  exact (le_iff x y).mpr ⟨r, r', hr, hr', hrank.mono h hrank'⟩

theorem Rounded.isPlaceOf (hx : Rounded x v) : IsPlaceOf |v| (place x) := by
  obtain ⟨r, hr, p, hp, hrank⟩ := hx
  have hplace : place x = p := by
    rw [rank?] at hr
    split at hr
    · have hvalue := Option.some.inj hr
      rcases hsign : sign x <;> rw [hsign, Sign.apply] at hvalue <;> split at hrank <;> omega
    · cases hr
  rw [hplace]
  exact hp

/-- A number of no greater magnitude than one that is rounded to a finite double is rounded to a finite double. -/
theorem Rounded.isSome_of_rounded (hx : Rounded x v) (hy : Rounded y w) (hfinite : (toRat? y).isSome)
    (h : |v| ≤ |w|) : (toRat? x).isSome := by
  rw [isSome_toRat?] at hfinite ⊢
  exact (hx.isPlaceOf.mono h hy.isPlaceOf).trans_lt hfinite

theorem Rounded.isSome_of_le (hx : Rounded x v) (hy : toRat? y = some w) (h : |v| ≤ |w|) : (toRat? x).isSome :=
  hx.isSome_of_rounded (rounded_of_toRat? hy) (Option.isSome_of_eq_some hy) h

/-- A number that is not negative is rounded to a place. -/
theorem Rounded.standsAt (hx : Rounded x v) (hv : 0 ≤ v) : ∃ p, StandsAt x p ∧ IsPlaceOf v p := by
  obtain ⟨r, hr, p, hp, rfl⟩ := hx
  rw [if_neg (not_lt.mpr hv)] at hr
  rw [abs_of_nonneg hv] at hp
  exact ⟨p, hr, hp⟩

end Rounded

/-! ### Operations -/

section Operations

variable {x y : Float} {s s' : Sign} {v w : Rat} {p q : Nat} {e : Int}

theorem rounded_normalize (n e : Int) (s : Sign) :
    Rounded (.ofModel (.pack (UnpackedFloat.normalize Format.binary64 n e s))) (n * 2 ^ e) := by
  rcases Int.lt_trichotomy n 0 with hlt | rfl | hgt
  · obtain ⟨m, rfl⟩ : ∃ m : Nat, n = -(m : Int) := ⟨n.natAbs, by omega⟩
    have hround : UnpackedFloat.normalize Format.binary64 (-(m : Int)) e s =
        UnpackedFloat.round Format.binary64 .negative m e := by
      rw [UnpackedFloat.normalize, Int.compare_eq_lt.mpr hlt]
      dsimp only
      rw [Int.neg_neg, Int.toNat_natCast]
    obtain ⟨hsign, hplace⟩ := isPlaceOf_round (s := .negative) (m := m) (e := e) (by omega)
    have h := rounded_pack (mul_nonneg (Nat.cast_nonneg m) (two_zpow_pos e).le) hsign hplace
    rw [hround, Int.cast_neg, Int.cast_natCast, neg_mul, ← signed_negative]
    exact h
  · have hzero : UnpackedFloat.normalize Format.binary64 0 e s = .zero s := rfl
    rw [hzero, Int.cast_zero, zero_mul]
    exact rounded_zero s
  · obtain ⟨m, rfl⟩ : ∃ m : Nat, n = m := ⟨n.natAbs, by omega⟩
    have hround : UnpackedFloat.normalize Format.binary64 (m : Int) e s =
        UnpackedFloat.round Format.binary64 .positive m e := by
      rw [UnpackedFloat.normalize, Int.compare_eq_gt.mpr hgt]
      dsimp only
      rw [Int.toNat_natCast]
    obtain ⟨hsign, hplace⟩ := isPlaceOf_round (s := .positive) (m := m) (e := e) (by omega)
    have h := rounded_pack (mul_nonneg (Nat.cast_nonneg m) (two_zpow_pos e).le) hsign hplace
    rw [hround, Int.cast_natCast, ← signed_positive (m * 2 ^ e)]
    exact h

theorem rounded_add_ofPlace (hp : p < infinitePlace) (hq : q < infinitePlace) :
    Rounded (.ofModel (.pack (UnpackedFloat.add Format.binary64 (ofPlace s p) (ofPlace s' q))))
      (signed s (placed p) + signed s' (placed q)) := by
  rcases Nat.eq_zero_or_pos p with rfl | hppos
  · rw [placed_zero, signed_zero, zero_add]
    rcases Nat.eq_zero_or_pos q with rfl | hqpos
    · have hzero : ∃ t, UnpackedFloat.add Format.binary64 (ofPlace s 0) (ofPlace s' 0) = .zero t := by
        cases s <;> cases s' <;> exact ⟨_, rfl⟩
      obtain ⟨t, ht⟩ := hzero
      rw [ht, placed_zero, signed_zero]
      exact rounded_zero t
    · have hkept : UnpackedFloat.add Format.binary64 (ofPlace s 0) (ofPlace s' q) = ofPlace s' q := by
        rw [ofPlace_zero, ofPlace_finite hqpos hq]
        rfl
      rw [hkept]
      exact rounded_ofPlace hq.le
  · rcases Nat.eq_zero_or_pos q with rfl | hqpos
    · have hkept : UnpackedFloat.add Format.binary64 (ofPlace s p) (ofPlace s' 0) = ofPlace s p := by
        rw [ofPlace_zero, ofPlace_finite hppos hp]
        rfl
      rw [hkept, placed_zero, signed_zero, add_zero]
      exact rounded_ofPlace hp.le
    · -- Both are put over the smaller unit.
      have hopened : UnpackedFloat.add Format.binary64 (ofPlace s p) (ofPlace s' q) =
          UnpackedFloat.normalize Format.binary64
            (s.apply (significand p <<< (unit p - min (unit p) (unit q)).toNat : Nat) +
              s'.apply (significand q <<< (unit q - min (unit p) (unit q)).toNat : Nat))
            (min (unit p) (unit q)) .positive := by
        rw [ofPlace_finite hppos hp, ofPlace_finite hqpos hq]
        rfl
      have hleft := shiftLeft_mul_zpow (significand p) (unit p - min (unit p) (unit q)).toNat (unit p)
      have hright := shiftLeft_mul_zpow (significand q) (unit q - min (unit p) (unit q)).toNat (unit q)
      rw [show unit p - ((unit p - min (unit p) (unit q)).toNat : Int) = min (unit p) (unit q) by omega,
        ← placed] at hleft
      rw [show unit q - ((unit q - min (unit p) (unit q)).toNat : Int) = min (unit p) (unit q) by omega,
        ← placed] at hright
      have h := rounded_normalize (s.apply (significand p <<< (unit p - min (unit p) (unit q)).toNat : Nat) +
        s'.apply (significand q <<< (unit q - min (unit p) (unit q)).toNat : Nat)) (min (unit p) (unit q)) .positive
      rw [Int.cast_add, cast_apply, cast_apply, add_mul, ← signed_mul_right, ← signed_mul_right, hleft, hright] at h
      rw [hopened]
      exact h

/-- The sum of two finite doubles. -/
theorem rounded_add (hx : toRat? x = some v) (hy : toRat? y = some w) : Rounded (x + y) (v + w) := by
  have hsum : x + y = .ofModel (.pack (UnpackedFloat.add Format.binary64 x.toModel.unpack y.toModel.unpack)) := rfl
  obtain ⟨s, p, hp, hux, rfl⟩ := unpack_of_toRat? hx
  obtain ⟨s', q, hq, huy, rfl⟩ := unpack_of_toRat? hy
  rw [hsum, hux, huy]
  exact rounded_add_ofPlace hp hq

/-- A difference is a sum with the opposite. -/
theorem sub_eq_add_opposite (a b : UnpackedFloat) :
    UnpackedFloat.sub Format.binary64 a b = UnpackedFloat.add Format.binary64 a b.neg := by
  rcases a with ⟨⟨⟩⟩ | _ | ⟨⟨⟩⟩ | ⟨s, m, e, hm⟩ <;> rcases b with ⟨⟨⟩⟩ | _ | ⟨⟨⟩⟩ | ⟨⟨⟩, m', e', hm'⟩ <;> try rfl
  exact congrArg (UnpackedFloat.normalize Format.binary64 · (min e e') .positive)
    ((Int.sub_eq_add_neg).trans (congrArg _ (Int.neg_neg _)))

/-- The difference of two finite doubles. -/
theorem rounded_sub (hx : toRat? x = some v) (hy : toRat? y = some w) : Rounded (x - y) (v - w) := by
  have hdifference : x - y =
      .ofModel (.pack (UnpackedFloat.sub Format.binary64 x.toModel.unpack y.toModel.unpack)) := rfl
  obtain ⟨s, p, hp, hux, rfl⟩ := unpack_of_toRat? hx
  obtain ⟨s', q, hq, huy, rfl⟩ := unpack_of_toRat? hy
  rw [hdifference, hux, huy, sub_eq_add_opposite, ← ofPlace_neg hq.le, sub_eq_add_neg, ← signed_neg]
  exact rounded_add_ofPlace hp hq

/-- A product of significands has at least as many units as its result. -/
theorem unit_add_le_unitOf (hp : 0 < p) (hq : 0 < q) :
    unit p + unit q ≤ unitOf (significand p * significand q) (unit p + unit q) := by
  have hsp := significand_pos hp
  have hsq := significand_pos hq
  have hlong : 2 ^ 52 ≤ significand p * significand q →
      unit p + unit q ≤ unitOf (significand p * significand q) (unit p + unit q) := by
    intro hlarge
    have hlog : 52 ≤ (significand p * significand q).log2 := (Nat.le_log2 (by omega)).mpr hlarge
    rw [unitOf]
    omega
  rcases le_significand_or_unit (p := p) with hlarge | hleast
  · exact hlong (hlarge.trans (Nat.le_mul_of_pos_right _ hsq))
  · rcases le_significand_or_unit (p := q) with hlarge | hleast'
    · exact hlong (hlarge.trans (Nat.le_mul_of_pos_left _ hsp))
    · rw [unitOf]
      omega

/-- The product of two finite doubles. -/
theorem rounded_mul (hx : toRat? x = some v) (hy : toRat? y = some w) : Rounded (x * y) (v * w) := by
  have hproduct : x * y = .ofModel (.pack (UnpackedFloat.mul Format.binary64 x.toModel.unpack y.toModel.unpack)) := rfl
  obtain ⟨s, p, hp, hux, rfl⟩ := unpack_of_toRat? hx
  obtain ⟨s', q, hq, huy, rfl⟩ := unpack_of_toRat? hy
  rw [hproduct, hux, huy]
  rcases Nat.eq_zero_or_pos p with rfl | hppos
  · have hzero : UnpackedFloat.mul Format.binary64 (ofPlace s 0) (ofPlace s' q) = .zero (s * s') := by
      rcases Nat.eq_zero_or_pos q with rfl | hqpos
      · rfl
      · rw [ofPlace_finite hqpos hq]
        rfl
    rw [hzero, placed_zero, signed_zero, zero_mul]
    exact rounded_zero _
  · rcases Nat.eq_zero_or_pos q with rfl | hqpos
    · have hzero : UnpackedFloat.mul Format.binary64 (ofPlace s p) (ofPlace s' 0) = .zero (s * s') := by
        rw [ofPlace_finite hppos hp]
        rfl
      rw [hzero, placed_zero, signed_zero, mul_zero]
      exact rounded_zero _
    · have hpos : 0 < significand p * significand q := Nat.mul_pos (significand_pos hppos) (significand_pos hqpos)
      have hvalue : ((significand p * significand q : Nat) : Rat) * 2 ^ (unit p + unit q) = placed p * placed q := by
        rw [Nat.cast_mul, two_zpow_add, mul_mul_mul_comm, placed, placed]
      obtain ⟨hsign, hplace⟩ := isPlaceOf_roundWithAccuracy (s := s * s') hpos (unit_add_le_unitOf hppos hqpos)
      rw [hvalue] at hplace
      rw [← signed_mul, ofPlace_finite hppos hp, ofPlace_finite hqpos hq]
      exact rounded_pack (mul_nonneg (placed_nonneg p) (placed_nonneg q)) hsign hplace

/-- The quotient of two finite doubles, the second of them not zero. -/
theorem rounded_div (hx : toRat? x = some v) (hy : toRat? y = some w) (hw : w ≠ 0) : Rounded (x / y) (v / w) := by
  have hquotient : x / y = .ofModel (.pack (UnpackedFloat.div Format.binary64 x.toModel.unpack y.toModel.unpack)) :=
    rfl
  obtain ⟨s, p, hp, hux, rfl⟩ := unpack_of_toRat? hx
  obtain ⟨s', q, hq, huy, rfl⟩ := unpack_of_toRat? hy
  have hqpos : 0 < q := by
    refine Nat.pos_of_ne_zero fun hzero => hw ?_
    rw [hzero, placed_zero, signed_zero]
  rw [hquotient, hux, huy]
  rcases Nat.eq_zero_or_pos p with rfl | hppos
  · have hzero : UnpackedFloat.div Format.binary64 (ofPlace s 0) (ofPlace s' q) = .zero (s / s') := by
      rw [ofPlace_finite hqpos hq]
      rfl
    rw [hzero, placed_zero, signed_zero, zero_div]
    exact rounded_zero _
  · obtain ⟨hsign, hplace⟩ := isPlaceOf_div s s' (unit p) (unit q) (significand_pos hppos)
      (significand_pos hqpos)
    rw [← signed_div, ofPlace_finite hppos hp, ofPlace_finite hqpos hq]
    exact rounded_pack (div_nonneg (placed_nonneg p) (placed_nonneg q)) hsign hplace

end Operations

/-! ### Numbers -/

section Numbers

variable {x y : Float} {s : Sign}

theorem isSome_rank?_of_toRat? (h : (toRat? x).isSome) : (rank? x).isSome := by
  obtain ⟨v, hv⟩ := Option.isSome_iff_exists.mp h
  obtain ⟨r, hr, -⟩ := rounded_of_toRat? hv
  exact Option.isSome_of_eq_some hr

/-- A number that is not finite is an infinity. -/
theorem unpack_of_infinite (hnumber : (rank? x).isSome) (hfinite : ¬ (toRat? x).isSome) :
    ∃ s, x.toModel.unpack = .infinity s := by
  rw [isSome_toRat?] at hfinite
  have hplace : place x = infinitePlace := by
    by_contra hother
    have hnone := (rank?_eq_none x).mpr (by omega)
    rw [hnone] at hnumber
    exact Bool.false_ne_true hnumber
  exact ⟨sign x, by rw [unpack_eq, hplace, ofPlace_infinite]⟩

theorem isSome_rank?_infinity (s : Sign) : (rank? (.ofModel (.pack (.infinity s)))).isSome := by
  rw [rank?, place_pack_infinity.2, if_pos le_rfl]
  rfl

/-- A number and a finite double have a sum, in either order. -/
theorem isSome_rank?_add (hx : (rank? x).isSome) (hy : (toRat? y).isSome) :
    (rank? (x + y)).isSome ∧ (rank? (y + x)).isSome := by
  obtain ⟨w, hw⟩ := Option.isSome_iff_exists.mp hy
  by_cases hfinite : (toRat? x).isSome
  · obtain ⟨v, hv⟩ := Option.isSome_iff_exists.mp hfinite
    obtain ⟨r, hr, -⟩ := rounded_add hv hw
    obtain ⟨r', hr', -⟩ := rounded_add hw hv
    exact ⟨Option.isSome_of_eq_some hr, Option.isSome_of_eq_some hr'⟩
  · obtain ⟨s, hux⟩ := unpack_of_infinite hx hfinite
    obtain ⟨s', q, hq, huy, -⟩ := unpack_of_toRat? hw
    have hsum : x + y = .ofModel (.pack (UnpackedFloat.add Format.binary64 x.toModel.unpack y.toModel.unpack)) := rfl
    have hsum' : y + x = .ofModel (.pack (UnpackedFloat.add Format.binary64 y.toModel.unpack x.toModel.unpack)) := rfl
    have hkept : UnpackedFloat.add Format.binary64 (.infinity s) (ofPlace s' q) = .infinity s ∧
        UnpackedFloat.add Format.binary64 (ofPlace s' q) (.infinity s) = .infinity s := by
      rcases Nat.eq_zero_or_pos q with rfl | hqpos
      · exact ⟨rfl, rfl⟩
      · rw [ofPlace_finite hqpos hq]
        exact ⟨rfl, rfl⟩
    rw [hsum, hsum', hux, huy, hkept.1, hkept.2]
    exact ⟨isSome_rank?_infinity s, isSome_rank?_infinity s⟩

/-- A finite double less a number is a number. -/
theorem isSome_rank?_sub (hx : (toRat? x).isSome) (hy : (rank? y).isSome) : (rank? (x - y)).isSome := by
  obtain ⟨v, hv⟩ := Option.isSome_iff_exists.mp hx
  by_cases hfinite : (toRat? y).isSome
  · obtain ⟨w, hw⟩ := Option.isSome_iff_exists.mp hfinite
    obtain ⟨r, hr, -⟩ := rounded_sub hv hw
    exact Option.isSome_of_eq_some hr
  · obtain ⟨s', huy⟩ := unpack_of_infinite hy hfinite
    obtain ⟨s, p, hp, hux, -⟩ := unpack_of_toRat? hv
    have hdifference : x - y =
        .ofModel (.pack (UnpackedFloat.sub Format.binary64 x.toModel.unpack y.toModel.unpack)) := rfl
    have hkept : UnpackedFloat.sub Format.binary64 (ofPlace s p) (.infinity s') = .infinity (-s') := by
      rcases Nat.eq_zero_or_pos p with rfl | hppos
      · rfl
      · rw [ofPlace_finite hppos hp]
        rfl
    rw [hdifference, hux, huy, hkept]
    exact isSome_rank?_infinity _

theorem isSome_rank?_mul (hx : (toRat? x).isSome) (hy : (toRat? y).isSome) : (rank? (x * y)).isSome := by
  obtain ⟨v, hv⟩ := Option.isSome_iff_exists.mp hx
  obtain ⟨w, hw⟩ := Option.isSome_iff_exists.mp hy
  obtain ⟨r, hr, -⟩ := rounded_mul hv hw
  exact Option.isSome_of_eq_some hr

/-- A number that is rounded to decimal places is a number. -/
theorem isSome_rank?_roundPlaces (places : Nat) (h : (rank? x).isSome) :
    (rank? (Scalar.roundPlaces places x)).isSome := by
  cases hvalue : Scalar.toRat? x with
  | none => rwa [Scalar.roundPlaces, hvalue]
  | some q =>
    rw [Scalar.roundPlaces, hvalue]
    dsimp only
    split
    · exact Option.isSome_of_eq_some (standsAt_zeroLike x)
    · obtain ⟨r, hr, -⟩ := rounded_ofRat (Rat.roundPlaces places q)
      exact Option.isSome_of_eq_some hr

end Numbers

end Double
end RepoSurvey
