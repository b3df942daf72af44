import RepoSurvey.Proofs.Number.DoubleSigned

/-!
# Arithmetic of doubles that are not negative

Sums, products and whole numbers of doubles that are not negative are told by their places: the exact result is rounded
to the place of the outcome. They are therefore monotone.

* `StandsAt.add`, `StandsAt.sub`, `StandsAt.mul`, `StandsAt.roundPlaces`: the place of a sum, a difference, a product and a
  whole number.
* `add_mono`, `mul_mono`, `roundPlaces_mono`: the operations keep the order.
* `isSome_of_combined`: finite sums and products come from finite numbers only.
* `not_lt_sub_both`: a limit that is not negative is not exceeded in both directions.
-/

namespace RepoSurvey
namespace Double

open Float.Model Float.Model.UnpackedFloat

/-! ### Sums and products -/

section Operations

variable {x y : Float} {p q : Nat}

theorem StandsAt.add (hx : StandsAt x p) (hy : StandsAt y q) (hp : p < infinitePlace) (hq : q < infinitePlace) :
    ∃ r, StandsAt (x + y) r ∧ IsPlaceOf (placed p + placed q) r :=
  (rounded_add (hx.toRat?_eq hp) (hy.toRat?_eq hq)).standsAt (add_nonneg (placed_nonneg p) (placed_nonneg q))

/-- The difference of two doubles, the greater one first. -/
theorem StandsAt.sub (hx : StandsAt x p) (hy : StandsAt y q) (hqp : q ≤ p) (hp : p < infinitePlace) :
    ∃ r, StandsAt (x - y) r ∧ IsPlaceOf (placed p - placed q) r :=
  (rounded_sub (hx.toRat?_eq hp) (hy.toRat?_eq (hqp.trans_lt hp))).standsAt
    (sub_nonneg_of_le (placed_mono hqp hp.le))

theorem StandsAt.mul (hx : StandsAt x p) (hy : StandsAt y q) (hp : p < infinitePlace) (hq : q < infinitePlace) :
    ∃ r, StandsAt (x * y) r ∧ IsPlaceOf (placed p * placed q) r :=
  (rounded_mul (hx.toRat?_eq hp) (hy.toRat?_eq hq)).standsAt (mul_nonneg (placed_nonneg p) (placed_nonneg q))

/-- An infinite number stays infinite under additions. -/
theorem StandsAt.add_infinite (hx : StandsAt x p) (hy : StandsAt y q) (h : p = infinitePlace ∨ q = infinitePlace) :
    StandsAt (x + y) infinitePlace := by
  have hsum : x + y = .ofModel (.pack (UnpackedFloat.add Format.binary64 x.toModel.unpack y.toModel.unpack)) := rfl
  have hvalue : UnpackedFloat.add Format.binary64 x.toModel.unpack y.toModel.unpack = .infinity .positive := by
    obtain ⟨s, hux, hs⟩ := hx.unpack
    obtain ⟨s', huy, hs'⟩ := hy.unpack
    rw [hux, huy]
    have htop : infinitePlace ≠ 0 := by decide
    rcases place_cases hx.le_infinitePlace with rfl | ⟨hppos, hp⟩ | rfl
    · obtain rfl := h.resolve_left htop.symm
      obtain rfl : s' = .positive := hs'.resolve_right htop
      rw [ofPlace_infinite]
      rfl
    · obtain rfl := h.resolve_left hp.ne
      obtain rfl : s' = .positive := hs'.resolve_right htop
      rw [ofPlace_infinite, ofPlace_finite hppos hp]
      rfl
    · obtain rfl : s = .positive := hs.resolve_right htop
      rw [ofPlace_infinite]
      rcases place_cases hy.le_infinitePlace with rfl | ⟨hqpos, hq⟩ | rfl
      · rfl
      · rw [ofPlace_finite hqpos hq]
        rfl
      · obtain rfl : s' = .positive := hs'.resolve_right htop
        rw [ofPlace_infinite]
        rfl
  have hinfinite := standsAt_ofPlace (s := .positive) le_rfl (.inl rfl)
  rw [ofPlace_infinite] at hinfinite
  rw [hsum, hvalue]
  exact hinfinite

/-- What is no finite number is packed above all finite numbers. -/
theorem infinitePlace_le_pack {u : UnpackedFloat} (h : u.isFinite = false) :
    infinitePlace ≤ place (.ofModel (.pack u)) := by
  cases u with
  | notANumber => exact place_pack_notANumber.le
  | infinity s => exact place_pack_infinity.2.ge
  | zero s => exact absurd h nofun
  | finite s m e hm => exact absurd h nofun

theorem isFinite_unpack (x : Float) : x.toModel.unpack.isFinite = decide (place x < infinitePlace) := by
  rw [unpack_eq]
  rcases Nat.lt_or_ge (place x) infinitePlace with hlt | hge
  · rw [decide_eq_true hlt]
    rcases Nat.eq_zero_or_pos (place x) with hzero | hpos
    · rw [hzero]
      rfl
    · rw [ofPlace_finite hpos hlt]
      rfl
  · rw [decide_eq_false (Nat.not_lt_of_ge hge)]
    rcases Nat.eq_or_lt_of_le hge with htop | habove
    · rw [← htop, ofPlace_infinite]
      rfl
    · rw [ofPlace_above habove]
      rfl

/-- Sums and products with what is no finite number are no finite numbers. -/
theorem isFinite_combined {a b : UnpackedFloat} (h : a.isFinite = false ∨ b.isFinite = false) :
    (UnpackedFloat.add Format.binary64 a b).isFinite = false ∧
      (UnpackedFloat.mul Format.binary64 a b).isFinite = false := by
  rcases a with ⟨⟨⟩⟩ | _ | ⟨⟨⟩⟩ | ⟨s, m, e, hm⟩ <;> rcases b with ⟨⟨⟩⟩ | _ | ⟨⟨⟩⟩ | ⟨s', m', e', hm'⟩ <;>
    first | exact ⟨rfl, rfl⟩ | simp [UnpackedFloat.isFinite] at h

theorem isSome_toRat?_pack {u : UnpackedFloat} (h : (toRat? (.ofModel (.pack u))).isSome) : u.isFinite = true := by
  have hfinite := (isSome_toRat? _).mp h
  by_contra hother
  exact absurd hfinite (Nat.not_lt_of_ge (infinitePlace_le_pack (Bool.eq_false_of_not_eq_true hother)))

theorem isSome_toRat?_iff (x : Float) : (toRat? x).isSome ↔ x.toModel.unpack.isFinite = true := by
  rw [isSome_toRat?, isFinite_unpack, decide_eq_true_iff]

/-- Finite sums and products come from finite numbers only. -/
theorem isSome_of_combined (h : (toRat? (x + y)).isSome ∨ (toRat? (x * y)).isSome) :
    (toRat? x).isSome ∧ (toRat? y).isSome := by
  rw [isSome_toRat?_iff, isSome_toRat?_iff]
  by_contra hother
  have hoperand : x.toModel.unpack.isFinite = false ∨ y.toModel.unpack.isFinite = false := by
    rw [← Bool.not_eq_true, ← Bool.not_eq_true]
    exact Decidable.not_and_iff_not_or_not.mp hother
  obtain ⟨hsum, hproduct⟩ := isFinite_combined hoperand
  rcases h with h | h
  · exact absurd (isSome_toRat?_pack h) (Bool.eq_false_iff.mp hsum)
  · exact absurd (isSome_toRat?_pack h) (Bool.eq_false_iff.mp hproduct)

end Operations

/-! ### Order -/

section Order

variable {x x' y y' : Float}

theorem zero_le_iff : ofRat 0 ≤ x ↔ ∃ p, StandsAt x p := by
  constructor
  · intro h
    obtain ⟨r, r', hzero, hrank, hle⟩ := (le_iff _ _).mp h
    have hr := Option.some.inj (standsAt_zero.symm.trans hzero)
    exact standsAt_of_rank hrank (by omega)
  · rintro ⟨p, hp⟩
    exact (standsAt_zero.le_iff hp).mpr (Nat.zero_le p)

/-- Nothing is added by a finite multiple of zero, whatever sign its zero has. -/
theorem zero_add_zero_mul (h : (toRat? y).isSome) : ofRat 0 + ofRat 0 * y = ofRat 0 := by
  have hzero : ofRat 0 = .ofModel (.pack (.zero .positive)) := by decide +kernel
  have hunpack : ∀ s : Sign, (Float.Model.pack (.zero s)).unpack = .zero s := by
    intro s
    have hkept := unpack_eq (.ofModel (.pack (.zero s)))
    rw [place_pack_zero.1, place_pack_zero.2] at hkept
    exact hkept
  have hfinite := (isSome_toRat?_iff y).mp h
  have hproduct : ∃ s, UnpackedFloat.mul Format.binary64 (.zero .positive) y.toModel.unpack = .zero s := by
    cases hy : y.toModel.unpack with
    | zero s => exact ⟨_, rfl⟩
    | finite s m e hm => exact ⟨_, rfl⟩
    | infinity s =>
      rw [hy] at hfinite
      exact absurd hfinite nofun
    | notANumber =>
      rw [hy] at hfinite
      exact absurd hfinite nofun
  obtain ⟨s, hs⟩ := hproduct
  have hmul : ofRat 0 * y = .ofModel (.pack (.zero s)) := by
    have hopened : ofRat 0 * y =
        .ofModel (.pack (UnpackedFloat.mul Format.binary64 (ofRat 0).toModel.unpack y.toModel.unpack)) := rfl
    rw [hopened, hzero, hunpack, hs]
  have hadd : ofRat 0 + .ofModel (.pack (.zero s)) =
      .ofModel (.pack (UnpackedFloat.add Format.binary64 (ofRat 0).toModel.unpack
        (Float.Model.pack (.zero s)).unpack)) := rfl
  rw [hmul, hadd, hunpack, hzero, hunpack]
  cases s <;> rfl

/-- Two numbers in their order, the lower one not negative, stand at places in their order. -/
theorem exists_places (hx : ofRat 0 ≤ x) (hxx' : x ≤ x') : ∃ p p', StandsAt x p ∧ StandsAt x' p' ∧ p ≤ p' := by
  obtain ⟨p, hp⟩ := zero_le_iff.mp hx
  obtain ⟨r, r', hr, hr', hle⟩ := (le_iff _ _).mp hxx'
  have hrank := Option.some.inj (hp.symm.trans hr)
  obtain ⟨p', hp'⟩ := standsAt_of_rank hr' (by omega)
  exact ⟨p, p', hp, hp', (hp.le_iff hp').mp hxx'⟩

theorem le_refl_of_zero_le (hx : ofRat 0 ≤ x) : x ≤ x := by
  obtain ⟨p, hp⟩ := zero_le_iff.mp hx
  exact (hp.le_iff hp).mpr le_rfl

theorem isSome_of_le (hx : ofRat 0 ≤ x) (hxx' : x ≤ x') (h : (toRat? x').isSome) : (toRat? x).isSome := by
  obtain ⟨p, p', hp, hp', hle⟩ := exists_places hx hxx'
  rw [isSome_toRat?, hp'.place_eq] at h
  rw [isSome_toRat?, hp.place_eq]
  omega

/-- Sums of numbers that are not negative are monotone, infinite ones included. -/
theorem add_mono (hx : ofRat 0 ≤ x) (hxx' : x ≤ x') (hy : ofRat 0 ≤ y) (hyy' : y ≤ y') :
    ofRat 0 ≤ x + y ∧ x + y ≤ x' + y' := by
  obtain ⟨p, p', hp, hp', hple⟩ := exists_places hx hxx'
  obtain ⟨q, q', hq, hq', hqle⟩ := exists_places hy hyy'
  have hsum : ∃ r, StandsAt (x + y) r := by
    by_cases htop : p = infinitePlace ∨ q = infinitePlace
    · exact ⟨_, hp.add_infinite hq htop⟩
    · obtain ⟨r, hr, -⟩ := hp.add hq (lt_of_le_of_ne hp.le_infinitePlace fun h => htop (.inl h))
        (lt_of_le_of_ne hq.le_infinitePlace fun h => htop (.inr h))
      exact ⟨r, hr⟩
  refine ⟨zero_le_iff.mpr hsum, ?_⟩
  by_cases htop : p' = infinitePlace ∨ q' = infinitePlace
  · obtain ⟨r, hr⟩ := hsum
    exact (hr.le_iff (hp'.add_infinite hq' htop)).mpr hr.le_infinitePlace
  · have hp'lt := lt_of_le_of_ne hp'.le_infinitePlace fun h => htop (.inl h)
    have hq'lt := lt_of_le_of_ne hq'.le_infinitePlace fun h => htop (.inr h)
    obtain ⟨r, hr, hplace⟩ := hp.add hq (hple.trans_lt hp'lt) (hqle.trans_lt hq'lt)
    obtain ⟨r', hr', hplace'⟩ := hp'.add hq' hp'lt hq'lt
    refine (hr.le_iff hr').mpr (hplace.mono ?_ hplace')
    exact add_le_add (placed_mono hple hp'lt.le) (placed_mono hqle hq'lt.le)

/-- A sum of numbers that are not negative is not less than either of them. -/
theorem le_add (hx : ofRat 0 ≤ x) (hy : ofRat 0 ≤ y) : x ≤ x + y ∧ y ≤ x + y := by
  obtain ⟨p, hp⟩ := zero_le_iff.mp hx
  obtain ⟨q, hq⟩ := zero_le_iff.mp hy
  by_cases htop : p = infinitePlace ∨ q = infinitePlace
  · have hinfinite := hp.add_infinite hq htop
    exact ⟨(hp.le_iff hinfinite).mpr hp.le_infinitePlace, (hq.le_iff hinfinite).mpr hq.le_infinitePlace⟩
  · obtain ⟨r, hr, hplace⟩ := hp.add hq (lt_of_le_of_ne hp.le_infinitePlace fun h => htop (.inl h))
      (lt_of_le_of_ne hq.le_infinitePlace fun h => htop (.inr h))
    exact ⟨(hp.le_iff hr).mpr ((isPlaceOf_placed hp.le_infinitePlace).mono
        (le_add_of_nonneg_right (placed_nonneg q)) hplace),
      (hq.le_iff hr).mpr ((isPlaceOf_placed hq.le_infinitePlace).mono
        (le_add_of_nonneg_left (placed_nonneg p)) hplace)⟩

/-- Products of finite numbers that are not negative are monotone. -/
theorem mul_mono (hx : ofRat 0 ≤ x) (hxx' : x ≤ x') (hx' : (toRat? x').isSome) (hy : ofRat 0 ≤ y)
    (hfinite : (toRat? y).isSome) : ofRat 0 ≤ x * y ∧ x * y ≤ x' * y := by
  obtain ⟨p, p', hp, hp', hple⟩ := exists_places hx hxx'
  obtain ⟨q, hq⟩ := zero_le_iff.mp hy
  rw [isSome_toRat?, hp'.place_eq] at hx'
  rw [isSome_toRat?, hq.place_eq] at hfinite
  obtain ⟨r, hr, hplace⟩ := hp.mul hq (hple.trans_lt hx') hfinite
  obtain ⟨r', hr', hplace'⟩ := hp'.mul hq hx' hfinite
  refine ⟨zero_le_iff.mpr ⟨r, hr⟩, (hr.le_iff hr').mpr (hplace.mono ?_ hplace')⟩
  exact mul_le_mul_of_nonneg_right (placed_mono hple hx'.le) (placed_nonneg q)

/-- A finite number that is not negative is rounded to a whole number that is not negative. -/
theorem StandsAt.roundPlaces {p : Nat} (h : StandsAt x p) (hp : p < infinitePlace) :
    ∃ k r, IsNearest (placed p) k ∧ IsPlaceOf k r ∧ StandsAt (Scalar.roundPlaces 0 x) r := by
  obtain ⟨k, hk, hnearest⟩ := isNearest_nearest (placed_nonneg p)
  have hone : pow10 0 = 1 := rfl
  have hwhole : Rat.roundPlaces 0 (placed p) = k := by
    rw [Rat.roundPlaces, hone, Nat.cast_one, mul_one, hk, Rat.mkRat_one, Int.cast_natCast]
  have hopened : Scalar.roundPlaces 0 x = if (k : Rat) = 0 then Scalar.zeroLike x else ofRat k := by
    have hvalue : Scalar.toRat? x = some (placed p) := h.toRat?_eq hp
    rw [Scalar.roundPlaces, hvalue]
    simp only [hwhole]
    rfl
  rw [hopened]
  by_cases hzero : (k : Rat) = 0
  · rw [if_pos hzero]
    refine ⟨k, 0, hnearest, ?_, ?_⟩
    · rw [hzero, ← placed_zero]
      exact isPlaceOf_placed (Nat.zero_le _)
    · exact standsAt_zeroLike x
  · rw [if_neg hzero]
    obtain ⟨r, hr, hplace⟩ := standsAt_ofRat (Nat.cast_nonneg k)
    exact ⟨k, r, hnearest, hplace, hr⟩

/-- Rounding to whole numbers is monotone. -/
theorem roundPlaces_mono (hx : ofRat 0 ≤ x) (hxx' : x ≤ x') (hx' : (toRat? x').isSome) :
    ofRat 0 ≤ Scalar.roundPlaces 0 x ∧ Scalar.roundPlaces 0 x ≤ Scalar.roundPlaces 0 x' := by
  obtain ⟨p, p', hp, hp', hple⟩ := exists_places hx hxx'
  rw [isSome_toRat?, hp'.place_eq] at hx'
  obtain ⟨k, r, hnearest, hplace, hr⟩ := hp.roundPlaces (hple.trans_lt hx')
  obtain ⟨k', r', hnearest', hplace', hr'⟩ := hp'.roundPlaces hx'
  refine ⟨zero_le_iff.mpr ⟨r, hr⟩, (hr.le_iff hr').mpr (hplace.mono ?_ hplace')⟩
  exact Nat.cast_le.mpr (hnearest.mono (placed_mono hple hx'.le) hnearest')

end Order

/-! ### Comparisons -/

section Comparisons

variable {x y limit : Float}

theorem lt_eq_true : Scalar.lt x y = true ↔ x < y := decide_eq_true_iff

theorem le_eq_true : Scalar.le x y = true ↔ x ≤ y := decide_eq_true_iff

protected theorem le_trans {z : Float} (hxy : x ≤ y) (hyz : y ≤ z) : x ≤ z := by
  obtain ⟨r, s, hr, hs, hrs⟩ := (le_iff _ _).mp hxy
  obtain ⟨s', u, hs', hu, hsu⟩ := (le_iff _ _).mp hyz
  have hsame := Option.some.inj (hs.symm.trans hs')
  exact (le_iff _ _).mpr ⟨r, u, hr, hu, by omega⟩

/-- The smaller of two numbers that are not negative stands at the lower place. -/
theorem StandsAt.smaller {p q : Nat} (hx : StandsAt x p) (hy : StandsAt y q) :
    StandsAt (Scalar.smaller x y) (min p q) := by
  have hless : Scalar.lt y x = true ↔ q < p := by
    rw [lt_eq_true, lt_iff]
    constructor
    · rintro ⟨r, r', hr, hr', hlt⟩
      have hq := Option.some.inj (hy.symm.trans hr)
      have hp := Option.some.inj (hx.symm.trans hr')
      omega
    · exact fun hlt => ⟨q, p, hy, hx, by omega⟩
  rw [Scalar.smaller]
  split
  · next h => rwa [Nat.min_eq_right (hless.mp h).le]
  · next h => rwa [Nat.min_eq_left (Nat.le_of_not_lt fun hlt => h (hless.mpr hlt))]

/-- A finite number that is not less than zero is at least zero. -/
theorem zero_le_of_not_lt (hfinite : (Scalar.toRat? x).isSome) (h : Scalar.lt x (Scalar.ofInt 0) = false) :
    ofRat 0 ≤ x := by
  have hplace := ((isSome_toRat? x).mp hfinite).le
  have hrank : rank? x = some ((sign x).apply (place x)) := if_pos hplace
  have hnot : ¬ x < ofRat 0 := fun hlt => Bool.eq_false_iff.mp h (lt_eq_true.mpr hlt)
  refine (le_iff _ _).mpr ⟨0, _, standsAt_zero, hrank, ?_⟩
  by_contra hless
  exact hnot ((lt_iff _ _).mpr ⟨_, 0, hrank, standsAt_zero, by omega⟩)

/-- Of two opposite differences at most one is above a limit that is not negative. -/
theorem not_lt_sub_both (h : Scalar.le Scalar.zero limit) (hforth : Scalar.lt limit (x - y))
    (hback : Scalar.lt limit (y - x)) : False := by
  obtain ⟨z, l, hz, hl, hzl⟩ := (le_iff _ _).mp (le_eq_true.mp h)
  obtain ⟨l', d, hl', hd, hforth⟩ := (lt_iff _ _).mp (lt_eq_true.mp hforth)
  obtain ⟨l'', d', hl'', hd', hback⟩ := (lt_iff _ _).mp (lt_eq_true.mp hback)
  have hzero := Option.some.inj (hz.symm.trans standsAt_zero)
  rw [rank?_sub_comm, hd] at hd'
  have hsame := Option.some.inj (hl.symm.trans hl')
  have hsame' := Option.some.inj (hl.symm.trans hl'')
  have hopposite := Option.some.inj hd'
  omega

end Comparisons

end Double
end RepoSurvey
