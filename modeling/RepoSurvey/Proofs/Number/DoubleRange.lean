import RepoSurvey.Proofs.Number.DoubleArithmetic

/-!
# Doubles in a range

The order of finite doubles is that of their values, so that a number between two finite doubles is finite. The
magnitude of a sum at most doubles when it is rounded.

* `le_iff_of_toRat?`: the order of finite doubles by their values.
* `toRat?_smaller`, `toRat?_clamp`: a number kept below a bound, and one kept between two.
* `Rounded.le_two_mul`: rounding does not more than double.
* `StandsAt.sub_finite`, `rank?_div_infinite`: an infinity less a finite double, and a finite double divided by one.
-/

namespace RepoSurvey
namespace Double

open Float.Model Float.Model.UnpackedFloat

/-! ### The order of values -/

section Order

variable {x y low high : Float} {v w a b : Rat}

theorem toRat?_of_rank?_zero (h : rank? x = some 0) : toRat? x = some 0 := by
  have hstands : StandsAt x 0 := h
  rw [hstands.toRat?_eq (by decide), placed_zero]

theorem toRat?_zero : toRat? (ofRat 0) = some 0 := toRat?_of_rank?_zero standsAt_zero

/-- Finite doubles of the same rank have the same value. -/
theorem eq_of_rank?_eq {r : Int} (hx : toRat? x = some v) (hy : toRat? y = some w) (hr : rank? x = some r)
    (hr' : rank? y = some r) : v = w := by
  rcases eq_or_ne r 0 with rfl | hne
  · rw [toRat?_of_rank?_zero hr] at hx
    rw [toRat?_of_rank?_zero hr'] at hy
    rw [← Option.some.inj hx, ← Option.some.inj hy]
  · rw [eq_of_rank? hr hr' hne, hy] at hx
    exact (Option.some.inj hx).symm

theorem le_iff_of_toRat? (hx : toRat? x = some v) (hy : toRat? y = some w) : x ≤ y ↔ v ≤ w := by
  refine ⟨fun hle => ?_, (rounded_of_toRat? hx).le (rounded_of_toRat? hy)⟩
  by_contra hlt
  obtain ⟨r, hr, hrank⟩ := rounded_of_toRat? hx
  obtain ⟨r', hr', hrank'⟩ := rounded_of_toRat? hy
  obtain ⟨s, s', hs, hs', hss'⟩ := (le_iff x y).mp hle
  have hback := hrank'.mono (not_le.mp hlt).le hrank
  have hsame := Option.some.inj (hr.symm.trans hs)
  have hsame' := Option.some.inj (hr'.symm.trans hs')
  obtain rfl : r = r' := by omega
  exact hlt (eq_of_rank?_eq hx hy hr hr').le

theorem lt_eq_false_of_le (h : y ≤ x) : Scalar.lt x y = false := by
  obtain ⟨r, r', hr, hr', hle⟩ := (le_iff y x).mp h
  rw [← Bool.not_eq_true, lt_eq_true, lt_iff]
  rintro ⟨s', s, hs', hs, hlt⟩
  have hsame := Option.some.inj (hr.symm.trans hs)
  have hsame' := Option.some.inj (hr'.symm.trans hs')
  omega

theorem isSome_rank?_of_le (h : x ≤ y) : (rank? x).isSome ∧ (rank? y).isSome := by
  obtain ⟨r, r', hr, hr', -⟩ := (le_iff x y).mp h
  exact ⟨Option.isSome_of_eq_some hr, Option.isSome_of_eq_some hr'⟩

/-- Of two numbers one is less than the other or not less. -/
theorem le_of_not_lt (hx : (rank? x).isSome) (hy : (rank? y).isSome) (h : Scalar.lt x y = false) : y ≤ x := by
  obtain ⟨r, hr⟩ := Option.isSome_iff_exists.mp hx
  obtain ⟨r', hr'⟩ := Option.isSome_iff_exists.mp hy
  refine (le_iff y x).mpr ⟨r', r, hr', hr, ?_⟩
  by_contra hless
  exact Bool.eq_false_iff.mp h (lt_eq_true.mpr ((lt_iff x y).mpr ⟨r, r', hr, hr', by omega⟩))

/-- A number between two finite doubles is finite, and so is its value. -/
theorem exists_between (hlow : toRat? low = some a) (hhigh : toRat? high = some b) (hx : low ≤ x) (hx' : x ≤ high) :
    ∃ v, toRat? x = some v ∧ a ≤ v ∧ v ≤ b := by
  have hfinite : (toRat? x).isSome := by
    have hplace := (isSome_toRat? low).mp (Option.isSome_of_eq_some hlow)
    have hplace' := (isSome_toRat? high).mp (Option.isSome_of_eq_some hhigh)
    obtain ⟨r, r', hr, hr', hle⟩ := (le_iff low x).mp hx
    obtain ⟨s, s', hs, hs', hle'⟩ := (le_iff x high).mp hx'
    obtain rfl := Option.some.inj (hr'.symm.trans hs)
    rw [isSome_toRat?]
    have hnumber : place x ≤ infinitePlace := by
      by_contra hother
      rw [(rank?_eq_none x).mpr (by omega)] at hr'
      exact absurd hr' nofun
    rw [rank?, if_pos hplace.le] at hr
    rw [rank?, if_pos hnumber] at hr'
    rw [rank?, if_pos hplace'.le] at hs'
    have hr := Option.some.inj hr
    have hr' := Option.some.inj hr'
    have hs' := Option.some.inj hs'
    rcases hlowsign : sign low <;> rcases hsign : sign x <;> rcases hhighsign : sign high <;>
      simp only [hlowsign, hsign, hhighsign, Sign.apply] at hr hr' hs' <;> omega
  obtain ⟨v, hv⟩ := Option.isSome_iff_exists.mp hfinite
  exact ⟨v, hv, (le_iff_of_toRat? hlow hv).mp hx, (le_iff_of_toRat? hv hhigh).mp hx'⟩

/-- The smaller of a number and a finite double that are not below a bound. -/
theorem toRat?_smaller (hlow : toRat? low = some a) (hhigh : toRat? high = some b) (hab : a ≤ b) (hx : low ≤ x) :
    ∃ v, toRat? (Scalar.smaller x high) = some v ∧ a ≤ v ∧ v ≤ b := by
  have hhighnumber := isSome_rank?_of_toRat? (Option.isSome_of_eq_some hhigh)
  rw [Scalar.smaller]
  refine exists_between hlow hhigh ?_ ?_
  · split
    · exact (le_iff_of_toRat? hlow hhigh).mpr hab
    · exact hx
  · split
    · exact (le_iff_of_toRat? hhigh hhigh).mpr le_rfl
    · next h => exact le_of_not_lt hhighnumber (isSome_rank?_of_le hx).2 (Bool.eq_false_of_not_eq_true h)

theorem le_larger (hlow : toRat? low = some a) (hx : (rank? x).isSome) : low ≤ Scalar.larger x low := by
  rw [Scalar.larger]
  split
  · exact (le_iff_of_toRat? hlow hlow).mpr le_rfl
  · next h =>
    exact le_of_not_lt hx (isSome_rank?_of_toRat? (Option.isSome_of_eq_some hlow)) (Bool.eq_false_of_not_eq_true h)

/-- A number that is kept between two finite bounds is finite. -/
theorem toRat?_clamp (hlow : toRat? low = some a) (hhigh : toRat? high = some b) (hab : a ≤ b)
    (hx : (rank? x).isSome) : ∃ v, toRat? (Scalar.clamp low high x) = some v ∧ a ≤ v ∧ v ≤ b :=
  toRat?_smaller hlow hhigh hab (le_larger hlow hx)

end Order

/-! ### Growth -/

section Growth

variable {x : Float} {v u : Rat} {p : Nat}

theorem Rounded.value_nonneg (hx : Rounded x v) (hv : 0 ≤ v) (hu : toRat? x = some u) : 0 ≤ u := by
  exact (le_iff_of_toRat? toRat?_zero hu).mp ((rounded_ofRat 0).le hx hv)

theorem Rounded.le_two_mul (hx : Rounded x v) (hv : 0 ≤ v) (hu : toRat? x = some u) : u ≤ 2 * v := by
  obtain ⟨p, hp, hplace⟩ := hx.standsAt hv
  have hfinite : p < infinitePlace := by
    rw [← hp.place_eq]
    exact (isSome_toRat? x).mp (Option.isSome_of_eq_some hu)
  rw [hp.toRat?_eq hfinite] at hu
  rw [← Option.some.inj hu]
  exact hplace.placed_le hfinite hv

end Growth

/-! ### Infinity -/

section Infinity

variable {x y : Float}

theorem StandsAt.unpack_infinite (h : StandsAt x infinitePlace) : x.toModel.unpack = .infinity .positive := by
  obtain ⟨s, hux, hs⟩ := h.unpack
  obtain rfl : s = .positive := hs.resolve_right (by decide)
  rw [hux, ofPlace_infinite]

theorem StandsAt.sub_finite (hx : StandsAt x infinitePlace) (hy : (toRat? y).isSome) :
    StandsAt (x - y) infinitePlace := by
  obtain ⟨w, hw⟩ := Option.isSome_iff_exists.mp hy
  obtain ⟨s, q, hq, huy, -⟩ := unpack_of_toRat? hw
  have hdifference : x - y =
      .ofModel (.pack (UnpackedFloat.sub Format.binary64 x.toModel.unpack y.toModel.unpack)) := rfl
  have hkept : UnpackedFloat.sub Format.binary64 (.infinity .positive) (ofPlace s q) = .infinity .positive := by
    rcases Nat.eq_zero_or_pos q with rfl | hqpos
    · rfl
    · rw [ofPlace_finite hqpos hq]
      rfl
  have hinfinite := standsAt_ofPlace (s := .positive) le_rfl (.inl rfl)
  rw [ofPlace_infinite] at hinfinite
  rw [hdifference, hx.unpack_infinite, huy, hkept]
  exact hinfinite

theorem rank?_div_infinite (hx : (toRat? x).isSome) (hy : StandsAt y infinitePlace) : rank? (x / y) = some 0 := by
  obtain ⟨v, hv⟩ := Option.isSome_iff_exists.mp hx
  obtain ⟨s, p, hp, hux, -⟩ := unpack_of_toRat? hv
  have hquotient : x / y = .ofModel (.pack (UnpackedFloat.div Format.binary64 x.toModel.unpack y.toModel.unpack)) :=
    rfl
  have hzero : UnpackedFloat.div Format.binary64 (ofPlace s p) (.infinity .positive) = .zero (s / .positive) := by
    rcases Nat.eq_zero_or_pos p with rfl | hppos
    · rfl
    · rw [ofPlace_finite hppos hp]
      rfl
  rw [hquotient, hux, hy.unpack_infinite, hzero, rank?, place_pack_zero.1, place_pack_zero.2]
  cases s <;> rfl

/-- A number that is not negative is finite or infinity. -/
theorem toRat?_or_infinite (h : ofRat 0 ≤ x) : (∃ v, toRat? x = some v ∧ 0 ≤ v) ∨ StandsAt x infinitePlace := by
  obtain ⟨p, hp⟩ := zero_le_iff.mp h
  rcases Nat.lt_or_eq_of_le hp.le_infinitePlace with hlt | rfl
  · exact .inl ⟨placed p, hp.toRat?_eq hlt, placed_nonneg p⟩
  · exact .inr hp

end Infinity

end Double
end RepoSurvey
