import RepoSurvey.Proofs.Number.DoubleArithmetic

/-!
# Whole numbers among the doubles

Whole numbers of at most 53 bits are doubles, and rounding them to decimal places does not change them.

* `exists_place_of_natCast`, `standsAt_ofRat_natCast`: every such number stands at a place.
* `toRat?_ofRat_intCast`, `toRat?_roundPlaces_ofNat`: the double nearest to it, also when rounded, has its value.
* `halfGap`, `ofRat_le_ofRat_natCast`: what is not more than half way to the next double is not rounded beyond it.
-/

namespace RepoSurvey

namespace Double

variable {n : Nat}

/-- A whole number of at most 53 bits stands at a place. -/
theorem exists_place_of_natCast (h : n < 2 ^ 53) : ∃ p < infinitePlace, placed p = n := by
  rcases Nat.eq_zero_or_pos n with rfl | hpos
  · exact ⟨0, by decide, by rw [placed_zero, Nat.cast_zero]⟩
  · have hlog : n.log2 < 53 := (Nat.log2_lt hpos.ne').mpr h
    obtain ⟨shift, hshift⟩ : ∃ shift, n.log2 + shift = 52 := ⟨52 - n.log2, by omega⟩
    -- the number is shifted up until it has 53 bits
    have hlow : 2 ^ 52 ≤ n * 2 ^ shift := by
      rw [← hshift, Nat.pow_add]
      exact Nat.mul_le_mul_right _ (Nat.log2_self_le hpos.ne')
    have hhigh : n * 2 ^ shift < 2 ^ 53 := by
      have hlt : n * 2 ^ shift < 2 ^ (n.log2 + 1) * 2 ^ shift :=
        Nat.mul_lt_mul_of_pos_right Nat.lt_log2_self (Nat.two_pow_pos _)
      have hbits : n.log2 + 1 + shift = 53 := by omega
      rwa [← Nat.pow_add, hbits] at hlt
    generalize hp : (n.log2 + 1022) * 2 ^ 52 + n * 2 ^ shift = p
    have hfield : p / 2 ^ 52 = n.log2 + 1023 := by omega
    obtain ⟨hsignificand, hunit⟩ := units_of_normal (p := p) (by omega)
    have hvalue : significand p = n * 2 ^ shift := by omega
    have hexponent : unit p = -(shift : Int) := by omega
    refine ⟨p, ?_, ?_⟩
    · rw [infinitePlace]
      omega
    · rw [placed, hvalue, hexponent, zpow_neg, zpow_natCast, Nat.cast_mul, Nat.cast_pow, Nat.cast_ofNat]
      exact mul_inv_cancel_right₀ (pow_ne_zero _ two_ne_zero) _

/-- The double nearest to a whole number of at most 53 bits stands at its place. -/
theorem standsAt_ofRat_natCast (h : n < 2 ^ 53) : ∃ p < infinitePlace, StandsAt (ofRat n) p ∧ placed p = n := by
  obtain ⟨p, hp, hplaced⟩ := exists_place_of_natCast h
  obtain ⟨q, hstands, hplace⟩ := standsAt_ofRat (Nat.cast_nonneg n)
  rw [← hplaced] at hplace
  obtain rfl := hplace.unique (isPlaceOf_placed hp.le)
  exact ⟨q, hp, hstands, hplaced⟩

/-- The double nearest to a whole number of at most 53 bits has its value. -/
theorem toRat?_ofRat_natCast (h : n < 2 ^ 53) : toRat? (ofRat n) = some (n : Rat) := by
  obtain ⟨p, hp, hstands, hplaced⟩ := standsAt_ofRat_natCast h
  rw [hstands.toRat?_eq hp, hplaced]

theorem toRat?_ofRat_intCast {n : Int} (hn : 0 ≤ n) (h : n < 2 ^ 53) : toRat? (ofRat n) = some (n : Rat) := by
  obtain ⟨k, rfl⟩ := Int.eq_ofNat_of_zero_le hn
  rw [Int.cast_natCast]
  exact toRat?_ofRat_natCast (by omega)

theorem toRat?_one : toRat? (ofRat 1) = some 1 := by
  have h := toRat?_ofRat_natCast (n := 1) (by decide)
  rwa [Nat.cast_one] at h

/-- It keeps its value when it is rounded to decimal places. -/
theorem toRat?_roundPlaces_ofNat (places : Nat) (h : n < 2 ^ 53) :
    toRat? (Scalar.roundPlaces places (Scalar.ofNat n)) = some (n : Rat) := by
  have hvalue : Scalar.toRat? (Scalar.ofNat n : Float) = some (n : Rat) := by
    have hcast : ((n : Int) : Rat) = (n : Rat) := Int.cast_natCast n
    rw [← toRat?_ofRat_natCast h, ← hcast]
    rfl
  have hopened : Scalar.roundPlaces places (Scalar.ofNat n : Float) =
      if (n : Rat) = 0 then Scalar.zeroLike (Scalar.ofNat n) else ofRat n := by
    rw [Scalar.roundPlaces, hvalue]
    simp only [Rat.roundPlaces_natCast]
    rfl
  rw [hopened]
  by_cases hzero : (n : Rat) = 0
  · rw [if_pos hzero, (standsAt_zeroLike _).toRat?_eq (by decide), placed_zero, hzero]
  · rw [if_neg hzero, toRat?_ofRat_natCast h]

/-! ### Up to the next double -/

section Gap

variable {q : Rat}

/-- Half the way from a whole number to the next double. -/
def halfGap (n : Nat) : Rat := 2 ^ ((n.log2 : Int) - 53)

theorem halfGap_pos (n : Nat) : 0 < halfGap n := two_zpow_pos _

/-- With a bit to spare, the next double is not even half a unit away. -/
theorem halfGap_lt_half (hn : 0 < n) (h : n < 2 ^ 52) : halfGap n < 1 / 2 := by
  have hlog : n.log2 < 52 := (Nat.log2_lt hn.ne').mpr h
  have hpowers : (2 : Rat) ^ ((n.log2 : Int) - 53) ≤ 2 ^ (-2 : Int) := two_zpow_mono (by omega)
  exact hpowers.trans_lt (by norm_num)

theorem isUnitAt_of_floor (hn : 0 < n) (hlow : (n : Rat) ≤ q) (hhigh : q < n + 1) :
    IsUnitAt q ((n.log2 : Int) - 52) := by
  have hunit := isUnitAt_unitOf_floor (e := 0) hlow hhigh (.inl hn)
  have hexponent : unitOf n 0 = (n.log2 : Int) - 52 := by
    rw [unitOf]
    omega
  rwa [zpow_zero, mul_one, hexponent] at hunit

/-- The number of units is even, so a whole number has the place of what lies half way to the next double. -/
theorem exists_place_of_halfGap (hn : 0 < n) (h : n < 2 ^ 52) :
    ∃ p, IsPlaceOf n p ∧ IsPlaceOf (n + halfGap n) p := by
  have hlog : n.log2 < 52 := (Nat.log2_lt hn.ne').mpr h
  obtain ⟨shift, hshift⟩ : ∃ shift, n.log2 + 1 + shift = 52 := ⟨51 - n.log2, by omega⟩
  have hpos := halfGap_pos n
  have hhalf := halfGap_lt_half hn h
  have hexponent : (n.log2 : Int) - 52 = -((shift + 1 : Nat) : Int) := by omega
  have hunits : (n : Rat) / 2 ^ ((n.log2 : Int) - 52) = ((2 * (n * 2 ^ shift) : Nat) : Rat) := by
    rw [hexponent, zpow_neg, zpow_natCast, div_inv_eq_mul]
    push_cast
    ring
  have hrest : halfGap n / 2 ^ ((n.log2 : Int) - 52) = 1 / 2 := by
    have hsplit : (n.log2 : Int) - 53 = -1 + ((n.log2 : Int) - 52) := by omega
    rw [halfGap, hsplit, two_zpow_add, mul_div_cancel_right₀ _ (two_zpow_pos _).ne']
    norm_num
  refine ⟨_, ⟨_, 2 * (n * 2 ^ shift), isUnitAt_of_floor hn le_rfl (lt_add_one _), ?_, rfl⟩,
    ⟨_, 2 * (n * 2 ^ shift), isUnitAt_of_floor hn (by linarith) (by linarith), ?_, rfl⟩⟩
  · rw [hunits]
    exact .of_natCast _
  · rw [add_div, hunits, hrest]
    exact ⟨by linarith, by linarith, fun hodd => by omega⟩

/-- **What is not more than half way to the next double** is what is not rounded beyond a whole number. -/
theorem ofRat_le_ofRat_natCast (hn : 0 < n) (h : n < 2 ^ 52) (q : Rat) :
    ofRat q ≤ ofRat n ↔ q ≤ n + halfGap n := by
  have hpos := halfGap_pos n
  have hhalf := halfGap_lt_half hn h
  obtain ⟨p, hp, hstands, hvalue⟩ := standsAt_ofRat_natCast (show n < 2 ^ 53 by omega)
  constructor
  · intro hle
    by_contra hbeyond
    -- A number beyond, but near enough to have the same unit, would have been moved by more than half a unit.
    obtain ⟨r, hrq, hrlow, hrhigh⟩ : ∃ r : Rat, r ≤ q ∧ n + halfGap n < r ∧ r < n + 1 :=
      ⟨min q (n + 1 / 2), min_le_left _ _, lt_min (not_le.mp hbeyond) (by linarith),
        (min_le_right _ _).trans_lt (by linarith)⟩
    obtain ⟨p', hstands', hplace⟩ := standsAt_ofRat (q := r) (by linarith [Nat.cast_nonneg (α := Rat) n])
    have hback := (hstands'.le_iff hstands).mp (Double.le_trans (ofRat_mono hrq) hle)
    have hplaced := placed_mono hback hp.le
    have hlog : n.log2 < 52 := (Nat.log2_lt hn.ne').mpr h
    have hbound := (isUnitAt_of_floor hn (by linarith) hrhigh).above
    obtain ⟨-, herror⟩ := hplace.error_le hbound (by omega) (by omega)
    have hexponent : (n.log2 : Int) - 52 - 1 = n.log2 - 53 := by omega
    have hnear := (abs_le.mp herror).1
    rw [hexponent] at hnear
    rw [halfGap] at hrlow
    linarith
  · intro hle
    obtain ⟨p', hplace, hplace'⟩ := exists_place_of_halfGap hn h
    rw [← hvalue] at hplace
    obtain rfl := hplace.unique (isPlaceOf_placed hp.le)
    obtain ⟨p', hstands', hp'⟩ := standsAt_ofRat (q := n + halfGap n) (by positivity)
    obtain rfl := hp'.unique hplace'
    exact Double.le_trans (ofRat_mono hle) ((hstands'.le_iff hstands).mpr le_rfl)

end Gap

end Double
end RepoSurvey
