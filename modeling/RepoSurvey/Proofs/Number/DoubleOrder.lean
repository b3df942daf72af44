import RepoSurvey.Proofs.Number.DoublePlace

/-!
# Order of doubles

The numbers among the doubles are in the order of their places, the negative ones below zero. The rank of a number is
its place with its sign, so that both zeros have rank zero and a comparison of doubles is one of integers.

* `rank?`: the rank of a number; what is no number has none.
* `lt_iff`, `le_iff`: the order is that of the ranks.
* `eq_of_rank?`: only the zeros share a rank.
* `rank?_sub_comm`: the two differences of two doubles have opposite ranks.
-/

namespace RepoSurvey
namespace Double

open Float.Model Float.Model.UnpackedFloat

/-! ### Comparison of places -/

section Comparison

variable {s s' : Sign} {p p' : Nat}

theorem lt_of_field_lt (h : field p < field p') : p < p' := by
  simp only [field] at h
  omega

theorem compare_finite :
    (compare (unit p) (unit p')).then (compare (significand p) (significand p')) = compare p p' := by
  -- A greater unit alone decides, since the least significand of it is beyond those of the unit below.
  rcases Nat.lt_trichotomy (field p) (field p') with h | h | h
  · have hunit : unit p < unit p' := by
      simp only [unit]
      omega
    rw [Int.compare_eq_lt.mpr hunit, Nat.compare_eq_lt.mpr (lt_of_field_lt h)]
    rfl
  · have hunit : unit p = unit p' := by
      rw [unit, unit, h]
    have hless : significand p < significand p' ↔ p < p' := by
      simp only [significand, field] at h ⊢
      omega
    have hgreater : significand p' < significand p ↔ p' < p := by
      simp only [significand, field] at h ⊢
      omega
    rw [Int.compare_eq_eq.mpr hunit, Ordering.then]
    rcases Nat.lt_trichotomy p p' with hp | hp | hp
    · rw [Nat.compare_eq_lt.mpr hp, Nat.compare_eq_lt.mpr (hless.mpr hp)]
    · rw [Nat.compare_eq_eq.mpr hp, Nat.compare_eq_eq.mpr (by rw [hp])]
    · rw [Nat.compare_eq_gt.mpr hp, Nat.compare_eq_gt.mpr (hgreater.mpr hp)]
  · have hunit : unit p' < unit p := by
      simp only [unit]
      omega
    rw [Int.compare_eq_gt.mpr hunit, Nat.compare_eq_gt.mpr (lt_of_field_lt h)]
    rfl

theorem compare_positive (hp : p ≤ infinitePlace) (hp' : p' ≤ infinitePlace) :
    (ofPlace .positive p).compare (ofPlace .positive p') = some (compare p p') := by
  rcases place_cases hp with rfl | ⟨hpos, hlt⟩ | rfl
  · rcases place_cases hp' with rfl | ⟨hpos', hlt'⟩ | rfl
    · rfl
    · rw [ofPlace_zero, ofPlace_finite hpos' hlt', Nat.compare_eq_lt.mpr hpos']
      rfl
    · rw [ofPlace_zero, ofPlace_infinite, Nat.compare_eq_lt.mpr (by decide)]
      rfl
  · rcases place_cases hp' with rfl | ⟨hpos', hlt'⟩ | rfl
    · rw [ofPlace_zero, ofPlace_finite hpos hlt, Nat.compare_eq_gt.mpr hpos]
      rfl
    · rw [ofPlace_finite hpos hlt, ofPlace_finite hpos' hlt', ← compare_finite]
      rfl
    · rw [ofPlace_finite hpos hlt, ofPlace_infinite, Nat.compare_eq_lt.mpr hlt]
      rfl
  · rcases place_cases hp' with rfl | ⟨hpos', hlt'⟩ | rfl
    · rw [ofPlace_zero, ofPlace_infinite, Nat.compare_eq_gt.mpr (by decide)]
      rfl
    · rw [ofPlace_infinite, ofPlace_finite hpos' hlt', Nat.compare_eq_gt.mpr hlt']
      rfl
    · rw [ofPlace_infinite, Nat.compare_eq_eq.mpr rfl]
      rfl

theorem compare_natCast (m n : Nat) : compare (m : Int) (n : Int) = compare m n := by
  rcases Nat.lt_trichotomy m n with h | h | h
  · rw [Nat.compare_eq_lt.mpr h, Int.compare_eq_lt.mpr (by omega)]
  · rw [Nat.compare_eq_eq.mpr h, Int.compare_eq_eq.mpr (by omega)]
  · rw [Nat.compare_eq_gt.mpr h, Int.compare_eq_gt.mpr (by omega)]

theorem compare_negated (m n : Nat) : compare (-(m : Int)) (-(n : Int)) = compare n m := by
  rcases Nat.lt_trichotomy m n with h | h | h
  · rw [Nat.compare_eq_gt.mpr h, Int.compare_eq_gt.mpr (by omega)]
  · rw [Nat.compare_eq_eq.mpr h.symm, Int.compare_eq_eq.mpr (by omega)]
  · rw [Nat.compare_eq_lt.mpr h, Int.compare_eq_lt.mpr (by omega)]

theorem compare_neg_neg (a b : UnpackedFloat) : a.neg.compare b.neg = b.compare a := by
  have hfinite : ∀ (m n : Nat) (e f : Int),
      ((compare e f).then (compare m n)).swap = (compare f e).then (compare n m) := by
    intro m n e f
    rw [Ordering.swap_then, Int.compare_swap, Nat.compare_swap]
  rcases a with ⟨⟨⟩⟩ | _ | ⟨⟨⟩⟩ | ⟨⟨⟩, m, e, hm⟩ <;> rcases b with ⟨⟨⟩⟩ | _ | ⟨⟨⟩⟩ | ⟨⟨⟩, n, f, hn⟩ <;> try rfl
  · exact congrArg some (hfinite n m f e).symm
  · exact congrArg some (hfinite m n e f)

theorem ofPlace_neg (h : p ≤ infinitePlace) : ofPlace (-s) p = (ofPlace s p).neg := by
  rcases place_cases h with rfl | ⟨hpos, hlt⟩ | rfl
  · rfl
  · rw [ofPlace_finite hpos hlt, ofPlace_finite hpos hlt]
    rfl
  · rw [ofPlace_infinite, ofPlace_infinite]
    rfl

/-- Of two numbers with different signs the positive one is greater, unless both are zero. -/
theorem compare_mixed (hp : p ≤ infinitePlace) (hp' : p' ≤ infinitePlace) :
    (ofPlace .positive p).compare (ofPlace .negative p') = some (compare (p : Int) (-(p' : Int))) ∧
      (ofPlace .negative p).compare (ofPlace .positive p') = some (compare (-(p : Int)) (p' : Int)) := by
  have htop : 0 < infinitePlace := by decide
  have hother : 0 < p ∨ 0 < p' →
      compare (p : Int) (-(p' : Int)) = .gt ∧ compare (-(p : Int)) (p' : Int) = .lt :=
    fun h => ⟨Int.compare_eq_gt.mpr (by omega), Int.compare_eq_lt.mpr (by omega)⟩
  rcases place_cases hp with rfl | ⟨hpos, hlt⟩ | rfl
  · rcases place_cases hp' with rfl | ⟨hpos', hlt'⟩ | rfl
    · exact ⟨rfl, rfl⟩
    · rw [(hother (.inr hpos')).1, (hother (.inr hpos')).2, ofPlace_finite hpos' hlt', ofPlace_finite hpos' hlt']
      exact ⟨rfl, rfl⟩
    · rw [(hother (.inr htop)).1, (hother (.inr htop)).2, ofPlace_infinite, ofPlace_infinite]
      exact ⟨rfl, rfl⟩
  · rw [(hother (.inl hpos)).1, (hother (.inl hpos)).2, ofPlace_finite hpos hlt, ofPlace_finite hpos hlt]
    rcases place_cases hp' with rfl | ⟨hpos', hlt'⟩ | rfl
    · exact ⟨rfl, rfl⟩
    · rw [ofPlace_finite hpos' hlt', ofPlace_finite hpos' hlt']
      exact ⟨rfl, rfl⟩
    · rw [ofPlace_infinite, ofPlace_infinite]
      exact ⟨rfl, rfl⟩
  · rw [(hother (.inl htop)).1, (hother (.inl htop)).2, ofPlace_infinite, ofPlace_infinite]
    rcases place_cases hp' with rfl | ⟨hpos', hlt'⟩ | rfl
    · exact ⟨rfl, rfl⟩
    · rw [ofPlace_finite hpos' hlt', ofPlace_finite hpos' hlt']
      exact ⟨rfl, rfl⟩
    · rw [ofPlace_infinite, ofPlace_infinite]
      exact ⟨rfl, rfl⟩

theorem compare_ofPlace (hp : p ≤ infinitePlace) (hp' : p' ≤ infinitePlace) :
    (ofPlace s p).compare (ofPlace s' p') = some (compare (s.apply p) (s'.apply p')) := by
  cases s <;> cases s'
  · have h := compare_neg_neg (ofPlace .positive p) (ofPlace .positive p')
    rw [← ofPlace_neg hp, ← ofPlace_neg hp', compare_positive hp' hp] at h
    refine h.trans ?_
    exact congrArg some (compare_negated p p').symm
  · exact (compare_mixed hp hp').2
  · exact (compare_mixed hp hp').1
  · rw [compare_positive hp hp', ← compare_natCast]
    rfl

end Comparison

/-! ### Ranks -/

section Ranks

/-- The place of a number with its sign. -/
def rank? (x : Float) : Option Int :=
  if place x ≤ infinitePlace then some ((sign x).apply (place x)) else none

theorem compare_unpack (x y : Float) : x.toModel.unpack.compare y.toModel.unpack =
    (rank? x).bind fun r => (rank? y).map fun r' => compare r r' := by
  rw [unpack_eq, unpack_eq, rank?, rank?]
  by_cases hx : place x ≤ infinitePlace
  · by_cases hy : place y ≤ infinitePlace
    · rw [if_pos hx, if_pos hy, compare_ofPlace hx hy]
      rfl
    · rw [if_neg hy, ofPlace_above (Nat.lt_of_not_le hy)]
      cases ofPlace (sign x) (place x) <;> simp [UnpackedFloat.compare]
  · rw [if_neg hx, ofPlace_above (Nat.lt_of_not_le hx)]
    rfl

theorem lt_iff (x y : Float) : x < y ↔ ∃ r r', rank? x = some r ∧ rank? y = some r' ∧ r < r' := by
  have hlt : x < y ↔ (x.toModel.unpack.compare y.toModel.unpack == some .lt) = true := decide_eq_true_iff
  rw [hlt, compare_unpack]
  cases hx : rank? x with
  | none => simp
  | some r =>
    cases hy : rank? y with
    | none => simp
    | some r' => simp [Int.compare_eq_lt]

theorem le_iff (x y : Float) : x ≤ y ↔ ∃ r r', rank? x = some r ∧ rank? y = some r' ∧ r ≤ r' := by
  have hle : x ≤ y ↔ ((x.toModel.unpack.compare y.toModel.unpack).any (·.isLE)) = true := decide_eq_true_iff
  rw [hle, compare_unpack]
  cases hx : rank? x with
  | none => simp
  | some r =>
    cases hy : rank? y with
    | none => simp
    | some r' => simp [Int.isLE_compare]

theorem rank?_eq_none (x : Float) : rank? x = none ↔ infinitePlace < place x := by
  rw [rank?]
  split
  · next h => exact ⟨nofun, fun hlt => absurd h (Nat.not_le_of_lt hlt)⟩
  · next h => exact ⟨fun _ => Nat.lt_of_not_le h, fun _ => rfl⟩

/-- The bits of a double are its sign and its place. -/
theorem toBits_toNat (x : Float) : x.toBits.toNat = (sign x).toBitVec.toNat * 2 ^ 63 + place x := by
  have hsign : (@unpackSign Format.binary64 x.toBits.toBitVec).toNat = x.toBits.toNat / 2 ^ 63 := toNat_unpackSign _
  have hkept : (sign x).toBitVec = @unpackSign Format.binary64 x.toBits.toBitVec := by
    have honly : ∀ b : BitVec 1, (Sign.ofBitVec b).toBitVec = b := by decide
    exact honly _
  rw [hkept, hsign, place]
  omega

theorem eq_of_sign_of_place {x y : Float} (hsign : sign x = sign y) (hplace : place x = place y) : x = y := by
  have hbits : x.toBits.toNat = y.toBits.toNat := by
    rw [toBits_toNat, toBits_toNat, hsign, hplace]
  rcases x with ⟨⟨b, hb⟩⟩
  rcases y with ⟨⟨b', hb'⟩⟩
  have hsame : b = b' := UInt64.toNat_inj.mp hbits
  subst hsame
  rfl

/-- Only the zeros share a rank. -/
theorem eq_of_rank? {x y : Float} {r : Int} (hx : rank? x = some r) (hy : rank? y = some r) (hr : r ≠ 0) : x = y := by
  rw [rank?] at hx hy
  split at hx
  · split at hy
    · have hx' := Option.some.inj hx
      have hy' := Option.some.inj hy
      rcases hsx : sign x <;> rcases hsy : sign y <;> rw [hsx, Sign.apply] at hx' <;> rw [hsy, Sign.apply] at hy'
      · exact eq_of_sign_of_place (hsx.trans hsy.symm) (by omega)
      · omega
      · omega
      · exact eq_of_sign_of_place (hsx.trans hsy.symm) (by omega)
    · exact absurd hy nofun
  · exact absurd hx nofun

end Ranks

/-! ### Opposite differences -/

section Differences

variable {s : Sign} {m : Nat} {e : Int}

/-- A finite number and its opposite have the same components apart from the sign. -/
theorem pack_finite_signs (h : 0 < m) : ∃ (exponent : BitVec 11) (fraction : BitVec 52), ∀ s,
    UnpackedFloat.pack Format.binary64 (.finite s m e h) = packComponents Format.binary64 s exponent fraction := by
  by_cases hover : 2 ^ 11 ≤ (e + 1075).toNat + 1
  · exact ⟨-1#11, 0#52, fun s => by rw [pack_finite, if_pos hover]⟩
  · by_cases hlarge : m.log2 + 1 = 53
    · exact ⟨_, _, fun s => by rw [pack_finite, if_neg hover, if_pos hlarge]⟩
    · exact ⟨_, _, fun s => by rw [pack_finite, if_neg hover, if_neg hlarge]⟩

theorem rank?_of_components {u v : UnpackedFloat} {exponent : BitVec 11} {fraction : BitVec 52}
    (hu : UnpackedFloat.pack Format.binary64 u = packComponents Format.binary64 s exponent fraction)
    (hv : UnpackedFloat.pack Format.binary64 v = packComponents Format.binary64 (-s) exponent fraction) :
    rank? (.ofModel (.pack v)) = (rank? (.ofModel (.pack u))).map Neg.neg := by
  obtain ⟨hsu, hpu⟩ := place_pack hu
  obtain ⟨hsv, hpv⟩ := place_pack hv
  rw [rank?, rank?, hsu, hpu, hsv, hpv]
  split
  · cases s
    · exact congrArg some (Int.neg_neg _).symm
    · rfl
  · rfl

theorem rank?_pack_neg (u : UnpackedFloat) :
    rank? (.ofModel (.pack u.neg)) = (rank? (.ofModel (.pack u))).map Neg.neg := by
  cases u with
  | notANumber =>
    have hnone := (rank?_eq_none _).mpr place_pack_notANumber
    rw [UnpackedFloat.neg, hnone]
    rfl
  | infinity s => exact rank?_of_components (s := s) rfl rfl
  | zero s => exact rank?_of_components (s := s) rfl rfl
  | finite s m e h =>
    obtain ⟨exponent, fraction, hpack⟩ := pack_finite_signs (e := e) h
    exact rank?_of_components (hpack s) (hpack (-s))

theorem round_neg : UnpackedFloat.round Format.binary64 (-s) m e = (UnpackedFloat.round Format.binary64 s m e).neg := by
  unfold UnpackedFloat.round roundWithAccuracy
  dsimp only
  split
  · rfl
  · rfl

theorem normalize_neg {n : Int} (h : n ≠ 0) :
    UnpackedFloat.normalize Format.binary64 (-n) e .positive =
      (UnpackedFloat.normalize Format.binary64 n e .positive).neg := by
  rcases Int.lt_or_gt_of_ne h with hlt | hgt
  · rw [UnpackedFloat.normalize, UnpackedFloat.normalize, Int.compare_eq_gt.mpr (by omega), Int.compare_eq_lt.mpr hlt]
    exact round_neg (s := .negative)
  · have hkept : (- -n).toNat = n.toNat := by rw [Int.neg_neg]
    rw [UnpackedFloat.normalize, UnpackedFloat.normalize, Int.compare_eq_lt.mpr (by omega), Int.compare_eq_gt.mpr hgt]
    dsimp only
    rw [hkept]
    exact round_neg (s := .positive)

/-- The difference of finite numbers over their smaller unit. -/
theorem sub_finite {s' : Sign} {m' : Nat} {e' : Int} (h : 0 < m) (h' : 0 < m') :
    UnpackedFloat.sub Format.binary64 (.finite s m e h) (.finite s' m' e' h') =
      UnpackedFloat.normalize Format.binary64
        (s.apply (m <<< (e - min e e').toNat : Nat) - s'.apply (m' <<< (e' - min e e').toNat : Nat)) (min e e')
        .positive :=
  rfl

/-- The two differences are opposite, or both are the same zero. -/
theorem sub_opposite (a b : UnpackedFloat) :
    UnpackedFloat.sub Format.binary64 b a = (UnpackedFloat.sub Format.binary64 a b).neg ∨
      UnpackedFloat.sub Format.binary64 a b = .zero .positive ∧
        UnpackedFloat.sub Format.binary64 b a = .zero .positive := by
  rcases a with ⟨⟨⟩⟩ | _ | ⟨⟨⟩⟩ | ⟨s, m, e, h⟩ <;> rcases b with ⟨⟨⟩⟩ | _ | ⟨⟨⟩⟩ | ⟨⟨⟩, m', e', h'⟩
  case finite.finite.negative | finite.finite.positive =>
    rw [sub_finite, sub_finite, Int.min_comm e' e]
    generalize hn : Sign.apply s (m <<< (e - min e e').toNat : Nat) - Sign.apply _ _ = n
    rw [← Int.neg_sub, hn]
    -- An exact zero has the positive sign in both directions.
    by_cases hzero : n = 0
    · subst hzero
      exact .inr ⟨rfl, rfl⟩
    · exact .inl (normalize_neg hzero)
  all_goals first | exact .inl rfl | exact .inr ⟨rfl, rfl⟩

/-- The two differences of two doubles have opposite ranks. -/
theorem rank?_sub_comm (x y : Float) : rank? (y - x) = (rank? (x - y)).map Neg.neg := by
  have hxy : x - y = .ofModel (.pack (UnpackedFloat.sub Format.binary64 x.toModel.unpack y.toModel.unpack)) := rfl
  have hyx : y - x = .ofModel (.pack (UnpackedFloat.sub Format.binary64 y.toModel.unpack x.toModel.unpack)) := rfl
  rw [hxy, hyx]
  rcases sub_opposite x.toModel.unpack y.toModel.unpack with h | ⟨h, h'⟩
  · rw [h, rank?_pack_neg]
  · rw [h, h', rank?, place_pack_zero.1, place_pack_zero.2]
    rfl

end Differences

end Double
end RepoSurvey
