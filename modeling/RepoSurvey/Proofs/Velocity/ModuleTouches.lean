import RepoSurvey.Proofs.Number.DoubleWhole
import RepoSurvey.Proofs.Number.ExactScalar
import RepoSurvey.Velocity.Impact

/-!
# Touched modules

Where the files are known, every touch is either one of a core module or one of a peripheral module. Where only counts
are known, the two shares of a count are rounded apart from each other: if they end in a half, both may be rounded up.

* `exists_twentieths`: the share of core modules is a number of twentieths, at most ten.
* `exists_near_share`: a share of a count is the whole part of a number near to the exact one and a half more.
* `splitTouches_sum`: what the two shares of one count add up to.
* `moduleTouches_sum`: the touches of a developer add up, but for the counts with halves.
-/

namespace RepoSurvey
namespace ImpactScore

open Double

/-! ### The share of core modules -/

section Ratio

variable (core : List String)

theorem coreRatio_cons {α : Type} [Scalar α] (path : String) (rest : List String) :
    (coreRatio (path :: rest) : α) =
      Scalar.smaller (Scalar.ofRat (((rest.length + 1 : Nat) : Rat) / 20)) (Scalar.ofRat 0.5) := by
  rw [← Int.cast_natCast]
  rfl

theorem coreRatio_cons_rat (path : String) (rest : List String) :
    (coreRatio (path :: rest) : Rat) = min (((rest.length + 1 : Nat) : Rat) / 20) 0.5 :=
  (coreRatio_cons path rest).trans (Scalar.smaller_rat _ _)

/-- The share is a number of twentieths, at most ten. -/
theorem exists_twentieths : ∃ k : Nat, k ≤ 10 ∧ (coreRatio core : Rat) = k / 20 := by
  cases core with
  | nil => exact ⟨6, by decide, by decide +kernel⟩
  | cons path rest =>
    have hhalf : (0.5 : Rat) = ((10 : Nat) : Rat) / 20 := by norm_num
    refine ⟨min (rest.length + 1) 10, Nat.min_le_right _ _, ?_⟩
    rw [coreRatio_cons_rat, hhalf, min_div_div_right (by norm_num), ← Nat.cast_min]

/-- The share as a double is the exact one rounded. -/
theorem exists_place_coreRatio : ∃ p, StandsAt (coreRatio core) p ∧ IsPlaceOf (coreRatio core) p := by
  cases core with
  | nil =>
    have hnonneg : (0 : Rat) ≤ 0.3 := by norm_num
    exact standsAt_ofRat hnonneg
  | cons path rest =>
    rw [coreRatio_cons (α := Float), coreRatio_cons_rat]
    have hnonneg : (0 : Rat) ≤ ((rest.length + 1 : Nat) : Rat) / 20 := by positivity
    generalize ((rest.length + 1 : Nat) : Rat) / 20 = share at hnonneg ⊢
    have hhalf : (0 : Rat) ≤ 0.5 := by norm_num
    obtain ⟨p, hp, hplace⟩ := standsAt_ofRat hnonneg
    obtain ⟨q, hq, hplace'⟩ := standsAt_ofRat hhalf
    refine ⟨min p q, hp.smaller hq, ?_⟩
    rcases le_total share 0.5 with h | h
    · rw [min_eq_left h, Nat.min_eq_left (hplace.mono h hplace')]
      exact hplace
    · rw [min_eq_right h, Nat.min_eq_right (hplace'.mono h hplace)]
      exact hplace'

/-- The two shares as doubles are hardly off. -/
theorem exists_shares : ∃ p < infinitePlace, ∃ q < infinitePlace,
    (StandsAt (coreRatio core) p ∧ placed p ≤ 1 ∧ |placed p - (coreRatio core : Rat)| ≤ 2 ^ (-52 : Int)) ∧
    StandsAt (Scalar.one - coreRatio core) q ∧ placed q ≤ 1 ∧
      |placed q - (1 - (coreRatio core : Rat))| ≤ 2 ^ (-52 : Int) := by
  obtain ⟨k, hk, hratio⟩ := exists_twentieths core
  obtain ⟨p, hp, hplace⟩ := exists_place_coreRatio core
  obtain ⟨one, hone, hstands, hvalue⟩ := standsAt_ofRat_natCast (n := 1) (by decide)
  rw [Nat.cast_one] at hvalue
  have hhalf : (coreRatio core : Rat) ≤ 1 / 2 := by
    have hk' : (k : Rat) ≤ 10 := by exact_mod_cast hk
    rw [hratio]
    linarith
  have hunit : IsPlaceOf 1 one := by
    rw [← hvalue]
    exact isPlaceOf_placed hone.le
  have hbelow : p ≤ one := hplace.mono (by linarith) hunit
  obtain ⟨-, herror⟩ := hplace.error_le (t := -53) (by norm_num; linarith) (by decide) (by decide)
  obtain ⟨q, hq, hplace'⟩ := hstands.sub hp hbelow hone
  rw [hvalue] at hplace'
  have hp0 := placed_nonneg p
  obtain ⟨hfinite, herror'⟩ := hplace'.error_le (t := -52) (by norm_num; linarith) (by decide) (by decide)
  have hone' := placed_mono (hplace'.mono (by linarith) hunit) hone.le
  have hbelow' := placed_mono hbelow hone.le
  rw [hvalue] at hone' hbelow'
  refine ⟨p, hbelow.trans_lt hone, q, hfinite, ⟨hp, hbelow', ?_⟩, hq, hone', ?_⟩
  · exact herror.trans (two_zpow_mono (by decide))
  · rw [abs_le] at herror herror' ⊢
    norm_num at herror herror' ⊢
    constructor <;> linarith

end Ratio

/-! ### Rounding of a share -/

section Rounding

variable {x y sum ratio : Float} {p q n : Nat} {share value : Rat}

theorem standsAt_half : ∃ p < infinitePlace, StandsAt (ofRat 0.5) p ∧ placed p = 1 / 2 := by
  obtain ⟨p, hp, hplace⟩ := standsAt_ofRat (q := 0.5) (by norm_num)
  have hvalue := placed_of_units (e := -53) (k := 2 ^ 52) (by omega) (by omega) fun _ => le_rfl
  have hhalf : ((2 ^ 52 : Nat) : Rat) * 2 ^ (-53 : Int) = 0.5 := by norm_num
  have hfinite : ((-53 : Int) + 1074).toNat * 2 ^ 52 + 2 ^ 52 < infinitePlace := by
    rw [infinitePlace]
    omega
  rw [hhalf] at hvalue
  rw [← hvalue] at hplace
  obtain rfl := hplace.unique (isPlaceOf_placed hfinite.le)
  exact ⟨_, hfinite, hp, hvalue.trans (by norm_num)⟩

theorem roundHalfUp_of_some (hsum : sum = x + Scalar.ofRat 0.5) (h : toRat? sum = some value) (hvalue : 0 ≤ value) :
    roundHalfUp x = ⌊value⌋ := by
  have hsome : Scalar.toRat? (x + Scalar.ofRat 0.5) = some value := by
    rw [← hsum]
    exact h
  rw [roundHalfUp, hsome]
  exact if_neg (not_lt.mpr hvalue)

theorem roundHalfUp_of_none (hsum : sum = x + Scalar.ofRat 0.5) (h : toRat? sum = none) : roundHalfUp x = 0 := by
  have hnone : Scalar.toRat? (x + Scalar.ofRat 0.5) = none := by
    rw [← hsum]
    exact h
  rw [roundHalfUp, hnone]

/-- What is not negative is rounded to the whole part of the double that a half more is. -/
theorem roundHalfUp_eq (hx : StandsAt x p) (hp : p < infinitePlace) :
    ∃ q, IsPlaceOf (placed p + 1 / 2) q ∧ roundHalfUp x = if q < infinitePlace then ⌊placed q⌋ else 0 := by
  obtain ⟨half, hfinite, hhalf, hvalue⟩ := standsAt_half
  obtain ⟨q, hq, hplace⟩ := hx.add hhalf hp hfinite
  rw [hvalue] at hplace
  refine ⟨q, hplace, ?_⟩
  by_cases hlt : q < infinitePlace
  · rw [if_pos hlt]
    exact roundHalfUp_of_some rfl (hq.toRat?_eq hlt) (placed_nonneg q)
  · rw [if_neg hlt]
    have hnone : toRat? (x + ofRat 0.5) = none := by
      rw [Double.toRat?_eq, hq.place_eq, if_neg hlt]
    exact roundHalfUp_of_none rfl hnone

/-- A product of numbers that are not negative is not rounded to less than zero. -/
theorem roundHalfUp_mul_nonneg (hx : ofRat 0 ≤ x) (hy : ofRat 0 ≤ y) : 0 ≤ roundHalfUp (x * y) := by
  by_cases hsum : (toRat? (x * y + ofRat 0.5)).isSome
  · obtain ⟨hproduct, -⟩ := isSome_of_combined (.inl hsum)
    obtain ⟨hfinite, hfinite'⟩ := isSome_of_combined (.inr hproduct)
    obtain ⟨hnonneg, -⟩ := mul_mono hx (le_refl_of_zero_le hx) hfinite hy hfinite'
    obtain ⟨p, hp⟩ := zero_le_iff.mp hnonneg
    rw [isSome_toRat?, hp.place_eq] at hproduct
    obtain ⟨q, -, hq⟩ := roundHalfUp_eq hp hproduct
    rw [hq]
    split
    · exact Int.floor_nonneg.mpr (placed_nonneg q)
    · exact le_rfl
  · exact (roundHalfUp_of_none rfl (Option.not_isSome_iff_eq_none.mp hsum)).ge

/-- A share of a count is the whole part of a number near to the exact one and a half more. -/
theorem exists_near_share (hn : n < 2 ^ 46) (hratio : StandsAt ratio p) (hp : p < infinitePlace) (hone : placed p ≤ 1)
    (hnear : |placed p - share| ≤ 2 ^ (-52 : Int)) :
    ∃ y : Rat, roundHalfUp (Scalar.ofInt (n : Int) * ratio) = ⌊y⌋ ∧ |y - (n * share + 1 / 2)| < 1 / 20 := by
  have hn' : (n : Rat) < 2 ^ 46 := by exact_mod_cast hn
  have hn0 : (0 : Rat) ≤ n := Nat.cast_nonneg n
  have hp0 := placed_nonneg p
  obtain ⟨m, hm, hstands, hvalue⟩ := standsAt_ofRat_natCast (n := n) (by omega)
  obtain ⟨q, hq, hproduct⟩ := hstands.mul hratio hm hp
  rw [hvalue] at hproduct
  have hbelow : (n : Rat) * placed p ≤ n := mul_le_of_le_one_right hn0 hone
  obtain ⟨hqfinite, herror⟩ := hproduct.error_le (t := -7) (by norm_num; linarith) (by decide) (by decide)
  obtain ⟨r, hsum, hrounded⟩ := roundHalfUp_eq hq hqfinite
  have hqlt : placed q + 1 / 2 < 2 ^ ((-6 : Int) + 53) := by
    rw [abs_le] at herror
    norm_num at herror ⊢
    linarith
  obtain ⟨hrfinite, herror'⟩ := hsum.error_le hqlt (by decide) (by decide)
  have hscaled : |(n : Rat) * placed p - n * share| ≤ 2 ^ 46 * 2 ^ (-52 : Int) := by
    rw [← mul_sub, abs_mul, abs_of_nonneg hn0]
    exact mul_le_mul hn'.le hnear (abs_nonneg _) (by norm_num)
  have hcast : (Scalar.ofInt (n : Int) : Float) = ofRat n := by
    rw [← Int.cast_natCast]
    rfl
  rw [if_pos hrfinite] at hrounded
  refine ⟨placed r, by rw [hcast, hrounded], ?_⟩
  rw [abs_le] at herror herror' hscaled
  norm_num at herror herror' hscaled
  rw [abs_lt]
  constructor <;> linarith

end Rounding

/-! ### Shares of a count -/

section Shares

variable {core : List String} {entry : String × Int} {entries : List (String × Int)}

/-- Whether the exact share of core modules in the changes to source files of one extension ends in a half. -/
def isHalved (core : List String) (entry : String × Int) : Bool :=
  sourceTypes.contains entry.1 && decide (Int.fract ((entry.2 : Rat) * coreRatio core) = 1 / 2)

/-- Two numbers near to halves above complementary shares of a whole number: only halves can be lost or gained. -/
theorem floor_add_floor {x y : Rat} {n k : Int} (hx : |x - (k / 20 + 1 / 2)| < 1 / 20)
    (hy : |y - (n - k / 20 + 1 / 2)| < 1 / 20) :
    |⌊x⌋ + ⌊y⌋ - n| ≤ 1 ∧ (k % 20 ≠ 10 → ⌊x⌋ + ⌊y⌋ = n) := by
  rw [abs_lt] at hx hy
  constructor
  · have hxlow := Int.floor_le x
    have hxhigh := Int.lt_floor_add_one x
    have hylow := Int.floor_le y
    have hyhigh := Int.lt_floor_add_one y
    have hupper : ((⌊x⌋ + ⌊y⌋ : Int) : Rat) < (n + 2 : Int) := by
      push_cast
      linarith
    have hlower : ((n - 2 : Int) : Rat) < (⌊x⌋ + ⌊y⌋ : Int) := by
      push_cast
      linarith
    have hupper' := Int.cast_lt.mp hupper
    have hlower' := Int.cast_lt.mp hlower
    rw [abs_le]
    omega
  · intro hk
    -- Without a half both numbers stay clear of whole numbers.
    obtain ⟨a, r, hdivision, hr, hr'⟩ : ∃ a r : Int, k + 10 = 20 * a + r ∧ 1 ≤ r ∧ r ≤ 19 :=
      ⟨(k + 10) / 20, (k + 10) % 20, by omega, by omega, by omega⟩
    have hdivision' : (k : Rat) + 10 = 20 * a + r := by exact_mod_cast hdivision
    have hr1 : (1 : Rat) ≤ r := by exact_mod_cast hr
    have hr19 : (r : Rat) ≤ 19 := by exact_mod_cast hr'
    have hfloor : ⌊x⌋ = a := by
      rw [Int.floor_eq_iff]
      constructor <;> linarith
    have hfloor' : ⌊y⌋ = n - a := by
      rw [Int.floor_eq_iff]
      push_cast
      constructor <;> linarith
    omega

theorem fract_eq_half {k : Int} (hk : k % 20 = 10) : Int.fract ((k : Rat) / 20) = 1 / 2 := by
  have hdivision : k = 20 * (k / 20) + 10 := by omega
  have hvalue : (k : Rat) / 20 = ((k / 20 : Int) : Rat) + 1 / 2 := by
    have hcast : (k : Rat) = 20 * ((k / 20 : Int) : Rat) + 10 := by exact_mod_cast hdivision
    linarith
  rw [hvalue, Int.fract_intCast_add]
  norm_num

/-- The two shares of a count are not negative. -/
theorem splitTouches_nonneg (core : List String) (h : 0 ≤ entry.2) :
    0 ≤ (splitTouches (coreRatio core : Float) entry).1 ∧ 0 ≤ (splitTouches (coreRatio core : Float) entry).2 := by
  rw [splitTouches]
  split
  · have hcount : ofRat 0 ≤ (Scalar.ofInt entry.2 : Float) := ofRat_mono (Int.cast_nonneg h)
    obtain ⟨p, -, q, -, ⟨hp, -⟩, hq, -⟩ := exists_shares core
    exact ⟨roundHalfUp_mul_nonneg hcount (zero_le_iff.mpr ⟨p, hp⟩),
      roundHalfUp_mul_nonneg hcount (zero_le_iff.mpr ⟨q, hq⟩)⟩
  · exact ⟨le_rfl, h⟩

/-- The two shares of a count add up to it, give or take one where they end in a half. -/
theorem splitTouches_sum (core : List String) (h : 0 ≤ entry.2) (hsmall : entry.2 < 2 ^ 46) :
    |(splitTouches (coreRatio core : Float) entry).1 + (splitTouches (coreRatio core : Float) entry).2 - entry.2| ≤
      if isHalved core entry then 1 else 0 := by
  obtain ⟨name, count⟩ := entry
  obtain ⟨n, rfl⟩ := Int.eq_ofNat_of_zero_le h
  have hn : n < 2 ^ 46 := by
    have hcast : (n : Int) < 2 ^ 46 := hsmall
    exact_mod_cast hcast
  rw [splitTouches, isHalved]
  by_cases hsource : sourceTypes.contains name
  · rw [if_pos hsource, hsource, Bool.true_and]
    obtain ⟨k, -, hratio⟩ := exists_twentieths core
    obtain ⟨p, hp, q, hq, ⟨hstands, hone, hnear⟩, hstands', hone', hnear'⟩ := exists_shares core
    obtain ⟨x, hx, hxnear⟩ := exists_near_share hn hstands hp hone hnear
    obtain ⟨y, hy, hynear⟩ := exists_near_share hn hstands' hq hone' hnear'
    have hcore : ((n : Int) : Rat) * coreRatio core = ((n * k : Int) : Rat) / 20 := by
      rw [hratio]
      push_cast
      ring
    have hperipheral : (n : Rat) * (1 - coreRatio core) = ((n : Int) : Rat) - ((n * k : Int) : Rat) / 20 := by
      rw [← hcore, Int.cast_natCast]
      ring
    rw [Int.cast_natCast] at hcore
    rw [hcore] at hxnear
    rw [hperipheral] at hynear
    obtain ⟨hclose, hexact⟩ := floor_add_floor hxnear hynear
    rw [hx, hy, Int.cast_natCast, hcore]
    by_cases hhalf : (n * k : Int) % 20 = 10
    · rw [decide_eq_true (fract_eq_half hhalf), if_pos rfl]
      exact hclose
    · rw [hexact hhalf, sub_self, abs_zero]
      split <;> decide
  · rw [if_neg hsource, Bool.eq_false_of_not_eq_true hsource, Bool.false_and, if_neg Bool.false_ne_true]
    simp

end Shares

/-! ### Touches of a developer -/

section Touches

variable {core : List String} {entries : List (String × Int)}

theorem signedTotal_nonneg {numbers : List Int} (h : ∀ number ∈ numbers, 0 ≤ number) : 0 ≤ signedTotal numbers := by
  induction numbers with
  | nil => exact le_rfl
  | cons number rest ih =>
    have hrest := ih fun other hother => h other (List.mem_cons_of_mem number hother)
    exact Int.add_nonneg (h number List.mem_cons_self) hrest

/-- The shares of all counts add up to the total, but for the counts with halves. -/
theorem signedTotal_splitTouches (h : ∀ entry ∈ entries, 0 ≤ entry.2 ∧ entry.2 < 2 ^ 46) :
    |signedTotal (entries.map fun entry => (splitTouches (coreRatio core : Float) entry).1) +
        signedTotal (entries.map fun entry => (splitTouches (coreRatio core : Float) entry).2) -
        signedTotal (entries.map (·.2))| ≤ entries.countP (isHalved core) := by
  induction entries with
  | nil => exact le_rfl
  | cons entry rest ih =>
    obtain ⟨hnonneg, hsmall⟩ := h entry List.mem_cons_self
    have hentry := splitTouches_sum core hnonneg hsmall
    have hrest := ih fun other hother => h other (List.mem_cons_of_mem entry hother)
    have hcons : ∀ f : String × Int → Int, signedTotal ((entry :: rest).map f) = f entry + signedTotal (rest.map f) :=
      fun _ => rfl
    rw [hcons, hcons, hcons, List.countP_cons, Nat.cast_add]
    rw [abs_le] at hentry hrest ⊢
    by_cases hhalf : isHalved core entry
    · rw [if_pos hhalf] at hentry ⊢
      omega
    · rw [if_neg hhalf] at hentry ⊢
      omega

/-- **Touches as core and peripheral modules.** Both counts are not negative. Where files and a graph are known they add
up to the number of files. Where only counts are known they add up to the total of the counts, give or take one for each
extension of source files whose share of core modules ends in a half. -/
theorem moduleTouches_sum (a : Activity) (core : List String) (g : Option (DependencyGraph Float))
    (h : ∀ entry ∈ a.fileTypes, 0 ≤ entry.2) :
    0 ≤ (moduleTouches a core g).1 ∧ 0 ≤ (moduleTouches a core g).2 ∧
      (a.filesTouched ≠ [] → g.isSome →
        (moduleTouches a core g).1 + (moduleTouches a core g).2 = a.filesTouched.length) ∧
      (a.filesTouched = [] ∨ g = none → (∀ entry ∈ a.fileTypes, entry.2 < 2 ^ 46) →
        |(moduleTouches a core g).1 + (moduleTouches a core g).2 - signedTotal (a.fileTypes.map (·.2))| ≤
          a.fileTypes.countP (isHalved core)) := by
  by_cases hknown : a.filesTouched ≠ [] ∧ g.isSome
  · have htouches : moduleTouches a core g =
        ((a.filesTouched.countP core.contains : Int),
          (a.filesTouched.length : Int) - (a.filesTouched.countP core.contains : Int)) := by
      have hnonempty : a.filesTouched.isEmpty = false := List.isEmpty_eq_false_iff.mpr hknown.1
      rw [moduleTouches, hnonempty, hknown.2]
      rfl
    have hle : a.filesTouched.countP core.contains ≤ a.filesTouched.length := List.countP_le_length
    rw [htouches]
    refine ⟨by omega, by omega, fun _ _ => by omega, ?_⟩
    rintro (hnone | hnone)
    · exact absurd hnone hknown.1
    · rw [hnone] at hknown
      exact absurd hknown.2 Bool.false_ne_true
  · have htouches : moduleTouches a core g =
        (signedTotal (a.fileTypes.map fun entry => (splitTouches (coreRatio core : Float) entry).1),
          signedTotal (a.fileTypes.map fun entry => (splitTouches (coreRatio core : Float) entry).2)) := by
      have hguard : ¬ (!a.filesTouched.isEmpty && g.isSome) = true := by
        rw [Bool.and_eq_true, Bool.not_eq_true', List.isEmpty_eq_false_iff]
        exact hknown
      rw [moduleTouches, if_neg hguard]
      simp only [List.map_map]
      rfl
    have hnonneg := fun entry hentry => splitTouches_nonneg core (h entry hentry)
    rw [htouches]
    refine ⟨signedTotal_nonneg ?_, signedTotal_nonneg ?_, fun hfiles hgraph => absurd ⟨hfiles, hgraph⟩ hknown, ?_⟩
    · exact List.forall_mem_map.mpr fun entry hentry => (hnonneg entry hentry).1
    · exact List.forall_mem_map.mpr fun entry hentry => (hnonneg entry hentry).2
    · exact fun _ hsmall => signedTotal_splitTouches fun entry hentry => ⟨h entry hentry, hsmall entry hentry⟩

/-- Of five changes to sources and no core modules one and a half are a share, and both shares are rounded up. -/
theorem moduleTouches_sum_of_halves :
    let a : Activity := { developer := "ann", fileTypes := [(".ts", 5), (".md", 2), (".py", 4)] }
    (∀ entry ∈ a.fileTypes, 0 ≤ entry.2) ∧ (∀ entry ∈ a.fileTypes, entry.2 < 2 ^ 46) ∧
      moduleTouches a [] (none : Option (DependencyGraph Float)) = (3, 9) ∧
      a.fileTypes.countP (isHalved []) = 1 ∧
      |(moduleTouches a [] (none : Option (DependencyGraph Float))).1 +
          (moduleTouches a [] (none : Option (DependencyGraph Float))).2 - signedTotal (a.fileTypes.map (·.2))| ≤
        a.fileTypes.countP (isHalved []) := by
  intro a
  have hnonneg : ∀ entry ∈ a.fileTypes, 0 ≤ entry.2 := by decide
  have hsmall : ∀ entry ∈ a.fileTypes, entry.2 < 2 ^ 46 := by decide
  obtain ⟨-, -, -, hestimate⟩ := moduleTouches_sum a [] none hnonneg
  exact ⟨hnonneg, hsmall, by decide +kernel, by decide +kernel, hestimate (.inr rfl) hsmall⟩

end Touches

end ImpactScore
end RepoSurvey
