import RepoSurvey.Proofs.Drift.Thresholds
import RepoSurvey.Proofs.Number.DoubleRange
import RepoSurvey.Proofs.Number.DoubleWhole
import RepoSurvey.Velocity.Score

/-!
# Scaled weights

Accepted weights are scaled to add up to one, unless their sum is not finite: then every quotient is zero, and the
weights are refused as if they had been zero.

* `VelocityWeights.check_eq_ok`: what the checks of the weights demand.
* `VelocityWeights.exists_heavy`: of the weights with a finite sum, one is at least a thirty-second of it.
* `VelocityWeights.Moderate`: weights under which no score is lost.
* `VelocityWeights.normalized_eq_ok`, `normalized_eq_error`: the weights that a score is computed with.
-/

namespace RepoSurvey
namespace VelocityWeights

/-! ### Checks -/

section Checks

variable {α : Type}

/-- The four weights in their order. -/
def listed (w : VelocityWeights α) : List α := [w.complexity, w.architecture, w.review, w.refactoring]

theorem forall_mem_listed {w : VelocityWeights α} {P : α → Prop} :
    (∀ x ∈ w.listed, P x) ↔ P w.complexity ∧ P w.architecture ∧ P w.review ∧ P w.refactoring := by
  simp [listed]

variable [Scalar α]

/-- What the checks demand: no weight is negative, and their sum is positive. -/
structure IsAccepted (w : VelocityWeights α) : Prop where
  nonneg : ∀ x ∈ w.listed, Scalar.lt x (Scalar.ofInt 0) = false
  some : Scalar.le w.total (Scalar.ofInt 0) = false

theorem check_eq (w : VelocityWeights α) : w.check = (do
    SettingRule.checkNonNegative "complexity_weight" w.complexity
    SettingRule.checkNonNegative "arch_impact_weight" w.architecture
    SettingRule.checkNonNegative "review_weight" w.review
    SettingRule.checkNonNegative "refactoring_weight" w.refactoring
    SettingRule.someWeight.require (!Scalar.le w.total (Scalar.ofInt 0))) := rfl

theorem check_eq_ok (w : VelocityWeights α) : w.check = .ok () ↔ w.IsAccepted := by
  rw [check_eq, seq_eq_ok, seq_eq_ok, seq_eq_ok, seq_eq_ok, SettingRule.require_eq_ok, Bool.not_eq_true']
  simp only [SettingRule.checkNonNegative_eq_ok]
  constructor
  · rintro ⟨hcomplexity, harchitecture, hreview, hrefactoring, hsome⟩
    exact ⟨forall_mem_listed.mpr ⟨hcomplexity, harchitecture, hreview, hrefactoring⟩, hsome⟩
  · intro h
    obtain ⟨hcomplexity, harchitecture, hreview, hrefactoring⟩ := forall_mem_listed.mp h.nonneg
    exact ⟨hcomplexity, harchitecture, hreview, hrefactoring, h.some⟩

/-- Weights that are not negative but have no positive sum are refused for that. -/
theorem check_eq_someWeight {w : VelocityWeights α} (h : ∀ x ∈ w.listed, Scalar.lt x (Scalar.ofInt 0) = false)
    (hnone : Scalar.le w.total (Scalar.ofInt 0) = true) : w.check = .error (.broken .someWeight) := by
  obtain ⟨hcomplexity, harchitecture, hreview, hrefactoring⟩ := forall_mem_listed.mp h
  rw [check_eq, (SettingRule.checkNonNegative_eq_ok _ _).mpr hcomplexity,
    (SettingRule.checkNonNegative_eq_ok _ _).mpr harchitecture, (SettingRule.checkNonNegative_eq_ok _ _).mpr hreview,
    (SettingRule.checkNonNegative_eq_ok _ _).mpr hrefactoring, hnone]
  rfl

/-- All weights and the tolerance are finite numbers. -/
structure IsFinite (w : VelocityWeights α) : Prop where
  listed : ∀ x ∈ w.listed, (Scalar.toRat? x).isSome
  tolerance : (Scalar.toRat? w.tolerance).isSome

end Checks

/-! ### Sums of doubles -/

section Sums

open Double

variable {w : VelocityWeights Float} {t : Rat}

/-- The weights are finite and not negative. -/
def HasValues (w : VelocityWeights Float) : Prop := ∀ x ∈ w.listed, ∃ v, toRat? x = some v ∧ 0 ≤ v

theorem hasValues (hfinite : w.IsFinite) (haccepted : w.IsAccepted) : w.HasValues := by
  intro x hx
  have hzero := zero_le_of_not_lt (hfinite.listed x hx) (haccepted.nonneg x hx)
  obtain ⟨v, hv⟩ := Option.isSome_iff_exists.mp (hfinite.listed x hx)
  obtain ⟨u, hu, hnonneg⟩ | hinfinite := toRat?_or_infinite hzero
  · exact ⟨u, hu, hnonneg⟩
  · have hplace := (isSome_toRat? x).mp (hfinite.listed x hx)
    rw [hinfinite.place_eq] at hplace
    exact absurd hplace (Nat.lt_irrefl _)

theorem HasValues.zero_le (h : w.HasValues) : ∀ x ∈ w.listed, ofRat 0 ≤ x := by
  intro x hx
  obtain ⟨v, hv, hnonneg⟩ := h x hx
  exact (le_iff_of_toRat? toRat?_zero hv).mpr hnonneg

/-- The sum is not negative and not less than any weight. -/
theorem le_total (h : ∀ x ∈ w.listed, ofRat 0 ≤ x) : ofRat 0 ≤ w.total ∧ ∀ x ∈ w.listed, x ≤ w.total := by
  obtain ⟨hcomplexity, harchitecture, hreview, hrefactoring⟩ := forall_mem_listed.mp h
  obtain ⟨hfirst, hfirst'⟩ := le_add hcomplexity harchitecture
  have htwo := Double.le_trans hcomplexity hfirst
  obtain ⟨hsecond, hsecond'⟩ := le_add htwo hreview
  have hthree := Double.le_trans htwo hsecond
  obtain ⟨hthird, hthird'⟩ := le_add hthree hrefactoring
  have hpair := Double.le_trans hsecond hthird
  refine ⟨Double.le_trans hthree hthird, forall_mem_listed.mpr ⟨?_, ?_, ?_, ?_⟩⟩
  · exact Double.le_trans hfirst hpair
  · exact Double.le_trans hfirst' hpair
  · exact Double.le_trans hsecond' hthird
  · exact hthird'

/-- Of the weights with a finite sum one is at least a thirty-second of it. -/
theorem exists_heavy (h : w.HasValues) (ht : toRat? w.total = some t) (hpos : 0 < t) :
    ∃ x ∈ w.listed, ∃ v, toRat? x = some v ∧ t / 32 ≤ v := by
  obtain ⟨⟨a, ha, ha0⟩, ⟨b, hb, hb0⟩, ⟨c, hc, hc0⟩, ⟨d, hd, hd0⟩⟩ := forall_mem_listed.mp h
  obtain ⟨hthree, -⟩ := isSome_of_combined (.inl (Option.isSome_of_eq_some ht))
  obtain ⟨htwo, -⟩ := isSome_of_combined (.inl hthree)
  obtain ⟨u, hu⟩ := Option.isSome_iff_exists.mp htwo
  obtain ⟨s, hs⟩ := Option.isSome_iff_exists.mp hthree
  have hsum := rounded_add ha hb
  have hubound := hsum.le_two_mul (add_nonneg ha0 hb0) hu
  have hu0 := hsum.value_nonneg (add_nonneg ha0 hb0) hu
  have hsum' := rounded_add hu hc
  have hsbound := hsum'.le_two_mul (add_nonneg hu0 hc0) hs
  have hs0 := hsum'.value_nonneg (add_nonneg hu0 hc0) hs
  have htbound := (rounded_add hs hd).le_two_mul (add_nonneg hs0 hd0) ht
  by_contra hnone
  have hlight : ∀ x ∈ w.listed, ∀ v, toRat? x = some v → v < t / 32 := by
    intro x hx v hv
    by_contra hheavy
    exact hnone ⟨x, hx, v, hv, not_lt.mp hheavy⟩
  obtain ⟨ha', hb', hc', hd'⟩ := forall_mem_listed.mp hlight
  have ha'' := ha' a ha
  have hb'' := hb' b hb
  have hc'' := hc' c hc
  have hd'' := hd' d hd
  linarith

end Sums

/-! ### Scaling -/

section Scaling

open Double

variable {w : VelocityWeights Float} {t : Rat}

theorem zero_eq : (Scalar.ofInt 0 : Float) = ofRat 0 := rfl

theorem listed_scaled (w : VelocityWeights Float) : w.scaled.listed = w.listed.map (· / w.total) := rfl

theorem total_pos (haccepted : w.IsAccepted) (ht : toRat? w.total = some t) : 0 < t := by
  by_contra hnone
  have hle : w.total ≤ ofRat 0 := (le_iff_of_toRat? ht toRat?_zero).mpr (not_lt.mp hnone)
  have hsome := haccepted.some
  rw [zero_eq, le_eq_true.mpr hle] at hsome
  cases hsome

/-- Weights with a finite sum are scaled to weights of at most one. -/
theorem scaled_le_one (h : w.HasValues) (ht : toRat? w.total = some t) (hpos : 0 < t) :
    ∀ x ∈ w.scaled.listed, ∃ v, toRat? x = some v ∧ 0 ≤ v ∧ v ≤ 1 := by
  rw [listed_scaled]
  refine List.forall_mem_map.mpr fun x hx => ?_
  obtain ⟨v, hv, hnonneg⟩ := h x hx
  have hle : v ≤ t := (le_iff_of_toRat? hv ht).mp ((le_total h.zero_le).2 x hx)
  have hquotient := rounded_div hv ht hpos.ne'
  exact exists_between toRat?_zero toRat?_one ((rounded_ofRat 0).le hquotient (div_nonneg hnonneg hpos.le))
    (hquotient.le (rounded_ofRat 1) ((div_le_one hpos).mpr hle))

/-- Weights with a finite sum are accepted again when they are scaled: the heaviest one is not scaled to zero. -/
theorem isAccepted_scaled (h : w.HasValues) (ht : toRat? w.total = some t) (hpos : 0 < t) : w.scaled.IsAccepted := by
  have hvalues := scaled_le_one h ht hpos
  have hnonneg : ∀ x ∈ w.scaled.listed, ofRat 0 ≤ x := by
    intro x hx
    obtain ⟨v, hv, hv0, -⟩ := hvalues x hx
    exact (le_iff_of_toRat? toRat?_zero hv).mpr hv0
  refine ⟨fun x hx => lt_eq_false_of_le (hnonneg x hx), ?_⟩
  obtain ⟨x, hx, v, hv, hheavy⟩ := exists_heavy h ht hpos
  have hquotient := rounded_div hv ht hpos.ne'
  have hshare : (1 / 32 : Rat) ≤ v / t := by
    rw [le_div_iff₀ hpos]
    linarith
  have hmem : x / w.total ∈ w.scaled.listed := by
    rw [listed_scaled]
    exact List.mem_map_of_mem hx
  have hlow := Double.le_trans ((rounded_ofRat (1 / 32)).le hquotient hshare) ((le_total hnonneg).2 _ hmem)
  rw [← Bool.not_eq_true, le_eq_true, zero_eq]
  intro hnone
  have hfalse : ¬ ofRat (1 / 32) ≤ ofRat 0 := by decide +kernel
  exact hfalse (Double.le_trans hlow hnone)

/-- Weights with an infinite sum are scaled to zeros, which are refused. -/
theorem check_scaled_of_infinite (hfinite : w.IsFinite) (htotal : StandsAt w.total infinitePlace) :
    w.scaled.check = .error (.broken .someWeight) := by
  have hzeros : ∀ x ∈ w.scaled.listed, toRat? x = some 0 := by
    rw [listed_scaled]
    exact List.forall_mem_map.mpr fun x hx =>
      toRat?_of_rank?_zero (rank?_div_infinite (hfinite.listed x hx) htotal)
  have hsum : ∀ {x y : Float}, toRat? x = some 0 → toRat? y = some 0 → toRat? (x + y) = some 0 := by
    intro x y hx hy
    have hrounded := rounded_add hx hy
    rw [add_zero] at hrounded
    obtain ⟨p, hp, hplace⟩ := hrounded.standsAt le_rfl
    have hzero := isPlaceOf_placed (Nat.zero_le infinitePlace)
    rw [placed_zero] at hzero
    rw [hplace.unique hzero] at hp
    exact toRat?_of_rank?_zero hp
  obtain ⟨hcomplexity, harchitecture, hreview, hrefactoring⟩ := forall_mem_listed.mp hzeros
  have htotal' : toRat? w.scaled.total = some 0 := hsum (hsum (hsum hcomplexity harchitecture) hreview) hrefactoring
  refine check_eq_someWeight (fun x hx => lt_eq_false_of_le ?_) (le_eq_true.mpr ?_)
  · exact (le_iff_of_toRat? toRat?_zero (hzeros x hx)).mpr le_rfl
  · exact (le_iff_of_toRat? htotal' toRat?_zero).mpr le_rfl

end Scaling

/-! ### Weights that a score is computed with -/

section Normal

open Double

variable {w : VelocityWeights Float} {x : Float} {t v : Rat}

/-- The least double above one. -/
theorem next_above_one (hx : toRat? x = some v) (hv : 1 < v) : 1 + 1 / 2 ^ 52 ≤ v := by
  by_contra hless
  have hone : rank? (ofRat 1) = some (1023 * 2 ^ 52) := by decide +kernel
  have hnext : rank? (ofRat (1 + 1 / 2 ^ 52)) = some (1023 * 2 ^ 52 + 1) := by decide +kernel
  have hvalue : toRat? (ofRat (1 + 1 / 2 ^ 52)) = some (1 + 1 / 2 ^ 52) := by decide +kernel
  obtain ⟨r, hr, hrank⟩ := rounded_of_toRat? hx
  obtain ⟨s, hs, hlow⟩ := rounded_of_toRat? toRat?_one
  obtain ⟨s', hs', hhigh⟩ := rounded_of_toRat? hvalue
  obtain rfl := Option.some.inj (hone.symm.trans hs)
  obtain rfl := Option.some.inj (hnext.symm.trans hs')
  have hbelow := hlow.mono hv.le hrank
  have habove := hrank.mono (not_le.mp hless).le hhigh
  rcases (by omega : r = 1023 * 2 ^ 52 ∨ r = 1023 * 2 ^ 52 + 1) with rfl | rfl
  · exact hv.ne (eq_of_rank?_eq toRat?_one hx hone hr)
  · exact hless (eq_of_rank?_eq hvalue hx hnext hr).le

/-- Weights that are not far from adding up to one: each one is at most three, and one of the first two at most one. -/
structure Moderate (w : VelocityWeights Float) : Prop where
  listed : ∀ x ∈ w.listed, ∃ v, toRat? x = some v ∧ 0 ≤ v ∧ v ≤ 3
  light : w.complexity ≤ ofRat 1 ∨ w.architecture ≤ ofRat 1

/-- A sum within a tolerance of at most one does not exceed what is rounded to two. -/
theorem excess_le (hnormal : w.isNormal = true) (htolerance : w.tolerance ≤ ofRat 1) (ht : toRat? w.total = some t)
    {q : Rat} (hq : 0 ≤ q) (hqt : 1 + q ≤ t) : ofRat q ≤ ofRat 1 := by
  have hexcess := rounded_sub ht toRat?_one
  have hle := (rounded_ofRat q).le hexcess (by linarith)
  have hzero : ofRat 0 ≤ w.total - ofRat 1 := (rounded_ofRat 0).le hexcess (by linarith)
  have hmagnitude : Scalar.magnitude (w.total - Scalar.one) = w.total - ofRat 1 := by
    have hnot : Scalar.lt (w.total - Scalar.one) Scalar.zero = false := lt_eq_false_of_le hzero
    rw [Scalar.magnitude, hnot]
    rfl
  rw [isNormal, hmagnitude, le_eq_true] at hnormal
  exact Double.le_trans hle (Double.le_trans hnormal htolerance)

theorem moderate_of_isNormal (h : w.HasValues) (hnormal : w.isNormal = true) (htolerance : w.tolerance ≤ ofRat 1)
    (ht : toRat? w.total = some t) : w.Moderate := by
  have hsums := le_total h.zero_le
  constructor
  · intro x hx
    obtain ⟨v, hv, hnonneg⟩ := h x hx
    refine ⟨v, hv, hnonneg, ?_⟩
    have hle : v ≤ t := (le_iff_of_toRat? hv ht).mp (hsums.2 x hx)
    by_contra hgreat
    have hfalse : ¬ ofRat 2 ≤ ofRat 1 := by decide +kernel
    exact hfalse (excess_le hnormal htolerance ht (by norm_num) (by linarith))
  · obtain ⟨⟨a, ha, ha0⟩, ⟨b, hb, hb0⟩, -, -⟩ := forall_mem_listed.mp h
    rw [le_iff_of_toRat? ha toRat?_one, le_iff_of_toRat? hb toRat?_one]
    by_contra hheavy
    obtain ⟨ha1, hb1⟩ := not_or.mp hheavy
    have ha' := next_above_one ha (not_le.mp ha1)
    have hb' := next_above_one hb (not_le.mp hb1)
    -- Two weights above one add up to more than two, by more than what rounding hides.
    have hpair := (rounded_ofRat (2 + 1 / 2 ^ 51)).le (rounded_add ha hb) (by linarith)
    have hpairTotal : w.complexity + w.architecture ≤ w.total := by
      obtain ⟨hcomplexity, harchitecture, hreview, hrefactoring⟩ := forall_mem_listed.mp h.zero_le
      have htwo := Double.le_trans hcomplexity (le_add hcomplexity harchitecture).1
      obtain ⟨hsecond, -⟩ := le_add htwo hreview
      exact Double.le_trans hsecond (le_add (Double.le_trans htwo hsecond) hrefactoring).1
    have hvalue : toRat? (ofRat (2 + 1 / 2 ^ 51)) = some (2 + 1 / 2 ^ 51) := by decide +kernel
    have hle := (le_iff_of_toRat? hvalue ht).mp (Double.le_trans hpair hpairTotal)
    have hfalse : ¬ ofRat (1 + 1 / 2 ^ 51) ≤ ofRat 1 := by decide +kernel
    exact hfalse (excess_le hnormal htolerance ht (by norm_num) (by linarith))

theorem moderate_scaled (h : w.HasValues) (ht : toRat? w.total = some t) (hpos : 0 < t) : w.scaled.Moderate := by
  have hvalues := scaled_le_one h ht hpos
  refine ⟨fun x hx => ?_, .inl ?_⟩
  · obtain ⟨v, hv, hnonneg, hone⟩ := hvalues x hx
    exact ⟨v, hv, hnonneg, by linarith⟩
  · obtain ⟨⟨v, hv, -, hone⟩, -⟩ := forall_mem_listed.mp hvalues
    exact (le_iff_of_toRat? hv toRat?_one).mpr hone

/-- Weights with a finite sum are scaled, if they have to be. -/
theorem normalized_eq_ok (hfinite : w.IsFinite) (haccepted : w.IsAccepted) (ht : toRat? w.total = some t) :
    ∃ w', w.normalized = .ok w' ∧ (w.tolerance ≤ ofRat 1 → w'.Moderate) := by
  have hvalues := hasValues hfinite haccepted
  have hpos := total_pos haccepted ht
  by_cases hnormal : w.isNormal = true
  · refine ⟨w, ?_, fun htolerance => moderate_of_isNormal hvalues hnormal htolerance ht⟩
    rw [normalized, if_pos hnormal]
    rfl
  · refine ⟨w.scaled, ?_, fun _ => moderate_scaled hvalues ht hpos⟩
    rw [normalized, if_neg hnormal, (check_eq_ok _).mpr (isAccepted_scaled hvalues ht hpos)]
    rfl

/-- Weights with an infinite sum are refused. -/
theorem normalized_eq_error (hfinite : w.IsFinite) (haccepted : w.IsAccepted) (ht : ¬ (toRat? w.total).isSome) :
    w.normalized = .error (.broken .someWeight) := by
  have htotal : StandsAt w.total infinitePlace := by
    obtain ⟨u, hu, -⟩ | hinfinite := toRat?_or_infinite (le_total (hasValues hfinite haccepted).zero_le).1
    · exact absurd (Option.isSome_of_eq_some hu) ht
    · exact hinfinite
  have hone : (toRat? (Scalar.one : Float)).isSome := Option.isSome_of_eq_some toRat?_one
  have hexcess : StandsAt (w.total - Scalar.one) infinitePlace := htotal.sub_finite hone
  have hnormal : ¬ w.isNormal = true := by
    have hnot : Scalar.lt (w.total - Scalar.one) Scalar.zero = false :=
      lt_eq_false_of_le ((standsAt_zero.le_iff hexcess).mpr (Nat.zero_le _))
    have hmagnitude : Scalar.magnitude (w.total - Scalar.one) = w.total - Scalar.one := by
      rw [Scalar.magnitude, hnot]
      rfl
    rw [isNormal, hmagnitude, le_eq_true]
    intro hle
    have hzero := (standsAt_zero.le_iff hexcess).mpr (Nat.zero_le _)
    obtain ⟨p, p', hp, hp', hpp'⟩ := exists_places hzero hle
    have hplace := (isSome_toRat? w.tolerance).mp hfinite.tolerance
    rw [hp'.place_eq] at hplace
    have hsame := hp.place_eq.symm.trans hexcess.place_eq
    omega
  rw [normalized, if_neg hnormal, check_scaled_of_infinite hfinite htotal]
  rfl

end Normal

end VelocityWeights
end RepoSurvey
