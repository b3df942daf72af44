import RepoSurvey.Proofs.LookUp
import RepoSurvey.Proofs.Text.Distinct
import RepoSurvey.Proofs.Velocity.ScaledWeights

/-!
# Scores of developers

Everyone who occurs in the input has one score, which depends on nobody else's records. A score that is computed from
finite numbers lies between 0 and 100: at most one of its parts can become infinite.

* `reviewScore_inRange`: what requests and reviews are worth.
* `isSome_rank?_weighted`: the weighted parts add up to a number.
* `VelocityScore.AgreeOn`: two inputs that say the same about a developer.
* `VelocityScore.IsScoresOf`: whose scores they are.
* `VelocityScore.ofInput_scores`: the scores of every input under accepted weights.
-/

namespace RepoSurvey

open Double

/-! ### Parts of a score -/

section Parts

variable {x effort impact review refactoring : Float} {v : Rat}

theorem cohort_clamp_inRange (hx : (rank? x).isSome) : ∃ v, toRat? (Cohort.clamp x) = some v ∧ 0 ≤ v ∧ v ≤ 100 := by
  have hmax : toRat? (Cohort.maxScore : Float) = some 100 := toRat?_ofRat_intCast (n := 100) (by decide) (by decide)
  exact toRat?_clamp toRat?_zero hmax (by norm_num) hx

/-- The numbers that a review score is computed with are finite doubles. -/
structure RequestMetrics.HasDoubles (m : RequestMetrics Float) : Prop where
  rounds : (Scalar.toRat? m.averageReviewRounds).isSome
  reviews : (min (m.reviews * 10) 50).natAbs < wholeLimit
  merged : m.merged.natAbs < wholeLimit
  withViolations : m.withViolations.natAbs < wholeLimit

theorem exists_value_ofInt {n : Int} (h : n.natAbs < wholeLimit) : ∃ v, toRat? (Scalar.ofInt n) = some v :=
  Option.isSome_iff_exists.mp ((isSome_toRat?_ofRat_intCast n).mpr h)

/-- Merged requests per round of review, ten for each up to thirty. -/
theorem exists_efficiency {m : RequestMetrics Float} (h : m.HasDoubles) (hmerged : 0 < m.merged) :
    ∃ v, toRat? (Scalar.smaller
      (Scalar.ofInt m.merged / Scalar.larger m.averageReviewRounds Scalar.one * Scalar.ofInt 10) (Scalar.ofInt 30)) =
        some v ∧ 0 ≤ v ∧ v ≤ 30 := by
  have hten : toRat? (Scalar.ofInt 10) = some 10 := toRat?_ofRat_intCast (n := 10) (by decide) (by decide)
  have hthirty : toRat? (Scalar.ofInt 30) = some 30 := toRat?_ofRat_intCast (n := 30) (by decide) (by decide)
  obtain ⟨c, hc⟩ := exists_value_ofInt h.merged
  have hc0 : 0 ≤ c := (rounded_ofRat (m.merged : Rat)).value_nonneg (Int.cast_nonneg hmerged.le) hc
  have hrounds : ∃ l, toRat? (Scalar.larger m.averageReviewRounds Scalar.one) = some l ∧ 1 ≤ l := by
    have hle := le_larger toRat?_one (isSome_rank?_of_toRat? h.rounds)
    have hfinite : (toRat? (Scalar.larger m.averageReviewRounds Scalar.one)).isSome := by
      rw [Scalar.larger]
      split
      · exact Option.isSome_of_eq_some toRat?_one
      · exact h.rounds
    obtain ⟨l, hl⟩ := Option.isSome_iff_exists.mp hfinite
    exact ⟨l, hl, (le_iff_of_toRat? toRat?_one hl).mp hle⟩
  obtain ⟨l, hl, hl1⟩ := hrounds
  have hquotient := rounded_div hc hl (by linarith)
  have hshare : 0 ≤ c / l := div_nonneg hc0 (by linarith)
  have hfinite := hquotient.isSome_of_le hc (by
    rw [abs_of_nonneg hshare, abs_of_nonneg hc0]
    exact div_le_self hc0 hl1)
  obtain ⟨q, hq⟩ := Option.isSome_iff_exists.mp hfinite
  have hq0 := hquotient.value_nonneg hshare hq
  have hproduct := rounded_mul hq hten
  exact toRat?_smaller toRat?_zero hthirty (by norm_num) ((rounded_ofRat 0).le hproduct (by linarith))

/-- A review score lies between 0 and 100. -/
theorem reviewScore_inRange {m : RequestMetrics Float} (h : m.HasDoubles) :
    ∃ v, toRat? (reviewScore m) = some v ∧ 0 ≤ v ∧ v ≤ 100 := by
  have hfifty : toRat? (ofRat 50) = some 50 := toRat?_ofRat_intCast (n := 50) (by decide) (by decide)
  have heighty : toRat? (ofRat 80) = some 80 := toRat?_ofRat_intCast (n := 80) (by decide) (by decide)
  have htwenty : toRat? (Scalar.ofInt 20) = some 20 := toRat?_ofRat_intCast (n := 20) (by decide) (by decide)
  obtain ⟨a, ha⟩ := exists_value_ofInt h.reviews
  have ha50 : a ≤ 50 := by
    refine (le_iff_of_toRat? ha hfifty).mp (ofRat_mono ?_)
    exact_mod_cast min_le_right (m.reviews * 10) 50
  rw [reviewScore]
  refine cohort_clamp_inRange (isSome_rank?_roundPlaces 2 (isSome_rank?_sub ?_ ?_))
  · -- The reviews may be far below zero, but the rest brings them nearer to it.
    obtain ⟨b, hb, hb0, hb30⟩ : ∃ b, toRat? (if 0 < m.merged ∧ Scalar.lt Scalar.zero m.averageReviewRounds then
        Scalar.smaller (Scalar.ofInt m.merged / Scalar.larger m.averageReviewRounds Scalar.one * Scalar.ofInt 10)
          (Scalar.ofInt 30) else Scalar.zero) = some b ∧ 0 ≤ b ∧ b ≤ 30 := by
      split
      · next hmerged => exact exists_efficiency h hmerged.1
      · exact ⟨0, toRat?_zero, le_rfl, by norm_num⟩
    have hsum := rounded_add ha hb
    rcases le_total 0 (a + b) with hnonneg | hnegative
    · refine hsum.isSome_of_le heighty ?_
      rw [abs_of_nonneg hnonneg, abs_of_nonneg (by norm_num)]
      linarith
    · refine hsum.isSome_of_le ha ?_
      rw [abs_of_nonpos hnegative, abs_of_nonpos (by linarith)]
      linarith
  · split
    · next hopened =>
      refine isSome_rank?_mul ?_ (Option.isSome_of_eq_some htwenty)
      obtain ⟨c, hc⟩ := exists_value_ofInt h.withViolations
      have hone : (1 : Rat) ≤ (m.opened : Rat) := by exact_mod_cast hopened
      have hshare : |(m.withViolations : Rat) / (m.opened : Rat)| ≤ |(m.withViolations : Rat)| := by
        rw [abs_div]
        exact div_le_self (abs_nonneg _) (hone.trans (le_abs_self _))
      exact (rounded_ofRat _).isSome_of_rounded (rounded_ofRat _) (Option.isSome_of_eq_some hc) hshare
    · exact isSome_rank?_of_toRat? (Option.isSome_of_eq_some toRat?_zero)

/-- A product with a weight of at most one is finite. -/
theorem isSome_mul_of_le_one {x c : Float} {b : Rat} (hx : (toRat? x).isSome) (hc : toRat? c = some b) (hb : 0 ≤ b)
    (hone : b ≤ 1) : (toRat? (x * c)).isSome := by
  obtain ⟨v, hv⟩ := Option.isSome_iff_exists.mp hx
  refine (rounded_mul hv hc).isSome_of_le hv ?_
  rw [abs_mul, abs_of_nonneg hb]
  exact mul_le_of_le_one_right (abs_nonneg v) hone

/-- A product of a score and a weight of at most three is finite. -/
theorem isSome_mul_of_score {x c : Float} {v b : Rat} (hx : toRat? x = some v) (hv : 0 ≤ v) (hv' : v ≤ 100)
    (hc : toRat? c = some b) (hb : 0 ≤ b) (hb' : b ≤ 3) : (toRat? (x * c)).isSome := by
  have hlimit : toRat? (ofRat 300) = some 300 := toRat?_ofRat_intCast (n := 300) (by decide) (by decide)
  refine (rounded_mul hx hc).isSome_of_le hlimit ?_
  rw [abs_of_nonneg (mul_nonneg hv hb), abs_of_nonneg (by norm_num)]
  calc v * b ≤ 100 * 3 := mul_le_mul hv' hb' hb (by norm_num)
    _ = 300 := by norm_num

/-- The weighted parts add up to a number. Effort and impact may be any finite numbers: as one of their weights is at
most one, at most one of the two products is infinite. -/
theorem isSome_rank?_weighted {w : VelocityWeights Float} (hw : w.Moderate) {r f : Rat} (heffort : (toRat? effort).isSome)
    (himpact : (toRat? impact).isSome) (hreview : toRat? review = some r) (hr : 0 ≤ r) (hr' : r ≤ 100)
    (hrefactoring : toRat? refactoring = some f) (hf : 0 ≤ f) (hf' : f ≤ 1) :
    (rank? (weighted w effort impact review refactoring)).isSome := by
  have hhundred : toRat? (Scalar.ofInt 100) = some 100 := toRat?_ofRat_intCast (n := 100) (by decide) (by decide)
  obtain ⟨⟨a, ha, ha0, ha3⟩, ⟨b, hb, hb0, hb3⟩, ⟨c, hc, hc0, hc3⟩, ⟨d, hd, hd0, hd3⟩⟩ :=
    VelocityWeights.forall_mem_listed.mp hw.listed
  have heffortProduct := isSome_rank?_mul heffort (Option.isSome_of_eq_some ha)
  have himpactProduct := isSome_rank?_mul himpact (Option.isSome_of_eq_some hb)
  have hpair : (rank? (effort * w.complexity + impact * w.architecture)).isSome := by
    rcases hw.light with hlight | hlight
    · have hone := (le_iff_of_toRat? ha toRat?_one).mp hlight
      exact (isSome_rank?_add himpactProduct (isSome_mul_of_le_one heffort ha ha0 hone)).2
    · have hone := (le_iff_of_toRat? hb toRat?_one).mp hlight
      exact (isSome_rank?_add heffortProduct (isSome_mul_of_le_one himpact hb hb0 hone)).1
  obtain ⟨g, hg, hg0, hg100⟩ : ∃ g, toRat? (refactoring * Scalar.ofInt 100) = some g ∧ 0 ≤ g ∧ g ≤ 100 := by
    have hpercent := rounded_mul hrefactoring hhundred
    exact exists_between toRat?_zero hhundred ((rounded_ofRat 0).le hpercent (by linarith))
      (hpercent.le (rounded_of_toRat? hhundred) (by linarith))
  have hthree := (isSome_rank?_add hpair (isSome_mul_of_score hreview hr hr' hc hc0 hc3)).1
  exact (isSome_rank?_add hthree (isSome_mul_of_score hg hg0 hg100 hd hd0 hd3)).1

end Parts

namespace VelocityScore

/-! ### Records of one developer -/

section Records

variable {α β γ : Type} {d d' : VelocityInput α} {developerOf : β → String} {records : List β} {developer : String}

theorem lastOf_eq (developerOf : β → String) (records : List β) (developer : String) :
    lastOf developerOf records developer = (records.filter (developerOf · == developer)).getLast? := by
  rw [lastOf, ← List.head?_filter, List.filter_reverse, List.head?_reverse]

/-- What is told from the last record of a developer, or else a default, is told from some record or the default. -/
theorem elim_lastOf (P : γ → Prop) (developerOf : β → String) (developer : String) {default : γ} {told : β → γ}
    (hdefault : P default) (h : ∀ record ∈ records, P (told record)) : P ((lastOf developerOf records developer).elim default told) := by
  cases hlast : lastOf developerOf records developer with
  | none => exact hdefault
  | some record => exact h record (List.mem_reverse.mp (List.mem_of_find?_eq_some hlast))

theorem mem_map_iff_filter : developer ∈ records.map developerOf ↔ records.filter (developerOf · == developer) ≠ [] := by
  rw [List.mem_map, ne_eq, List.filter_eq_nil_iff]
  push Not
  exact exists_congr fun record => and_congr_right fun _ => beq_iff_eq.symm

/-- Two inputs say the same about a developer: the same records in the same order, whatever stands between them. -/
structure AgreeOn (developer : String) (d d' : VelocityInput α) : Prop where
  activities : d.activities.filter (·.developer == developer) = d'.activities.filter (·.developer == developer)
  efforts : d.efforts.filter (·.developer == developer) = d'.efforts.filter (·.developer == developer)
  impacts : d.impacts.filter (·.developer == developer) = d'.impacts.filter (·.developer == developer)
  requests : d.requests.filter (·.developer == developer) = d'.requests.filter (·.developer == developer)
  refactoring : d.refactoring.filter (·.1 == developer) = d'.refactoring.filter (·.1 == developer)
  blockers : d.blockers.filter (·.entity == developer) = d'.blockers.filter (·.entity == developer)
  previous : d.previous.filter (·.developer == developer) = d'.previous.filter (·.developer == developer)
  span : d.span = d'.span

/-- The developer occurs in the records that are scored. -/
def Occurs (developer : String) (d : VelocityInput α) : Prop :=
  developer ∈ d.activities.map (·.developer) ∨ developer ∈ d.efforts.map (·.developer) ∨
    developer ∈ d.impacts.map (·.developer) ∨ developer ∈ d.requests.map (·.developer)

theorem mem_developers : developer ∈ developers d ↔ Occurs developer d := by
  rw [developers, Text.mem_distinctAscending, List.mem_append, List.mem_append, List.mem_append, or_assoc, or_assoc,
    Occurs]

theorem AgreeOn.occurs_iff (h : AgreeOn developer d d') : Occurs developer d ↔ Occurs developer d' := by
  simp only [Occurs, mem_map_iff_filter, h.activities, h.efforts, h.impacts, h.requests]

variable [Scalar α] {w : VelocityWeights α} {scoring : ScoringConfig Int α}

theorem AgreeOn.ofDeveloper_eq (h : AgreeOn developer d d') : ofDeveloper d w scoring developer =
    ofDeveloper d' w scoring developer := by
  simp only [ofDeveloper, lastOf_eq, h.activities, h.efforts, h.impacts, h.requests, h.refactoring, h.blockers,
    h.previous, h.span]

theorem find?_map_ofDeveloper [Decidable (developer ∈ developers d)] :
    ((developers d).map (ofDeveloper d w scoring)).find? (·.developer == developer) =
      if developer ∈ developers d then some (ofDeveloper d w scoring developer) else none := by
  have hkey : ((·.developer == developer) ∘ ofDeveloper d w scoring) = (· == developer) := rfl
  rw [List.find?_map, hkey, find?_beq]
  split <;> rfl

/-- A developer about whom two inputs say the same has the same score in both, or none. -/
theorem AgreeOn.find?_eq (h : AgreeOn developer d d') :
    ((developers d).map (ofDeveloper d w scoring)).find? (·.developer == developer) =
      ((developers d').map (ofDeveloper d' w scoring)).find? (·.developer == developer) := by
  classical
  have hoccurs : developer ∈ developers d ↔ developer ∈ developers d' := by
    rw [mem_developers, mem_developers, h.occurs_iff]
  rw [find?_map_ofDeveloper, find?_map_ofDeveloper, h.ofDeveloper_eq]
  exact if_congr hoccurs rfl rfl

/-- Whose scores they are: those of everybody who occurs, in ascending order, with their own blockers in their order. -/
structure IsScoresOf (d : VelocityInput α) (scores : List (VelocityScore α)) : Prop where
  ascending : (scores.map (·.developer)).Pairwise (· < ·)
  everyone : ∀ developer, developer ∈ scores.map (·.developer) ↔ Occurs developer d
  blockers : ∀ s ∈ scores, s.blockers = d.blockers.filter (·.entity == s.developer)

theorem isScoresOf_map : IsScoresOf d ((developers d).map (ofDeveloper d w scoring)) := by
  have hnames : ((developers d).map (ofDeveloper d w scoring)).map (·.developer) = developers d := by
    rw [List.map_map]
    exact List.map_id _
  refine ⟨?_, fun developer => ?_, List.forall_mem_map.mpr fun _ _ => rfl⟩
  · rw [hnames]
    exact Text.pairwise_lt_distinctAscending _
  · rw [hnames]
    exact mem_developers

end Records

/-! ### Scores -/

section Scores

variable {d : VelocityInput Float} {w : VelocityWeights Float}

/-- All numbers that the scores are computed with are finite doubles. -/
structure HasDoubles (d : VelocityInput Float) : Prop where
  efforts : ∀ e ∈ d.efforts, (Scalar.toRat? e.score).isSome
  impacts : ∀ i ∈ d.impacts, (Scalar.toRat? i.score).isSome
  refactoring : ∀ r ∈ d.refactoring, (Scalar.toRat? r.2).isSome
  requests : ∀ m ∈ d.requests, m.HasDoubles

/-- The score of a developer lies between 0 and 100. -/
theorem velocity_inRange (hd : HasDoubles d) (hw : w.Moderate) (scoring : ScoringConfig Int Float)
    (developer : String) :
    ∃ v, toRat? (ofDeveloper d w scoring developer).velocity = some v ∧ 0 ≤ v ∧ v ≤ 100 := by
  have hzero : (toRat? (Scalar.zero : Float)).isSome := Option.isSome_of_eq_some toRat?_zero
  have hworst : ∃ v, toRat? (Scalar.zero : Float) = some v ∧ 0 ≤ v ∧ v ≤ 100 := ⟨0, toRat?_zero, le_rfl, by norm_num⟩
  have hreview := elim_lastOf (fun x : Float => ∃ v, toRat? x = some v ∧ 0 ≤ v ∧ v ≤ 100) RequestMetrics.developer
    developer hworst fun m hm => reviewScore_inRange (hd.requests m hm)
  obtain ⟨r, hr, hr0, hr100⟩ := hreview
  have heffort := elim_lastOf (fun x : Float => (toRat? x).isSome) EffortScore.developer developer hzero hd.efforts
  have himpact := elim_lastOf (fun x : Float => (toRat? x).isSome) ImpactScore.developer developer hzero hd.impacts
  have hratio := elim_lastOf (fun x : Float => (toRat? x).isSome) Prod.fst developer hzero hd.refactoring
  obtain ⟨f, hf, hf0, hf1⟩ := toRat?_clamp toRat?_zero toRat?_one (by norm_num) (isSome_rank?_of_toRat? hratio)
  refine cohort_clamp_inRange (isSome_rank?_roundPlaces 2 ?_)
  exact isSome_rank?_weighted hw heffort himpact hr hr0 hr100 hf hf0 hf1

/-- **The scores of developers.** Finite weights that are accepted are refused again if their sum is not finite. All
others give a score to everybody who occurs in the input, in ascending order, with their own blockers; from finite
numbers, and with a tolerance of at most one, it lies between 0 and 100. Another input that says the same about a
developer gives the same score to them. -/
theorem ofInput_scores (hfinite : w.IsFinite) (haccepted : w.check = .ok ()) (scoring : ScoringConfig Int Float)
    (d : VelocityInput Float) :
    (¬ (Scalar.toRat? w.total).isSome → ofInput d w scoring = .error (.broken .someWeight)) ∧
      ((Scalar.toRat? w.total).isSome → ∃ scores, ofInput d w scoring = .ok scores ∧ IsScoresOf d scores ∧
        (HasDoubles d → w.tolerance ≤ Double.ofRat 1 →
          ∀ s ∈ scores, ∃ v, Scalar.toRat? s.velocity = some v ∧ 0 ≤ v ∧ v ≤ 100) ∧
        ∀ d' scores', ofInput d' w scoring = .ok scores' → ∀ developer, AgreeOn developer d d' →
          scores.find? (·.developer == developer) = scores'.find? (·.developer == developer)) := by
  have haccepted' := (VelocityWeights.check_eq_ok w).mp haccepted
  constructor
  · intro hinfinite
    rw [ofInput, VelocityWeights.normalized_eq_error hfinite haccepted' hinfinite]
    rfl
  · intro hsome
    obtain ⟨t, ht⟩ := Option.isSome_iff_exists.mp hsome
    obtain ⟨w', hnormalized, hmoderate⟩ := VelocityWeights.normalized_eq_ok hfinite haccepted' ht
    have hscores : ∀ d : VelocityInput Float,
        ofInput d w scoring = .ok ((developers d).map (ofDeveloper d w' scoring)) := by
      intro d
      rw [ofInput, hnormalized]
      rfl
    refine ⟨_, hscores d, isScoresOf_map, fun hd htolerance => ?_, fun d' scores' hscores' developer hagree => ?_⟩
    · exact List.forall_mem_map.mpr fun developer _ => velocity_inRange hd (hmoderate htolerance) scoring developer
    · rw [hscores d'] at hscores'
      rw [← Except.ok.inj hscores']
      exact hagree.find?_eq

/-- Two great weights are refused when they are scaled. Under the usual ones ann has the same score with and without
ben, who has more lines and a blocker of his own. -/
theorem ofInput_scores_of_great_weights :
    let great : VelocityWeights Float :=
      ⟨Double.ofRat (10 ^ 308), Double.ofRat (10 ^ 308), Scalar.zero, Scalar.zero, Double.ofRat 0.01⟩
    let usual : VelocityWeights Float := .usual
    let scoring : ScoringConfig Int Float := .usual
    let d : VelocityInput Float :=
      { activities := [], efforts := [⟨"ann", 120, Scalar.one, Double.ofRat 750, Double.ofRat 50⟩], impacts := []
        requests := [⟨"ann", 2, 1, 0, Scalar.one, Scalar.one, Scalar.one, Scalar.one, 1, 3⟩]
        refactoring := [("ann", Double.ofRat 0.25)], blockers := [⟨.stalledRequest, "late", .low, "ann", none⟩]
        span := {}, previous := [] }
    let d' : VelocityInput Float :=
      { d with
        activities := [⟨"ben", 9, 4, 900, 120, [(".ts", 4)], none, none, ["src/core.ts"]⟩]
        blockers := ⟨.stalledRequest, "later", .high, "ben", none⟩ :: d.blockers }
    great.IsFinite ∧ great.check = .ok () ∧ ofInput d great scoring = .error (.broken .someWeight) ∧
      usual.IsFinite ∧ usual.check = .ok () ∧ HasDoubles d ∧ AgreeOn "ann" d d' ∧
      ∃ scores scores', ofInput d usual scoring = .ok scores ∧ ofInput d' usual scoring = .ok scores' ∧
        IsScoresOf d scores ∧ IsScoresOf d' scores' ∧ Occurs "ann" d ∧ Occurs "ben" d' ∧
        (∀ s ∈ scores, ∃ v, Scalar.toRat? s.velocity = some v ∧ 0 ≤ v ∧ v ≤ 100) ∧
        scores.find? (·.developer == "ann") = scores'.find? (·.developer == "ann") := by
  intro great usual scoring d d'
  have hgreat : great.IsFinite := ⟨by decide +kernel, by decide +kernel⟩
  have hgreatCheck : great.check = .ok () :=
    (VelocityWeights.check_eq_ok great).mpr ⟨by decide +kernel, by decide +kernel⟩
  have husual : usual.IsFinite := ⟨by decide +kernel, by decide +kernel⟩
  have husualCheck : usual.check = .ok () :=
    (VelocityWeights.check_eq_ok usual).mpr ⟨by decide +kernel, by decide +kernel⟩
  have hdoubles : HasDoubles d := by
    refine ⟨by decide +kernel, by decide +kernel, by decide +kernel, fun m hm => ?_⟩
    obtain rfl := List.mem_singleton.mp hm
    exact ⟨by decide +kernel, by decide +kernel, by decide +kernel, by decide +kernel⟩
  have hagree : AgreeOn "ann" d d' := ⟨rfl, rfl, rfl, rfl, rfl, rfl, rfl, rfl⟩
  have hinfinite : ¬ (Scalar.toRat? great.total).isSome := by decide +kernel
  have hsome : (Scalar.toRat? usual.total).isSome := by decide +kernel
  have htolerance : usual.tolerance ≤ Double.ofRat 1 := by decide +kernel
  obtain ⟨scores, hscores, hown, hrange, hsame⟩ := (ofInput_scores husual husualCheck scoring d).2 hsome
  obtain ⟨scores', hscores', hown', -⟩ := (ofInput_scores husual husualCheck scoring d').2 hsome
  exact ⟨hgreat, hgreatCheck, (ofInput_scores hgreat hgreatCheck scoring d).1 hinfinite, husual, husualCheck, hdoubles,
    hagree, scores, scores', hscores, hscores', hown, hown', .inr (.inl (by decide)), .inl (by decide),
    hrange hdoubles htolerance, hsame d' scores' hscores' "ann" hagree⟩

end Scores

end VelocityScore
end RepoSurvey
