import Mathlib
import RepoSurvey.Proofs.Drift.Thresholds
import RepoSurvey.Proofs.Velocity.RunResult

/-!
# Earlier scores and trends

* `VelocityResult.apartFromTrends`: a result without its trends and without the highlights, which speak of them.
* `VelocityRun.apartFromTrends_resultUnder`: apart from trends, earlier scores make no difference.
* `VelocityTrend.of_repeated`: a score like all earlier ones is stable, in exact arithmetic.
* `VelocityRun.performSupplied_previous`: earlier scores affect trends only, and a run that is fed its own scores is
  stable.
-/

namespace RepoSurvey

/-! ### Apart from trends -/

section ApartFromTrends

variable {α : Type}

/-- A score of which the trend is not told. -/
def VelocityScore.withoutTrend (s : VelocityScore α) : VelocityScore α := { s with trend := .stable }

/-- The velocity of a team without trends and highlights. -/
def TeamVelocity.apartFromTrends (t : TeamVelocity α) : TeamVelocity α :=
  { t with members := t.members.map (·.withoutTrend), highlights := [] }

/-- A result without trends and highlights. -/
def VelocityResult.apartFromTrends (result : VelocityResult α) : VelocityResult α :=
  { result with scores := result.scores.map (·.withoutTrend), team := result.team.apartFromTrends }

variable {scores : List (VelocityScore α)}

/-- What scores hold besides trends is read off them without their trends. -/
theorem VelocityScore.map_withoutTrend {β : Type} {f : VelocityScore α → β} (hf : ∀ s, f s.withoutTrend = f s) :
    (scores.map (·.withoutTrend)).map f = scores.map f := by
  rw [List.map_map]
  exact List.map_congr_left fun s _ => hf s

variable [Scalar α]

namespace TeamVelocity

theorem meanScore_withoutTrend : meanScore (scores.map (·.withoutTrend)) = meanScore scores := by
  rw [meanScore, VelocityScore.map_withoutTrend fun _ => rfl, meanScore]

theorem defaultHealth_withoutTrend : defaultHealth (scores.map (·.withoutTrend)) = defaultHealth scores := by
  rw [defaultHealth, VelocityScore.map_withoutTrend fun _ => rfl, VelocityScore.map_withoutTrend fun _ => rfl,
    List.isEmpty_map, defaultHealth]

/-- Apart from trends a team is judged by its scores apart from trends. -/
theorem apartFromTrends_ofScores (team : String) (blockers : List Blocker) (health : Option α) (span : Span) :
    (ofScores scores team blockers health span).apartFromTrends =
      (ofScores (scores.map (·.withoutTrend)) team blockers health span).apartFromTrends := by
  cases scores with
  | nil => rfl
  | cons first rest =>
    have hmean : meanScore ((first :: rest).map (·.withoutTrend)) = meanScore (first :: rest) :=
      meanScore_withoutTrend
    have hhealth : defaultHealth ((first :: rest).map (·.withoutTrend)) = defaultHealth (first :: rest) :=
      defaultHealth_withoutTrend
    have hmembers : ((first :: rest).map (·.withoutTrend)).map (·.withoutTrend) =
        (first :: rest).map (·.withoutTrend) := VelocityScore.map_withoutTrend fun _ => rfl
    rw [List.map_cons] at hmean hhealth hmembers ⊢
    simp only [ofScores, apartFromTrends, hmean, hhealth, hmembers]
    rfl

end TeamVelocity

namespace VelocityRun

variable {layer : Type} {activities : List Activity} {c : AnalysisConfig layer Int α}

/-- Apart from trends, earlier scores make no difference. -/
theorem apartFromTrends_resultUnder (w : VelocityWeights α) (r : VelocityRequest α)
    (previous : List (VelocityScore α)) :
    (resultUnder w activities r c).apartFromTrends =
      (resultUnder w activities { r with previous } c).apartFromTrends := by
  have hscores : (resultUnder w activities r c).scores.map (·.withoutTrend) =
      (resultUnder w activities { r with previous } c).scores.map (·.withoutTrend) := by
    simp only [resultUnder, List.map_map]
    rfl
  have hteam : (resultUnder w activities r c).team.apartFromTrends =
      (resultUnder w activities { r with previous } c).team.apartFromTrends := by
    have hopened : ∀ r : VelocityRequest α, (resultUnder w activities r c).team = TeamVelocity.ofScores
      (resultUnder w activities r c).scores r.team (resultUnder w activities r c).blockers r.health r.span :=
        fun _ => rfl
    rw [hopened, hopened, TeamVelocity.apartFromTrends_ofScores, hscores, ← TeamVelocity.apartFromTrends_ofScores]
    rfl
  rw [VelocityResult.apartFromTrends, hscores, hteam]
  rfl

end VelocityRun

end ApartFromTrends

/-! ### Accepted constants -/

section Accepted

/-- A step that refuses under a condition succeeds if the condition can be told and does not hold. -/
theorem SettingRule.refuse_eq_ok {rule : SettingRule} {condition : Checked Bool} {rest : Checked Unit} :
    (do if ← condition then rule.require false
        rest) = .ok () ↔ condition = .ok false ∧ rest = .ok () := by
  cases condition with
  | error e => exact ⟨nofun, fun h => absurd h.1 nofun⟩
  | ok holds =>
    cases holds with
    | false => exact ⟨fun h => ⟨rfl, h⟩, fun h => h.2⟩
    | true => exact ⟨nofun, fun h => absurd h.1 nofun⟩

namespace ScoringConfig

variable {α : Type} [Scalar α]

/-- What the checks demand: no reference is negative, a share lies between zero and one, and trends look at some scores
and allow for a difference. -/
structure IsAccepted (s : ScoringConfig Int α) : Prop where
  effortReference : Scalar.lt s.effortReference (Scalar.ofInt 0) = false
  impactReference : Scalar.lt s.impactReference (Scalar.ofInt 0) = false
  coreCoupling : (Scalar.le Scalar.zero s.coreCoupling && Scalar.le s.coreCoupling Scalar.one) = true
  trendWindow : 1 ≤ s.trendWindow
  minTrendHistory : 1 ≤ s.minTrendHistory
  trendThreshold : Scalar.lt s.trendThreshold (Scalar.ofInt 0) = false

theorem check_eq_ok (s : ScoringConfig Int α) : s.check = .ok () ↔ s.IsAccepted := by
  have hbelow : ∀ x : α, (Gauge.below x 0 = .ok false) ↔ Scalar.lt x (Scalar.ofInt 0) = false :=
    fun x => ⟨fun h => Except.ok.inj h, fun h => congrArg Except.ok h⟩
  have hunit : SettingRule.checkInUnit "core_coupling_threshold" s.coreCoupling = .ok () ↔
      (Scalar.le Scalar.zero s.coreCoupling && Scalar.le s.coreCoupling Scalar.one) = true :=
    SettingRule.require_eq_ok _ _
  rw [check, SettingRule.refuse_eq_ok, SettingRule.refuse_eq_ok, seq_eq_ok, seq_eq_ok, seq_eq_ok, hbelow, hbelow,
    hunit, SettingRule.checkAtLeastOne_eq_ok, SettingRule.checkAtLeastOne_eq_ok,
    SettingRule.checkNonNegative_eq_ok]
  constructor
  · rintro ⟨heffort, himpact, hcore, hwindow, hhistory, hthreshold⟩
    exact ⟨heffort, himpact, hcore, hwindow, hhistory, hthreshold⟩
  · intro h
    exact ⟨h.effortReference, h.impactReference, h.coreCoupling, h.trendWindow, h.minTrendHistory, h.trendThreshold⟩

end ScoringConfig

end Accepted

/-! ### Repeated scores -/

section Repeated

namespace Scalar

theorem sum_replicate (q : Rat) (n : Nat) : sum (List.replicate n q) = n * q := by
  induction n with
  | zero => exact (zero_mul q).symm
  | succ n ih =>
    have hlast : sum (List.replicate (n + 1) q) = sum (List.replicate n q) + q := by
      rw [List.replicate_succ', sum, List.foldl_append]
      rfl
    rw [hlast, ih, Nat.cast_succ, add_one_mul]

/-- The mean of one rational repeated is that rational. -/
theorem mean_replicate (q : Rat) {n : Nat} (hn : n ≠ 0) : mean (List.replicate n q) = q := by
  have hcount : (ofNat n : Rat) = n := rfl
  have hne : (n : Rat) ≠ 0 := Nat.cast_ne_zero.mpr hn
  rw [mean, sum_replicate, List.length_replicate, hcount]
  field_simp

end Scalar

/-- In exact arithmetic a score like all earlier ones is stable, however many these are. -/
theorem VelocityTrend.of_repeated {scoring : ScoringConfig Int Rat} (h : scoring.check = .ok ()) (velocity : Rat)
    (n : Nat) : VelocityTrend.of velocity (List.replicate n velocity) scoring = .stable := by
  have haccepted := (ScoringConfig.check_eq_ok scoring).mp h
  have hwindow := haccepted.trendWindow
  have hhistory := haccepted.minTrendHistory
  have hthreshold : 0 ≤ scoring.trendThreshold := not_lt.mp (of_decide_eq_false haccepted.trendThreshold)
  rw [VelocityTrend.of, List.length_replicate]
  by_cases hfew : (n : Int) < scoring.minTrendHistory
  · rw [if_pos hfew]
  · have hsome : min scoring.trendWindow.toNat n ≠ 0 := by omega
    have hrise : Scalar.lt scoring.trendThreshold 0 = false := decide_eq_false (not_lt.mpr hthreshold)
    have hfall : Scalar.lt 0 (-scoring.trendThreshold) = false :=
      decide_eq_false (not_lt.mpr (neg_nonpos.mpr hthreshold))
    rw [if_neg hfew, List.take_replicate, Scalar.mean_replicate velocity hsome]
    simp only [sub_self, hrise, hfall]
    rfl

end Repeated

/-! ### Runs -/

namespace VelocityRun

section Fed

variable {layer : Type} {activities : List Activity} {r : VelocityRequest Rat} {c : AnalysisConfig layer Int Rat}
variable {w : VelocityWeights Rat} {previous : List (VelocityScore Rat)} {s : VelocityScore Rat}

/-- The velocity in a run's score is told by the developer; earlier scores do not enter it. -/
theorem velocity_of_mem_scores (hs : s ∈ (resultUnder w activities r c).scores)
    (previous : List (VelocityScore Rat)) :
    s.velocity = (VelocityScore.ofDeveloper (inputOf activities { r with previous } c.scoring c.blockers) w c.scoring
      s.developer).velocity := by
  obtain ⟨developer, -, rfl⟩ := List.mem_map.mp hs
  rfl

/-- A run that is fed scores of its own has stable trends only. -/
theorem trend_of_fed (hcheck : c.scoring.check = .ok ())
    (hown : ∀ e ∈ previous, e ∈ (resultUnder w activities r c).scores)
    (hs : s ∈ (resultUnder w activities { r with previous } c).scores) : s.trend = .stable := by
  obtain ⟨developer, -, rfl⟩ := List.mem_map.mp hs
  let score := VelocityScore.ofDeveloper (inputOf activities { r with previous } c.scoring c.blockers) w c.scoring
    developer
  let history := (previous.filter (·.developer == developer)).map (·.velocity)
  show VelocityTrend.of score.velocity history c.scoring = .stable
  -- Whatever order the histories of the developers stand in, the own one repeats the score that is given again.
  have hrepeated : history = List.replicate history.length score.velocity := by
    refine List.eq_replicate_iff.mpr ⟨rfl, fun v hv => ?_⟩
    obtain ⟨e, he, rfl⟩ := List.mem_map.mp hv
    obtain ⟨hmem, hdeveloper⟩ := List.mem_filter.mp he
    rw [velocity_of_mem_scores (hown e hmem) previous, eq_of_beq hdeveloper]
  rw [hrepeated]
  exact VelocityTrend.of_repeated hcheck _ _

end Fed

/-- Earlier scores affect trends only: apart from trends and the highlights that speak of them, runs that differ in
nothing else have the same result or the same fault. In exact arithmetic a run that is fed its own scores, in any number
and order, has stable trends only. -/
theorem performSupplied_previous {layer : Type} :
    (∀ (activities : Supplied Activity) (deltas : Supplied (ComplexityDelta Float)) (requests : Supplied PullRequest)
      (r : VelocityRequest Float) (c : AnalysisConfig layer Int Float) (previous : List (VelocityScore Float)),
      (performSupplied activities deltas requests r c).map (·.apartFromTrends) =
        (performSupplied activities deltas requests { r with previous } c).map (·.apartFromTrends)) ∧
    ∀ (activities : List Activity) (deltas : List (ComplexityDelta Rat)) (requests : List PullRequest)
      (r : VelocityRequest Rat) (c : AnalysisConfig layer Int Rat) (result : VelocityResult Rat),
      c.scoring.check = .ok () →
      performSupplied (.list activities) (.list deltas) (.list requests) r c = .ok result →
      ∀ previous : List (VelocityScore Rat), (∀ e ∈ previous, e ∈ result.scores) →
        ∃ again, performSupplied (.list activities) (.list deltas) (.list requests) { r with previous } c = .ok again ∧
          ∀ s ∈ again.scores, s.trend = .stable := by
  constructor
  · intro activities deltas requests r c previous
    rw [performSupplied_eq_map, performSupplied_eq_map]
    refine map_bind_congr fun as => map_bind_congr fun ds => map_bind_congr fun rs => ?_
    exact map_mapError_congr fun w => apartFromTrends_resultUnder w { r with deltas := ds, requests := rs } previous
  · intro activities deltas requests r c result hcheck hresult previous hown
    obtain ⟨w, hw, rfl⟩ := performSupplied_eq_ok.mp hresult
    exact ⟨_, performSupplied_eq_ok.mpr ⟨w, hw, rfl⟩, fun s hs => trend_of_fed hcheck hown hs⟩

/-- Two developers whose scores are handed back twice, as many times as a trend takes. -/
theorem performSupplied_previous_of_two :
    let activities : List Activity := [⟨"bo", 9, 4, 900, 120, [(".ts", 4)], none, none, ["src/core.ts"]⟩,
      ⟨"ann", 2, 1, 300, 40, [(".py", 1)], none, none, ["src/a.py"]⟩]
    let r : VelocityRequest Rat := ⟨"team", {}, [], [], none, [], [], [], none, ⟨⟨2024, 6, 7⟩, 0, none⟩⟩
    let c : AnalysisConfig LayerDefinition Int Rat := .usual
    c.scoring.check = .ok () ∧ c.scoring.minTrendHistory = 2 ∧
      ∃ result, performSupplied (.list activities) (.list []) (.list []) r c = .ok result ∧
        result.scores.map (·.developer) = ["ann", "bo"] ∧ (∀ e ∈ result.scores ++ result.scores, e ∈ result.scores) ∧
        ∃ again, performSupplied (.list activities) (.list []) (.list [])
          { r with previous := result.scores ++ result.scores } c = .ok again ∧ ∀ s ∈ again.scores, s.trend = .stable := by
  intro activities r c
  have hcheck : c.scoring.check = .ok () := by decide +kernel
  have hweights : c.velocity.normalized = .ok c.velocity :=
    VelocityWeights.normalized_of_isNormal (by decide +kernel)
  let result := resultUnder c.velocity activities r c
  have hresult : performSupplied (.list activities) (.list []) (.list []) r c = .ok result :=
    performSupplied_eq_ok.mpr ⟨c.velocity, hweights, rfl⟩
  have hdevelopers : result.scores.map (·.developer) = ["ann", "bo"] := by cbv
  have hown : ∀ e ∈ result.scores ++ result.scores, e ∈ result.scores :=
    fun e he => (List.mem_append.mp he).elim id id
  obtain ⟨again, hagain, hstable⟩ := performSupplied_previous.2 activities [] [] r c result hcheck hresult _ hown
  exact ⟨hcheck, rfl, result, hresult, hdevelopers, hown, again, hagain, hstable⟩

end VelocityRun
end RepoSurvey
