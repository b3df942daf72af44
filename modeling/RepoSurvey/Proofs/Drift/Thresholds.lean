import RepoSurvey.Proofs.Failing
import RepoSurvey.Settings.Section

/-!
# Thresholds that are accepted

* `DriftThresholds.check_eq_ok`: what the checks of drift thresholds demand.
* `DriftThresholds.AllFinite`: all thresholds are finite numbers.
-/

namespace RepoSurvey

/-! ### Checks -/

section Checks

theorem seq_eq_ok {first second : Checked Unit} : (do first; second) = .ok () ↔ first = .ok () ∧ second = .ok () := by
  refine bind_eq_ok.trans ⟨?_, ?_⟩
  · rintro ⟨u, h⟩
    exact h
  · intro h
    exact ⟨(), h⟩

variable {α : Type} [Scalar α]

theorem SettingRule.require_eq_ok (rule : SettingRule) (holds : Bool) : rule.require holds = .ok () ↔ holds = true := by
  cases holds with
  | false => exact ⟨nofun, nofun⟩
  | true => exact ⟨fun _ => rfl, fun _ => rfl⟩

theorem SettingRule.checkNonNegative_eq_ok (field : String) (x : α) :
    SettingRule.checkNonNegative field x = .ok () ↔ Scalar.lt x (Scalar.ofInt 0) = false := by
  have hopened : SettingRule.checkNonNegative field x =
      (SettingRule.nonNegative field).require (!Scalar.lt x (Scalar.ofInt 0)) := rfl
  rw [hopened, SettingRule.require_eq_ok, Bool.not_eq_true']

theorem SettingRule.checkAtLeastOne_eq_ok (field : String) (n : Int) :
    SettingRule.checkAtLeastOne field n = .ok () ↔ 1 ≤ n := by
  have hopened : SettingRule.checkAtLeastOne field n = (SettingRule.atLeastOne field).require (!decide (n < 1)) := rfl
  rw [hopened, SettingRule.require_eq_ok, Bool.not_eq_true', decide_eq_false_iff_not, Int.not_lt]

namespace DriftThresholds

/-- What the checks demand: no weight is negative, some violations make a spike, and some score is left. -/
structure IsAccepted (t : DriftThresholds Int α) : Prop where
  highWeight : Scalar.lt t.highWeight (Scalar.ofInt 0) = false
  mediumWeight : Scalar.lt t.mediumWeight (Scalar.ofInt 0) = false
  lowWeight : Scalar.lt t.lowWeight (Scalar.ofInt 0) = false
  lostDecisionPenalty : Scalar.lt t.lostDecisionPenalty (Scalar.ofInt 0) = false
  violationWeight : Scalar.lt t.violationWeight (Scalar.ofInt 0) = false
  cycleWeight : Scalar.lt t.cycleWeight (Scalar.ofInt 0) = false
  maxScore : Scalar.le t.maxScore (Scalar.ofInt 0) = false
  spikeMinIncrease : 1 ≤ t.spikeMinIncrease
  spikeRatio : Scalar.lt t.spikeRatio (Scalar.ofInt 0) = false

theorem check_eq_ok (t : DriftThresholds Int α) : t.check = .ok () ↔ t.IsAccepted := by
  have hmax : (do (SettingRule.positive "max_score").require (!(← Gauge.atMost t.maxScore 0))) = .ok () ↔
      Scalar.le t.maxScore (Scalar.ofInt 0) = false := by
    have hopened : (do (SettingRule.positive "max_score").require (!(← Gauge.atMost t.maxScore 0))) =
        (SettingRule.positive "max_score").require (!Scalar.le t.maxScore (Scalar.ofInt 0)) := rfl
    rw [hopened, SettingRule.require_eq_ok, Bool.not_eq_true']
  have hopened : t.check = (do
      SettingRule.checkNonNegative "high_severity_weight" t.highWeight
      SettingRule.checkNonNegative "medium_severity_weight" t.mediumWeight
      SettingRule.checkNonNegative "low_severity_weight" t.lowWeight
      SettingRule.checkNonNegative "lost_decision_penalty" t.lostDecisionPenalty
      SettingRule.checkNonNegative "violation_weight" t.violationWeight
      SettingRule.checkNonNegative "cycle_weight" t.cycleWeight
      (do (SettingRule.positive "max_score").require (!(← Gauge.atMost t.maxScore 0)))
      SettingRule.checkAtLeastOne "violation_spike_min_increase" t.spikeMinIncrease
      SettingRule.checkNonNegative "violation_spike_ratio" t.spikeRatio) := rfl
  rw [hopened, seq_eq_ok, seq_eq_ok, seq_eq_ok, seq_eq_ok, seq_eq_ok, seq_eq_ok, seq_eq_ok, seq_eq_ok, hmax,
    SettingRule.checkAtLeastOne_eq_ok]
  simp only [SettingRule.checkNonNegative_eq_ok]
  constructor
  · rintro ⟨hhigh, hmedium, hlow, hpenalty, hviolation, hcycle, hmax, hmin, hratio⟩
    exact ⟨hhigh, hmedium, hlow, hpenalty, hviolation, hcycle, hmax, hmin, hratio⟩
  · intro h
    exact ⟨h.highWeight, h.mediumWeight, h.lowWeight, h.lostDecisionPenalty, h.violationWeight, h.cycleWeight,
      h.maxScore, h.spikeMinIncrease, h.spikeRatio⟩

/-- All thresholds are finite numbers. -/
def AllFinite (t : DriftThresholds Int α) : Prop :=
  ∀ e ∈ t.entries (fun _ => true) fun x => (Scalar.toRat? x).isSome, e.2 = true

end DriftThresholds

end Checks

end RepoSurvey
