import RepoSurvey.Settings.Gauge

/-!
# Sections of settings

There are four sections. Their fields are either whole numbers or numbers; `ι` and `α` are the types of the values that
stand in the two kinds of fields. For each section

* `build` makes a section from a value for every field, given the field's name and its usual value,
* `entries` lists its fields with their names in order,
* `check` holds it against its rules in order; the first broken one refuses it.
-/

namespace RepoSurvey

/-! ### Velocity weights -/

/-- The weights of the four parts of a velocity score. -/
structure VelocityWeights (α : Type) where
  complexity : α
  architecture : α
  review : α
  refactoring : α
  /-- How far the sum of the weights may be from one before they are scaled. -/
  tolerance : α

namespace VelocityWeights

variable {α β : Type}

def build (number : String → Rat → α) : VelocityWeights α where
  complexity := number "complexity_weight" 0.4
  architecture := number "arch_impact_weight" 0.3
  review := number "review_weight" 0.15
  refactoring := number "refactoring_weight" 0.15
  tolerance := number "tolerance" 0.01

def entries (number : α → β) (w : VelocityWeights α) : List (String × β) :=
  [("complexity_weight", number w.complexity), ("arch_impact_weight", number w.architecture),
    ("review_weight", number w.review), ("refactoring_weight", number w.refactoring),
    ("tolerance", number w.tolerance)]

section

variable [Gauge α]

/-- The sum of the weights from the first to the last. -/
def checkedTotal (w : VelocityWeights α) : Checked α := do
  Gauge.add (← Gauge.add (← Gauge.add w.complexity w.architecture) w.review) w.refactoring

/-- No weight is negative and some weight is not zero. -/
def check (w : VelocityWeights α) : Checked Unit := do
  SettingRule.checkNonNegative "complexity_weight" w.complexity
  SettingRule.checkNonNegative "arch_impact_weight" w.architecture
  SettingRule.checkNonNegative "review_weight" w.review
  SettingRule.checkNonNegative "refactoring_weight" w.refactoring
  SettingRule.someWeight.require (!(← Gauge.atMost (← w.checkedTotal) 0))

end

section

variable [Scalar α]

def total (w : VelocityWeights α) : α := w.complexity + w.architecture + w.review + w.refactoring

/-- Whether the weights add up to one within the tolerance. -/
def isNormal (w : VelocityWeights α) : Bool :=
  Scalar.le (Scalar.magnitude (w.total - Scalar.one)) w.tolerance

/-- The weights divided by their sum. -/
def scaled (w : VelocityWeights α) : VelocityWeights α :=
  { complexity := w.complexity / w.total, architecture := w.architecture / w.total, review := w.review / w.total
    refactoring := w.refactoring / w.total, tolerance := w.tolerance }

/-- The weights, scaled unless they add up to one already; scaled weights are checked again. -/
def normalized (w : VelocityWeights α) : Checked (VelocityWeights α) := do
  if w.isNormal then return w
  w.scaled.check
  return w.scaled

/-- The usual weights. -/
def usual : VelocityWeights α := build fun _ q => Scalar.ofRat q

end

end VelocityWeights

/-! ### Scoring -/

/-- The constants of effort, impact and trend. -/
structure ScoringConfig (ι α : Type) where
  /-- The weighted effort that scores `effortReferenceScore`. -/
  effortReference : α
  effortReferenceScore : α
  /-- The raw impact that scores `impactReferenceScore`. -/
  impactReference : α
  impactReferenceScore : α
  /-- A file coupled more than this is a core module. -/
  coreCoupling : α
  /-- A file imported by this many others is a core module. -/
  coreFanIn : ι
  boundaryWeight : α
  coreWeight : α
  peripheralWeight : α
  /-- How many earlier scores are averaged. -/
  trendWindow : ι
  /-- The difference that a trend has to exceed. -/
  trendThreshold : α
  /-- How many earlier scores a trend takes. -/
  minTrendHistory : ι

namespace ScoringConfig

variable {ι α β : Type}

def build (whole : String → Int → ι) (number : String → Rat → α) : ScoringConfig ι α where
  effortReference := number "effort_reference" 750
  effortReferenceScore := number "effort_reference_score" 50
  impactReference := number "impact_reference" 50
  impactReferenceScore := number "impact_reference_score" 100
  coreCoupling := number "core_coupling_threshold" 0.3
  coreFanIn := whole "core_fan_in_threshold" 5
  boundaryWeight := number "boundary_weight" 3
  coreWeight := number "core_weight" 2
  peripheralWeight := number "peripheral_weight" 0.5
  trendWindow := whole "trend_window" 3
  trendThreshold := number "trend_threshold" 10
  minTrendHistory := whole "min_trend_history" 2

def entries (whole : ι → β) (number : α → β) (s : ScoringConfig ι α) : List (String × β) :=
  [("effort_reference", number s.effortReference), ("effort_reference_score", number s.effortReferenceScore),
    ("impact_reference", number s.impactReference), ("impact_reference_score", number s.impactReferenceScore),
    ("core_coupling_threshold", number s.coreCoupling), ("core_fan_in_threshold", whole s.coreFanIn),
    ("boundary_weight", number s.boundaryWeight), ("core_weight", number s.coreWeight),
    ("peripheral_weight", number s.peripheralWeight), ("trend_window", whole s.trendWindow),
    ("trend_threshold", number s.trendThreshold), ("min_trend_history", whole s.minTrendHistory)]

def check [Gauge ι] [Gauge α] (s : ScoringConfig ι α) : Checked Unit := do
  if ← Gauge.below s.effortReference 0 then SettingRule.references.require false
  if ← Gauge.below s.impactReference 0 then SettingRule.references.require false
  SettingRule.checkInUnit "core_coupling_threshold" s.coreCoupling
  SettingRule.checkAtLeastOne "trend_window" s.trendWindow
  SettingRule.checkAtLeastOne "min_trend_history" s.minTrendHistory
  SettingRule.checkNonNegative "trend_threshold" s.trendThreshold

def usual [Scalar α] : ScoringConfig Int α := build (fun _ n => n) fun _ q => Scalar.ofRat q

end ScoringConfig

/-! ### Blockers -/

/-- From where on something counts as a blocker. -/
structure BlockerThresholds (ι α : Type) where
  /-- Days without activity. -/
  staleDays : ι
  /-- Days since the request was opened. -/
  longBranchDays : ι
  /-- Open requests that wait for one reviewer. -/
  reviewBottleneck : ι
  /-- The share of requests with violations. -/
  violationRate : α

namespace BlockerThresholds

variable {ι α β : Type}

def build (whole : String → Int → ι) (number : String → Rat → α) : BlockerThresholds ι α where
  staleDays := whole "stale_pr_days" 3
  longBranchDays := whole "long_branch_days" 7
  reviewBottleneck := whole "review_bottleneck_threshold" 3
  violationRate := number "high_violation_rate" 0.5

def entries (whole : ι → β) (number : α → β) (t : BlockerThresholds ι α) : List (String × β) :=
  [("stale_pr_days", whole t.staleDays), ("long_branch_days", whole t.longBranchDays),
    ("review_bottleneck_threshold", whole t.reviewBottleneck), ("high_violation_rate", number t.violationRate)]

def check [Gauge ι] [Gauge α] (t : BlockerThresholds ι α) : Checked Unit := do
  SettingRule.checkAtLeastOne "day thresholds" t.staleDays
  SettingRule.checkAtLeastOne "day thresholds" t.longBranchDays
  SettingRule.checkAtLeastOne "review_bottleneck_threshold" t.reviewBottleneck
  SettingRule.checkInUnit "high_violation_rate" t.violationRate

def usual [Scalar α] : BlockerThresholds Int α := build (fun _ n => n) fun _ q => Scalar.ofRat q

end BlockerThresholds

/-! ### Drift -/

/-- What makes a drift event, how severe it is, and how the drift score is weighted. -/
structure DriftThresholds (ι α : Type) where
  /-- A lost decision of greater confidence is severe. -/
  lostHighConfidence : α
  weakenedDrop : α
  weakenedHighDrop : α
  /-- More new cycles than these are severe. -/
  newCyclesHigh : ι
  couplingIncrease : α
  couplingIncreaseHigh : α
  instabilityIncrease : α
  instabilityIncreaseHigh : α
  /-- The least increase of violations, absolute and relative to the earlier count. -/
  spikeMinIncrease : ι
  spikeRatio : α
  spikeHigh : ι
  spikeMedium : ι
  highWeight : α
  mediumWeight : α
  lowWeight : α
  lostDecisionPenalty : α
  violationWeight : α
  cycleWeight : α
  maxScore : α

namespace DriftThresholds

variable {ι α β : Type}

def build (whole : String → Int → ι) (number : String → Rat → α) : DriftThresholds ι α where
  lostHighConfidence := number "decision_lost_high_confidence" 0.7
  weakenedDrop := number "decision_weakened_drop" 0.15
  weakenedHighDrop := number "decision_weakened_high_drop" 0.3
  newCyclesHigh := whole "new_cycles_high" 2
  couplingIncrease := number "coupling_increase" 0.1
  couplingIncreaseHigh := number "coupling_increase_high" 0.2
  instabilityIncrease := number "instability_increase" 0.1
  instabilityIncreaseHigh := number "instability_increase_high" 0.2
  spikeMinIncrease := whole "violation_spike_min_increase" 1
  spikeRatio := number "violation_spike_ratio" 0.2
  spikeHigh := whole "violation_spike_high" 5
  spikeMedium := whole "violation_spike_medium" 2
  highWeight := number "high_severity_weight" 15
  mediumWeight := number "medium_severity_weight" 8
  lowWeight := number "low_severity_weight" 3
  lostDecisionPenalty := number "lost_decision_penalty" 30
  violationWeight := number "violation_weight" 0.5
  cycleWeight := number "cycle_weight" 2
  maxScore := number "max_score" 100

def entries (whole : ι → β) (number : α → β) (t : DriftThresholds ι α) : List (String × β) :=
  [("decision_lost_high_confidence", number t.lostHighConfidence), ("decision_weakened_drop", number t.weakenedDrop),
    ("decision_weakened_high_drop", number t.weakenedHighDrop), ("new_cycles_high", whole t.newCyclesHigh),
    ("coupling_increase", number t.couplingIncrease), ("coupling_increase_high", number t.couplingIncreaseHigh),
    ("instability_increase", number t.instabilityIncrease),
    ("instability_increase_high", number t.instabilityIncreaseHigh),
    ("violation_spike_min_increase", whole t.spikeMinIncrease), ("violation_spike_ratio", number t.spikeRatio),
    ("violation_spike_high", whole t.spikeHigh), ("violation_spike_medium", whole t.spikeMedium),
    ("high_severity_weight", number t.highWeight), ("medium_severity_weight", number t.mediumWeight),
    ("low_severity_weight", number t.lowWeight), ("lost_decision_penalty", number t.lostDecisionPenalty),
    ("violation_weight", number t.violationWeight), ("cycle_weight", number t.cycleWeight),
    ("max_score", number t.maxScore)]

def check [Gauge ι] [Gauge α] (t : DriftThresholds ι α) : Checked Unit := do
  SettingRule.checkNonNegative "high_severity_weight" t.highWeight
  SettingRule.checkNonNegative "medium_severity_weight" t.mediumWeight
  SettingRule.checkNonNegative "low_severity_weight" t.lowWeight
  SettingRule.checkNonNegative "lost_decision_penalty" t.lostDecisionPenalty
  SettingRule.checkNonNegative "violation_weight" t.violationWeight
  SettingRule.checkNonNegative "cycle_weight" t.cycleWeight
  (SettingRule.positive "max_score").require (!(← Gauge.atMost t.maxScore 0))
  SettingRule.checkAtLeastOne "violation_spike_min_increase" t.spikeMinIncrease
  SettingRule.checkNonNegative "violation_spike_ratio" t.spikeRatio

def usual [Scalar α] : DriftThresholds Int α := build (fun _ n => n) fun _ q => Scalar.ofRat q

end DriftThresholds
end RepoSurvey
