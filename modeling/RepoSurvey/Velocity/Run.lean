import RepoSurvey.Settings.AnalysisConfig
import RepoSurvey.Velocity.Team

/-!
# A velocity run

One run scores every developer of a period and the team as a whole.

* `refactoringRatios`: the share of refactoring in the files of each developer.
* `VelocityRun.perform`: ratios, request metrics, effort, impact and blockers, and the scores that they lead to.
-/

namespace RepoSurvey

/-- What a run is made on, apart from the settings. -/
structure VelocityRequest (α : Type) where
  team : String
  span : Span
  deltas : List (ComplexityDelta α) := []
  requests : List PullRequest := []
  graph : Option (DependencyGraph α)
  violations : List Violation
  reviews : List ReviewViolation
  /-- Earlier scores, the most recent first. -/
  previous : List (VelocityScore α)
  health : Option α
  now : Moment

/-- Why a run cannot be made. -/
inductive VelocityFault where
  | input (e : InputError)
  | setting (e : SettingFault)
  deriving Repr, DecidableEq

structure VelocityResult (α : Type) where
  scores : List (VelocityScore α)
  team : TeamVelocity α
  blockers : List Blocker

namespace VelocityRun

variable {α : Type} [Scalar α]

/-- The share of refactoring in the changed files that each developer touched, or in all changed files for a developer
who touched none of them. -/
def refactoringRatios (activities : List Activity) (deltas : List (ComplexityDelta α)) : Table String α :=
  let byPath := Table.ofPairs (deltas.map fun d => (d.filePath, d))
  Table.ofPairs (activities.map fun a =>
    let own := a.filesTouched.filterMap (Table.get? byPath)
    (a.developer, ComplexityDelta.refactoringRatio (if own.isEmpty then deltas else own)))

/-- The input of the scores: everything that is derived from the activities and the request. -/
def inputOf (activities : List Activity) (r : VelocityRequest α) (scoring : ScoringConfig Int α)
    (thresholds : BlockerThresholds Int α) : VelocityInput α :=
  let metrics := RequestMetrics.ofRequests r.requests r.span.start r.span.finish
  { activities
    efforts := EffortScore.ofActivities activities r.deltas scoring
    impacts := ImpactScore.ofActivities activities r.graph r.violations r.reviews scoring
    requests := metrics
    refactoring := refactoringRatios activities r.deltas
    blockers := Blocker.detect r.requests metrics thresholds r.now
    span := r.span
    previous := r.previous }

/-- The scores of a run; the weights have to be acceptable when they are scaled. -/
def perform {layer : Type} (activities : List Activity) (r : VelocityRequest α) (c : AnalysisConfig layer Int α) :
    Checked (VelocityResult α) := do
  let d := inputOf activities r c.scoring c.blockers
  let scores ← VelocityScore.ofInput d c.velocity c.scoring
  return ⟨scores, TeamVelocity.ofScores scores r.team d.blockers r.health r.span, d.blockers⟩

/-- A run on lists handed over by a caller. -/
def performSupplied {layer : Type} (activities : Supplied Activity) (deltas : Supplied (ComplexityDelta α))
    (requests : Supplied PullRequest) (r : VelocityRequest α) (c : AnalysisConfig layer Int α) :
    Except VelocityFault (VelocityResult α) := do
  let activities ← (activities.require "git_metrics").mapError .input
  let deltas ← (deltas.require "complexity_deltas").mapError .input
  let requests ← (requests.require "prs").mapError .input
  (perform activities { r with deltas, requests } c).mapError .setting

end VelocityRun
end RepoSurvey
