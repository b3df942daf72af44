import RepoSurvey.Velocity.Blocker
import RepoSurvey.Velocity.Effort
import RepoSurvey.Velocity.Impact

/-!
# Velocity scores

A developer's velocity blends effort, impact, reviews and refactoring by weights.

* `reviewScore`: what a developer's requests and reviews are worth.
* `VelocityTrend.of`: a score compared with earlier ones.
* `VelocityScore.ofInput`: one score for every developer that occurs in the input, in ascending order.
-/

namespace RepoSurvey

inductive VelocityTrend where
  | accelerating
  | decelerating
  | stable
  deriving Repr, DecidableEq

inductive VelocityPeriod where
  | daily
  | weekly
  | sprint
  | monthly
  deriving Repr, DecidableEq

namespace VelocityTrend

def name : VelocityTrend → String
  | accelerating => "accelerating"
  | decelerating => "decelerating"
  | stable => "stable"

def all : List VelocityTrend := [accelerating, decelerating, stable]

end VelocityTrend

namespace VelocityPeriod

def name : VelocityPeriod → String
  | daily => "daily"
  | weekly => "weekly"
  | sprint => "sprint"
  | monthly => "monthly"

def all : List VelocityPeriod := [daily, weekly, sprint, monthly]

end VelocityPeriod

/-- A period of time, whose ends may be open. -/
structure Span where
  period : VelocityPeriod := .weekly
  start : Option Moment := none
  finish : Option Moment := none
  deriving Repr, DecidableEq

structure VelocityScore (α : Type) where
  developer : String
  span : Span
  commits : Int
  opened : Int
  merged : Int
  linesAdded : Int
  linesRemoved : Int
  effort : α
  impact : α
  review : α
  refactoring : α
  velocity : α
  trend : VelocityTrend
  blockers : List Blocker

/-- Everything that developers of a period are scored on. -/
structure VelocityInput (α : Type) where
  activities : List Activity
  efforts : List (EffortScore α)
  impacts : List (ImpactScore α)
  requests : List (RequestMetrics α)
  /-- The share of refactoring in each developer's changes. -/
  refactoring : List (String × α)
  blockers : List Blocker
  span : Span
  /-- Earlier scores, the most recent first. -/
  previous : List (VelocityScore α)

variable {α : Type} [Scalar α]

/-! ### Parts of a score -/

section

/-- Ten for each review up to fifty, ten for each merged request per round of review up to thirty, less twenty for the
share of requests with violations. -/
def reviewScore (m : RequestMetrics α) : α :=
  let reviews := Scalar.ofInt (min (m.reviews * 10) 50)
  let efficiency : α :=
    if 0 < m.merged ∧ Scalar.lt Scalar.zero m.averageReviewRounds then
      Scalar.smaller (Scalar.ofInt m.merged / Scalar.larger m.averageReviewRounds Scalar.one * Scalar.ofInt 10)
        (Scalar.ofInt 30)
    else Scalar.zero
  let penalty : α := if 0 < m.opened then Scalar.quot m.withViolations m.opened * Scalar.ofInt 20 else Scalar.zero
  Cohort.clamp (Scalar.roundPlaces 2 (reviews + efficiency - penalty))

/-- The trend of a score against earlier ones, the most recent first: against their mean, once there are enough. -/
def VelocityTrend.of (current : α) (previous : List α) (scoring : ScoringConfig Int α) : VelocityTrend :=
  if (previous.length : Int) < scoring.minTrendHistory then .stable
  else
    let delta := current - Scalar.mean (previous.take scoring.trendWindow.toNat)
    if Scalar.lt scoring.trendThreshold delta then .accelerating
    else if Scalar.lt delta (-scoring.trendThreshold) then .decelerating
    else .stable

/-- The four parts of a score, weighted and added up. -/
def weighted (w : VelocityWeights α) (effort impact review refactoring : α) : α :=
  effort * w.complexity + impact * w.architecture + review * w.review +
    refactoring * Scalar.ofInt 100 * w.refactoring

end

/-! ### Scores -/

namespace VelocityScore

section

/-- The last record of a developer. -/
def lastOf {β : Type} (developerOf : β → String) (records : List β) (developer : String) : Option β :=
  records.reverse.find? (developerOf · == developer)

/-- The developers that occur in the input, in ascending order. -/
def developers (d : VelocityInput α) : List String :=
  Text.distinctAscending (d.activities.map (·.developer) ++ d.efforts.map (·.developer) ++
    d.impacts.map (·.developer) ++ d.requests.map (·.developer))

/-- The score of a developer by weights that add up to one. -/
def ofDeveloper (d : VelocityInput α) (w : VelocityWeights α) (scoring : ScoringConfig Int α) (developer : String) :
    VelocityScore α :=
  let activity := lastOf (·.developer) d.activities developer
  let requests := lastOf (·.developer) d.requests developer
  let effort := (lastOf (·.developer) d.efforts developer).elim Scalar.zero (·.score)
  let impact := (lastOf (·.developer) d.impacts developer).elim Scalar.zero (·.score)
  let review := requests.elim Scalar.zero reviewScore
  let ratio := (lastOf (·.1) d.refactoring developer).elim Scalar.zero (·.2)
  let refactoring := Scalar.clamp Scalar.zero Scalar.one ratio
  let velocity := Cohort.clamp (Scalar.roundPlaces 2 (weighted w effort impact review refactoring))
  { developer, span := d.span
    commits := activity.elim 0 (·.commits)
    opened := requests.elim 0 (·.opened)
    merged := requests.elim 0 (·.merged)
    linesAdded := activity.elim 0 (·.linesAdded)
    linesRemoved := activity.elim 0 (·.linesRemoved)
    effort, impact, review
    refactoring := Scalar.roundPlaces 3 refactoring
    velocity
    trend := .of velocity ((d.previous.filter (·.developer == developer)).map (·.velocity)) scoring
    blockers := d.blockers.filter (·.entity == developer) }

/-- The scores of all developers; the weights are scaled to add up to one. -/
def ofInput (d : VelocityInput α) (w : VelocityWeights α) (scoring : ScoringConfig Int α) :
    Checked (List (VelocityScore α)) := do
  let w ← w.normalized
  return (developers d).map (ofDeveloper d w scoring)

end

end VelocityScore
end RepoSurvey
