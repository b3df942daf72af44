import RepoSurvey.Number.Decimal
import RepoSurvey.Number.Whole
import RepoSurvey.Velocity.Score

/-!
# The velocity of a team

* `highlights`: what is to be said about the scores of a period, in a fixed order.
* `defaultHealth`: architectural health, judged by refactoring and blockers.
* `TeamVelocity.ofScores`: the mean score of a team with its most urgent blockers.
-/

namespace RepoSurvey

structure TeamVelocity (α : Type) where
  team : String
  span : Span
  members : List (VelocityScore α)
  score : α
  topBlockers : List Blocker
  health : α
  highlights : List String

namespace TeamVelocity

variable {α : Type} [Scalar α]

/-! ### Highlights -/

section

/-- The first of the members with the highest score. -/
def top? : List (VelocityScore α) → Option (VelocityScore α)
  | [] => none
  | s :: rest => some (rest.foldl (fun best s => if Scalar.lt best.velocity s.velocity then s else best) s)

/-- The mean score to two decimal places. -/
def meanScore (scores : List (VelocityScore α)) : α :=
  Scalar.roundPlaces 2 (Scalar.mean (scores.map (·.velocity)))

/-- A count with what is counted, unless it is zero. -/
def counted (count : Nat) (noun rest : String) : List String :=
  if count = 0 then [] else [toString count ++ " " ++ noun ++ (if 1 < count then "s" else "") ++ " " ++ rest]

def trendCount (t : VelocityTrend) (scores : List (VelocityScore α)) : Nat := scores.countP (·.trend == t)

/-- The best member, the mean, the members on the rise and on the decline, severe blockers, and the activity. -/
def highlightsOf (scores : List (VelocityScore α)) (blockers : List Blocker) : List String :=
  match top? scores with
  | none => []
  | some best =>
    ["Top contributor: " ++ best.developer ++ " (velocity score: " ++ Decimal.general best.velocity ++ ")",
      "Team average velocity: " ++ Decimal.general (meanScore scores)] ++
    counted (trendCount .accelerating scores) "team member" "accelerating" ++
    counted (trendCount .decelerating scores) "team member" "decelerating" ++
    counted (blockers.countP (·.severity == .high)) "high-severity blocker" "detected" ++
    ["Total: " ++ toString (signedTotal (scores.map (·.commits))) ++ " commits, " ++
      toString (signedTotal (scores.map (·.merged))) ++ " PRs merged"]

end

/-! ### Health -/

/-- Eighty, up to twenty more for refactoring, less five for each blocker of a member up to thirty. -/
def defaultHealth (scores : List (VelocityScore α)) : α :=
  if scores.isEmpty then Scalar.ofInt 100
  else
    let blockers := total (scores.map (·.blockers.length))
    let penalty : α := Scalar.smaller (Scalar.ofNat (blockers * 5)) (Scalar.ofInt 30)
    Cohort.clamp (Scalar.roundPlaces 2
      (Scalar.ofInt 80 + Scalar.mean (scores.map (·.refactoring)) * Scalar.ofInt 20 - penalty))

/-! ### The team -/

/-- How many blockers of a team are shown. -/
def maxTopBlockers : Nat := 5

/-- The velocity of a team; the period is the first member's, or the given one for a team without members. -/
def ofScores (scores : List (VelocityScore α)) (team : String) (blockers : List Blocker) (health : Option α)
    (span : Span) : TeamVelocity α :=
  match scores with
  | [] =>
    { team, span, members := [], score := Scalar.zero, topBlockers := []
      health := health.getD (Scalar.ofInt 100)
      highlights := ["No developer activity recorded for this period."] }
  | first :: _ =>
    { team, span := first.span, members := scores
      score := meanScore scores
      topBlockers := (Blocker.bySeverity blockers).take maxTopBlockers
      health := health.getD (defaultHealth scores)
      highlights := highlightsOf scores blockers }

end TeamVelocity
end RepoSurvey
