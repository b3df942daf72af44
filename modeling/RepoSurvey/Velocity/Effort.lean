import RepoSurvey.History.Activity
import RepoSurvey.Settings.Section
import RepoSurvey.Source.ComplexityDelta
import RepoSurvey.Table
import RepoSurvey.Velocity.Cohort

/-!
# Effort

A developer's effort is the number of lines changed, weighted by the complexity of the code that was touched.

* `complexityMultiplier`: the weight of code of some complexity.
* `EffortScore.ofActivities`: the effort of every developer, scored over the cohort.
-/

namespace RepoSurvey

structure EffortScore (α : Type) where
  developer : String
  lines : Int
  multiplier : α
  weighted : α
  score : α

namespace EffortScore

variable {α : Type} [Scalar α]

/-- The weight of lines in code of some complexity. -/
def complexityMultiplier (complexity : α) : α :=
  if Scalar.le complexity (Scalar.ofInt 5) then Scalar.ofRat 1
  else if Scalar.le complexity (Scalar.ofInt 10) then Scalar.ofRat 1.5
  else if Scalar.le complexity (Scalar.ofInt 20) then Scalar.ofRat 2.5
  else Scalar.ofRat 4

/-- The complexity of each changed file after the change. -/
def complexities (deltas : List (ComplexityDelta α)) : Table String α :=
  Table.ofPairs (deltas.map fun d => (d.filePath, d.after))

/-- The weight of a developer's lines, from the mean complexity of the files that the developer touched, or of all
changed files if none of these was touched; one without changed files. -/
def multiplierFor (a : Activity) (after : Table String α) : α :=
  if after.isEmpty || a.filesChanged == 0 then Scalar.ofRat 1
  else
    let own := a.filesTouched.filterMap (Table.get? after)
    complexityMultiplier (Scalar.mean (if own.isEmpty then after.map (·.2) else own))

/-- The effort of a developer before it is scored. -/
def raw (after : Table String α) (a : Activity) : EffortScore α :=
  let multiplier := multiplierFor a after
  { developer := a.developer, lines := a.totalLines, multiplier
    weighted := Scalar.roundPlaces 2 (Scalar.ofInt a.totalLines * multiplier), score := Scalar.zero }

def ofActivities (activities : List Activity) (deltas : List (ComplexityDelta α)) (scoring : ScoringConfig Int α) :
    List (EffortScore α) :=
  let scores := activities.map (raw (complexities deltas))
  let normal := Cohort.normalize (scores.map (·.weighted)) scoring.effortReference scoring.effortReferenceScore
  scores.zipWith (fun s n => { s with score := n }) normal

def ofSupplied (activities : Supplied Activity) (deltas : Supplied (ComplexityDelta α))
    (scoring : ScoringConfig Int α) : Except InputError (List (EffortScore α)) := do
  let activities ← activities.require "git_metrics"
  return ofActivities activities (← deltas.require "deltas") scoring

end EffortScore
end RepoSurvey
