import RepoSurvey.History.Activity
import RepoSurvey.Layer.Violation
import RepoSurvey.Number.Whole
import RepoSurvey.Settings.Section
import RepoSurvey.Velocity.Cohort

/-!
# Impact

A developer's impact counts the architectural boundaries crossed and the core and peripheral modules touched.

* `coreModules`: the files that are strongly coupled or imported by many.
* `boundaryCrossings`: the distinct boundaries that a developer crossed.
* `moduleTouches`: how many core and how many peripheral modules a developer touched.
* `ImpactScore.ofActivities`: the impact of every developer, scored over the cohort.
-/

namespace RepoSurvey

/-- A decision that a developer was found to violate in a review. -/
structure ReviewViolation where
  developer : String
  decision : String
  filePath : Option String := none
  deriving Repr, DecidableEq

structure ImpactScore (α : Type) where
  developer : String
  boundaries : Int
  core : Int
  peripheral : Int
  raw : α
  score : α

namespace ImpactScore

variable {α : Type} [Scalar α]

/-- The files with a coupling above the threshold or with enough importers, in the order of the graph. -/
def coreModules (g : Option (DependencyGraph α)) (scoring : ScoringConfig Int α) : List String :=
  (g.map fun g => (g.nodes.filter fun n =>
    Scalar.lt scoring.coreCoupling n.coupling || decide (scoring.coreFanIn ≤ n.fanIn)).map (·.path)).getD []

/-! ### Boundaries -/

section

def backendTypes : List String := [".py", ".go", ".rs", ".java"]

def frontendTypes : List String := [".tsx", ".jsx", ".vue", ".svelte"]

def configTypes : List String := [".yml", ".yaml", ".json", ".toml"]

/-- Boundaries told from the kinds of files changed, when there are more than two: between backend and frontend, and
between these and configuration. -/
def typeCrossings (types : List String) : Nat :=
  let backend := types.any backendTypes.contains
  let frontend := types.any frontendTypes.contains
  let config := types.any configTypes.contains
  if 2 < types.length then
    (if backend && frontend then 1 else 0) + (if (backend || frontend) && config then 1 else 0)
  else 0

/-- The distinct pairs of layers that were violated in touched files, the distinct decisions violated in reviews, and
the boundaries between kinds of files. -/
def boundaryCrossings (a : Activity) (violations : List Violation) (reviews : List ReviewViolation) : Nat :=
  let pairs := (violations.filter (a.filesTouched.contains ·.sourceFile)).map fun v => (v.sourceLayer, v.targetLayer)
  let decisions := (reviews.filter (·.developer == a.developer)).map (·.decision)
  pairs.eraseDups.length + decisions.eraseDups.length + typeCrossings (a.fileTypes.map (·.1)).eraseDups

end

/-! ### Touched modules -/

section

/-- The extensions of source files, which may be core modules. -/
def sourceTypes : List String := [".ts", ".js", ".py", ".go", ".rs", ".java"]

/-- A number rounded by adding a half and dropping the fraction. -/
def roundHalfUp (x : α) : Int :=
  match Scalar.toRat? (x + Scalar.ofRat 0.5) with
  | some q => if q < 0 then -(-q).floor else q.floor
  | none => 0

/-- The share of core modules in source files where only counts are known. -/
def coreRatio (core : List String) : α :=
  if core.isEmpty then Scalar.ofRat 0.3
  else Scalar.smaller (Scalar.quot (core.length : Nat) 20) (Scalar.ofRat 0.5)

/-- The core and the peripheral modules among changes to files of one extension. -/
def splitTouches (ratio : α) (entry : String × Int) : Int × Int :=
  if sourceTypes.contains entry.1 then
    (roundHalfUp (Scalar.ofInt entry.2 * ratio), roundHalfUp (Scalar.ofInt entry.2 * (Scalar.one - ratio)))
  else (0, entry.2)

/-- The core and the peripheral modules that a developer touched: exactly if the files and a graph are known, else
estimated from the counts of extensions. -/
def moduleTouches (a : Activity) (core : List String) (g : Option (DependencyGraph α)) : Int × Int :=
  if !a.filesTouched.isEmpty && g.isSome then
    let touched := (a.filesTouched.countP core.contains : Int)
    (touched, a.filesTouched.length - touched)
  else
    let parts := a.fileTypes.map (splitTouches (coreRatio core : α))
    (signedTotal (parts.map (·.1)), signedTotal (parts.map (·.2)))

end

/-! ### Scores -/

section

/-- The impact of a developer before it is scored. -/
def ofActivity (g : Option (DependencyGraph α)) (violations : List Violation) (reviews : List ReviewViolation)
    (scoring : ScoringConfig Int α) (a : Activity) : ImpactScore α :=
  let boundaries := boundaryCrossings a violations reviews
  let (core, peripheral) := moduleTouches a (coreModules g scoring) g
  let raw := Scalar.ofNat boundaries * scoring.boundaryWeight + Scalar.ofInt core * scoring.coreWeight +
    Scalar.ofInt peripheral * scoring.peripheralWeight
  { developer := a.developer, boundaries, core, peripheral, raw := Scalar.roundPlaces 2 raw, score := Scalar.zero }

def ofActivities (activities : List Activity) (g : Option (DependencyGraph α)) (violations : List Violation)
    (reviews : List ReviewViolation) (scoring : ScoringConfig Int α) : List (ImpactScore α) :=
  let scores := activities.map (ofActivity g violations reviews scoring)
  let normal := Cohort.normalize (scores.map (·.raw)) scoring.impactReference scoring.impactReferenceScore
  scores.zipWith (fun s n => { s with score := n }) normal

def ofSupplied (activities : Supplied Activity) (g : Option (DependencyGraph α)) (violations : List Violation)
    (reviews : List ReviewViolation) (scoring : ScoringConfig Int α) : Except InputError (List (ImpactScore α)) := do
  return ofActivities (← activities.require "git_metrics") g violations reviews scoring

end

end ImpactScore
end RepoSurvey
