import RepoSurvey.Graph.Coupling
import RepoSurvey.Settings.Section
import RepoSurvey.Text.Cut

/-!
# Settings of an analysis

All settings together: declared layers, the coupling formula, and the four sections.
-/

namespace RepoSurvey

structure AnalysisConfig (layer ι α : Type) where
  /-- The declared layers in the order in which paths are matched; without any, layers are inferred. -/
  layers : List layer
  formula : CouplingFormula
  velocity : VelocityWeights α
  scoring : ScoringConfig ι α
  blockers : BlockerThresholds ι α
  drift : DriftThresholds ι α

namespace AnalysisConfig

/-- The names that occur more than once, in ascending order. -/
def repeated (names : List String) : List String :=
  Text.distinctAscending (names.filter fun n => decide (1 < names.count n))

/-- No two layers have the same name. -/
def checkLayers (names : List String) : Checked Unit :=
  let again := repeated names
  (SettingRule.distinctLayers again).require again.isEmpty

def usual {layer α : Type} [Scalar α] : AnalysisConfig layer Int α :=
  ⟨[], .fanInRelative, .usual, .usual, .usual, .usual⟩

end AnalysisConfig
end RepoSurvey
