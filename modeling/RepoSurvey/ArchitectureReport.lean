import RepoSurvey.Drift.Detection
import RepoSurvey.Layer.Inference
import RepoSurvey.Settings.AnalysisConfig

/-!
# Analysis of an architecture

`ArchitectureReport.analyze` builds the dependency graph of a repository, checks its layers and compares the outcome
with the previous snapshot.
-/

namespace RepoSurvey

structure ArchitectureReport (α : Type) where
  graph : DependencyGraph α
  layers : List LayerDefinition
  violations : List Violation
  drift : DriftResult α

/-- What an analysis is made on, apart from the files and the settings. -/
structure AnalysisRequest (α : Type) where
  repository : String
  commit : String
  /-- The layers of this analysis; without any, those of the settings. -/
  layers : List LayerDefinition
  previous : Option (Snapshot α)
  now : Moment

namespace ArchitectureReport

variable {α : Type} [Scalar α]

def analyze (names : Nat → String) (files : List SourceFile) (decisions : List (Decision α))
    (r : AnalysisRequest α) (c : AnalysisConfig LayerDefinition Int α) :
    Except AnalysisFault (ArchitectureReport α) := do
  let graph := DependencyGraph.ofFiles c.formula files
  let layers := LayerDefinition.resolve (if r.layers.isEmpty then c.layers else r.layers) graph.paths
  let violations ← (Violation.inGraph graph layers).mapError .repetition
  let drift ← (DriftResult.detect names
    { repository := r.repository, commit := r.commit, stats := .ofGraph graph, violations := violations.length
      decisions, previous := r.previous, now := r.now } c.drift).mapError .rounding
  return ⟨graph, layers, violations, drift⟩

/-- The analysis of files and decisions handed over by a caller. -/
def analyzeSupplied (names : Nat → String) (files : Supplied (Item SourceFile)) (decisions : Supplied (Decision α))
    (r : AnalysisRequest α) (c : AnalysisConfig LayerDefinition Int α) :
    Except AnalysisFault (ArchitectureReport α) := do
  let items ← (files.require "files").mapError .input
  let decisions ← (decisions.require "decisions").mapError .input
  let files ← (Supplied.requireRecords "files" items).mapError .input
  analyze names files decisions r c

end ArchitectureReport
end RepoSurvey
