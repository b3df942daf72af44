import RepoSurvey.ArchitectureReport
import RepoSurvey.Drift.Trend
import RepoSurvey.Import.SourceFile
import RepoSurvey.Velocity.Run

/-!
# Sessions

A session follows one repository over time. It keeps the texts of the files, and what later steps are compared with: the
last analysis, all snapshots, events and scores, and the texts at the last velocity run.

* `Session.write`, `Session.remove`: the texts change.
* `Session.analyze`: an analysis, compared with the last snapshot.
* `Session.measure`, `Session.score`: the two halves of a velocity run.
* `Session.trends`: the trends of the snapshots so far.
-/

namespace RepoSurvey

/-- What stays the same in a session. -/
structure SessionSetup (α : Type) where
  repository : String
  team : String
  config : AnalysisConfig LayerDefinition Int α
  aliases : List (String × List String) := []
  packages : List (String × String) := []
  goModule : Option String := none

structure Session (α : Type) where
  /-- The text of every path, or none for a file that cannot be read. -/
  texts : Table String (Option String) := []
  /-- The texts at the last velocity run. -/
  base : Table String (Option String) := []
  report : Option (ArchitectureReport α) := none
  snapshots : List (Snapshot α) := []
  events : List DriftEvent := []
  /-- The velocity scores, the most recent first. -/
  scores : List (VelocityScore α) := []

namespace Session

variable {α : Type} [Scalar α]

def write (path : String) (text : Option String) (s : Session α) : Session α :=
  { s with texts := s.texts.put path text }

def remove (path : String) (s : Session α) : Session α :=
  { s with texts := s.texts.filter (·.1 ≠ path) }

/-- How many snapshots and events have got a name. -/
def named (s : Session α) : Nat := s.snapshots.length + s.events.length

/-- What an analysis is made on besides the texts. -/
structure AnalysisStep (α : Type) where
  commit : String
  layers : List LayerDefinition
  decisions : Supplied (Decision α)
  now : Moment

/-- Analyzes the texts and compares the outcome with the last snapshot. -/
def analyze (setup : SessionSetup α) (names : Nat → String) (step : AnalysisStep α) (s : Session α) :
    Except AnalysisFault (ArchitectureReport α × Session α) := do
  let files := SourceFile.scan s.texts setup.aliases setup.packages setup.goModule
  let report ← ArchitectureReport.analyzeSupplied (fun i => names (s.named + i)) (.list (files.map .record))
    step.decisions
    { repository := setup.repository, commit := step.commit, layers := step.layers
      previous := s.snapshots.getLast?, now := step.now } setup.config
  return (report,
    { s with
      report := some report
      snapshots := s.snapshots ++ [report.drift.snapshot]
      events := s.events ++ report.drift.events })

/-- The activities of a log, and how the files in them changed since the last run. -/
def measure (log : String) (start finish : Option Moment) (s : Session α) :
    Except Numeral.ExcessDigits ((List Activity × List (ComplexityDelta α)) × Session α) := do
  let activities ← Activity.ofLog log start finish
  let changed := Text.distinctAscending (activities.flatMap (·.filesTouched))
  return ((activities, ComplexityDelta.ofTexts (changed.map .path) s.base s.texts), { s with base := s.texts })

/-- What a velocity run is made on besides the activities and the changes. -/
structure VelocityStep (α : Type) where
  span : Span
  requests : Supplied PullRequest
  reviews : List ReviewViolation
  health : Option α
  now : Moment

/-- Scores activities and changes; graph and violations are those of the last analysis. -/
def score (setup : SessionSetup α) (activities : List Activity) (deltas : List (ComplexityDelta α))
    (step : VelocityStep α) (s : Session α) : Except VelocityFault (VelocityResult α × Session α) := do
  let result ← VelocityRun.performSupplied (.list activities) (.list deltas) step.requests
    { team := setup.team, span := step.span, graph := s.report.map (·.graph)
      violations := (s.report.map (·.violations)).getD [], reviews := step.reviews, previous := s.scores
      health := step.health, now := step.now } setup.config
  return (result, { s with scores := result.scores ++ s.scores })

/-- The trends of all snapshots and events, if the window lies in the calendar. -/
def trends (window : TimeWindow) (now : Moment) (s : Session α) : Option (TrendSummary α) :=
  TrendSummary.of? s.snapshots s.events window now

end Session
end RepoSurvey
