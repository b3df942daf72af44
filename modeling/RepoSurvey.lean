import RepoSurvey.Logging
import RepoSurvey.Session
import RepoSurvey.Settings.Loading
import RepoSurvey.Value.Json
import RepoSurvey.Value.Member
import RepoSurvey.Proofs.Graph.Assembly
import RepoSurvey.Proofs.Graph.ImportRelation
import RepoSurvey.Proofs.Graph.SearchStage
import RepoSurvey.Proofs.Graph.SearchInvariant
import RepoSurvey.Proofs.Graph.SearchRun
import RepoSurvey.Proofs.Graph.Cycles
import RepoSurvey.Proofs.Layer.Assignment
import RepoSurvey.Proofs.Layer.Violations
import RepoSurvey.Proofs.Graph.SearchUnique
import RepoSurvey.Proofs.Graph.SearchProgress
import RepoSurvey.Proofs.Architecture.Inside
import RepoSurvey.Proofs.Architecture.FileOrder
import RepoSurvey.Proofs.Architecture.Packages
import RepoSurvey.Proofs.Expression.Written
import RepoSurvey.Proofs.Expression.Fitting
import RepoSurvey.Proofs.Layer.Pattern
import RepoSurvey.Proofs.Layer.Inference
import RepoSurvey.Proofs.History.Sections
import RepoSurvey.Proofs.Text.Lines
import RepoSurvey.Proofs.Number.DigitLimit
import RepoSurvey.Proofs.History.Rendering
import RepoSurvey.Proofs.History.UnreadableHeader
import RepoSurvey.Proofs.History.Attribution
import RepoSurvey.Proofs.History.LogMerge
import RepoSurvey.Proofs.Source.LineByLine
import RepoSurvey.Proofs.Source.FunctionScore
import RepoSurvey.Proofs.Number.DoubleOrder
import RepoSurvey.Proofs.Number.Nearest
import RepoSurvey.Proofs.Number.RoundedPlace
import RepoSurvey.Proofs.Number.DoubleRounding
import RepoSurvey.Proofs.Number.DoubleArithmetic
import RepoSurvey.Proofs.Number.DoubleValue
import RepoSurvey.Proofs.Drift.DecisionFindings
import RepoSurvey.Proofs.Drift.Thresholds
import RepoSurvey.Proofs.Drift.Directions
import RepoSurvey.Proofs.Drift.Score
import RepoSurvey.Proofs.Drift.Unchanged
import RepoSurvey.Proofs.Velocity.CohortOrder
import RepoSurvey.Proofs.Velocity.RunOrder
import RepoSurvey.Proofs.Velocity.RunResult
import RepoSurvey.Proofs.Velocity.BlockerPlacement
import RepoSurvey.Proofs.Velocity.Trends
import RepoSurvey.Proofs.Import.KnownTargets
import RepoSurvey.Proofs.Import.Scanning
import RepoSurvey.Proofs.Settings.Overlay
import RepoSurvey.Proofs.Settings.Merging
import RepoSurvey.Proofs.Settings.Loading
import RepoSurvey.Proofs.Layer.Answers
import RepoSurvey.Proofs.Time.Instant
import RepoSurvey.Proofs.Time.Retiming
import RepoSurvey.Proofs.Value.Recording
import RepoSurvey.Proofs.Settings.Checks
import RepoSurvey.Proofs.Settings.Unreported
import RepoSurvey.Proofs.Value.Storable
import RepoSurvey.Proofs.Graph.QueueSearch
import RepoSurvey.Proofs.Source.Alignment
import RepoSurvey.Proofs.Source.LiteralGap
import RepoSurvey.Proofs.Source.Spans
import RepoSurvey.Proofs.Source.Enclosed
import RepoSurvey.Proofs.Source.DecisionPlace
import RepoSurvey.Proofs.Number.DoubleWhole
import RepoSurvey.Proofs.Source.LineEstimate
import RepoSurvey.Proofs.History.HunkLines
import RepoSurvey.Proofs.History.ChangeLine
import RepoSurvey.Proofs.History.LogTotals
import RepoSurvey.Proofs.History.AddedChange
import RepoSurvey.Proofs.Import.DottedModules
import RepoSurvey.Proofs.Import.GoPackages
import RepoSurvey.Proofs.Import.PythonStatements
import RepoSurvey.Proofs.Velocity.CohortScores
import RepoSurvey.Proofs.Velocity.ModuleTouches
import RepoSurvey.Proofs.Velocity.DeveloperScores
import RepoSurvey.Proofs.Velocity.RequestTotals
import RepoSurvey.Proofs.Velocity.Waiting
import RepoSurvey.Proofs.Drift.RecentHistory
import RepoSurvey.Proofs.Drift.Slope
import RepoSurvey.Proofs.Drift.DecisionStability
import RepoSurvey.Proofs.Graph.CouplingBalance
import RepoSurvey.Proofs.Source.UndoneChange
import RepoSurvey.Proofs.Drift.StoredState
