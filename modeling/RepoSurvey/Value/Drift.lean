import RepoSurvey.ArchitectureReport
import RepoSurvey.Drift.Trend
import RepoSurvey.Value.Architecture
import RepoSurvey.Value.Velocity

/-!
# Drift as values

The record of a snapshot has the number of its decisions besides its fields.
-/

namespace RepoSurvey

instance : ToValue (Decision Float) := ⟨fun d => .record "Decision"
  [("id", value d.id), ("title", value d.title), ("confidence", value d.confidence)] []⟩

instance : ToValue (DependencyStats Float) := ⟨fun s => .record "DependencyStats"
  [("total_modules", value s.modules), ("circular_deps", value s.cycles), ("avg_coupling", value s.coupling),
    ("avg_instability", value s.instability), ("avg_distance", value s.distance)] []⟩

instance : ToValue (Snapshot Float) := ⟨fun s => .record "ArchSnapshot"
  [("id", value s.id), ("repo_id", value s.repository), ("commit_sha", value s.commit),
    ("drift_score", value s.driftScore), ("decisions", value s.decisions), ("violation_count", value s.violations),
    ("dependency_stats", value s.stats), ("created_at", value s.createdAt)]
  [("decision_count", value s.decisions.length)]⟩

instance : Enumeration DriftEventType where
  family := "DriftEventType"
  all := DriftEventType.all
  name := DriftEventType.name

instance : ToValue DriftEvent := ⟨fun e => .record "DriftEvent"
  [("id", value e.id), ("repo_id", value e.repository), ("type", value e.type),
    ("severity", value e.severity), ("description", value e.description),
    ("detected_at", value e.detectedAt), ("snapshot_id", value e.snapshot), ("decision_id", value e.decision)] []⟩

instance : ToValue (DriftResult Float) := ⟨fun r => .record "DriftResult"
  [("drift_score", value r.score), ("events", value r.events), ("snapshot", value r.snapshot)] []⟩

/-- A time window's label says the number of months in words. -/
instance : Enumeration TimeWindow where
  family := "TimeWindow"
  all := TimeWindow.all
  name := TimeWindow.name
  label
    | .oneMonth => "ONE_MONTH"
    | .threeMonths => "THREE_MONTHS"
    | .sixMonths => "SIX_MONTHS"
    | .twelveMonths => "TWELVE_MONTHS"

instance : Enumeration TrendDirection where
  family := "TrendDirection"
  all := TrendDirection.all
  name := TrendDirection.name

instance : ToValue (TrendPoint Float) := ⟨fun p => .record "TrendDataPoint"
  [("date", value p.date), ("drift_score", value p.driftScore), ("decision_count", value p.decisions),
    ("circular_deps", value p.cycles), ("avg_coupling", value p.coupling), ("violation_count", value p.violations)] []⟩

instance : ToValue (TrendSummary Float) := ⟨fun s => .record "TrendSummary"
  [("time_window", value s.window), ("start_date", value s.start), ("end_date", value s.finish),
    ("data_points", value s.points), ("drift_trend", value s.drift), ("coupling_trend", value s.coupling),
    ("avg_drift_score", value s.averageDrift), ("decision_stability", value s.stability),
    ("top_drift_events", value s.topEvents)] []⟩

instance : ToValue (ArchitectureReport Float) := ⟨fun r => .record "ArchitectureReport"
  [("graph", value r.graph), ("layers", value r.layers), ("violations", value r.violations),
    ("drift", value r.drift)] []⟩

end RepoSurvey
