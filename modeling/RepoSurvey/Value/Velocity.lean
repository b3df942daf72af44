import RepoSurvey.Value.History
import RepoSurvey.Velocity.Run

/-!
# Scores and blockers as values
-/

namespace RepoSurvey

instance : Enumeration Severity where
  family := "Severity"
  all := Severity.all
  name := Severity.name

instance : ToValue ReviewViolation := ⟨fun v => .record "ReviewViolation"
  [("developer_id", value v.developer), ("decision_id", value v.decision), ("file_path", value v.filePath)] []⟩

instance : Enumeration BlockerType where
  family := "BlockerType"
  all := BlockerType.all
  name := BlockerType.name

instance : ToValue Blocker := ⟨fun b => .record "Blocker"
  [("type", value b.type), ("description", value b.description), ("severity", value b.severity),
    ("related_entity", value b.entity), ("stale_since", value b.since)] []⟩

instance : ToValue (EffortScore Float) := ⟨fun s => .record "EffortScore"
  [("developer_id", value s.developer), ("raw_lines_changed", value s.lines),
    ("complexity_multiplier", value s.multiplier), ("complexity_weighted_effort", value s.weighted),
    ("normalized_score", value s.score)] []⟩

instance : ToValue (ImpactScore Float) := ⟨fun s => .record "ImpactScore"
  [("developer_id", value s.developer), ("boundaries_crossed", value s.boundaries),
    ("core_module_touches", value s.core), ("peripheral_module_touches", value s.peripheral),
    ("raw_score", value s.raw), ("normalized_score", value s.score)] []⟩

instance : Enumeration VelocityPeriod where
  family := "VelocityPeriod"
  all := VelocityPeriod.all
  name := VelocityPeriod.name

instance : Enumeration VelocityTrend where
  family := "VelocityTrend"
  all := VelocityTrend.all
  name := VelocityTrend.name

/-- The fields of a period. -/
def Span.fields (s : Span) : List (String × Value) :=
  [("period", value s.period), ("period_start", value s.start), ("period_end", value s.finish)]

instance : ToValue (VelocityScore Float) := ⟨fun s => .record "VelocityScore"
  (("developer_id", value s.developer) :: s.span.fields ++
  [("commits", value s.commits), ("prs_opened", value s.opened), ("prs_merged", value s.merged),
    ("lines_added", value s.linesAdded), ("lines_removed", value s.linesRemoved),
    ("weighted_effort", value s.effort), ("architectural_impact", value s.impact),
    ("review_contribution", value s.review), ("refactoring_ratio", value s.refactoring),
    ("velocity_score", value s.velocity), ("trend", value s.trend),
    ("blockers", value s.blockers)]) []⟩

instance : ToValue (TeamVelocity Float) := ⟨fun t => .record "TeamVelocity"
  (("team_id", value t.team) :: t.span.fields ++
  [("members", value t.members), ("team_velocity_score", value t.score), ("top_blockers", value t.topBlockers),
    ("architectural_health", value t.health), ("highlights", value t.highlights)]) []⟩

instance : ToValue (VelocityInput Float) := ⟨fun d => .record "VelocityInput"
  ([("git_metrics", value d.activities), ("effort_scores", value d.efforts), ("impact_scores", value d.impacts),
    ("pr_metrics", value d.requests), ("refactoring_ratios", .table d.refactoring), ("blockers", value d.blockers)] ++
  d.span.fields ++ [("previous_scores", value d.previous)]) []⟩

instance : ToValue (VelocityResult Float) := ⟨fun r => .record "VelocityResult"
  [("scores", value r.scores), ("team_velocity", value r.team), ("blockers", value r.blockers)] []⟩

end RepoSurvey
