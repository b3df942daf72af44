import RepoSurvey.History.Activity
import RepoSurvey.History.PullRequest
import RepoSurvey.Source.ComplexityDelta
import RepoSurvey.Value.Enumeration

/-!
# Complexity and history as values

The record of a file's diff has its added and removed lines besides its fields, and that of an activity the number of
all lines changed.
-/

namespace RepoSurvey

/-! ### Complexity -/

/-- A block of a file. -/
def Source.Block.value (path : Option String) (b : Source.Block) : Value := .record "FunctionComplexity"
  [("file_path", RepoSurvey.value path), ("function_name", RepoSurvey.value b.name),
    ("line_start", RepoSurvey.value b.first), ("line_end", RepoSurvey.value b.last),
    ("cyclomatic", RepoSurvey.value b.cyclomatic), ("cognitive", RepoSurvey.value b.cognitive)] []

/-- How a file was split. -/
def Source.Extraction.mode : Source.Extraction → Value
  | functions _ => .named "ExtractionMode" "functions"
  | wholeFile _ => .named "ExtractionMode" "whole_file"

/-- The blocks of a file and how it was split. -/
def Source.Extraction.value (path : Option String) (e : Source.Extraction) : Value := .record "FunctionExtraction"
  [("mode", e.mode), ("functions", .tuple (e.blocks.map (·.value path)))] []

/-- The complexity of a file. -/
def FileComplexity.value (path : Option String) (c : FileComplexity Float) : Value := .record "FileComplexity"
  [("file_path", RepoSurvey.value path), ("functions", .tuple (c.extraction.blocks.map (·.value path))),
    ("avg_cyclomatic", RepoSurvey.value c.averageCyclomatic), ("avg_cognitive", RepoSurvey.value c.averageCognitive),
    ("max_cyclomatic", RepoSurvey.value c.maxCyclomatic), ("max_cognitive", RepoSurvey.value c.maxCognitive),
    ("extraction", c.extraction.mode)] []

instance : ToValue (ComplexityDelta Float) := ⟨fun d => .record "ComplexityDelta"
  [("file_path", value d.filePath), ("before_avg_complexity", value d.before),
    ("after_avg_complexity", value d.after), ("complexity_change", value d.change),
    ("refactoring_reduction", value d.reduction), ("complexity_addition", value d.addition)] []⟩

/-! ### Changes -/

instance : ToValue Hunk := ⟨fun h => .record "DiffHunk"
  [("file_path", value h.filePath), ("old_start", value h.oldStart), ("old_lines", value h.oldLines),
    ("new_start", value h.newStart), ("new_lines", value h.newLines), ("content", value h.content),
    ("additions", value h.additions), ("deletions", value h.deletions)] []⟩

instance : Enumeration ChangeStatus where
  family := "DiffStatus"
  all := ChangeStatus.all
  name := ChangeStatus.name

instance : ToValue FileDiff := ⟨fun d => .record "FileDiff"
  [("file_path", value d.filePath), ("status", value d.status), ("hunks", value d.hunks),
    ("old_path", value d.oldPath)]
  [("additions", value d.additions), ("deletions", value d.deletions)]⟩

instance : ToValue Activity := ⟨fun a => .record "GitMetrics"
  [("developer_id", value a.developer), ("commits", value a.commits), ("files_changed", value a.filesChanged),
    ("lines_added", value a.linesAdded), ("lines_removed", value a.linesRemoved),
    ("file_types_touched", .table a.fileTypes), ("period_start", value a.periodStart),
    ("period_end", value a.periodEnd), ("files_touched", value a.filesTouched)]
  [("total_lines_changed", value a.totalLines)]⟩

/-! ### Requests -/

instance : Enumeration RequestState where
  family := "PRState"
  all := RequestState.all
  name := RequestState.name

instance : ToValue PullRequest := ⟨fun r => .record "PullRequest"
  [("id", value r.id), ("number", value r.number), ("title", value r.title), ("author", value r.author),
    ("state", value r.state), ("created_at", value r.createdAt), ("updated_at", value r.updatedAt),
    ("merged_at", value r.mergedAt), ("closed_at", value r.closedAt), ("files_changed", value r.filesChanged),
    ("lines_added", value r.linesAdded), ("lines_removed", value r.linesRemoved),
    ("review_rounds", value r.reviewRounds), ("time_to_merge", value r.timeToMerge), ("reviewers", value r.reviewers),
    ("has_arch_violations", value r.hasViolations), ("violation_count", value r.violationCount),
    ("branch_name", value r.branch), ("base_branch", value r.baseBranch)] []⟩

instance : ToValue (RequestMetrics Float) := ⟨fun m => .record "DeveloperPRMetrics"
  [("developer_id", value m.developer), ("prs_opened", value m.opened), ("prs_merged", value m.merged),
    ("prs_closed", value m.closed), ("avg_files_changed", value m.averageFiles),
    ("avg_lines_changed", value m.averageLines), ("avg_time_to_merge_seconds", value m.averageMergeSeconds),
    ("avg_review_rounds", value m.averageReviewRounds), ("prs_with_violations", value m.withViolations),
    ("reviews_given", value m.reviews)] []⟩

end RepoSurvey
