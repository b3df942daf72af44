import RepoSurvey.History.PullRequest
import RepoSurvey.Number.Whole
import RepoSurvey.Settings.Section
import RepoSurvey.Severity

/-!
# Blockers

Conditions that hold up development:

* requests without activity for too long, and requests open for too long;
* too many open requests waiting for one reviewer;
* too great a share of requests with architectural violations, of a developer or of the team.

`Blocker.detect` runs all four detectors; `Blocker.report` is the text in which blockers are reported.
-/

namespace RepoSurvey

inductive BlockerType where
  | stalledRequest
  | longLivedBranch
  | reviewBottleneck
  | highViolationRate
  | dependencyBlock
  deriving Repr, DecidableEq

namespace BlockerType

def name : BlockerType → String
  | stalledRequest => "stalled_pr"
  | longLivedBranch => "long_lived_branch"
  | reviewBottleneck => "review_bottleneck"
  | highViolationRate => "high_violation_rate"
  | dependencyBlock => "dependency_block"

def label : BlockerType → String
  | stalledRequest => "Stalled PR"
  | longLivedBranch => "Long-lived Branch"
  | reviewBottleneck => "Review Bottleneck"
  | highViolationRate => "High Violation Rate"
  | dependencyBlock => "Dependency Block"

/-- The types in the order in which they are reported. -/
def all : List BlockerType :=
  [stalledRequest, longLivedBranch, reviewBottleneck, highViolationRate, dependencyBlock]

end BlockerType

structure Blocker where
  type : BlockerType
  description : String
  severity : Severity
  /-- A developer, or the team. -/
  entity : String
  since : Option Moment := none
  deriving Repr, DecidableEq

namespace Blocker

variable {α : Type} [Scalar α]

/-! ### Waiting requests -/

section

/-- Severe from more than twice the allowed amount on. -/
def severityOver (amount limit : Int) : Severity := if limit * 2 < amount then .high else .medium

/-- Whether a time in seconds exceeds a number of days. -/
def exceedsDays (seconds : α) (days : Int) : Bool := !Scalar.le seconds (Scalar.ofInt (days * Moment.daySeconds))

variable (α) in
/-- The open requests for which more than some days have passed since a moment of theirs, each with the whole days. -/
def waiting (since : PullRequest → Moment) (limit : Int) (now : Moment) (rs : List PullRequest) :
    List (PullRequest × Int) :=
  (rs.filter (·.isOpen)).filterMap fun r =>
    let seconds : α := now.secondsSince (since r)
    if exceedsDays seconds limit then some (r, Moment.wholeDays seconds) else none

variable (α) in
def stalled (rs : List PullRequest) (limit : Int) (now : Moment) : List Blocker :=
  (waiting α (·.updatedAt) limit now rs).map fun (r, days) =>
    { type := .stalledRequest
      description := "PR #" ++ toString r.number ++ " \"" ++ r.title ++ "\" has had no activity for " ++
        toString days ++ " days (author: " ++ r.author ++ ")"
      severity := severityOver days limit
      entity := r.author
      since := some r.updatedAt }

variable (α) in
def longLived (rs : List PullRequest) (limit : Int) (now : Moment) : List Blocker :=
  (waiting α (·.createdAt) limit now rs).map fun (r, days) =>
    { type := .longLivedBranch
      description := "Branch \"" ++ r.branch ++ "\" has been open for " ++ toString days ++ " days via PR #" ++
        toString r.number ++ " (author: " ++ r.author ++ ")"
      severity := severityOver days limit
      entity := r.author
      since := some r.createdAt }

end

/-! ### Bottlenecks -/

section

/-- The numbers of the open requests that wait for a reviewer, once for every time the reviewer is named. -/
def pending (rs : List PullRequest) (reviewer : String) : List Int :=
  (rs.filter (·.isOpen)).flatMap fun r => List.replicate (r.reviewers.count reviewer) r.number

/-- The reviewers of open requests in ascending order. -/
def reviewersOf (rs : List PullRequest) : List String :=
  Text.distinctAscending ((rs.filter (·.isOpen)).flatMap (·.reviewers))

def bottlenecks (rs : List PullRequest) (limit : Int) : List Blocker :=
  (reviewersOf rs).filterMap fun reviewer =>
    let numbers := pending rs reviewer
    let count : Int := numbers.length
    if count ≤ limit then none
    else some
      { type := .reviewBottleneck
        description := reviewer ++ " has " ++ toString count ++ " PRs awaiting review (" ++
          ", ".intercalate (numbers.map fun n => "#" ++ toString n) ++ "), exceeding the threshold of " ++
          toString limit
        severity := severityOver count limit
        entity := reviewer }

end

/-! ### Violation rates -/

section

def rateSeverity (rate : α) : Severity :=
  if Scalar.le (Scalar.ofRat 0.75) rate then .high
  else if Scalar.le (Scalar.ofRat 0.5) rate then .medium
  else .low

/-- A rate in percent, as a whole number. -/
def percent (rate : α) : Int := Rat.nearest ((Scalar.toRat? (rate * Scalar.ofInt 100)).getD 0)

/-- The blocker of a developer whose rate reaches the limit. -/
def developerRate (rs : List PullRequest) (limit : α) (m : RequestMetrics α) : Option Blocker :=
  if m.opened = 0 ∨ m.withViolations = 0 then none
  else
    let rate : α := Scalar.quot m.withViolations m.opened
    if Scalar.lt rate limit then none
    else
      let flagged := rs.filter fun r => r.author == m.developer && r.hasViolations
      let violations := signedTotal (flagged.map (·.violationCount))
      some
        { type := .highViolationRate
          description := m.developer ++ " has architectural violations in " ++ toString m.withViolations ++ " of " ++
            toString m.opened ++ " PRs (" ++ toString (percent rate) ++ "% rate, " ++ toString violations ++
            " total violations)"
          severity := rateSeverity rate
          entity := m.developer }

/-- The blocker of the team if the share of flagged requests reaches the limit. -/
def teamRate (rs : List PullRequest) (limit : α) : Option Blocker :=
  let total := rs.length
  let flagged := rs.countP (·.hasViolations)
  let rate : α := Scalar.quot (flagged : Nat) (total : Nat)
  if total ≠ 0 ∧ Scalar.le limit rate then
    some
      { type := .highViolationRate
        description := "Team-wide architectural violation rate is " ++ toString (percent rate) ++ "% (" ++
          toString flagged ++ " of " ++ toString total ++ " PRs)"
        severity := .high
        entity := "team" }
  else none

def rates (metrics : List (RequestMetrics α)) (rs : List PullRequest) (limit : α) : List Blocker :=
  (metrics.mergeSort fun a b => decide (a.developer ≤ b.developer)).filterMap (developerRate rs limit) ++
    (teamRate rs limit).toList

end

/-! ### Detection -/

section

/-- The blockers among some requests at a moment. -/
def detect (rs : List PullRequest) (metrics : List (RequestMetrics α)) (t : BlockerThresholds Int α) (now : Moment) :
    List Blocker :=
  stalled α rs t.staleDays now ++ longLived α rs t.longBranchDays now ++ bottlenecks rs t.reviewBottleneck ++
    rates metrics rs t.violationRate

def detectSupplied (rs : Supplied PullRequest) (metrics : Supplied (RequestMetrics α)) (t : BlockerThresholds Int α)
    (now : Moment) : Except InputError (List Blocker) := do
  let rs ← rs.require "prs"
  return detect rs (← metrics.require "pr_metrics") t now

end

/-! ### Reports -/

section

/-- The blockers with the most urgent first. -/
def bySeverity (bs : List Blocker) : List Blocker := bs.mergeSort fun a b => decide (a.severity.rank ≤ b.severity.rank)

/-- The blockers of at least some severity. -/
def atLeast (least : Severity) (bs : List Blocker) : List Blocker :=
  bs.filter fun b => decide (b.severity.rank ≤ least.rank)

/-- The blockers of each type that occurs, the most urgent first. -/
def byType (bs : List Blocker) : List (BlockerType × List Blocker) :=
  BlockerType.all.filterMap fun t =>
    let own := (bySeverity bs).filter (·.type == t)
    if own.isEmpty then none else some (t, own)

/-- The line that reports a blocker. -/
def line (b : Blocker) : String :=
  let since := b.since.elim "" fun m => " (since " ++ m.date.inWords ++ ")"
  "[" ++ b.severity.label ++ "] " ++ b.type.label ++ ": " ++ b.description ++ since

def countOf (s : Severity) (bs : List Blocker) : String := toString (bs.countP (·.severity == s))

/-- The report of some blockers, grouped by type. -/
def report (bs : List Blocker) : String :=
  if bs.isEmpty then "No development blockers detected."
  else "\n".intercalate (
    ["=== Development Blockers Report ===", "Total: " ++ toString bs.length ++ " blocker(s) detected", "",
      "Severity breakdown: " ++ countOf .high bs ++ " high, " ++ countOf .medium bs ++ " medium, " ++ countOf .low bs ++
        " low", ""] ++
    (byType bs).flatMap fun (t, own) =>
      ("--- " ++ t.label ++ " (" ++ toString own.length ++ ") ---") :: own.map line ++ [""])

end

end Blocker
end RepoSurvey
