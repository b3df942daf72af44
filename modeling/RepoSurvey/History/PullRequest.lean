import RepoSurvey.Input
import RepoSurvey.Number.Whole
import RepoSurvey.Text.Cut
import RepoSurvey.Time.Duration

/-!
# Pull requests

* `PullRequest`: a request to merge a branch, with its author and its reviewers.
* `RequestMetrics`: what one developer's requests and reviews of a period amount to.
* `RequestMetrics.ofRequests`: the authors and reviewers of a period's requests in ascending order.
-/

namespace RepoSurvey

inductive RequestState where
  | opened
  | closed
  | merged
  deriving Repr, DecidableEq

namespace RequestState

def name : RequestState → String
  | opened => "open"
  | closed => "closed"
  | merged => "merged"

def all : List RequestState := [opened, closed, merged]

end RequestState

structure PullRequest where
  id : String
  number : Int
  title : String
  author : String
  state : RequestState
  createdAt : Moment
  updatedAt : Moment
  mergedAt : Option Moment := none
  closedAt : Option Moment := none
  filesChanged : Int := 0
  linesAdded : Int := 0
  linesRemoved : Int := 0
  reviewRounds : Int := 0
  timeToMerge : Option Duration := none
  reviewers : List String := []
  hasViolations : Bool := false
  violationCount : Int := 0
  branch : String := ""
  baseBranch : String := "main"
  deriving Repr, DecidableEq

/-- One developer's requests and reviews. -/
structure RequestMetrics (α : Type) where
  developer : String
  opened : Int
  merged : Int
  /-- Closed without having been merged. -/
  closed : Int
  averageFiles : α
  averageLines : α
  averageMergeSeconds : α
  averageReviewRounds : α
  withViolations : Int
  reviews : Int

namespace PullRequest

def isOpen (r : PullRequest) : Bool := r.state == .opened

/-- Whether the request was created in a period, its ends included; a missing end bounds nothing. -/
def inPeriod (start finish : Option Moment) (r : PullRequest) : Bool :=
  start.all (·.notAfter r.createdAt) && finish.all (r.createdAt.notAfter ·)

/-- The authors and the reviewers of some requests in ascending order. -/
def people (rs : List PullRequest) : List String :=
  Text.distinctAscending (rs.map (·.author) ++ rs.flatMap (·.reviewers))

end PullRequest

namespace RequestMetrics

variable {α : Type} [Scalar α]

/-- The mean of whole numbers to two decimal places, zero without any. -/
def mean2 (counts : List Int) : α :=
  if counts.isEmpty then Scalar.zero else Scalar.roundPlaces 2 (Scalar.quot (signedTotal counts) counts.length)

/-- The mean of some durations in whole seconds, zero without any. -/
def meanSeconds (durations : List Duration) : α :=
  if durations.isEmpty then Scalar.zero else Scalar.roundPlaces 0 (Scalar.mean (durations.map (·.seconds)))

/-- What a developer's own requests and reviews among some requests amount to. -/
def ofDeveloper (rs : List PullRequest) (developer : String) : RequestMetrics α :=
  let own := rs.filter (·.author == developer)
  let merged := own.filter (·.state == .merged)
  { developer
    opened := own.length
    merged := merged.length
    closed := (own.filter fun r => r.state == .closed && r.mergedAt.isNone).length
    averageFiles := mean2 (own.map (·.filesChanged))
    averageLines := mean2 (own.map fun r => r.linesAdded + r.linesRemoved)
    averageMergeSeconds := meanSeconds (merged.filterMap (·.timeToMerge))
    averageReviewRounds := mean2 (own.map (·.reviewRounds))
    withViolations := (own.filter (·.hasViolations)).length
    reviews := ((rs.flatMap (·.reviewers)).count developer : Nat) }

/-- The metrics of everybody who wrote or reviewed a request of the period. -/
def ofRequests (rs : List PullRequest) (start finish : Option Moment) : List (RequestMetrics α) :=
  let rs := rs.filter (·.inPeriod start finish)
  (PullRequest.people rs).map (ofDeveloper rs)

def ofSupplied (rs : Supplied PullRequest) (start finish : Option Moment) :
    Except InputError (List (RequestMetrics α)) := do
  return ofRequests (← rs.require "prs") start finish

end RequestMetrics
end RepoSurvey
