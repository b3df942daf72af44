import RepoSurvey.Graph.DependencyGraph
import RepoSurvey.Severity
import RepoSurvey.Time.Moment

/-!
# Snapshots and drift events

* `Snapshot`: the state of an architecture at one commit.
* `DriftEvent`: a difference between two snapshots that is worth noting.
-/

namespace RepoSurvey

/-- An architectural decision. Decisions of different snapshots are matched by their titles. -/
structure Decision (α : Type) where
  id : String
  title : String
  confidence : α

structure DependencyStats (α : Type) where
  modules : Int
  cycles : Int
  coupling : α
  instability : α
  distance : α

/-- The state of an architecture at one commit. -/
structure Snapshot (α : Type) where
  id : String
  repository : String
  commit : String
  driftScore : α
  decisions : List (Decision α)
  violations : Int
  stats : DependencyStats α
  createdAt : Moment

inductive DriftEventType where
  | decisionLost
  | decisionEmerged
  | decisionWeakened
  | circularDependency
  | couplingRegression
  | instabilityRegression
  | violationSpike
  deriving Repr, DecidableEq

namespace DriftEventType

def name : DriftEventType → String
  | decisionLost => "decision_lost"
  | decisionEmerged => "decision_emerged"
  | decisionWeakened => "decision_weakened"
  | circularDependency => "circular_dep_introduced"
  | couplingRegression => "coupling_regression"
  | instabilityRegression => "instability_regression"
  | violationSpike => "violation_spike"

def all : List DriftEventType :=
  [decisionLost, decisionEmerged, decisionWeakened, circularDependency, couplingRegression, instabilityRegression,
    violationSpike]

end DriftEventType

structure DriftEvent where
  id : String
  repository : String
  type : DriftEventType
  severity : Severity
  description : String
  detectedAt : Moment
  snapshot : String
  decision : Option String := none
  deriving Repr, DecidableEq

/-- The measures of a graph that a snapshot keeps. -/
def DependencyStats.ofGraph {α : Type} (g : DependencyGraph α) : DependencyStats α :=
  ⟨g.nodes.length, g.cycles.length, g.averageCoupling, g.averageInstability, g.averageDistance⟩

end RepoSurvey
