import RepoSurvey.Drift.Finding
import RepoSurvey.Layer.Violation

/-!
# Drift detection

The current state of an architecture is taken down as a snapshot and compared with the one before.

* `driftScore`: how far the architecture has drifted, from zero to a greatest score.
* `DriftResult.detect`: the snapshot, the events that lead to it, and the score.
-/

namespace RepoSurvey

/-- A score that cannot be rounded to a whole number. -/
inductive RoundingError where
  | notANumber
  | infinite
  deriving Repr, DecidableEq

def RoundingError.message : RoundingError → String
  | notANumber => "cannot convert float NaN to integer"
  | infinite => "cannot convert float infinity to integer"

/-- Why an analysis cannot be made. -/
inductive AnalysisFault where
  | input (e : InputError)
  | rounding (e : RoundingError)
  | repetition (e : RepetitionError)
  deriving Repr, DecidableEq

structure DriftResult (α : Type) where
  score : α
  events : List DriftEvent
  snapshot : Snapshot α

section

variable {α : Type} [Scalar α]

/-! ### The score -/

/-- The weight of an event. -/
def severityWeight (t : DriftThresholds Int α) : Severity → α
  | .high => t.highWeight
  | .medium => t.mediumWeight
  | .low => t.lowWeight

/-- A score rounded to a whole number. -/
def wholeScore (x : α) : Except RoundingError α :=
  match Scalar.toRat? x with
  | some _ => .ok (Scalar.roundPlaces 0 x)
  | none => .error (if Scalar.isNumber x then .infinite else .notANumber)

/-- The events by their weights, the share of lost decisions, the violations and the cycles, added up. -/
def driftSum (events : List (DriftEventType × Severity)) (decisionsBefore violations cycles : Int)
    (t : DriftThresholds Int α) : α :=
  let weights := Scalar.sum (events.map fun e => severityWeight t e.2)
  let lost : Int := events.countP (·.1 == .decisionLost)
  let withLost :=
    if 0 < decisionsBefore then weights + Scalar.quot lost decisionsBefore * t.lostDecisionPenalty else weights
  withLost + Scalar.ofInt violations * t.violationWeight + Scalar.ofInt cycles * t.cycleWeight

/-- The drift score: the sum rounded to a whole number, at most the greatest score. -/
def driftScore (events : List (DriftEventType × Severity)) (decisionsBefore violations cycles : Int)
    (t : DriftThresholds Int α) : Except RoundingError α := do
  return Scalar.smaller (← wholeScore (driftSum events decisionsBefore violations cycles t)) t.maxScore

/-! ### Detection -/

/-- What a snapshot is taken of. -/
structure DriftRequest (α : Type) where
  repository : String
  commit : String
  stats : DependencyStats α
  violations : Int
  decisions : List (Decision α)
  previous : Option (Snapshot α)
  now : Moment

namespace DriftResult

/-- The findings of a comparison with the previous snapshot; without one there are none. -/
def findings (r : DriftRequest α) (t : DriftThresholds Int α) : List Finding :=
  match r.previous with
  | none => []
  | some before =>
    Finding.ofDecisions t before.decisions r.decisions ++ Finding.ofStructure t before r.stats r.violations

/-- The score of the findings; without a previous snapshot it is zero. -/
def scoreOf (r : DriftRequest α) (t : DriftThresholds Int α) : Except RoundingError α :=
  match r.previous with
  | none => .ok Scalar.zero
  | some before =>
    driftScore ((findings r t).map fun f => (f.type, f.severity)) before.decisions.length r.violations r.stats.cycles t

/-- The event of a finding. -/
def event (r : DriftRequest α) (snapshot id : String) (f : Finding) : DriftEvent where
  id := id
  repository := r.repository
  type := f.type
  severity := f.severity
  description := f.description
  detectedAt := r.now.asUtc
  snapshot := snapshot
  decision := f.decision

/-- Takes a snapshot and compares it with the previous one. The snapshot gets the first of the given names and the
events get the following ones. -/
def detect (names : Nat → String) (r : DriftRequest α) (t : DriftThresholds Int α) :
    Except RoundingError (DriftResult α) := do
  let score ← scoreOf r t
  return {
    score
    events := (findings r t).mapIdx fun i f => event r (names 0) (names (i + 1)) f
    snapshot :=
      { id := names 0, repository := r.repository, commit := r.commit, driftScore := score, decisions := r.decisions
        violations := r.violations, stats := r.stats, createdAt := r.now.asUtc } }

/-- Drift detection on a graph and lists handed over by a caller. -/
def detectSupplied (names : Nat → String) (repository commit : String) (g : Option (DependencyGraph α))
    (violations : Supplied Violation) (decisions : Supplied (Decision α)) (previous : Option (Snapshot α))
    (now : Moment) (t : DriftThresholds Int α) : Except AnalysisFault (DriftResult α) := do
  let some g := g | throw (.input ⟨"graph", .missingGraph, .none⟩)
  let violations ← (violations.require "violations").mapError .input
  let decisions ← (decisions.require "decisions").mapError .input
  (detect names
    { repository, commit, stats := .ofGraph g, violations := violations.length, decisions, previous, now }
    t).mapError .rounding

end DriftResult

end
end RepoSurvey
