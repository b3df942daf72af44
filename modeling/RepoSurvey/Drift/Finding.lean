import RepoSurvey.Drift.Snapshot
import RepoSurvey.Number.Decimal
import RepoSurvey.Settings.Section
import RepoSurvey.Table

/-!
# Findings of a comparison

An earlier and a current state of an architecture are compared, and every difference worth noting is a finding.

* `Finding.ofDecisions`: lost, new and weakened decisions.
* `Finding.ofStructure`: new cycles, higher coupling and instability, and more violations.
-/

namespace RepoSurvey

/-- A difference between two states. -/
structure Finding where
  type : DriftEventType
  severity : Severity
  description : String
  decision : Option String := none
  deriving Repr, DecidableEq

namespace Finding

variable {α : Type} [Scalar α]

/-- Severe if the condition holds. -/
def highIf (severe : Bool) : Severity := if severe then .high else .medium

/-! ### Decisions -/

section

/-- The decisions by their titles; of several with one title the last counts, in the place of the first. -/
def byTitle (ds : List (Decision α)) : Table String (Decision α) := Table.ofPairs (ds.map fun d => (d.title, d))

/-- A number in percent, as a whole number. -/
def percentText (x : α) : String := Decimal.fixed 0 (x * Scalar.ofInt 100)

def lost (t : DriftThresholds Int α) (d : Decision α) : Finding where
  type := .decisionLost
  severity := highIf (Scalar.lt t.lostHighConfidence d.confidence)
  description := "Architectural decision \"" ++ d.title ++
    "\" is no longer detected. This may indicate architectural drift."
  decision := some d.id

def emerged (title : String) : Finding where
  type := .decisionEmerged
  severity := .low
  description := "New architectural pattern detected: \"" ++ title ++
    "\". Review whether this aligns with intended architecture."

/-- A decision of which the confidence fell by more than is allowed. -/
def weakened? (t : DriftThresholds Int α) (before now : Decision α) : Option Finding :=
  let drop := before.confidence - now.confidence
  if Scalar.lt t.weakenedDrop drop then
    some
      { type := .decisionWeakened
        severity := highIf (Scalar.lt t.weakenedHighDrop drop)
        description := "Confidence in \"" ++ now.title ++ "\" dropped from " ++ percentText before.confidence ++
          "% to " ++ percentText now.confidence ++ "%. The pattern may be eroding."
        decision := some now.id }
  else none

/-- The titles lost, then those that are new, then the common ones with less confidence. -/
def ofDecisions (t : DriftThresholds Int α) (before now : List (Decision α)) : List Finding :=
  let before := byTitle before
  let now := byTitle now
  (before.filter fun (title, _) => !now.contains title).map (fun (_, d) => lost t d) ++
    (now.filter fun (title, _) => !before.contains title).map (fun (title, _) => emerged title) ++
    now.filterMap fun (title, d) => (before.get? title).bind fun b => weakened? t b d

end

/-! ### Structure -/

section

def newCycles? (t : DriftThresholds Int α) (before now : DependencyStats α) : Option Finding :=
  let increase := now.cycles - before.cycles
  if 0 < increase then
    some
      { type := .circularDependency
        severity := highIf (decide (t.newCyclesHigh < increase))
        description := toString increase ++ " new circular dependency group(s) detected (total: " ++
          toString now.cycles ++ ")." }
  else none

/-- An average of all modules that rose by more than is allowed. -/
def risen? (type : DriftEventType) (measure rest : String) (limit high before now : α) : Option Finding :=
  let rise := now - before
  if Scalar.lt limit rise then
    some
      { type
        severity := highIf (Scalar.lt high rise)
        description := "Average module " ++ measure ++ " increased by " ++
          Decimal.fixed 1 (rise * Scalar.ofInt 100) ++ "% (" ++ Decimal.fixed 2 before ++ " -> " ++
          Decimal.fixed 2 now ++ ")." ++ rest }
  else none

/-- More violations than before by at least the least increase and the least share of the earlier count. -/
def moreViolations? (t : DriftThresholds Int α) (before now : Int) : Option Finding :=
  let increase := now - before
  if t.spikeMinIncrease ≤ increase ∧ (before = 0 ∨ Scalar.le t.spikeRatio (Scalar.quot increase before)) then
    some
      { type := .violationSpike
        severity := if t.spikeHigh < increase then .high else if t.spikeMedium < increase then .medium else .low
        description := "Layer violations rose by " ++ toString increase ++ " (" ++ toString before ++ " -> " ++
          toString now ++ ")." }
  else none

/-- What became worse in the structure, each kind at most once. -/
def ofStructure (t : DriftThresholds Int α) (before : Snapshot α) (now : DependencyStats α) (violations : Int) :
    List Finding :=
  (newCycles? t before.stats now).toList ++
    (risen? .couplingRegression "coupling" "" t.couplingIncrease t.couplingIncreaseHigh before.stats.coupling
      now.coupling).toList ++
    (risen? .instabilityRegression "instability" " Modules are becoming less stable." t.instabilityIncrease
      t.instabilityIncreaseHigh before.stats.instability now.instability).toList ++
    (moreViolations? t before.violations violations).toList

end

end Finding
end RepoSurvey
