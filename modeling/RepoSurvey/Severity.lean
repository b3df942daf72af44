/-!
# Severity

How urgent a blocker or a drift event is.
-/

namespace RepoSurvey

inductive Severity where
  | high
  | medium
  | low
  deriving Repr, DecidableEq

namespace Severity

def name : Severity → String
  | high => "high"
  | medium => "medium"
  | low => "low"

/-- The name as alerts show it. -/
def label : Severity → String
  | high => "HIGH"
  | medium => "MEDIUM"
  | low => "LOW"

def all : List Severity := [high, medium, low]

/-- The place in the order of urgency, the most urgent first. -/
def rank : Severity → Nat
  | high => 0
  | medium => 1
  | low => 2

end Severity
end RepoSurvey
