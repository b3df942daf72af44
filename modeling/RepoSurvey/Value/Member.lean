import RepoSurvey.Value.Drift
import RepoSurvey.Value.Identity

/-!
# Members of enumerations

`Value.memberOf` finds a member by the names of the enumeration and of the member.
-/

namespace RepoSurvey
namespace Value

/-- How the functions of a file were found. -/
def extractionModes : List Value := ["functions", "whole_file"].map (named "ExtractionMode")

/-- The members of every enumeration. -/
def enumerations : List (String × List Value) :=
  [Enumeration.members CouplingFormula, ("ExtractionMode", extractionModes), Enumeration.members ChangeStatus,
    Enumeration.members VelocityTrend, Enumeration.members VelocityPeriod, Enumeration.members RequestState,
    Enumeration.members BlockerType, Enumeration.members TrendDirection, Enumeration.members TimeWindow,
    Enumeration.members DriftEventType, Enumeration.members Severity, Enumeration.members ViolationLevel]

def memberName? : Value → Option String
  | member _ _ name => some name
  | _ => Option.none

/-- The member that a value names, or is. -/
def memberOf (type : String) (found : Value) : Except NameError Value :=
  let own (m : Value) : Bool :=
    match found with
    | text s => m.memberName? == some s
    | v => v.same m
  match ((enumerations.lookup type).getD []).find? own with
  | some m => .ok m
  | Option.none => .error ⟨found.shown, type⟩

end Value
end RepoSurvey
