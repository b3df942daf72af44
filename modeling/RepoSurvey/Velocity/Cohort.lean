import RepoSurvey.Number.Scalar

/-!
# Scores relative to a cohort

Raw values are mapped onto the scale from 0 to 100 so that a reference value gets a reference score. If a score exceeds
100, the whole cohort is scaled down until the greatest score is 100.

* `Cohort.provisional`: a value on the scale of the reference.
* `Cohort.normalize`: the scores of a cohort.
-/

namespace RepoSurvey
namespace Cohort

variable {α : Type} [Scalar α]

def maxScore : α := Scalar.ofInt 100

/-- A score kept between 0 and 100. -/
def clamp (x : α) : α := Scalar.clamp Scalar.zero maxScore x

/-- A value on the scale on which the reference has its score. -/
def provisional (reference referenceScore value : α) : α :=
  Scalar.settle (Scalar.settle value / reference * referenceScore)

/-- The greatest of some values, the first one to begin with. -/
def peak : List α → α
  | [] => Scalar.zero
  | x :: rest => rest.foldl Scalar.larger x

/-- A score with two decimal places between 0 and 100: a hundredfold rounded to a whole number. -/
def finish (x : α) : α := clamp (Scalar.roundPlaces 0 (x * Scalar.ofInt 100) / Scalar.ofInt 100)

/-- The scores of a cohort; a reference that is not positive gives everyone zero. -/
def normalize (values : List α) (reference referenceScore : α) : List α :=
  if Scalar.le reference Scalar.zero then values.map fun _ => Scalar.zero
  else
    let scores := values.map (provisional reference referenceScore)
    let top := peak scores
    let scores := if Scalar.lt maxScore top then scores.map fun x => x / top * maxScore else scores
    scores.map finish

end Cohort
end RepoSurvey
