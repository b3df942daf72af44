import RepoSurvey.Number.Scalar
import RepoSurvey.Number.Whole
import RepoSurvey.Source.FunctionBlock

/-!
# Complexity of a file

The averages, to two decimal places, and the maxima over the blocks of a file.
-/

namespace RepoSurvey

structure FileComplexity (α : Type) where
  extraction : Source.Extraction
  averageCyclomatic : α
  averageCognitive : α
  maxCyclomatic : Nat
  maxCognitive : Nat

namespace FileComplexity

variable {α : Type} [Scalar α]

/-- The mean of counts, to two decimal places. -/
def average (counts : List Nat) : α :=
  Scalar.roundPlaces 2 (Scalar.quot (total counts : Nat) (counts.length : Nat))

/-- The largest of some counts. -/
def largest (counts : List Nat) : Nat := counts.foldl max 0

def ofBlocks (extraction : Source.Extraction) : FileComplexity α :=
  let cyclomatic := extraction.blocks.map (·.cyclomatic)
  let cognitive := extraction.blocks.map (·.cognitive)
  ⟨extraction, average cyclomatic, average cognitive, largest cyclomatic, largest cognitive⟩

def ofText (path : Option String) (text : String) : FileComplexity α :=
  ofBlocks (Source.blocks (.ofPath path) text.toList)

end FileComplexity
end RepoSurvey
