import RepoSurvey.History.Diff
import RepoSurvey.Input
import RepoSurvey.Number.Whole
import RepoSurvey.Source.FileComplexity

/-!
# Changes of complexity

* `ComplexityDelta.ofValues`: a change from one average to another, split into reduction and addition.
* `ComplexityDelta.ofTexts`: the changes of files between two states of a repository.
* `ComplexityDelta.ofDiff`: an estimate from the changed lines alone.
* `ComplexityDelta.refactoringRatio`: the share of reduction in all change.
-/

namespace RepoSurvey

/-- The change of a file's average complexity. -/
structure ComplexityDelta (α : Type) where
  filePath : String
  before : α
  after : α
  change : α
  /-- By how much the complexity fell. -/
  reduction : α
  /-- By how much the complexity rose. -/
  addition : α

/-- A changed file: a path, or the file of a diff with its old path. -/
inductive ChangedFile where
  | path (path : String)
  | diff (diff : FileDiff)
  deriving Repr

namespace ChangedFile

def newPath : ChangedFile → String
  | path p => p
  | diff d => d.filePath

/-- The path before the change, which is the new one unless the file was renamed. -/
def oldPath : ChangedFile → String
  | path p => p
  | diff d => (d.oldPath.filter (· != "")).getD d.filePath

end ChangedFile

namespace ComplexityDelta

variable {α : Type} [Scalar α]

/-- The change between two values, to two decimal places. -/
def ofValues (filePath : String) (before after : α) : ComplexityDelta α :=
  let change := after - before
  { filePath
    before := Scalar.roundPlaces 2 before
    after := Scalar.roundPlaces 2 after
    change := Scalar.roundPlaces 2 change
    reduction := if Scalar.lt change Scalar.zero then Scalar.roundPlaces 2 (-change) else Scalar.zero
    addition := if Scalar.lt Scalar.zero change then Scalar.roundPlaces 2 change else Scalar.zero }

/-! ### From texts -/

section

/-- The texts of some paths, where they are known. -/
abbrev Texts := List (String × Option String)

/-- The text of a path. -/
def textOf (texts : Texts) (path : String) : Option String := (texts.lookup path).join

/-- The average complexity of a text, zero for a missing or empty one. -/
def averageOf (text : Option String) (path : String) : α :=
  match text with
  | none => Scalar.zero
  | some text =>
    if text.isEmpty then Scalar.zero else (FileComplexity.ofText (some path) text : FileComplexity α).averageCyclomatic

/-- The change of a file between two states of a repository. -/
def ofChange (before after : Texts) (c : ChangedFile) : ComplexityDelta α :=
  ofValues c.newPath (averageOf (textOf before c.oldPath) c.oldPath) (averageOf (textOf after c.newPath) c.newPath)

def ofTexts (changed : List ChangedFile) (before after : Texts) : List (ComplexityDelta α) :=
  changed.map (ofChange before after)

/-- The changes of files and states handed over by a caller. -/
def ofSupplied (changed : Supplied ChangedFile) (before after : Option Texts) :
    Except InputError (List (ComplexityDelta α)) := do
  let changed ← changed.require "changed"
  let some before := before | throw ⟨"before", .missingMapping, .none⟩
  let some after := after | throw ⟨"after", .missingMapping, .none⟩
  return ofTexts changed before after

end

/-! ### From diffs -/

section

/-- The decision points of single lines together, read with slash comments. -/
def linePoints (lines : List (List Char)) : Nat :=
  total (lines.map fun line => Source.decisionPoints (Source.stripped .slashes line))

/-- The estimated change of a file: the decision points of its removed and of its added lines. -/
def ofDiff (d : FileDiff) : ComplexityDelta α :=
  ofValues d.filePath (Scalar.ofNat (total (d.hunks.map fun h => linePoints h.removedLines)))
    (Scalar.ofNat (total (d.hunks.map fun h => linePoints h.addedLines)))

end

/-! ### Refactoring -/

/-- The reductions as a share of reductions and additions together, to three decimal places; zero without change. -/
def refactoringRatio (deltas : List (ComplexityDelta α)) : α :=
  let reduction := Scalar.sum (deltas.map (·.reduction))
  let addition := Scalar.sum (deltas.map (·.addition))
  let total := reduction + addition
  if Scalar.le total Scalar.zero then Scalar.zero
  else Scalar.roundPlaces 3 (Scalar.clamp Scalar.zero Scalar.one (reduction / total))

end ComplexityDelta
end RepoSurvey
