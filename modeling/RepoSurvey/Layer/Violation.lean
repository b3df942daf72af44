import RepoSurvey.Graph.DependencyGraph
import RepoSurvey.Layer.Definition

/-!
# Layer violations

Every import between files of two different layers is checked against what the importing layer may import from. Files
without a layer are not checked.

* `Violation.inGraph`: the violations, importing files in ascending order and targets in the order of their imports.
* `Violation.byFile`: violations grouped by the importing file.
-/

namespace RepoSurvey

/-- How strongly a violation is to be shown. -/
inductive ViolationLevel where
  | error
  | warning
  | info
  deriving Repr, DecidableEq

namespace ViolationLevel

def name : ViolationLevel → String
  | error => "error"
  | warning => "warning"
  | info => "info"

def all : List ViolationLevel := [error, warning, info]

end ViolationLevel

/-- An import from one layer into another that it may not import from. -/
structure Violation where
  sourceFile : String
  targetFile : String
  sourceLayer : String
  targetLayer : String
  importStatement : String
  message : String
  level : ViolationLevel := .error
  deriving Repr, DecidableEq

/-- Why layers cannot be checked. -/
inductive LayerFault where
  | input (e : InputError)
  | repetition (e : RepetitionError)
  deriving Repr, DecidableEq

namespace Violation

/-- The message of a violation, with the layers that are allowed. -/
def messageOf (source target : String) (allowed : List String) : String :=
  let names := Text.distinctAscending allowed
  let allowedText := if names.isEmpty then "nothing (it should have no dependencies)" else ", ".intercalate names
  "Layer violation: " ++ source ++ " -> " ++ target ++ ". The \"" ++ source ++
    "\" layer is only allowed to depend on: " ++ allowedText ++ "."

section

variable {α : Type}

/-- The violation by an import of a file of a layer, if it is one. -/
def ofImport (source sourceLayer : String) (r : LayerResolver) (target : String) : List Violation × LayerResolver :=
  match r.ask target with
  | (none, r) => ([], r)
  | (some targetLayer, r) =>
    if targetLayer = sourceLayer then ([], r)
    else
      let allowed := r.allowed sourceLayer
      if targetLayer ∈ allowed then ([], r)
      else
        ([{ sourceFile := source, targetFile := target, sourceLayer, targetLayer, importStatement := target
            message := messageOf sourceLayer targetLayer allowed }], r)

/-- The violations among the imports of a file. -/
def ofNode (g : DependencyGraph α) (r : LayerResolver) (n : FileNode α) : List Violation × LayerResolver :=
  match r.ask n.path with
  | (none, r) => ([], r)
  | (some sourceLayer, r) => r.collect (ofImport n.path sourceLayer) (n.imports.filter g.isFile)

/-- The nodes of a graph in ascending order of their paths. -/
def ascendingNodes (g : DependencyGraph α) : List (FileNode α) :=
  g.nodes.mergeSort fun a b => decide (a.path ≤ b.path)

/-- The violations among the imports of a graph. -/
def inGraph (g : DependencyGraph α) (layers : List LayerDefinition) : Except RepetitionError (List Violation) := do
  let r ← LayerResolver.ofLayers layers
  return (r.collect (ofNode g) (ascendingNodes g)).1

/-- The violations in a graph and layers handed over by a caller, and what there is to warn of. -/
def inSupplied (g : Option (DependencyGraph α)) (layers : Supplied LayerDefinition) :
    Except LayerFault (List Violation × List LayerWarning) := do
  let some g := g | throw (.input ⟨"graph", .missingGraph, .none⟩)
  let layers ← (layers.require "layers").mapError .input
  let violations ← (inGraph g layers).mapError .repetition
  return (violations, LayerDefinition.warnings layers)

end

/-- The order of violations of one file: by target file, then by target layer. -/
def targetOrder (a b : Violation) : Bool :=
  decide (a.targetFile < b.targetFile) || (a.targetFile == b.targetFile && decide (a.targetLayer ≤ b.targetLayer))

/-- Violations grouped by the importing file, files and targets in ascending order. -/
def byFile (violations : List Violation) : List (String × List Violation) :=
  (Text.distinctAscending (violations.map (·.sourceFile))).map fun file =>
    (file, (violations.filter (·.sourceFile == file)).mergeSort targetOrder)

end Violation
end RepoSurvey
