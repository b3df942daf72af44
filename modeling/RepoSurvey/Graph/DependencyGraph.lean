import RepoSurvey.Graph.Coupling
import RepoSurvey.Graph.CycleSearch

/-!
# The dependency graph

* `DependencyGraph.ofFiles`: the graph of some files with its cycles, scores and measures.
* `DependencyGraph.neighborhood`: the files within a number of imports of a file, in either direction, breadth first.
-/

namespace RepoSurvey

/-- A file of the graph. -/
structure FileNode (α : Type) where
  path : String
  imports : List String := []
  importedBy : List String := []
  coupling : α

structure DependencyGraph (α : Type) where
  nodes : List (FileNode α)
  edges : List (String × String) := []
  /-- The files with imports that are no files of the graph, and these imports. -/
  external : List (String × List String) := []
  cycles : List Cycle := []
  metrics : List (String × CouplingMetrics α) := []
  averageCoupling : α
  averageInstability : α
  averageDistance : α

namespace FileNode

variable {α : Type}

def fanIn (n : FileNode α) : Nat := n.importedBy.length

def fanOut (n : FileNode α) : Nat := n.imports.length

end FileNode

namespace DependencyGraph

variable {α : Type}

/-! ### Construction -/

section

variable [Scalar α]

/-- A mean over the files of a graph, zero without files. -/
def meanOr0 (values : List α) : α := if values.isEmpty then Scalar.zero else Scalar.mean values

/-- The graph of some files; of several files with one path the first counts. -/
def ofFiles (formula : CouplingFormula) (files : List SourceFile) : DependencyGraph α :=
  let distinct := Imports.firstOfEach files
  let assembly := Assembly.ofFiles files
  let g := assembly.entries
  let nodes : List (FileNode α) := g.map fun e => ⟨e.path, e.targets, e.importers, g.couplingScore formula e⟩
  let metrics : List (String × CouplingMetrics α) := distinct.map fun f => (f.path, g.metrics f)
  { nodes
    edges := assembly.edges
    external := assembly.external
    cycles := g.cycles
    metrics
    averageCoupling := meanOr0 (nodes.map (·.coupling))
    averageInstability := Scalar.roundPlaces 3 (meanOr0 (metrics.map (·.2.instability)))
    averageDistance := Scalar.roundPlaces 3 (meanOr0 (metrics.map (·.2.distance))) }

/-- The graph of files handed over by a caller. -/
def ofSupplied (formula : CouplingFormula) (files : Supplied (Item SourceFile)) :
    Except InputError (DependencyGraph α) := do
  let items ← files.require "files"
  return ofFiles formula (← Supplied.requireRecords "files" items)

end

/-! ### Queries -/

section

variable (g : DependencyGraph α)

def paths : List String := g.nodes.map (·.path)

def node? (path : String) : Option (FileNode α) := g.nodes.find? (·.path == path)

def isFile (path : String) : Bool := g.nodes.any (·.path == path)

/-- The edges between files of the graph. -/
def internalEdges : List (String × String) := g.edges.filter fun e => g.isFile e.2

end

/-! ### Neighbourhoods -/

section

variable (g : DependencyGraph α)

/-- The files that a file imports or is imported by. -/
def neighbours (n : FileNode α) : List String := (n.imports ++ n.importedBy).filter g.isFile

/-- The texts that are neither seen nor repeated, in order of first appearance. -/
def unseen (seen found : List String) : List String := (found.filter (!seen.contains ·)).eraseDups

/-- The levels from one on, at most `depth` further ones: each holds the unseen neighbours of the one before. -/
def levels : Nat → List String → List (FileNode α) → List (FileNode α)
  | 0, _, level => level
  | depth + 1, seen, level =>
    if level.isEmpty then []
    else
      let next := unseen seen (level.flatMap g.neighbours)
      level ++ levels depth (seen ++ next) (next.filterMap g.node?)

/-- The files at most `depth` steps away from a file, the nearest ones first. -/
def neighborhood (target : String) (depth : Int) : List (FileNode α) :=
  match g.node? target with
  | some n => if depth < 0 then [] else g.levels depth.toNat [target] [n]
  | none => []

end

end DependencyGraph
end RepoSurvey
