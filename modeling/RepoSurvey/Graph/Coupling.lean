import RepoSurvey.Graph.Basic

/-!
# Coupling of files

* `couplingScore`: how strongly a file is coupled with the others, between zero and one.
* `CouplingMetrics`: afferent and efferent coupling, instability, abstractness and the distance from the main sequence.
-/

namespace RepoSurvey

/-- How the coupling score of a file is computed. -/
inductive CouplingFormula where
  /-- The importers of the file, relative to the most imported file. -/
  | fanInRelative
  /-- The importers and the imports of the file, relative to the number of files, at most one. -/
  | fanBlend
  deriving Repr, DecidableEq

namespace CouplingFormula

def name : CouplingFormula → String
  | fanInRelative => "fan_in_relative"
  | fanBlend => "fan_blend"

def all : List CouplingFormula := [fanInRelative, fanBlend]

end CouplingFormula

/-- Measures of a file's place between stable and abstract. -/
structure CouplingMetrics (α : Type) where
  /-- The files that import this one. -/
  afferent : Nat
  /-- The files that this one imports. -/
  efferent : Nat
  instability : α
  abstractness : α
  /-- How far abstractness and instability are from adding up to one. -/
  distance : α

namespace Imports

section

variable {α : Type} [Scalar α]

/-- The number of files that import a target. -/
def fanIn (g : Imports) (path : String) : Nat := (g.importers path).length

/-- The most importers that a file has. -/
def maxFanIn (g : Imports) : Nat := (g.paths.map g.fanIn).foldl max 0

def couplingScore (g : Imports) (formula : CouplingFormula) (e : ImportEntry) : α :=
  match formula with
  | .fanInRelative =>
    if g.maxFanIn = 0 then Scalar.zero else Scalar.quot (g.fanIn e.path : Nat) (g.maxFanIn : Nat)
  | .fanBlend =>
    Scalar.smaller (Scalar.quot (g.fanIn e.path + e.targets.length : Nat) (g.length : Nat)) Scalar.one

/-- The share of efferent coupling in all coupling, zero for an isolated file. -/
def instability (afferent efferent : Nat) : α :=
  if 0 < afferent + efferent then Scalar.quot (efferent : Nat) (afferent + efferent : Nat) else Scalar.zero

/-- The share of abstract types in all declared types, zero without types. -/
def abstractness (f : SourceFile) : α :=
  let types := f.abstractTypes + f.concreteTypes
  if 0 < types then Scalar.quot f.abstractTypes types else Scalar.zero

/-- The measures of a file, each to three decimal places. Imports of files outside do not count. -/
def metrics (g : Imports) (f : SourceFile) : CouplingMetrics α :=
  let afferent := g.fanIn f.path
  let efferent := (g.internal f.path).length
  let i : α := instability afferent efferent
  let a : α := abstractness f
  { afferent, efferent
    instability := Scalar.roundPlaces 3 i
    abstractness := Scalar.roundPlaces 3 a
    distance := Scalar.roundPlaces 3 (Scalar.magnitude (a + i - Scalar.one)) }

end

end Imports
end RepoSurvey
