import RepoSurvey.Layer.Glob
import RepoSurvey.Table
import RepoSurvey.Text.Cut
import RepoSurvey.Text.Quoted

/-!
# Layers

* `LayerDefinition`: a named tier with the patterns of its paths and the layers that it may import from.
* `LayerResolver`: the layer of a path is the first one in declared order with a usable pattern that fits the path. An
  answer is kept for the next time that the path is asked for.
* `LayerWarning`: what is wrong with some definitions without making them unusable as a whole.
-/

namespace RepoSurvey

structure LayerDefinition where
  name : String
  patterns : List String := []
  /-- The layers that this one may import from, a set. -/
  allowed : List String := []
  deriving Repr, DecidableEq

/-- The readable patterns of some layers, in the order in which they are tried. -/
structure LayerResolver where
  patterns : List (String × Glob)
  /-- The layers that each layer may import from. -/
  allowances : Table String (List String)
  /-- The answers given so far. -/
  answered : Table String (Option String) := []

inductive LayerWarning where
  | unusablePattern (pattern : String)
  | unknownDependency (layer dependency : String)
  deriving Repr, DecidableEq

def LayerWarning.text : LayerWarning → String
  | unusablePattern pattern => "Ignoring unusable layer pattern " ++ Text.quoted pattern
  | unknownDependency layer dependency =>
    "Layer " ++ Text.quoted layer ++ " allows unknown layer " ++ Text.quoted dependency

namespace LayerDefinition

/-- The patterns of a layer that cannot be used. -/
def unusable (l : LayerDefinition) : List String :=
  l.patterns.filter fun p => match Glob.ofText? p with
    | .ok none => true
    | _ => false

/-- The layers that a definition allows and that are not among some names, in ascending order. -/
def unknown (names : List String) (l : LayerDefinition) : List String :=
  (Text.distinctAscending l.allowed).filter (!names.contains ·)

/-- The allowed layers that no definition names, layer by layer. -/
def unknownDependencies (layers : List LayerDefinition) : List (String × String) :=
  layers.flatMap fun l => (l.unknown (layers.map (·.name))).map (l.name, ·)

/-- What there is to warn of when paths are assigned to layers. -/
def warnings (layers : List LayerDefinition) : List LayerWarning :=
  (layers.flatMap unusable).map .unusablePattern ++
    (unknownDependencies layers).map fun (layer, dependency) => .unknownDependency layer dependency

end LayerDefinition

namespace LayerResolver

/-- The resolver for some layers; a pattern with a number of rounds beyond the limit stands against it. -/
def ofLayers (layers : List LayerDefinition) : Except RepetitionError LayerResolver := do
  let patterns ← layers.mapM fun l => return (l.name, ← l.patterns.mapM Glob.ofText?)
  return {
    patterns := patterns.flatMap fun (name, globs) => (globs.filterMap id).map (name, ·)
    allowances := Table.ofPairs (layers.map fun l => (l.name, Text.distinctAscending l.allowed)) }

variable (r : LayerResolver)

/-- The name of the first pattern that fits a path. -/
def firstFit (path : String) : Option String := (r.patterns.find? fun p => Glob.admits p.2 path).map (·.1)

/-- The layer of a path, as it was answered before or else by the first pattern that fits, and the resolver that has
been asked for it. -/
def ask (path : String) : Option String × LayerResolver :=
  match r.answered.get? path with
  | some answer => (answer, r)
  | none =>
    let answer := r.firstFit path
    (answer, { r with answered := r.answered.put path answer })

/-- The layers that a layer may import from, by the last definition of its name. -/
def allowed (layer : String) : List String := (r.allowances.get? layer).getD []

/-- What one resolver yields for each item of a list, one after the other. -/
def collect {β γ : Type} (f : LayerResolver → β → List γ × LayerResolver) (r : LayerResolver) :
    List β → List γ × LayerResolver
  | [] => ([], r)
  | item :: rest =>
    let first := f r item
    let others := collect f first.2 rest
    (first.1 ++ others.1, others.2)

/-- The layers of some paths, asked for one after the other. -/
def askAll (paths : List String) : List (Option String) × LayerResolver :=
  r.collect (fun r path => ([(r.ask path).1], (r.ask path).2)) paths

end LayerResolver
end RepoSurvey
