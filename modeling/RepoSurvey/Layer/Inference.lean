import RepoSurvey.Layer.Definition
import RepoSurvey.Path

/-!
# Inference of layers

Where no layers are declared, they are told from the names of directories: a directory at most three levels deep whose
path contains a keyword of a canonical layer belongs to that layer with everything below it.
-/

namespace RepoSurvey

/-- A layer that can be told from directory names. -/
structure CanonicalLayer where
  name : String
  keywords : List String
  allowed : List String

namespace CanonicalLayer

/-- The canonical layers in the order in which paths are matched against them. -/
def all : List CanonicalLayer :=
  [ ⟨"presentation", ["ui", "views", "pages", "components", "presentation", "frontend", "web"],
      ["application", "domain"]⟩,
    ⟨"application", ["application", "services", "use-cases", "usecases", "handlers", "controllers"], ["domain"]⟩,
    ⟨"domain", ["domain", "entities", "models", "core", "business"], []⟩,
    ⟨"infrastructure", ["infrastructure", "repositories", "adapters", "db", "database", "external", "clients"],
      ["application", "domain"]⟩ ]

/-- Whether a directory belongs to the layer: its path contains a keyword, whatever the case of its letters. -/
def claims (l : CanonicalLayer) (directory : List Char) : Bool :=
  l.keywords.any fun k => Text.contains k.toList (Text.lowered directory)

end CanonicalLayer

namespace LayerDefinition

/-- The greatest depth of directories that are looked at. -/
def inferenceDepth : Nat := 3

/-- The directories that a path lies in, from the outermost one down to the greatest depth. -/
def directoriesOf (path : String) : List String :=
  let parts := Path.segments path.toList
  (List.range (min (parts.length - 1) inferenceDepth)).map fun i => String.ofList (Path.ofSegments (parts.take (i + 1)))

/-- The definition of a canonical layer over some directories; nothing if none of them belongs to it. -/
def infer? (directories : List String) (l : CanonicalLayer) : Option LayerDefinition :=
  let own := directories.filter (l.claims ·.toList)
  if own.isEmpty then none else some ⟨l.name, own.map (· ++ "/**"), l.allowed⟩

/-- The layers told from the directories of some paths. -/
def infer (paths : List String) : List LayerDefinition :=
  CanonicalLayer.all.filterMap (infer? (Text.distinctAscending (paths.flatMap directoriesOf)))

/-- The declared layers, or the inferred ones if there are none. -/
def resolve (declared : List LayerDefinition) (paths : List String) : List LayerDefinition :=
  if declared.isEmpty then infer paths else declared

end LayerDefinition
end RepoSurvey
