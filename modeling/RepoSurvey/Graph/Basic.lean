import RepoSurvey.Import.SourceFile
import RepoSurvey.Input
import RepoSurvey.Number.Scalar
import RepoSurvey.Table

/-!
# The import relation

* `Imports`: the distinct files of a repository, each with its distinct imports and importers, in order of first
  appearance.
* `Assembly`: the relation while it is put together, import by import, with the list of edges and the imports that
  lead outside.
* `internal?`, `internal`: the relation cut at the edge of the repository.
-/

namespace RepoSurvey

/-- A file, the distinct targets that it imports, itself excluded, and the files that import it. -/
structure ImportEntry where
  path : String
  targets : List String := []
  importers : List String := []
  deriving Repr, DecidableEq

/-- Files with their imports and importers, in order. -/
abbrev Imports := List ImportEntry

namespace Imports

/-- The first file of each path. -/
def firstOfEach : List SourceFile → List SourceFile
  | [] => []
  | f :: rest => f :: (firstOfEach rest).filter (·.path != f.path)

def paths (g : Imports) : List String := g.map (·.path)

def isFile (g : Imports) (path : String) : Bool := g.any (·.path == path)

def entry? (g : Imports) (path : String) : Option ImportEntry := g.find? (·.path == path)

/-- The targets of a file. -/
def targets (g : Imports) (path : String) : List String := ((g.entry? path).map (·.targets)).getD []

/-- The files that import a file. -/
def importers (g : Imports) (path : String) : List String := ((g.entry? path).map (·.importers)).getD []

/-- The targets of a file that are files themselves; nothing for a path that is no file. -/
def internal? (g : Imports) (path : String) : Option (List String) :=
  (g.entry? path).map fun e => e.targets.filter g.isFile

def internal (g : Imports) (path : String) : List String := (g.internal? path).getD []

/-- The entry of a path is replaced. -/
def update (g : Imports) (path : String) (change : ImportEntry → ImportEntry) : Imports :=
  g.map fun e => if e.path = path then change e else e

end Imports

/-! ### Putting the relation together -/

/-- The relation as far as the imports have been read. -/
structure Assembly where
  entries : Imports
  /-- Every import as a pair of a file and its target. -/
  edges : List (String × String) := []
  /-- The files that import something outside, each with what it imports there. -/
  external : Table String (List String) := []
  deriving Repr, DecidableEq

namespace Assembly

/-- An import of a file is taken in, unless it is one of the file itself or has been taken in before. The target
learns of its importer if it is a file, and is outside otherwise. -/
def addImport (path : String) (a : Assembly) (target : String) : Assembly :=
  if target = path ∨ target ∈ a.entries.targets path then a
  else
    let forward := a.entries.update path fun e => { e with targets := e.targets ++ [target] }
    let edges := a.edges ++ [(path, target)]
    if a.entries.isFile target then
      { a with entries := forward.update target fun e => { e with importers := e.importers ++ [path] }, edges }
    else
      { entries := forward, edges
        external := a.external.put path ((a.external.get? path).getD [] ++ [target]) }

/-- The imports of a file are taken in. -/
def addFile (a : Assembly) (f : SourceFile) : Assembly := f.imports.foldl (addImport f.path) a

/-- The relation of some files; of several files with one path the first counts. -/
def ofFiles (files : List SourceFile) : Assembly :=
  let distinct := Imports.firstOfEach files
  distinct.foldl addFile { entries := distinct.map fun f => { path := f.path } }

end Assembly

def Imports.ofFiles (files : List SourceFile) : Imports := (Assembly.ofFiles files).entries

end RepoSurvey
