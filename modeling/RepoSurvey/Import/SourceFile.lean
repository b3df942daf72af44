import RepoSurvey.Import.Resolution
import RepoSurvey.Import.Statement
import RepoSurvey.Input

/-!
# Source files

* `SourceFile`: a path with the targets that the file imports and a few counts.
* `SourceFile.scan`: the source files of a repository from their texts, in ascending order of their paths.
-/

namespace RepoSurvey

/-- A file as the dependency graph sees it. Imports are paths of the repository where they could be resolved, and
specifiers as they were written otherwise. -/
structure SourceFile where
  path : String
  imports : List String := []
  /-- The name of the file's language, which need not be one whose imports are read. -/
  language : Option String := none
  exportCount : Int := 0
  decoratorCount : Int := 0
  abstractTypes : Int := 0
  concreteTypes : Int := 0
  deriving Repr, DecidableEq

namespace SourceFile

/-- The target of a specifier: the path it resolves to, else the specifier itself. -/
def target (repository : Repository) (path : String) (language : Option Language) (spec : String) : String :=
  (repository.resolve path spec language).getD spec

/-- The distinct targets that the text of a file imports. -/
def targets (repository : Repository) (path text : String) : List String :=
  match Language.ofPath? path with
  | none => []
  | some language =>
    ((Statement.importSpecifiers language text).map (target repository path (some language))).eraseDups

/-- A file from its text; a missing text gives a file without imports. -/
def ofText (repository : Repository) (path : String) : Option String → SourceFile
  | none => { path, language := (Language.ofPath? path).map (·.name) }
  | some text =>
    let language := Language.ofPath? path
    let types := (language.map (Statement.declaredTypes · text)).getD (0, 0)
    { path, language := language.map (·.name)
      imports := targets repository path text
      exportCount := Statement.exportLine.count text.toList
      decoratorCount := Statement.decoratorLine.count text.toList
      abstractTypes := types.1
      concreteTypes := types.2 }

/-- The source files of a repository, given the text of each path. -/
def scan (sources : List (String × Option String)) (aliases : List (String × List String))
    (packages : List (String × String)) (goModule : Option String) : List SourceFile :=
  let repository : Repository := ⟨sources.map (·.1), aliases, packages, goModule⟩
  (sources.mergeSort fun a b => decide (a.1 ≤ b.1)).map fun (path, text) => ofText repository path text

/-- The source files of texts handed over by a caller. -/
def scanSupplied (sources : Option (List (String × Option String))) (aliases : List (String × List String))
    (packages : List (String × String)) (goModule : Option String) : Except InputError (List SourceFile) := do
  let some sources := sources | throw ⟨"sources", .missingMapping, .none⟩
  return scan sources aliases packages goModule

end SourceFile
end RepoSurvey
