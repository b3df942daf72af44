import RepoSurvey.Path
import RepoSurvey.Text.Character

/-!
# Languages of source files

A file's language is told from its extension, whatever the case of its letters.
-/

namespace RepoSurvey

inductive Language where
  | python
  | typescript
  | javascript
  | go
  | java
  deriving Repr, DecidableEq

namespace Language

def name : Language → String
  | python => "python"
  | typescript => "typescript"
  | javascript => "javascript"
  | go => "go"
  | java => "java"

def all : List Language := [python, typescript, javascript, go, java]

def ofName? (s : String) : Option Language := all.find? (·.name == s)

/-- The extensions of source files, each with its language. -/
def extensions : List (String × Language) :=
  [(".py", python), (".ts", typescript), (".tsx", typescript), (".mts", typescript), (".js", javascript),
    (".jsx", javascript), (".mjs", javascript), (".cjs", javascript), (".go", go), (".java", java)]

/-- The language of a file, from the extension of its path. -/
def ofPath? (path : String) : Option Language :=
  extensions.lookup (String.ofList (Text.lowered (Path.extension path.toList)))

theorem ofName?_name (l : Language) : ofName? l.name = some l := by cases l <;> rfl

end Language
end RepoSurvey
