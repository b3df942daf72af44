import RepoSurvey.Import.Language
import RepoSurvey.Text.Cut

/-!
# Resolution of import specifiers

A specifier is resolved against the set of known paths of a repository, the first of these rules that applies:

1. leading dots in a Python file: relative to the package of the file;
2. a Go package: the directory below the module, else the longest known directory that ends the specifier;
3. a leading dot or slash: relative to the file's directory, with the usual suffixes tried in order;
4. path aliases, 5. workspace packages, 6. `@/` for `src/` where no alias is configured;
7. a dotted module name, also below `src/`.

What none of them finds is external.
-/

namespace RepoSurvey

/-- What specifiers are resolved against. -/
structure Repository where
  /-- Every path of the repository. -/
  known : List String
  /-- Alias patterns in order, each with the paths it stands for. -/
  aliases : List (String × List String) := []
  /-- Package names in order, each with its directory. -/
  packages : List (String × String) := []
  /-- The module path of the Go files. -/
  goModule : Option String := none

namespace Repository

variable (r : Repository)

/-- The path, if it is known. -/
def known? (path : List Char) : Option String :=
  let s := String.ofList path
  if r.known.contains s then some s else none

/-! ### Suffixes -/

/-- The suffixes tried after a path without its own, in order. -/
def suffixes : List String :=
  ["", ".ts", ".tsx", ".js", ".jsx", ".py", ".go", "/index.ts", "/index.tsx", "/index.js", "/index.jsx"]

/-- The first known path that continues `base` by a suffix. -/
def probe (base : List Char) : Option String :=
  suffixes.findSome? fun suffix => r.known? (base ++ suffix.toList)

/-! ### The rules -/

/-- `n` steps up from a directory. -/
def above : Nat → List Char → List Char
  | 0, directory => directory
  | n + 1, directory => above n (Path.directory directory)

/-- Dots become slashes. -/
def slashed (s : List Char) : List Char := s.map fun c => if c = '.' then '/' else c

/-- A module named by leading dots, one for the package of the file and one more for each package above it. -/
def relativeModule (file spec : List Char) : Option String :=
  let dots := (spec.takeWhile (· == '.')).length
  let rest := spec.dropWhile (· == '.')
  let directory := above (dots - 1) (Path.directory file)
  let candidates :=
    if rest.isEmpty then [Path.join directory "__init__.py".toList]
    else
      let module := Path.join directory (slashed rest)
      [module ++ ".py".toList, Path.join module "__init__.py".toList]
  candidates.findSome? fun c => r.known? (Path.normal c)

/-- The known paths in ascending order. -/
def ordered : List String := Text.ascending r.known

/-- The first known path in a directory that satisfies a condition. -/
def firstIn (condition : List Char → Bool) : Option String :=
  r.ordered.find? fun path => condition (Path.directory path.toList)

/-- A list and what is left after each of its first elements, down to the last one. -/
def tails {α : Type} : List α → List (List α)
  | [] => []
  | a :: rest => (a :: rest) :: tails rest

/-- The package directory of a Go specifier: below the module path, else the longest ending of the specifier that is
the ending of a known directory. -/
def goPackage (spec : List Char) : Option String :=
  let inModule := r.goModule.bind fun m =>
    let start := m.toList ++ ['/']
    if m.isEmpty || !start.isPrefixOf spec then none
    else r.firstIn (· == spec.drop start.length)
  inModule.orElse fun _ => (tails (Path.segments spec)).findSome? fun parts =>
    let ending := Path.ofSegments parts
    r.firstIn fun directory => directory == ending || ('/' :: ending).isSuffixOf directory

/-- A specifier with a leading dot or slash. -/
def relativePath (file spec : List Char) : Option String :=
  r.probe (Path.normal (Path.join (Path.directory file) (spec.dropWhile (· == '/'))))

/-- The alias rules: `name/*` stands for everything below it, any other pattern for itself. -/
def aliased (spec : List Char) : Option String :=
  r.aliases.findSome? fun (pattern, targets) =>
    let pattern := pattern.toList
    if "/*".toList.isSuffixOf pattern then
      let start := pattern.dropLast
      if start.isPrefixOf spec then
        let rest := spec.drop start.length
        targets.findSome? fun target =>
          let target := target.toList
          let base := if target.getLast? == some '*' then target.dropLast else target
          r.probe (Path.normal (base ++ rest))
      else none
    else if spec == pattern then targets.findSome? fun target => r.probe (Path.normal target.toList)
    else none

/-- A workspace package or a path below one, looked up in its `src` directory first. -/
def packaged (spec : List Char) : Option String :=
  r.packages.findSome? fun (name, directory) =>
    let name := name.toList
    let directory := directory.toList
    if spec == name || (name ++ ['/']).isPrefixOf spec then
      let below := if spec == name then [] else spec.drop (name.length + 1)
      [Path.join directory "src".toList, directory].findSome? fun base =>
        r.probe (Path.normal (Path.join base (if below.isEmpty then "index".toList else below)))
    else none

/-- A dotted module name, from the root or below `src`. -/
def dotted (spec : List Char) (extension : String) : Option String :=
  let path := slashed spec
  ["", "src/"].findSome? fun root =>
    [extension, "/__init__.py"].findSome? fun ending => r.known? (root.toList ++ path ++ ending.toList)

/-- The rules for a specifier that begins neither with a dot nor with a slash. -/
def absolute (language : Option Language) (spec : List Char) : Option String :=
  (r.aliased spec).orElse fun _ => (r.packaged spec).orElse fun _ =>
    if r.aliases.isEmpty && "@/".toList.isPrefixOf spec then r.probe ("src/".toList ++ spec.drop 2)
    else match language with
      | some .python => r.dotted spec ".py"
      | some .java => r.dotted spec ".java"
      | _ => none

/-- The known path that a specifier in a file stands for. -/
def resolve (file specifier : String) (language : Option Language) : Option String :=
  let spec := Text.strip specifier.toList
  let file := file.toList
  match spec with
  | [] => none
  | first :: _ =>
    if language = some .python ∧ first = '.' then r.relativeModule file spec
    else if language = some .go ∧ spec.contains '/' ∧ first ≠ '.' then r.goPackage spec
    else if first = '.' ∨ first = '/' then r.relativePath file spec
    else r.absolute language spec

end Repository
end RepoSurvey
