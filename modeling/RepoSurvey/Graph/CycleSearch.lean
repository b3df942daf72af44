import RepoSurvey.Graph.Basic
import RepoSurvey.Number.Whole
import RepoSurvey.Text.Cut

/-!
# Search for import cycles

A depth-first search over the files of a repository, as a machine that goes one step at a time.

* `Search`: the colour of every file, the current path with the place of each of its files and the targets that each
  has still to examine, and the cycles found.
* `Search.step`: examines one target of the last file on the path, or finishes that file.
* `SearchFault`: a look-up or a removal that finds nothing. No search of an import relation comes to one.
* `cycles`: the cycles found from all roots in ascending order, one for each set of files.
-/

namespace RepoSurvey

/-- An import cycle: its files in ascending order, and the way around it with the first file again at the end. -/
structure Cycle where
  files : List String
  walk : List String
  deriving Repr, DecidableEq

namespace Cycle

/-- The cycle that a target closes with the part of a path that begins with it. -/
def around (segment : List String) (target : String) : Cycle := ⟨Text.distinctAscending segment, segment ++ [target]⟩

/-- A cycle is added to others, unless one of the same files is among them. -/
def addTo (found : List Cycle) (c : Cycle) : List Cycle :=
  if found.any (·.files == c.files) then found else found ++ [c]

end Cycle

/-- How far a search has come with a file. -/
inductive Color where
  /-- Not visited. -/
  | white
  /-- On the current path. -/
  | gray
  /-- Finished. -/
  | black
  deriving Repr, DecidableEq

/-- What a step asks for and does not find. -/
inductive SearchFault where
  | unknown (file : String)
  | uncolored (file : String)
  | unplaced (file : String)
  | emptyPath
  deriving Repr, DecidableEq

/-- A depth-first search in progress. -/
structure Search where
  color : Table String Color
  /-- The current path from its root on. -/
  path : List String := []
  /-- The place of each file of the path. -/
  place : Table String Nat := []
  /-- The targets still to be examined, for each file of the path, the last file first. -/
  pending : List (List String) := []
  found : List Cycle := []
  deriving Repr, DecidableEq

namespace Search

/-- A target on the path closes a cycle, which is noted unless one of the same files has been found. -/
def close (s : Search) (target : String) : Except SearchFault Search :=
  match s.place.get? target with
  | none => .error (.unplaced target)
  | some i => .ok { s with found := (Cycle.around (s.path.drop i) target).addTo s.found }

/-- A target that has not been visited is put on the path. -/
def enter (targets? : String → Option (List String)) (s : Search) (target : String) : Except SearchFault Search :=
  match targets? target with
  | none => .error (.unknown target)
  | some targets => .ok
    { s with
      color := s.color.put target .gray, place := s.place.put target s.path.length
      path := s.path ++ [target], pending := targets :: s.pending }

/-- The last file of the path is taken from it. -/
def finish (s : Search) (file : String) (below : List (List String)) : Except SearchFault Search :=
  if s.place.contains file then .ok
    { s with
      color := s.color.put file .black, place := s.place.erase file
      path := s.path.dropLast, pending := below }
  else .error (.unplaced file)

/-- One step: the next target of the last file on the path is examined, or the file is finished. -/
def step (targets? : String → Option (List String)) (s : Search) : Except SearchFault Search :=
  match s.path.getLast?, s.pending with
  | none, _ => .error .emptyPath
  | _, [] => .error .emptyPath
  | some file, [] :: below => s.finish file below
  | some _, (target :: rest) :: below =>
    let s := { s with pending := rest :: below }
    match s.color.get? target with
    | none => .error (.uncolored target)
    | some .gray => s.close target
    | some .white => s.enter targets? target
    | some .black => .ok s

/-- Steps until nothing is pending, at most a given number. -/
def run (targets? : String → Option (List String)) : Nat → Search → Except SearchFault Search
  | 0, s => .ok s
  | n + 1, s => if s.pending.isEmpty then .ok s else do run targets? n (← s.step targets?)

/-- The search from a root, unless it has been visited. -/
def fromRoot (targets? : String → Option (List String)) (budget : Nat) (s : Search) (root : String) :
    Except SearchFault Search :=
  match s.color.get? root with
  | none => .error (.uncolored root)
  | some .white =>
    match targets? root with
    | none => .error (.unknown root)
    | some targets => run targets? budget
      { s with color := s.color.put root .gray, path := [root], place := [(root, 0)], pending := [targets] }
  | some _ => .ok s

end Search

namespace Imports

/-- As many steps as a search can take: one for each file and one for each import. -/
def searchBudget (g : Imports) : Nat := total (g.map fun e => e.targets.length + 1)

/-- The search from every root in ascending order. -/
def search (g : Imports) : Except SearchFault Search :=
  (Text.ascending g.paths).foldlM (Search.fromRoot g.internal? g.searchBudget) { color := g.paths.map (·, .white) }

/-- The import cycles, in the order in which the search finds them. -/
def cycles (g : Imports) : List Cycle :=
  match g.search with
  | .ok s => s.found
  | .error _ => []

end Imports
end RepoSurvey
