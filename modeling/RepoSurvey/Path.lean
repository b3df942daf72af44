/-!
# Paths

Slash-separated paths as texts; nothing is looked up in a file system.

* `segments` and `ofSegments`: a path cut at its slashes, and put together again.
* `directory`, `base`, `extension`: the parts around the last slash and the last dot.
* `join`: one path below another; an absolute second path stands alone.
* `tidy`: the path without empty and `.` segments.
* `normal`: the path without empty and `.` segments, with each `..` applied to the segment before it.
-/

namespace RepoSurvey
namespace Path

/-! ### Parts -/

/-- The parts of a path between its slashes. -/
def segments (p : List Char) : List (List Char) := p.splitOn '/'

def ofSegments (parts : List (List Char)) : List Char := ['/'].intercalate parts

/-- The path up to and with its last slash, and what follows. -/
def splitLast (p : List Char) : List Char × List Char :=
  let tail := (p.reverse.takeWhile (· != '/')).reverse
  (p.take (p.length - tail.length), tail)

/-- The path's directory, without trailing slashes unless it consists of slashes. -/
def directory (p : List Char) : List Char :=
  let head := (splitLast p).1
  if head.all (· == '/') then head else (head.reverse.dropWhile (· == '/')).reverse

/-- What follows the last slash. -/
def base (p : List Char) : List Char := (splitLast p).2

/-- The part of a file name from its last dot on; dots at the beginning of the name do not count. -/
def extension (p : List Char) : List Char :=
  let name := (base p).dropWhile (· == '.')
  if name.contains '.' then '.' :: (name.reverse.takeWhile (· != '.')).reverse else []

/-! ### Composition -/

def startsWithSlash (p : List Char) : Bool := p.head? == some '/'

def endsWithSlash (p : List Char) : Bool := p.getLast? == some '/'

def join (p q : List Char) : List Char :=
  if startsWithSlash q then q
  else if p.isEmpty || endsWithSlash p then p ++ q
  else p ++ '/' :: q

/-! ### Normal form -/

/-- One more segment at the end of a normal path, which is kept from its last segment on. `rooted` paths have nothing
above them. -/
def pushSegment (rooted : Bool) (done : List (List Char)) (part : List Char) : List (List Char) :=
  if part = [] ∨ part = ['.'] then done
  else if part = ['.', '.'] then
    match done with
    | [] => if rooted then [] else [part]
    | last :: rest => if last = ['.', '.'] then part :: done else rest
  else part :: done

/-- The slashes that a normal path begins with: two stay two, any other number becomes one. -/
def root (p : List Char) : List Char :=
  match p with
  | '/' :: '/' :: '/' :: _ => ['/']
  | '/' :: '/' :: _ => ['/', '/']
  | '/' :: _ => ['/']
  | _ => []

/-- The path without empty and `.` segments; each `..` stays. -/
def tidy (p : List Char) : List Char :=
  let text := root p ++ ofSegments ((segments p).filter fun part => part ≠ [] ∧ part ≠ ['.'])
  if text.isEmpty then ['.'] else text

def normal (p : List Char) : List Char :=
  let start := root p
  let parts := ((segments p).foldl (pushSegment (!start.isEmpty)) []).reverse
  let text := start ++ ofSegments parts
  if text.isEmpty then ['.'] else text

end Path
end RepoSurvey
