import RepoSurvey.Text.Character

/-!
# Patterns

A pattern is matched from left to right with backtracking, and repetition is restricted to one class of characters.

* `Pattern.ends p c`: every way in which `p` can be read from the cursor `c`, in order of preference.
* `Pattern.match? p c`: the preferred way.
* `Pattern.findAll p s`: the matches in a text from the left, each search beginning where the last match ended.
-/

namespace RepoSurvey

/-- A place in a text: how far it is, the character before it, the characters after it, and the last captured
stretch with the place where it began. -/
structure Cursor where
  position : Nat
  previous : Option Char
  rest : List Char
  captured : Option (Nat × List Char)

namespace Cursor

/-- The beginning of a text. -/
def start (s : List Char) : Cursor := ⟨0, none, s, none⟩

/-- Whether the place is a line's beginning. -/
def atLineStart (c : Cursor) : Bool := c.previous.all (· == '\n')

/-- Whether exactly one of the neighbouring characters belongs to a word. -/
def atBoundary (c : Cursor) : Bool := c.previous.any Text.isWord != c.rest.head?.any Text.isWord

end Cursor

inductive Pattern where
  /-- One character of a class. -/
  | one (accepts : Char → Bool)
  /-- At least `atLeast` characters of a class, as many as possible. -/
  | most (atLeast : Nat) (accepts : Char → Bool)
  /-- At least `atLeast` characters of a class, as few as possible. -/
  | fewest (atLeast : Nat) (accepts : Char → Bool)
  /-- The characters of a text. -/
  | word (letters : List Char)
  | seq (first second : Pattern)
  | alt (first second : Pattern)
  /-- The pattern if it can be read, else nothing. -/
  | opt (inner : Pattern)
  /-- The pattern, whose stretch of text is captured. -/
  | capture (inner : Pattern)
  /-- Nothing, at a place where the pattern cannot be read. -/
  | absent (inner : Pattern)
  /-- Nothing, at a place that does not follow a character of a class. -/
  | notAfter (accepts : Char → Bool)
  /-- Nothing, at a line's beginning. -/
  | lineStart
  /-- Nothing, at the edge of a word. -/
  | boundary

namespace Pattern

/-- The places reached by reading characters of a class, the nearest one first. -/
def stops (accepts : Char → Bool) (captured : Option (Nat × List Char)) :
    Nat → Option Char → List Char → List Cursor
  | position, previous, [] => [⟨position, previous, [], captured⟩]
  | position, previous, c :: rest =>
    ⟨position, previous, c :: rest, captured⟩ ::
      if accepts c then stops accepts captured (position + 1) (some c) rest else []

/-- The places reached by reading the characters of a text: one or none. -/
def letterEnds : List Char → Cursor → List Cursor
  | [], c => [c]
  | l :: letters, c => match c.rest with
    | [] => []
    | d :: rest => if l = d then letterEnds letters ⟨c.position + 1, some d, rest, c.captured⟩ else []

/-- Every way to read a pattern from a place, the preferred one first. -/
def ends : Pattern → Cursor → List Cursor
  | one accepts, c => match c.rest with
    | [] => []
    | d :: rest => if accepts d then [⟨c.position + 1, some d, rest, c.captured⟩] else []
  | most atLeast accepts, c => ((stops accepts c.captured c.position c.previous c.rest).drop atLeast).reverse
  | fewest atLeast accepts, c => (stops accepts c.captured c.position c.previous c.rest).drop atLeast
  | word letters, c => letterEnds letters c
  | seq first second, c => (first.ends c).flatMap second.ends
  | alt first second, c => first.ends c ++ second.ends c
  | opt inner, c => inner.ends c ++ [c]
  | capture inner, c =>
    (inner.ends c).map fun e => { e with captured := some (c.position, c.rest.take (e.position - c.position)) }
  | absent inner, c => if (inner.ends c).isEmpty then [c] else []
  | notAfter accepts, c => if c.previous.any accepts then [] else [c]
  | lineStart, c => if c.atLineStart then [c] else []
  | boundary, c => if c.atBoundary then [c] else []

/-- The preferred way to read a pattern from a place. -/
def match? (p : Pattern) (c : Cursor) : Option Cursor := (p.ends c).head?

/-- A stretch of text that a pattern matches, with its captured part. -/
structure Occurrence where
  start : Nat
  finish : Nat
  captured : Option (Nat × List Char)

/-- The matches from a place on. A match without characters is passed over. -/
def findFrom (p : Pattern) (c : Cursor) : List Occurrence :=
  match p.match? { c with captured := none } with
  | some e =>
    if e.rest.length < c.rest.length then ⟨c.position, e.position, e.captured⟩ :: findFrom p e
    else match h : c.rest with
      | [] => []
      | d :: rest => findFrom p ⟨c.position + 1, some d, rest, none⟩
  | none => match h : c.rest with
    | [] => []
    | d :: rest => findFrom p ⟨c.position + 1, some d, rest, none⟩
termination_by c.rest.length
decreasing_by all_goals simp_all

/-- The matches in a text, from the left and without overlap. -/
def findAll (p : Pattern) (s : List Char) : List Occurrence := p.findFrom (.start s)

def count (p : Pattern) (s : List Char) : Nat := (p.findAll s).length

/-- The first match in a text. -/
def find? (p : Pattern) (s : List Char) : Option Occurrence := (p.findAll s).head?

/-- The patterns one after the other. -/
def sequence : List Pattern → Pattern
  | [] => word []
  | [p] => p
  | p :: rest => seq p (sequence rest)

/-- One of several words. -/
def anyWord : List String → Pattern
  | [] => absent (word [])
  | [w] => word w.toList
  | w :: rest => alt (word w.toList) (anyWord rest)

def literal (s : String) : Pattern := word s.toList

/-- White space, which may be missing. -/
def blanks : Pattern := most 0 Text.isBlank

/-- White space, at least one character. -/
def someBlanks : Pattern := most 1 Text.isBlank

/-- A word of at least one character. -/
def name : Pattern := most 1 Text.isWord

end Pattern
end RepoSurvey
