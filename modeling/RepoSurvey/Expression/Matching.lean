import RepoSurvey.Expression.Basic

/-!
# Reading a text by an expression

An expression is tried from the left, each choice in its order of preference, and what comes after an expression
decides whether its choice stands.

* `Progress`: how far a text has been read, and where groups have been opened and closed.
* `Expression.run`: the first way to read an expression that what comes after it accepts.
* `Expression.fitsStart`: whether a beginning of a text can be read.
-/

namespace RepoSurvey

/-- How far a text has been read, and where groups were last opened and closed, the latest one first. -/
structure Progress where
  position : Nat
  opened : List (Nat × Nat) := []
  closed : List (Nat × Nat) := []

namespace Progress

/-- The bounds of the text of a group that has been read. -/
def bounds? (p : Progress) (group : Nat) : Option (Nat × Nat) := do
  let start ← p.opened.lookup group
  let finish ← p.closed.lookup group
  if start ≤ finish then some (start, finish) else none

def advanced (p : Progress) (n : Nat) : Progress := { p with position := p.position + n }

end Progress

/-- What accepts or refuses a progress, with the progress that is reached in the end. -/
abbrev Continuation := Progress → Option Progress

section

variable (text : Array Char)

/-- Whether the character at a place belongs to a word. -/
def wordAt (m : Mode) (place : Nat) : Bool := text[place]?.any m.isWord

/-- Whether exactly one of the neighbours of a place belongs to a word. -/
def edgeAt (m : Mode) (place : Nat) : Bool :=
  (place != 0 && wordAt text m (place - 1)) != wordAt text m place

/-- Whether a place is of the kind asked for; an empty text has neither edges of words nor places without one. -/
def Anchor.holds (place : Nat) : Anchor → Bool
  | textStart => place == 0
  | textEnd => place == text.size
  | lineStart => place == 0 || text[place - 1]? == some '\n'
  | lineEnd => place == text.size || text[place]? == some '\n'
  | lastLineEnd => place == text.size || (place + 1 == text.size && text[place]? == some '\n')
  | wordEdge m => !text.isEmpty && edgeAt text m place
  | noWordEdge m => !text.isEmpty && !edgeAt text m place

/-- Whether two stretches of a text agree. -/
def agrees (m : Mode) (start other : Nat) : Nat → Bool
  | 0 => true
  | n + 1 =>
    match text[start]?, text[other]? with
    | some a, some b => m.key a == m.key b && agrees m (start + 1) (other + 1) n
    | _, _ => false

namespace Expression

/-- Rounds of a repetition, at most `n` of them: `needed` ones that have to be read and up to `more` after them. A round
after the needed ones begins further on than the one before it, so that the rounds come to an end. -/
def repeated (round : Continuation → Continuation) (greedy : Bool) (next : Continuation) :
    Nat → Nat → Option Nat → Option Nat → Continuation
  | 0, _, _, _, _ => none
  | n + 1, needed + 1, more, last, p => round (repeated round greedy next n needed more last) p
  | n + 1, 0, more, last, p =>
    let another (_ : Unit) : Option Progress :=
      if more = some 0 ∨ last = some p.position then none
      else round (repeated round greedy next n 0 (more.map (· - 1)) (some p.position)) p
    if greedy then (another ()).or (next p) else (next p).or (another ())

/-- Rounds that are read one by one, each the first way it can be, as many as possible; at most `n` of them. -/
def repeatedForGood (round : Continuation → Continuation) : Nat → Nat → Option Nat → Option Nat → Continuation
  | 0, _, _, _, _ => none
  | n + 1, needed + 1, more, last, p => (round some p).bind (repeatedForGood round n needed more last)
  | n + 1, 0, more, last, p =>
    if more = some 0 ∨ last = some p.position then some p
    else match round some p with
      | none => some p
      | some after => repeatedForGood round n 0 (more.map (· - 1)) (some p.position) after

/-- The first way to read an expression that is accepted by what comes after it. A place never lies before an earlier
one, so that a repetition has no more rounds than its needed ones, one for each character, and two. -/
def run : Expression → Continuation → Continuation
  | nothing, next, p => next p
  | one m set, next, p => if text[p.position]?.any (set.contains m) then next (p.advanced 1) else none
  | anchor a, next, p => if a.holds text p.position then next p else none
  | again m n, next, p => do
    let (start, finish) ← p.bounds? n
    if agrees text m start p.position (finish - start) then next (p.advanced (finish - start)) else none
  | seq a b, next, p => a.run (b.run next) p
  | alt a b, next, p => (a.run next p).or (b.run next p)
  | group n e, next, p =>
    e.run (fun q => next { q with closed := (n, q.position) :: q.closed })
      { p with opened := (n, p.position) :: p.opened }
  | forGood e, next, p => (e.run some p).bind next
  | look back wanted e, next, p =>
    if p.position < back then if wanted then none else next p
    else match e.run some { p with position := p.position - back } with
      | some q => if wanted then next { q with position := p.position } else none
      | none => if wanted then none else next p
  | given n yes no, next, p => if (p.bounds? n).isSome then yes.run next p else no.run next p
  | rounds least most preference e, next, p =>
    let more := most.map (· - least)
    let limit := least + text.size + 2
    match preference with
    | .most => repeated e.run true next limit least more none p
    | .fewest => repeated e.run false next limit least more none p
    | .mostForGood => (repeatedForGood e.run limit least more none p).bind next

end Expression
end

/-- Whether a beginning of a text can be read by an expression. -/
def Expression.fitsStart (e : Expression) (text : String) : Bool :=
  (e.run text.toList.toArray some ⟨0, [], []⟩).isSome

end RepoSurvey
