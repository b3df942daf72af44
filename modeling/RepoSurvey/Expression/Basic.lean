import RepoSurvey.Expression.CharacterSet
import RepoSurvey.Number.Whole

/-!
# Regular expressions

* `Expression`: what an expression asks of a text, with the modes of its parts worked in.
* `Expression.width`: the least and the greatest number of characters that an expression can take.
-/

namespace RepoSurvey

/-- A place in a text that an expression can ask for. -/
inductive Anchor where
  | textStart
  | textEnd
  /-- The text's beginning or the one after a line end. -/
  | lineStart
  /-- The text's end or a line end. -/
  | lineEnd
  /-- The text's end or the line end that closes it. -/
  | lastLineEnd
  /-- Between a word's character and another one. -/
  | wordEdge (m : Mode)
  /-- Between two characters of a word, or two others. -/
  | noWordEdge (m : Mode)
  deriving Repr, DecidableEq

/-- How a repetition chooses among numbers of rounds. -/
inductive Preference where
  | most
  | fewest
  /-- As many as possible, without trying fewer or another way of a finished round. -/
  | mostForGood
  deriving Repr, DecidableEq

inductive Expression where
  | nothing
  /-- One character of a set. -/
  | one (m : Mode) (set : CharacterSet)
  | anchor (a : Anchor)
  /-- The text of a group once more. -/
  | again (m : Mode) (group : Nat)
  | seq (first second : Expression)
  | alt (first second : Expression)
  /-- The group of a number, whose text is kept. -/
  | group (number : Nat) (inner : Expression)
  /-- The first way that the inner expression can be read, for good. -/
  | forGood (inner : Expression)
  /-- Nothing, where the inner expression can (or cannot) be read `back` characters before. -/
  | look (back : Nat) (wanted : Bool) (inner : Expression)
  /-- One of two expressions, as a group has been read or not. -/
  | given (group : Nat) (yes no : Expression)
  /-- The inner expression, at least and at most so many times. -/
  | rounds (least : Nat) (most : Option Nat) (p : Preference) (inner : Expression)
  deriving Repr, DecidableEq

/-- The least and the greatest number of characters that an expression takes; none if there is no greatest one. -/
structure Width where
  least : Nat
  most : Option Nat
  deriving Repr, DecidableEq

namespace Width

def none : Width := ⟨0, some 0⟩

def add (a b : Width) : Width := ⟨a.least + b.least, do return (← a.most) + (← b.most)⟩

/-- The width of one of two expressions. -/
def either (a b : Width) : Width := ⟨min a.least b.least, do return max (← a.most) (← b.most)⟩

/-- The width of a repetition. -/
def times (w : Width) (least : Nat) (most : Option Nat) : Width where
  least := w.least * least
  most := match w.most, most with
    | some 0, _ => some 0
    | _, some 0 => some 0
    | some n, some rounds => some (n * rounds)
    | _, _ => Option.none

/-- The width that all texts of an expression have. -/
def fixed? (w : Width) : Option Nat := if w.most = some w.least ∧ w.least < pow2 32 then some w.least else Option.none

end Width

namespace Expression

/-- The width of an expression, where groups that have been closed before have the widths given. -/
def width (groups : List (Nat × Width)) : Expression → Width
  | nothing | anchor _ | look _ _ _ => .none
  | one _ _ => ⟨1, some 1⟩
  | again _ n => (groups.lookup n).getD .none
  | seq a b => (a.width groups).add (b.width groups)
  | alt a b | given _ a b => (a.width groups).either (b.width groups)
  | group _ e | forGood e => e.width groups
  | rounds least most _ e => (e.width groups).times least most

/-- Expressions one after the other. -/
def sequence : List Expression → Expression
  | [] => nothing
  | [e] => e
  | e :: rest => seq e (sequence rest)

/-- One of some expressions; nothing if there are none. -/
def choice : List Expression → Expression
  | [] => nothing
  | [e] => e
  | e :: rest => alt e (choice rest)

/-- A character that stands for itself. -/
def letter (m : Mode) (code : Nat) : Expression := one m (.ofCode code)

/-- Any character, but for a line end where it counts. -/
def wildcard (m : Mode) : Expression := one m ⟨true, if m.acrossLines then [] else [.single 10]⟩

end Expression
end RepoSurvey
