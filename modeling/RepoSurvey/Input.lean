import RepoSurvey.Failure

/-!
# Required input

Some arguments are checked before work begins. What is missing or of the wrong kind is reported with the name of the
argument and the reason; everything that can be dealt with locally is dealt with where it arises.

* `Supplied`: a list that a caller handed over, or what stood in its place.
* `InputError`: a broken requirement, with its message.
-/

namespace RepoSurvey

/-- Why an argument cannot be used. -/
inductive InputReason where
  | missingSequence
  | textForSequence
  | missingGraph
  | missingMapping
  | foreignItem
  deriving Repr, DecidableEq

def InputReason.text : InputReason → String
  | missingSequence => "expected a sequence, got None"
  | textForSequence => "expected a sequence, got a string"
  | missingGraph => "expected a DependencyGraph, got None"
  | missingMapping => "expected a mapping of path to text, got None"
  | foreignItem => "every item must be a ParsedFile"

/-- A requirement on an argument that does not hold, with the kind of the offending value. -/
structure InputError where
  argument : String
  reason : InputReason
  found : Kind
  deriving Repr, DecidableEq

def InputError.failure (e : InputError) : Failure := .ofInput (.text e.argument) (.text e.reason.text) e.found

/-- The message, with the argument, the reason and the kind of the value in brackets. -/
def InputError.message (e : InputError) : String := e.failure.text

/-- A list handed over by a caller. -/
inductive Supplied (α : Type) where
  | missing
  /-- A text, or a string of bytes, in place of a list. -/
  | text (kind : Kind)
  | list (items : List α)
  deriving Repr

/-- An item of a list, which may be something else than a record of the list's kind. -/
inductive Item (α : Type) where
  | record (value : α)
  | foreign (kind : Kind)
  deriving Repr

namespace Supplied

variable {α : Type}

/-- The items of a list; a missing list and a text are refused. -/
def require (argument : String) : Supplied α → Except InputError (List α)
  | missing => .error ⟨argument, .missingSequence, .none⟩
  | text kind => .error ⟨argument, .textForSequence, kind⟩
  | list items => .ok items

/-- The records of a list, whose every item has to be one. -/
def requireRecords (argument : String) (items : List (Item α)) : Except InputError (List α) :=
  items.mapM fun
    | .record value => .ok value
    | .foreign kind => .error ⟨argument, .foreignItem, kind⟩

/-- Refuses a value that is missing or a text; every other value passes. -/
def checkSequence (argument : String) (v : Value) : Except InputError Unit :=
  match v with
  | .none => .error ⟨argument, .missingSequence, .none⟩
  | .text _ | .bytes _ => .error ⟨argument, .textForSequence, v.kind⟩
  | _ => .ok ()

end Supplied
end RepoSurvey
