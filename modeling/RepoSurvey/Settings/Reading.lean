import RepoSurvey.Number.Numeral
import RepoSurvey.Value.Shown

/-!
# Settings from texts

Settings from the environment are texts. `FieldType.read` reads one as a field's type asks for.
-/

namespace RepoSurvey

/-- What a text stands for. -/
inductive FieldType where
  | truth
  | whole
  | number
  | plain
  deriving Repr, DecidableEq

/-- A text that does not stand for what a field's type asks for. -/
structure ReadingError where
  expected : FieldType
  found : String
  deriving Repr, DecidableEq

/-- The greatest length of a quotation in a message about whole numbers. -/
def quotationLimit : Nat := 200

def ReadingError.message (e : ReadingError) : String :=
  match e.expected with
  | .truth => "expected true/false, got '" ++ e.found ++ "'"
  | .whole =>
    match Numeral.excessDigits? e.found.toList with
    | some count => Numeral.limitMessage count
    | none =>
      "invalid literal for int() with base 10: " ++ String.ofList ((Text.quoted e.found).toList.take quotationLimit)
  | .number => "could not convert string to float: " ++ Text.quoted e.found
  | .plain => ""

namespace FieldType

/-- The name of a type; every other name asks for the text itself. -/
def ofName : String → FieldType
  | "bool" => truth
  | "int" => whole
  | "float" => number
  | _ => plain

/-- The words for truth values, in any case. -/
def truth? (s : String) : Option Bool :=
  let word := String.ofList (s.toList.map Char.toLower)
  if ["true", "1", "yes", "on"].contains word then some true
  else if ["false", "0", "no", "off"].contains word then some false
  else none

/-- The value that a text stands for, if it stands for one. -/
def value? (type : FieldType) (s : String) : Option Value :=
  match type with
  | truth => (truth? s).map .bool
  | whole => if (Numeral.excessDigits? s.toList).isSome then none else (Numeral.int? s.toList).map .int
  | number => (Numeral.float? s.toList).map .number
  | plain => some (.text s)

def read (type : FieldType) (s : String) : Except ReadingError Value :=
  match value? type s with
  | some v => .ok v
  | none => .error ⟨type, s⟩

end FieldType
end RepoSurvey
