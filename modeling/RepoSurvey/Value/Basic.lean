import RepoSurvey.Kind
import RepoSurvey.Time.Duration

/-!
# Values

Arguments of messages, settings before they are checked, and everything that can be stored are values: their kind is not
known beforehand.

* `Value`: the values themselves; a structure of the library is a `Value.record` of its fields.
* `Value.kind`: the kind of a value.
* `ToValue`: types whose members are values.
-/

namespace RepoSurvey

inductive Value where
  | none
  | bool (b : Bool)
  | int (n : Int)
  | number (x : Float)
  | complex (re im : Float)
  | text (s : String)
  /-- A string of bytes, given by the text that it encodes. -/
  | bytes (s : String)
  | list (items : List Value)
  | tuple (items : List Value)
  /-- A set, whose items are different from each other. -/
  | set (frozen : Bool) (items : List Value)
  /-- A table in order of insertion, whose keys are different from each other. -/
  | mapping (entries : List (Value × Value))
  | moment (m : Moment)
  | date (d : Date)
  | duration (d : Duration)
  | path (p : String)
  /-- A member of an enumeration with its label and its name. -/
  | member (type label name : String)
  /-- A structure with its fields, and the derived entries that its record has besides. -/
  | record (type : String) (fields derived : List (String × Value))
  /-- A type of values. -/
  | family (name : String)
  /-- A value of which nothing is known. -/
  | object
  deriving Inhabited

namespace Value

def kind : Value → Kind
  | none => .none
  | bool _ => .bool
  | int _ => .int
  | number _ => .float
  | complex _ _ => .complex
  | text _ => .text
  | bytes _ => .bytes
  | list _ => .list
  | tuple _ => .tuple
  | set frozen _ => if frozen then .frozenSet else .set
  | mapping _ => .mapping
  | moment _ => .moment
  | date _ => .date
  | duration _ => .duration
  | path _ => .path
  | member type _ _ => .named type
  | record type _ _ => .named type
  | family _ => .family
  | object => .object

/-- The value of a field of a structure. -/
def field? (fields : List (String × Value)) (name : String) : Option Value :=
  (fields.find? (·.1 == name)).map (·.2)

/-- A member of an enumeration whose label is its name in capitals. -/
def named (type name : String) : Value := .member type name.toUpper name

end Value

/-- Types whose members are values. -/
class ToValue (τ : Type) where
  value : τ → Value

export ToValue (value)

section

variable {τ : Type}

instance : ToValue Value := ⟨id⟩

instance : ToValue Bool := ⟨.bool⟩

instance : ToValue Int := ⟨.int⟩

instance : ToValue Nat := ⟨fun n => .int n⟩

instance : ToValue Float := ⟨.number⟩

instance : ToValue String := ⟨.text⟩

instance [ToValue τ] : ToValue (Option τ) := ⟨fun x => x.elim .none value⟩

instance [ToValue τ] : ToValue (List τ) := ⟨fun xs => .tuple (xs.map value)⟩

instance : ToValue Moment := ⟨.moment⟩

instance : ToValue Duration := ⟨.duration⟩

/-- A table with texts as keys. -/
def Value.table [ToValue τ] (entries : List (String × τ)) : Value :=
  .mapping (entries.map fun (k, v) => (.text k, value v))

end
end RepoSurvey
