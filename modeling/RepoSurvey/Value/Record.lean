import RepoSurvey.Value.Identity
import RepoSurvey.Value.Shown

/-!
# Records

A record is plain data that can be stored: nothing, truth values, numbers, texts, lists, and tables with texts as keys.

* `Record`: plain data.
* `Value.record?`: the record of a value: structures become tables of their fields, members of enumerations their names,
  sets sorted lists, moments and dates ISO 8601 texts and durations seconds.
* `Record.asValue`: plain data as a value; its record is the data itself.
-/

namespace RepoSurvey

inductive Record where
  | none
  | bool (b : Bool)
  | int (n : Int)
  | number (x : Float)
  | text (s : String)
  | list (items : List Record)
  | mapping (entries : List (String × Record))
  deriving Inhabited

namespace Record

mutual

def asValue : Record → Value
  | none => .none
  | bool b => .bool b
  | int n => .int n
  | number x => .number x
  | text s => .text s
  | list items => .list (asValues items)
  | mapping entries => .mapping (asEntries entries)

def asValues : List Record → List Value
  | [] => []
  | r :: rest => asValue r :: asValues rest

def asEntries : List (String × Record) → List (Value × Value)
  | [] => []
  | (k, r) :: rest => (.text k, asValue r) :: asEntries rest

end

/-- The text of plain data that stands alone. -/
def asText (r : Record) : String := r.asValue.asText

/-- Plain data in the order of its texts. -/
def sorted (items : List Record) : List Record := items.mergeSort fun a b => decide (a.asText ≤ b.asText)

/-- The entries of a table. -/
def entries : Record → List (String × Record)
  | mapping entries => entries
  | _ => []

end Record

/-- A value that has no record, or holds one that has none. -/
structure RecordError where
  found : Kind
  deriving Repr, DecidableEq

def RecordError.message (e : RecordError) : String := "Cannot convert " ++ e.found.label ++ " to a record"

namespace Value

mutual

/-- The record of a value. -/
def record? : Value → Except RecordError Record
  | none => .ok .none
  | bool b => .ok (.bool b)
  | int n => .ok (.int n)
  | number x => .ok (.number x)
  | text s => .ok (.text s)
  | list items => return .list (← records? items)
  | tuple items => return .list (← records? items)
  | set _ items => return .list (Record.sorted (← records? items))
  | mapping entries => return .mapping (Table.ofPairs (← recordEntries? entries))
  | moment m => .ok (.text m.text)
  | date d => .ok (.text d.text)
  | duration d => .ok (.number d.seconds)
  | path p => .ok (.text p)
  | member _ _ name => .ok (.text name)
  | record _ fields derived => return .mapping ((← recordFields? fields) ++ (← recordFields? derived))
  | complex _ _ => .error ⟨.complex⟩
  | bytes _ => .error ⟨.bytes⟩
  | family _ => .error ⟨.family⟩
  | object => .error ⟨.object⟩

def records? : List Value → Except RecordError (List Record)
  | [] => .ok []
  | v :: rest => do
    let r ← record? v
    return r :: (← records? rest)

def recordEntries? : List (Value × Value) → Except RecordError (List (String × Record))
  | [] => .ok []
  | (k, v) :: rest => do
    let key ← record? k
    let r ← record? v
    return (key.asText, r) :: (← recordEntries? rest)

def recordFields? : List (String × Value) → Except RecordError (List (String × Record))
  | [] => .ok []
  | (k, v) :: rest => do
    let r ← record? v
    return (k, r) :: (← recordFields? rest)

end

end Value

/-- The record of a member of a type of values. -/
def record {τ : Type} [ToValue τ] (x : τ) : Except RecordError Record := (value x).record?

end RepoSurvey
