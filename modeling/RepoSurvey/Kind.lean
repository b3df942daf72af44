/-!
# Kinds of values

The names by which messages call the kinds of values that a caller can hand over.
-/

namespace RepoSurvey

inductive Kind where
  | none
  | bool
  | int
  | float
  | complex
  | text
  | bytes
  | list
  | tuple
  | set
  | frozenSet
  | mapping
  | moment
  | date
  | duration
  | path
  | object
  | family
  /-- A value of a named record, section or enumeration. -/
  | named (name : String)
  deriving Repr, DecidableEq

namespace Kind

def label : Kind → String
  | none => "NoneType"
  | bool => "bool"
  | int => "int"
  | float => "float"
  | complex => "complex"
  | text => "str"
  | bytes => "bytes"
  | list => "list"
  | tuple => "tuple"
  | set => "set"
  | frozenSet => "frozenset"
  | mapping => "dict"
  | moment => "datetime"
  | date => "date"
  | duration => "timedelta"
  | path => "PosixPath"
  | object => "object"
  | family => "type"
  | named name => name

/-- The name of a kind in messages about operators. -/
def operandLabel : Kind → String
  | moment => "datetime.datetime"
  | date => "datetime.date"
  | duration => "datetime.timedelta"
  | kind => kind.label

end Kind
end RepoSurvey
