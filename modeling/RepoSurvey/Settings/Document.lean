import RepoSurvey.Failure
import RepoSurvey.Settings.Reading
import RepoSurvey.Settings.Section
import RepoSurvey.Value.Identity

/-!
# Documents of settings

A document holds settings by their names before any of them is checked. The settings of a section stand in a table.

* `SectionName`: the four sections with the names and types of their fields.
* `Document.merge`: one document over another one. Tables of a section are merged field by field, everything else is
  taken whole from the upper document.
* `Document.ofEnvironment`: the document of the environment's variables.
-/

namespace RepoSurvey

/-! ### Sections -/

inductive SectionName where
  | velocity
  | scoring
  | blockers
  | drift
  deriving Repr, DecidableEq

namespace SectionName

def all : List SectionName := [velocity, scoring, blockers, drift]

def name : SectionName → String
  | velocity => "velocity"
  | scoring => "scoring"
  | blockers => "blockers"
  | drift => "drift"

/-- The name of the structure that a section becomes. -/
def structureName : SectionName → String
  | velocity => "VelocityWeights"
  | scoring => "ScoringConfig"
  | blockers => "BlockerThresholds"
  | drift => "DriftThresholds"

def ofName? (key : String) : Option SectionName := all.find? (·.name == key)

/-- The fields of a section with their types, in order. -/
def fields : SectionName → List (String × FieldType)
  | velocity => (VelocityWeights.build fun _ _ => .number).entries id
  | scoring => (ScoringConfig.build (fun _ _ => .whole) fun _ _ => .number).entries id id
  | blockers => (BlockerThresholds.build (fun _ _ => .whole) fun _ _ => .number).entries id id
  | drift => (DriftThresholds.build (fun _ _ => .whole) fun _ _ => .number).entries id id

end SectionName

/-! ### Merging -/

abbrev Document := Table String Value

namespace Document

/-- A setting of an upper document over the setting of the same name in a lower one. -/
def combined (key : String) (lower : Option Value) (upper : Value) : Value :=
  match SectionName.ofName? key, lower, upper with
  | some _, some (.mapping a), .mapping b => .mapping (Value.putAll a b)
  | _, _, _ => upper

/-- The lower document with the settings of the upper one over its own. -/
def merge (lower upper : Document) : Document :=
  upper.foldl (fun d e => d.put e.1 (combined e.1 (d.get? e.1) e.2)) lower

/-! ### The environment -/

/-- A variable whose text cannot be read. -/
structure VariableError where
  variableName : String
  error : ReadingError
  deriving Repr, DecidableEq

def variablePrefix : String := "ARCHLENS_"

def variableName (s : SectionName) (field : String) : String :=
  variablePrefix ++ s.name.toUpper ++ "_" ++ field.toUpper

/-- The entry of a field, if its variable is set. -/
def fieldOf (environment : Table String String) (s : SectionName) (field : String × FieldType) :
    Except VariableError (Option (Value × Value)) :=
  match environment.get? (variableName s field.1) with
  | none => .ok none
  | some text => ((field.2.read text).map fun v => some (.text field.1, v)).mapError
      fun e => ⟨variableName s field.1, e⟩

/-- The table of a section, unless none of its variables is set. -/
def sectionOf (environment : Table String String) (s : SectionName) : Except VariableError Document := do
  let entries ← s.fields.mapM (fieldOf environment s)
  let found := entries.filterMap id
  return if found.isEmpty then [] else [(s.name, .mapping found)]

/-- The document of the environment: the coupling formula, then the sections in order. -/
def ofEnvironment (environment : Table String String) : Except VariableError Document := do
  let formula := (environment.get? (variablePrefix ++ "COUPLING_FORMULA")).map fun s => ("coupling_formula", .text s)
  let sections ← SectionName.all.mapM (sectionOf environment)
  return formula.toList ++ sections.flatten

end Document
end RepoSurvey
