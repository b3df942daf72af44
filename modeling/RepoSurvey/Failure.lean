import RepoSurvey.Value.Shown

/-!
# Failures

A failure has a family, a message and details. Its text is the message with the details in brackets.

* `FailureFamily`: the families, each with the ones that it belongs to.
* `Failure.text`: the text of a failure.
* `Failure.detail?`: a detail that all failures of the family have.
* `Failure.ofInput`, `Failure.ofSetting`, `Failure.ofFile`: the failures with details of their own.
-/

namespace RepoSurvey

inductive FailureFamily where
  | any
  | analysis
  | input
  | configuration
  | setting
  | settingsFile
  deriving Repr, DecidableEq

namespace FailureFamily

def name : FailureFamily → String
  | any => "ArchLensError"
  | analysis => "AnalysisError"
  | input => "InputContractError"
  | configuration => "ConfigurationError"
  | setting => "InvalidConfigError"
  | settingsFile => "ConfigFileError"

def all : List FailureFamily := [any, analysis, input, configuration, setting, settingsFile]

/-- A family and those that it belongs to, the widest last. -/
def chain : FailureFamily → List FailureFamily
  | any => [any]
  | analysis => [analysis, any]
  | input => [input, analysis, any]
  | configuration => [configuration, any]
  | setting => [setting, configuration, any]
  | settingsFile => [settingsFile, configuration, any]

/-- The details that every failure of a family has. -/
def ownDetails : FailureFamily → List String
  | input => ["argument", "reason"]
  | setting => ["key", "value", "reason"]
  | settingsFile => ["path", "reason"]
  | _ => []

end FailureFamily

structure Failure where
  family : FailureFamily
  message : String
  details : List (Value × Value)

namespace Failure

/-- The message, followed by the details if there are any. -/
def text (f : Failure) : String :=
  if f.details.isEmpty then f.message
  else f.message ++ " (" ++ ", ".intercalate (f.details.map fun (k, v) => k.asText ++ "=" ++ v.asText) ++ ")"

/-- An argument that cannot be used, with the kind of what was found unless nothing was. -/
def ofInput (argument reason : Value) (found : Kind) : Failure where
  family := .input
  message := "Invalid input for '" ++ argument.asText ++ "': " ++ reason.asText
  details := [(.text "argument", argument), (.text "reason", reason)] ++
    (if found = .none then [] else [(.text "type", .text found.label)])

/-- A setting with a value that it cannot have. -/
def ofSetting (key found reason : Value) : Failure where
  family := .setting
  message := "Invalid configuration for " ++ key.asText ++ ": " ++ found.asText
  details := [(.text "key", key), (.text "value", .text found.asText), (.text "reason", reason)]

/-- A file of settings that cannot be read. -/
def ofFile (path reason : Value) : Failure where
  family := .settingsFile
  message := "Invalid config file: " ++ path.asText
  details := [(.text "path", .text path.asText), (.text "reason", reason)]

/-- One of the details that every failure of the family has. -/
def detail? (f : Failure) (name : String) : Option Value :=
  if f.family.ownDetails.contains name then (f.details.find? (·.1.asText == name)).map (·.2) else none

end Failure
end RepoSurvey
