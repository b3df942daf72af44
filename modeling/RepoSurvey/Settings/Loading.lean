import RepoSurvey.Settings.Document
import RepoSurvey.Value.Settings

/-!
# Loading settings

Settings come from a project's document, a file, the environment and a caller, each over the one before. They are
checked in the order of the merged document; whatever no document sets keeps its usual value.

* `LoadFault`: why settings cannot be loaded.
* `LoadedConfig`: settings with fields of any kind that passed the checks.
* `LoadedConfig.load`: the settings of four documents.
-/

namespace RepoSurvey

/-! ### Faults -/

/-- Why the value of a setting is refused. -/
inductive SettingReason where
  | unreadable (e : ReadingError)
  | unknownKey
  | notTable
  | notArray
  | namelessLayer
  | unknownFormula
  | broken (rule : SettingRule)
  deriving Repr, DecidableEq

def SettingReason.text : SettingReason → String
  | unreadable e => e.message
  | unknownKey => "unknown configuration key"
  | notTable => "expected a table"
  | notArray => "expected an array of tables"
  | namelessLayer => "each layer needs at least a name"
  | unknownFormula => "expected one of: " ++ ", ".intercalate (CouplingFormula.all.map (·.name))
  | broken rule => rule.text

inductive LoadFault where
  | setting (key : String) (found : Value) (reason : SettingReason)
  /-- A section whose fields are unknown or cannot be compared. -/
  | sectionFields (s : SectionName) (fault : SettingFault)
  | file (path reason : String)
  | notIterable (found : Kind)
  | unhashable (found : Kind)
  /-- A whole number beyond the range of doubles. -/
  | tooLarge

namespace LoadFault

/-- The failure that is reported, unless the fault is in a value's kind or size. -/
def failure? : LoadFault → Option Failure
  | setting key found reason => some (.ofSetting (.text key) found (.text reason.text))
  | sectionFields s fault => some ⟨.configuration, "Invalid [" ++ s.name ++ "] config: " ++ fault.text, []⟩
  | file path reason => some (.ofFile (.text path) (.text reason))
  | notIterable _ | unhashable _ | tooLarge => none

/-- The message of a fault. -/
def message (f : LoadFault) : String :=
  match f with
  | notIterable kind => "'" ++ kind.operandLabel ++ "' object is not iterable"
  | unhashable kind => "unhashable type: '" ++ kind.operandLabel ++ "'"
  | tooLarge => SettingFault.tooLarge.text
  | reported => (reported.failure?.map Failure.text).getD ""

end LoadFault

abbrev Loaded (β : Type) := Except LoadFault β

/-! ### Layers -/

/-- A layer as it was declared, with patterns and layers of any kind. -/
structure DeclaredLayer where
  name : String
  patterns : List Value
  allowed : List Value

instance : ToValue DeclaredLayer := ⟨fun l => .record "LayerDefinition"
  [("name", .text l.name), ("patterns", .tuple l.patterns), ("allowed_dependencies", .set true l.allowed)] []⟩

namespace DeclaredLayer

/-- The items of a value that has some: texts are taken character by character, tables by their keys. -/
def items : Value → Loaded (List Value)
  | .text s => .ok (s.toList.map fun c => .text (String.ofList [c]))
  | .bytes s => .ok (s.toUTF8.toList.map fun b => .int b.toNat)
  | .list vs | .tuple vs | .set _ vs => .ok vs
  | .mapping entries => .ok (entries.map (·.1))
  | v => .error (.notIterable v.kind)

/-- The distinct items of a value. -/
def itemSet (v : Value) : Loaded (List Value) := do
  let vs ← items v
  match vs.findSome? Value.unhashable? with
  | some kind => .error (.unhashable kind)
  | none => .ok (Value.distinct vs)

/-- A layer from a table that has at least its name, or from a layer. -/
def ofValue (v : Value) : Loaded DeclaredLayer := do
  match v with
  | .record "LayerDefinition" fields _ =>
    let field (name : String) : Value := (Value.field? fields name).getD .none
    return ⟨(field "name").asText, ← items (field "patterns"), ← items (field "allowed_dependencies")⟩
  | .mapping entries =>
    let some name := Value.get? entries "name" | throw (.setting "layers" v .namelessLayer)
    let patterns ← items ((Value.get? entries "patterns").getD (.tuple []))
    let allowed ← itemSet ((Value.get? entries "allowed_dependencies").getD (.tuple []))
    return ⟨name.asText, patterns, allowed⟩
  | _ => throw (.setting "layers" v .namelessLayer)

/-- The layers of an array. -/
def ofArray : Value → Loaded (List DeclaredLayer)
  | .list vs | .tuple vs => vs.mapM ofValue
  | v => .error (.setting "layers" v .notArray)

end DeclaredLayer

/-! ### Sections -/

namespace SectionName

/-- What a fault of a section's fields says about the section. -/
def faultOf (s : SectionName) (found : Value) : SettingFault → LoadFault
  | .broken rule => .setting s.name found (.broken rule)
  | .tooLarge => .tooLarge
  | fault => .sectionFields s fault

/-- Refuses keys that are not fields of the section. -/
def checkKeys (s : SectionName) (entries : List (Value × Value)) : Checked Unit := do
  let keys ← entries.mapM fun
    | (.text key, _) => .ok key
    | _ => .error .fieldsNotTexts
  match keys.find? fun key => !(s.fields.any (·.1 == key)) with
  | some key => .error (.unexpectedField s.structureName key)
  | none => .ok ()

/-- A section built from a table, or from a section. A section that is given as such was checked when it was built. -/
def load {β : Type} (s : SectionName) (build : (String → Value → Value) → β) (check : β → Checked Unit) (v : Value) :
    Loaded β :=
  match v with
  | .mapping entries => (do
      s.checkKeys entries
      let section_ := build fun name usual => (Value.get? entries name).getD usual
      check section_
      return section_ : Checked β).mapError (s.faultOf v)
  | .record type fields _ =>
    if type = s.structureName then .ok (build fun name usual => (Value.field? fields name).getD usual)
    else .error (.setting s.name v .notTable)
  | v => .error (.setting s.name v .notTable)

end SectionName

/-! ### The whole -/

abbrev LoadedConfig := AnalysisConfig DeclaredLayer Value Value

/-- What stood in place of a file of settings. -/
inductive SettingsFile where
  | document (d : Document)
  | missing
  /-- A file that cannot be read, and why. -/
  | unreadable (reason : String)

namespace LoadedConfig

/-- A whole number or a number from what the documents say about it. -/
def whole (get : String → Value → Value) (name : String) (usual : Int) : Value := get name (.int usual)

def number (get : String → Value → Value) (name : String) (usual : Rat) : Value :=
  get name (.number (Scalar.ofRat usual))

def usual : LoadedConfig :=
  let keep (_ : String) (v : Value) : Value := v
  ⟨[], .fanInRelative, .build (number keep), .build (whole keep) (number keep), .build (whole keep) (number keep),
    .build (whole keep) (number keep)⟩

/-- The coupling formula that a value names. -/
def formulaOf (v : Value) : Loaded CouplingFormula :=
  let name? := match v with
    | .text s => some s
    | .member "CouplingFormula" _ name => some name
    | _ => none
  match CouplingFormula.all.find? fun f => name? == some f.name with
  | some f => .ok f
  | none => .error (.setting "coupling_formula" v .unknownFormula)

/-- Settings with one more of them set. -/
def set (c : LoadedConfig) (key : String) (v : Value) : Loaded LoadedConfig :=
  match SectionName.ofName? key with
  | some .velocity =>
    return { c with velocity := ← SectionName.velocity.load (fun get => .build (number get)) VelocityWeights.check v }
  | some .scoring =>
    return { c with
      scoring := ← SectionName.scoring.load (fun get => .build (whole get) (number get)) ScoringConfig.check v }
  | some .blockers =>
    return { c with
      blockers := ← SectionName.blockers.load (fun get => .build (whole get) (number get)) BlockerThresholds.check v }
  | some .drift =>
    return { c with
      drift := ← SectionName.drift.load (fun get => .build (whole get) (number get)) DriftThresholds.check v }
  | none =>
    if key = "layers" then return { c with layers := ← DeclaredLayer.ofArray v }
    else if key = "coupling_formula" then return { c with formula := ← formulaOf v }
    else throw (.setting key v .unknownKey)

/-- The settings of a document. -/
def ofDocument (d : Document) : Loaded LoadedConfig := do
  let c ← d.foldlM (fun c e => c.set e.1 e.2) usual
  match AnalysisConfig.checkLayers (c.layers.map (·.name)) with
  | .error (.broken rule) => throw (.setting "layers" (value c.layers) (.broken rule))
  | _ => return c

/-- The document of a file. -/
def documentOf (path : String) : SettingsFile → Loaded Document
  | .document d => .ok d
  | .missing => .error (.file path "file not found")
  | .unreadable reason => .error (.file path reason)

/-- The document of the environment. -/
def environmentDocument (environment : Table String String) : Loaded Document :=
  (Document.ofEnvironment environment).mapError
    fun e => .setting e.variableName (.text e.error.found) (.unreadable e.error)

/-- The settings of a project's document, a file, the environment and a caller. -/
def load (project : Document) (path : String) (file : Option SettingsFile) (environment : Table String String)
    (overrides : Document) : Loaded LoadedConfig := do
  let file ← (file.map (documentOf path)).getD (.ok [])
  let environment ← environmentDocument environment
  ofDocument ((((Document.merge [] project).merge file).merge environment).merge overrides)

end LoadedConfig
end RepoSurvey
