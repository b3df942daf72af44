import RepoSurvey.Kind
import RepoSurvey.Number.Scalar

/-!
# Checked settings

A setting is checked by comparisons with small bounds. The comparisons themselves can fail where a setting is no number.

* `SettingRule`: a rule that a section of settings breaks, with its text.
* `SettingFault`: why a section is refused.
* `Gauge`: settings that can be compared and added up.
-/

namespace RepoSurvey

/-- A rule on the settings of a section. -/
inductive SettingRule where
  | nonNegative (field : String)
  | someWeight
  | references
  | inUnit (field : String)
  | atLeastOne (field : String)
  | positive (field : String)
  | distinctLayers (names : List String)
  deriving Repr, DecidableEq

def SettingRule.text : SettingRule → String
  | nonNegative field => field ++ " must be non-negative"
  | someWeight => "velocity weights must not all be zero"
  | references => "normalization references must be non-negative"
  | inUnit field => field ++ " must be between 0.0 and 1.0"
  | atLeastOne field => field ++ " must be at least 1"
  | positive field => field ++ " must be positive"
  | distinctLayers names => "duplicate layer names: " ++ ", ".intercalate names

/-- Why a section of settings is refused. -/
inductive SettingFault where
  | broken (rule : SettingRule)
  | incomparable (symbol : String) (left right : Kind)
  | notAddable (left right : Kind)
  /-- A whole number beyond the range of doubles. -/
  | tooLarge
  | unexpectedField (section_ field : String)
  | fieldsNotTexts
  deriving Repr, DecidableEq

def SettingFault.text : SettingFault → String
  | broken rule => rule.text
  | incomparable symbol left right =>
    "'" ++ symbol ++ "' not supported between instances of '" ++ left.operandLabel ++ "' and '" ++
      right.operandLabel ++ "'"
  | notAddable left right =>
    "unsupported operand type(s) for +: '" ++ left.operandLabel ++ "' and '" ++ right.operandLabel ++ "'"
  | tooLarge => "int too large to convert to float"
  | unexpectedField section_ field => section_ ++ ".__init__() got an unexpected keyword argument '" ++ field ++ "'"
  | fieldsNotTexts => "keywords must be strings"

abbrev Checked (β : Type) := Except SettingFault β

/-- Settings that the checks can be made on. -/
class Gauge (α : Type) where
  /-- Whether a setting is less than a whole number. -/
  below : α → Int → Checked Bool
  /-- Whether a setting is at most a whole number. -/
  atMost : α → Int → Checked Bool
  /-- Whether a setting lies between zero and one. -/
  inUnit : α → Checked Bool
  add : α → α → Checked α

section

variable {α : Type}

/-- The comparisons of scalars, none of which fails. -/
instance [Scalar α] : Gauge α where
  below x n := .ok (Scalar.lt x (Scalar.ofInt n))
  atMost x n := .ok (Scalar.le x (Scalar.ofInt n))
  inUnit x := .ok (Scalar.le Scalar.zero x && Scalar.le x Scalar.one)
  add x y := .ok (x + y)

instance : Gauge Int where
  below x n := .ok (decide (x < n))
  atMost x n := .ok (decide (x ≤ n))
  inUnit x := .ok (decide (0 ≤ x ∧ x ≤ 1))
  add x y := .ok (x + y)

namespace SettingRule

/-- Refuses a section if the rule does not hold. -/
def require (rule : SettingRule) (holds : Bool) : Checked Unit :=
  if holds then .ok () else .error (.broken rule)

variable [Gauge α]

def checkNonNegative (field : String) (x : α) : Checked Unit := do
  (nonNegative field).require (!(← Gauge.below x 0))

def checkAtLeastOne (field : String) (x : α) : Checked Unit := do
  (atLeastOne field).require (!(← Gauge.below x 1))

def checkInUnit (field : String) (x : α) : Checked Unit := do
  (inUnit field).require (← Gauge.inUnit x)

end SettingRule

end

end RepoSurvey
