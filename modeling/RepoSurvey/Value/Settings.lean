import RepoSurvey.Settings.AnalysisConfig
import RepoSurvey.Value.Architecture

/-!
# Settings as values
-/

namespace RepoSurvey

section

variable {ι α : Type} [ToValue ι] [ToValue α]

instance : ToValue (VelocityWeights α) := ⟨fun w => .record "VelocityWeights" (w.entries value) []⟩

instance : ToValue (ScoringConfig ι α) := ⟨fun s => .record "ScoringConfig" (s.entries value value) []⟩

instance : ToValue (BlockerThresholds ι α) := ⟨fun t => .record "BlockerThresholds" (t.entries value value) []⟩

instance : ToValue (DriftThresholds ι α) := ⟨fun t => .record "DriftThresholds" (t.entries value value) []⟩

instance {layer : Type} [ToValue layer] : ToValue (AnalysisConfig layer ι α) := ⟨fun c => .record "AnalysisConfig"
  [("layers", value c.layers), ("coupling_formula", value c.formula), ("velocity", value c.velocity),
    ("scoring", value c.scoring), ("blockers", value c.blockers), ("drift", value c.drift)] []⟩

end

/-! ### Values as settings -/

namespace Value

/-- The number that a value is. -/
inductive Amount where
  | whole (n : Int)
  | double (x : Float)

def amount? : Value → Option Amount
  | bool b => some (.whole (if b then 1 else 0))
  | int n => some (.whole n)
  | number x => some (.double x)
  | _ => Option.none

namespace Amount

/-- Whether an amount is less than a whole number. -/
def below (n : Int) : Amount → Bool
  | whole m => decide (m < n)
  | double x => Scalar.lt x (Scalar.ofInt n)

/-- Whether an amount is at most a whole number. -/
def atMost (n : Int) : Amount → Bool
  | whole m => decide (m ≤ n)
  | double x => Scalar.le x (Scalar.ofInt n)

/-- Whether an amount is at least zero. -/
def atLeastZero : Amount → Bool
  | whole m => decide (0 ≤ m)
  | double x => Scalar.le (Scalar.ofInt 0) x

/-- An amount as a double, unless it is too large. -/
def toDouble : Amount → Checked Float
  | whole m =>
    let x : Float := Scalar.ofInt m
    if (Scalar.toRat? x).isSome then .ok x else .error .tooLarge
  | double x => .ok x

/-- Whole numbers are added up exactly, all others as doubles. -/
def add : Amount → Amount → Checked Value
  | whole m, whole n => .ok (.int (m + n))
  | a, b => return .number ((← a.toDouble) + (← b.toDouble))

end Amount

/-- The comparison of a value with a number, which fails unless the value is one. -/
def compare (symbol : String) (holds : Amount → Bool) (v : Value) : Checked Bool :=
  match v.amount? with
  | some a => .ok (holds a)
  | Option.none => .error (.incomparable symbol v.kind .int)

instance : Gauge Value where
  below v n := compare "<" (Amount.below n) v
  atMost v n := compare "<=" (Amount.atMost n) v
  inUnit v :=
    match v.amount? with
    | some a => .ok (a.atLeastZero && a.atMost 1)
    | Option.none => .error (.incomparable "<=" .float v.kind)
  add v w :=
    match v.amount?, w.amount? with
    | some a, some b => Amount.add a b
    | _, _ => .error (.notAddable v.kind w.kind)

end Value
end RepoSurvey
