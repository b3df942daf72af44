import RepoSurvey.Proofs.Failing
import RepoSurvey.Proofs.Number.DoubleValue
import RepoSurvey.Settings.Loading

/-!
# Checks of what was loaded

A check compares settings with bounds, which fails for what is no number. Only the check of the weights adds settings
up, and only there a whole number can turn out to be too large for a double.

* `Value.Amount.Clash`: two amounts that have no sum; `Value.Amount.add_eq`: all others have one.
* `VelocityWeights.check_eq_tooLarge`: which weights are too large to be checked.
* `ScoringConfig.check_ne_tooLarge` and its likes: no other section is.
* `SectionName.load_unreported`: where loading a section fails without a report.
-/

namespace RepoSurvey

/-! ### Sums of amounts -/

namespace Value
namespace Amount

/-- The double that an amount is added up as. -/
def toFloat : Amount → Float
  | whole m => Scalar.ofInt m
  | double x => x

/-- One of the two is a double, and the other a whole number beyond the range of doubles. -/
def Clash : Amount → Amount → Prop
  | whole m, double _ => Double.wholeLimit ≤ m.natAbs
  | double _, whole n => Double.wholeLimit ≤ n.natAbs
  | _, _ => False

/-- The sum of two amounts that do not clash. -/
def plus : Amount → Amount → Amount
  | whole m, whole n => whole (m + n)
  | a, b => double (a.toFloat + b.toFloat)

def asValue : Amount → Value
  | whole n => .int n
  | double x => .number x

theorem amount?_asValue (a : Amount) : a.asValue.amount? = some a := by cases a <;> rfl

variable {a b : Amount}

theorem isSome_ofInt (m : Int) : (Scalar.toRat? (Scalar.ofInt m : Float)).isSome ↔ m.natAbs < Double.wholeLimit :=
  Double.isSome_toRat?_ofRat_intCast m

theorem toDouble_of_large {m : Int} (h : Double.wholeLimit ≤ m.natAbs) : (whole m).toDouble = .error .tooLarge := by
  rw [toDouble, if_neg (mt (isSome_ofInt m).mp (Nat.not_lt_of_le h))]

theorem toDouble_of_not_large {m : Int} (h : ¬ Double.wholeLimit ≤ m.natAbs) :
    (whole m).toDouble = .ok (Scalar.ofInt m) := by
  rw [toDouble, if_pos ((isSome_ofInt m).mpr (Nat.lt_of_not_le h))]

theorem add_of_clash (h : a.Clash b) : a.add b = .error .tooLarge := by
  cases a with
  | whole m =>
    cases b with
    | whole n => exact h.elim
    | double y =>
      rw [add, toDouble_of_large h]
      · rfl
      · nofun
  | double x =>
    cases b with
    | whole n =>
      rw [add, toDouble_of_large h]
      · rfl
      · nofun
    | double y => exact h.elim

theorem add_of_not_clash (h : ¬ a.Clash b) : a.add b = .ok (a.plus b).asValue := by
  cases a with
  | whole m =>
    cases b with
    | whole n => rfl
    | double y =>
      rw [add, toDouble_of_not_large h]
      · rfl
      · nofun
  | double x =>
    cases b with
    | whole n =>
      rw [add, toDouble_of_not_large h]
      · rfl
      · nofun
    | double y => rfl

end Amount

variable {v w : Value} {a b : Amount}

theorem add_eq (ha : v.amount? = some a) (hb : w.amount? = some b) : (Gauge.add v w : Checked Value) = a.add b := by
  simp only [Gauge.add, ha, hb]

/-! ### Comparisons -/

theorem compare_eq_ok {symbol : String} {holds : Amount → Bool} {answer : Bool} :
    compare symbol holds v = .ok answer ↔ ∃ a, v.amount? = some a ∧ holds a = answer := by
  rw [compare]
  cases v.amount? with
  | none => exact ⟨nofun, fun ⟨_, h, _⟩ => absurd h nofun⟩
  | some a =>
    constructor
    · exact fun h => ⟨a, rfl, Except.ok.inj h⟩
    · rintro ⟨_, ha, rfl⟩
      rw [← Option.some.inj ha]

/-- The value is a number that is not less than zero; no number is less than what is none. -/
def IsNonNegative (v : Value) (a : Amount) : Prop := v.amount? = some a ∧ a.below 0 = false

theorem compare_ne_tooLarge {symbol : String} {holds : Amount → Bool} : compare symbol holds v ≠ .error .tooLarge := by
  rw [compare]
  cases v.amount? <;> nofun

end Value

/-! ### Rules -/

namespace Checked

variable {β γ : Type} {x : Checked β} {f : β → Checked γ}

theorem bind_ne_tooLarge (hx : x ≠ .error .tooLarge) (hf : ∀ b, f b ≠ .error .tooLarge) :
    (x >>= f) ≠ .error .tooLarge := by
  rw [ne_eq, bind_eq_error]
  rintro (h | ⟨b, -, h⟩)
  · exact hx h
  · exact hf b h

/-- A refusal in between is never too large. -/
theorem refusal_ne_tooLarge {rule : SettingRule} {refuses : Bool} {rest : Unit → Checked γ}
    (h : rest () ≠ .error .tooLarge) :
    (if refuses = true then rule.require false >>= rest else rest ()) ≠ .error .tooLarge := by
  cases refuses with
  | false => exact h
  | true => nofun

end Checked

namespace SettingRule

variable {v : Value} {field : String}

theorem require_ne_tooLarge (rule : SettingRule) (holds : Bool) : rule.require holds ≠ .error .tooLarge := by
  rw [require]
  cases holds <;> nofun

theorem checkNonNegative_ne_tooLarge : checkNonNegative field v ≠ .error .tooLarge :=
  Checked.bind_ne_tooLarge Value.compare_ne_tooLarge fun _ => require_ne_tooLarge _ _

theorem checkAtLeastOne_ne_tooLarge : checkAtLeastOne field v ≠ .error .tooLarge :=
  Checked.bind_ne_tooLarge Value.compare_ne_tooLarge fun _ => require_ne_tooLarge _ _

theorem inUnit_ne_tooLarge : (Gauge.inUnit v : Checked Bool) ≠ .error .tooLarge := by
  simp only [Gauge.inUnit]
  cases v.amount? <;> nofun

theorem checkInUnit_ne_tooLarge : checkInUnit field v ≠ .error .tooLarge :=
  Checked.bind_ne_tooLarge inUnit_ne_tooLarge fun _ => require_ne_tooLarge _ _

/-- A setting that passes as not negative is a number. -/
theorem checkNonNegative_value_eq_ok : checkNonNegative field v = .ok () ↔ ∃ a, v.IsNonNegative a := by
  rw [checkNonNegative, bind_eq_ok]
  constructor
  · rintro ⟨answer, hbelow, hrule⟩
    obtain ⟨a, ha, rfl⟩ := Value.compare_eq_ok.mp hbelow
    refine ⟨a, ha, ?_⟩
    cases hanswer : a.below 0 with
    | false => rfl
    | true =>
      rw [hanswer] at hrule
      cases hrule
  · rintro ⟨a, ha, hbelow⟩
    exact ⟨false, Value.compare_eq_ok.mpr ⟨a, ha, hbelow⟩, rfl⟩

theorem checkNonNegative_bind {γ : Type} {f : Unit → Checked γ} :
    (checkNonNegative field v >>= f) = .error .tooLarge ↔ (∃ a, v.IsNonNegative a) ∧ f () = .error .tooLarge := by
  rw [bind_eq_error, or_iff_right checkNonNegative_ne_tooLarge, ← checkNonNegative_value_eq_ok]
  exact ⟨fun ⟨_, hv, hf⟩ => ⟨hv, hf⟩, fun ⟨hv, hf⟩ => ⟨(), hv, hf⟩⟩

end SettingRule

/-! ### Sections -/

open Checked SettingRule

theorem ScoringConfig.check_ne_tooLarge (s : ScoringConfig Value Value) : s.check ≠ .error .tooLarge := by
  refine bind_ne_tooLarge Value.compare_ne_tooLarge fun _ => refusal_ne_tooLarge ?_
  refine bind_ne_tooLarge Value.compare_ne_tooLarge fun _ => refusal_ne_tooLarge ?_
  refine bind_ne_tooLarge checkInUnit_ne_tooLarge fun _ => ?_
  refine bind_ne_tooLarge checkAtLeastOne_ne_tooLarge fun _ => ?_
  exact bind_ne_tooLarge checkAtLeastOne_ne_tooLarge fun _ => checkNonNegative_ne_tooLarge

theorem BlockerThresholds.check_ne_tooLarge (t : BlockerThresholds Value Value) : t.check ≠ .error .tooLarge := by
  refine bind_ne_tooLarge checkAtLeastOne_ne_tooLarge fun _ => ?_
  refine bind_ne_tooLarge checkAtLeastOne_ne_tooLarge fun _ => ?_
  exact bind_ne_tooLarge checkAtLeastOne_ne_tooLarge fun _ => checkInUnit_ne_tooLarge

theorem DriftThresholds.check_ne_tooLarge (t : DriftThresholds Value Value) : t.check ≠ .error .tooLarge := by
  iterate 6 refine bind_ne_tooLarge checkNonNegative_ne_tooLarge fun _ => ?_
  refine bind_ne_tooLarge Value.compare_ne_tooLarge fun _ => ?_
  refine bind_ne_tooLarge (require_ne_tooLarge _ _) fun _ => ?_
  exact bind_ne_tooLarge checkAtLeastOne_ne_tooLarge fun _ => checkNonNegative_ne_tooLarge

namespace VelocityWeights

variable {w : VelocityWeights Value}

/-- The weights are numbers that are not negative, but from the first to the last they cannot be added up. -/
def IsTooLarge (w : VelocityWeights Value) : Prop :=
  ∃ a b c d, w.complexity.IsNonNegative a ∧ w.architecture.IsNonNegative b ∧ w.review.IsNonNegative c ∧
    w.refactoring.IsNonNegative d ∧ (a.Clash b ∨ (a.plus b).Clash c ∨ ((a.plus b).plus c).Clash d)

open Value.Amount in
theorem checkedTotal_eq_tooLarge {a b c d : Value.Amount} (ha : w.complexity.amount? = some a)
    (hb : w.architecture.amount? = some b) (hc : w.review.amount? = some c) (hd : w.refactoring.amount? = some d) :
    w.checkedTotal = .error .tooLarge ↔ a.Clash b ∨ (a.plus b).Clash c ∨ ((a.plus b).plus c).Clash d := by
  have hopened : w.checkedTotal = (do
      let s ← a.add b
      let t ← Gauge.add s w.review
      Gauge.add t w.refactoring) := by
    rw [checkedTotal, Value.add_eq ha hb]
  rw [hopened]
  by_cases hab : a.Clash b
  · rw [add_of_clash hab]
    exact iff_of_true rfl (.inl hab)
  · rw [add_of_not_clash hab, or_iff_right hab]
    show (Gauge.add (a.plus b).asValue w.review >>= fun t => Gauge.add t w.refactoring) = _ ↔ _
    rw [Value.add_eq (amount?_asValue _) hc]
    by_cases habc : (a.plus b).Clash c
    · rw [add_of_clash habc]
      exact iff_of_true rfl (.inl habc)
    · rw [add_of_not_clash habc, or_iff_right habc]
      show Gauge.add ((a.plus b).plus c).asValue w.refactoring = _ ↔ _
      rw [Value.add_eq (amount?_asValue _) hd]
      by_cases habcd : ((a.plus b).plus c).Clash d
      · exact iff_of_true (add_of_clash habcd) habcd
      · rw [add_of_not_clash habcd]
        exact iff_of_false nofun habcd

/-- **The check of the weights fails as too large** exactly if they cannot be added up. -/
theorem check_eq_tooLarge : w.check = .error .tooLarge ↔ w.IsTooLarge := by
  have htotal : (w.checkedTotal >>= fun total => (Gauge.atMost total 0 : Checked Bool) >>= fun zero =>
      SettingRule.someWeight.require !zero) = .error .tooLarge ↔ w.checkedTotal = .error .tooLarge := by
    rw [bind_eq_error]
    refine or_iff_left ?_
    rintro ⟨total, -, h⟩
    exact bind_ne_tooLarge Value.compare_ne_tooLarge (fun _ => require_ne_tooLarge _ _) h
  simp only [check, checkNonNegative_bind, htotal]
  constructor
  · rintro ⟨⟨a, ha⟩, ⟨b, hb⟩, ⟨c, hc⟩, ⟨d, hd⟩, h⟩
    exact ⟨a, b, c, d, ha, hb, hc, hd, (checkedTotal_eq_tooLarge ha.1 hb.1 hc.1 hd.1).mp h⟩
  · rintro ⟨a, b, c, d, ha, hb, hc, hd, h⟩
    exact ⟨⟨a, ha⟩, ⟨b, hb⟩, ⟨c, hc⟩, ⟨d, hd⟩, (checkedTotal_eq_tooLarge ha.1 hb.1 hc.1 hd.1).mpr h⟩

end VelocityWeights

/-! ### Loading a section -/

/-- What fails with a fault that is reported does not fail without a report. -/
theorem LoadFault.not_unreported {β : Type} {reported fault : LoadFault} (h : reported.failure?.isSome = true) :
    ¬ ((.error reported : Loaded β) = .error fault ∧ fault.failure? = none) := by
  rintro ⟨hfault, hnone⟩
  rw [Except.error.inj hfault, hnone] at h
  cases h

namespace SectionName

variable {s : SectionName} {entries : List (Value × Value)}

/-- All keys of a table are names of a section's fields. -/
def Knows (s : SectionName) (entries : List (Value × Value)) : Prop :=
  ∀ e ∈ entries, ∃ field ∈ s.fields, e.1 = .text field.1

theorem checkKeys_eq_ok : s.checkKeys entries = .ok () ↔ s.Knows entries := by
  rw [checkKeys, bind_eq_ok]
  constructor
  · rintro ⟨keys, hkeys, hfind⟩ e he
    obtain ⟨before, after, rfl⟩ := List.append_of_mem he
    obtain ⟨before', key, after', -, hkey, -, rfl⟩ := mapM_around hkeys
    have htext : e.1 = .text key := by
      split at hkey
      · exact congrArg Value.text (Except.ok.inj hkey)
      · cases hkey
    split at hfind
    · cases hfind
    · next hnone =>
      have hknown := List.find?_eq_none.mp hnone key (List.mem_append_right _ List.mem_cons_self)
      rw [Bool.not_eq_true, Bool.not_eq_false', List.any_eq_true] at hknown
      obtain ⟨field, hfield, hname⟩ := hknown
      exact ⟨field, hfield, by rw [htext, eq_of_beq hname]⟩
  · intro hknows
    refine ⟨entries.map fun e => e.1.asText, mapM_eq_ok.mpr ?_, ?_⟩
    · rw [List.forall₂_map_right_iff, List.forall₂_same]
      rintro ⟨k, v⟩ he
      obtain ⟨field, -, rfl⟩ := hknows _ he
      rfl
    · split
      · next key hkey =>
        obtain ⟨e, he, rfl⟩ := List.mem_map.mp (List.mem_of_find?_eq_some hkey)
        obtain ⟨field, hfield, hname⟩ := hknows e he
        have hunknown := List.find?_some hkey
        rw [hname, Bool.not_eq_true', List.any_eq_false] at hunknown
        exact absurd (beq_self_eq_true _) (hunknown field hfield)
      · rfl

theorem checkKeys_ne_tooLarge : s.checkKeys entries ≠ .error .tooLarge := by
  refine bind_ne_tooLarge (fun h => ?_) fun keys => ?_
  · obtain ⟨-, e, -, -, -, he⟩ := mapM_eq_error.mp h
    split at he <;> cases he
  · split <;> nofun

theorem faultOf_unreported {v : Value} {e : SettingFault} : (s.faultOf v e).failure? = none ↔ e = .tooLarge := by
  cases e with
  | tooLarge => exact iff_of_true rfl rfl
  | _ => exact ⟨nofun, nofun⟩

/-- **Loading a section fails without a report** exactly if its check is too large. -/
theorem load_unreported {β : Type} {build : (String → Value → Value) → β} {check : β → Checked Unit} {v : Value}
    {fault : LoadFault} :
    s.load build check v = .error fault ∧ fault.failure? = none ↔
      fault = .tooLarge ∧ ∃ entries, v = .mapping entries ∧ s.Knows entries ∧
        check (build fun name usual => (Value.get? entries name).getD usual) = .error .tooLarge := by
  constructor
  · rintro ⟨h, hsilent⟩
    cases v with
    | mapping entries =>
      obtain ⟨e, he, rfl⟩ := mapError_eq_error.mp h
      obtain rfl := faultOf_unreported.mp hsilent
      obtain ⟨⟨⟩, hkeys, hrest⟩ := (bind_eq_error.mp he).resolve_left checkKeys_ne_tooLarge
      exact ⟨rfl, entries, rfl, checkKeys_eq_ok.mp hkeys, (bind_eq_error.mp hrest).resolve_right nofun⟩
    | record type fields derived =>
      rw [load] at h
      split at h
      · cases h
      · exact absurd ⟨h, hsilent⟩ (LoadFault.not_unreported rfl)
    | _ => exact absurd ⟨h, hsilent⟩ (LoadFault.not_unreported rfl)
  · rintro ⟨rfl, entries, rfl, hknows, hcheck⟩
    refine ⟨?_, rfl⟩
    rw [load]
    refine mapError_eq_error.mpr ⟨.tooLarge, ?_, rfl⟩
    refine bind_eq_error.mpr (.inr ⟨(), checkKeys_eq_ok.mpr hknows, ?_⟩)
    exact bind_eq_error.mpr (.inl hcheck)

/-- A section that can always be checked is loaded, or what is wrong with it is reported. -/
theorem load_reported {β : Type} {build : (String → Value → Value) → β} {check : β → Checked Unit} {v : Value}
    {fault : LoadFault} (hcheck : ∀ x, check x ≠ .error .tooLarge) :
    ¬ (s.load build check v = .error fault ∧ fault.failure? = none) := by
  rw [load_unreported]
  rintro ⟨-, entries, -, -, h⟩
  exact hcheck _ h

end SectionName
end RepoSurvey
