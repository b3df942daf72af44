import RepoSurvey.Number.Numeral

/-!
# The limit on digits

* `Numeral.checked numbers value`: a value that takes some numbers to work out, unless one of them has too many digits.
* `checked_bind`, `mapM_checked`: where several such values are worked out one after the other, the first number with
  too many digits counts.
-/

namespace RepoSurvey
namespace Numeral

variable {β γ : Type}

/-- Whether a number has more digits than a whole number may be written with. -/
def isLong (digits : List Char) : Bool := decide (digitLimit < digits.length)

/-- A value that takes some numbers to work out, given by their digits; the first one with too many stands against it. -/
def checked (numbers : List (List Char)) (value : γ) : Except ExcessDigits γ :=
  match numbers.find? isLong with
  | some digits => .error ⟨digits.length⟩
  | none => .ok value

variable (numbers others : List (List Char)) (digits : List Char) (value : β) (next : γ)

theorem ofDigits_eq : ofDigits digits = checked [digits] (Text.numberOf digits) := by
  rw [ofDigits, checked, List.find?_cons, List.find?_nil]
  by_cases h : digitLimit < digits.length <;> simp [isLong, h]

/-- After one value another one is worked out from the numbers that follow. -/
theorem checked_bind {f : β → Except ExcessDigits γ} (h : f value = checked others next) :
    (checked numbers value >>= f) = checked (numbers ++ others) next := by
  rw [checked, checked, List.find?_append]
  cases numbers.find? isLong with
  | some digits => rfl
  | none =>
    rw [Option.none_or, ← checked]
    exact h

theorem checked_bind_pure (f : β → γ) :
    (checked numbers value >>= fun v => pure (f v)) = checked numbers (f value) := by
  have h := checked_bind numbers [] value (f value) (f := fun v => pure (f v)) rfl
  rwa [List.append_nil] at h

theorem mapM_checked (numbers : β → List (List Char)) (value : β → γ) (items : List β) :
    items.mapM (fun item => checked (numbers item) (value item)) =
      checked (items.flatMap numbers) (items.map value) := by
  induction items with
  | nil => rfl
  | cons item rest ih =>
    rw [List.mapM_cons, List.flatMap_cons, List.map_cons, ih]
    exact checked_bind _ _ _ _ (checked_bind_pure _ _ _)

end Numeral
end RepoSurvey
