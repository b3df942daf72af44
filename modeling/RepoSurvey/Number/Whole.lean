/-!
# Powers and sums of whole numbers

The exact arithmetic under doubles, decimals and tallies.

* `pow2`, `pow10`: the powers of two and of ten.
* `total`, `signedTotal`: the sum of natural numbers, and of integers.
* `total_append`, `signedTotal_append`: the sum of two lists end to end is the sum of their sums.
* `total_of_perm`, `total_of_sublist`, `total_map_le`: a sum in another order, of fewer numbers, and of smaller ones.
* `total_map_add`, `total_flatMap`, `signedTotal_natCast`: a sum term by term, a sum of sums, and one of natural numbers
  among the integers.
-/

namespace RepoSurvey

/-- Two to the power `e`: the number of values that `e` bits hold. -/
def pow2 (e : Nat) : Nat := Nat.pow 2 e

/-- Ten to the power `e`: the scale of a decimal with `e` places. -/
def pow10 (e : Nat) : Nat := Nat.pow 10 e

/-- The sum of natural numbers. -/
def total (counts : List Nat) : Nat := counts.foldr (· + ·) 0

/-- The sum of integers. -/
def signedTotal (numbers : List Int) : Int := numbers.foldr (· + ·) 0

theorem total_nil : total [] = 0 := rfl

theorem total_cons (n : Nat) (rest : List Nat) : total (n :: rest) = n + total rest := rfl

theorem total_append (a b : List Nat) : total (a ++ b) = total a + total b := by
  induction a with
  | nil => exact (Nat.zero_add _).symm
  | cons n rest ih =>
    rw [List.cons_append, total_cons, total_cons, ih, Nat.add_assoc]

theorem total_of_perm {a b : List Nat} (h : a.Perm b) : total a = total b := by
  induction h with
  | nil => rfl
  | cons n _ ih => rw [total_cons, total_cons, ih]
  | swap m n rest =>
    simp only [total_cons]
    omega
  | trans _ _ ih ih' => rw [ih, ih']

theorem total_of_sublist {a b : List Nat} (h : a.Sublist b) : total a ≤ total b := by
  induction h with
  | slnil => exact Nat.le_refl _
  | cons n _ ih =>
    rw [total_cons]
    omega
  | cons_cons n _ ih =>
    rw [total_cons, total_cons]
    omega

theorem total_map_le {α : Type} {items : List α} {small large : α → Nat}
    (h : ∀ item ∈ items, small item ≤ large item) : total (items.map small) ≤ total (items.map large) := by
  induction items with
  | nil => exact Nat.le_refl _
  | cons item rest ih =>
    have hitem := h item List.mem_cons_self
    have hrest := ih fun other hother => h other (List.mem_cons_of_mem item hother)
    rw [List.map_cons, List.map_cons, total_cons, total_cons]
    omega

theorem total_map_zero {α : Type} (items : List α) : total (items.map fun _ => 0) = 0 := by
  induction items with
  | nil => rfl
  | cons item rest ih => rw [List.map_cons, total_cons, ih]

theorem total_map_add {α : Type} (f g : α → Nat) (items : List α) :
    total (items.map fun item => f item + g item) = total (items.map f) + total (items.map g) := by
  induction items with
  | nil => rfl
  | cons item rest ih =>
    simp only [List.map_cons, total_cons, ih]
    omega

theorem total_flatMap {α : Type} (counts : α → List Nat) (items : List α) :
    total (items.flatMap counts) = total (items.map fun item => total (counts item)) := by
  induction items with
  | nil => rfl
  | cons item rest ih => rw [List.flatMap_cons, List.map_cons, total_append, total_cons, ih]

theorem signedTotal_append (a b : List Int) : signedTotal (a ++ b) = signedTotal a + signedTotal b := by
  induction a with
  | nil => exact (Int.zero_add _).symm
  | cons n rest ih =>
    have step : signedTotal (n :: rest ++ b) = n + signedTotal (rest ++ b) := rfl
    have opened : signedTotal (n :: rest) = n + signedTotal rest := rfl
    rw [step, opened, ih, Int.add_assoc]

theorem signedTotal_natCast {α : Type} (count : α → Nat) (items : List α) :
    signedTotal (items.map fun item => (count item : Int)) = total (items.map count) := by
  induction items with
  | nil => rfl
  | cons item rest ih =>
    have opened : signedTotal ((item :: rest).map fun item => (count item : Int)) =
        count item + signedTotal (rest.map fun item => (count item : Int)) := rfl
    rw [opened, ih, List.map_cons, total_cons, Int.natCast_add]

end RepoSurvey
