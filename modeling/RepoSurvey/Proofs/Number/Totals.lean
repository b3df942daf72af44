import Mathlib.Data.List.Nodup
import RepoSurvey.Number.Whole

/-!
# Totals by groups

What is counted in groups adds up to what is counted at once.

* `total_filter_key`: a measure of a list is the sum of its measures under the keys of the items.
* `total_filter_comm`: the pairs of a relation are counted by their first members as well as by their second ones.
* `foldl_max_eq_max`: the greatest of some counts.
-/

namespace RepoSurvey

/-! ### Sums over keys -/

section Keys

variable {α κ : Type} [DecidableEq κ] {keys : List κ} {key : α → κ}

/-- A number that stands at one key counts as often as the key is there. -/
theorem total_at_key (k : κ) (n : Nat) :
    total (keys.map fun other => if other = k then n else 0) = keys.count k * n := by
  induction keys with
  | nil => exact (Nat.zero_mul n).symm
  | cons first rest ih =>
    rw [List.map_cons, total_cons, ih, List.count_cons, Nat.add_mul, Nat.add_comm]
    by_cases hfirst : first = k <;> simp [hfirst]

/-- A measure that adds up over a list is the sum of the measures under each of the keys. -/
theorem total_filter_key (hnodup : keys.Nodup) {items : List α} (hcover : ∀ item ∈ items, key item ∈ keys)
    (measure : List α → Nat) (hadd : ∀ xs ys, measure (xs ++ ys) = measure xs + measure ys) :
    total (keys.map fun k => measure (items.filter fun item => decide (key item = k))) = measure items := by
  induction items with
  | nil =>
    have hnil : measure [] = 0 := by
      have h := hadd [] []
      rw [List.append_nil] at h
      omega
    simp only [List.filter_nil, hnil, total_map_zero]
  | cons item rest ih =>
    obtain ⟨hitem, hrest⟩ := List.forall_mem_cons.mp hcover
    have hstep : (fun k => measure ((item :: rest).filter fun other => decide (key other = k))) = fun k =>
        (if k = key item then measure [item] else 0) + measure (rest.filter fun other => decide (key other = k)) := by
      funext k
      rw [List.filter_cons]
      by_cases hk : key item = k
      · rw [if_pos (decide_eq_true hk), if_pos hk.symm, ← hadd, List.singleton_append]
      · rw [if_neg (by simpa using hk), if_neg (Ne.symm hk), Nat.zero_add]
    rw [hstep, total_map_add, total_at_key, List.count_eq_one_of_mem hnodup hitem, Nat.one_mul, ih hrest, ← hadd,
      List.singleton_append]

end Keys

/-! ### Pairs of a relation -/

section Pairs

variable {α β : Type}

theorem total_ite (p : α → Bool) (items : List α) :
    total (items.map fun item => if p item then 1 else 0) = (items.filter p).length := by
  induction items with
  | nil => rfl
  | cons item rest ih =>
    rw [List.map_cons, total_cons, ih, List.filter_cons]
    split
    · rw [List.length_cons, Nat.add_comm]
    · rw [Nat.zero_add]

/-- **The pairs of a relation** are counted row by row as well as column by column. -/
theorem total_filter_comm (related : α → β → Bool) (rows : List α) (columns : List β) :
    total (rows.map fun row => (columns.filter fun column => related row column).length) =
      total (columns.map fun column => (rows.filter fun row => related row column).length) := by
  induction rows with
  | nil => exact (total_map_zero columns).symm
  | cons row rest ih =>
    have hstep : (fun column => ((row :: rest).filter fun r => related r column).length) = fun column =>
        (if related row column then 1 else 0) + (rest.filter fun r => related r column).length := by
      funext column
      rw [List.filter_cons]
      split
      · rw [List.length_cons, Nat.add_comm]
      · rw [Nat.zero_add]
    rw [List.map_cons, total_cons, ih, hstep, total_map_add, total_ite]

end Pairs

/-! ### The greatest count -/

theorem foldl_max_eq_max {counts : List Nat} (hne : counts ≠ []) : counts.foldl max 0 = counts.max hne := by
  obtain ⟨count, rest, rfl⟩ := List.exists_cons_of_ne_nil hne
  rw [List.foldl_cons, Nat.zero_max]
  rfl

end RepoSurvey
