/-!
# Tables in order of insertion

A table is a list of keys with values, each key once. A key that is set again keeps its place and takes the new value.

* `Table.put`, `Table.erase`: sets the value of a key, and removes a key.
* `get?_put`, `get?_erase`: what is under a key afterwards.
* `Table.ofPairs`: the table of some pairs: of several values of one key the last (`get?_ofPairs`), in the place of the
  first.
-/

namespace RepoSurvey

abbrev Table (κ β : Type) := List (κ × β)

namespace Table

variable {κ β : Type} [DecidableEq κ]

def get? (t : Table κ β) (key : κ) : Option β := (t.find? fun e => decide (e.1 = key)).map (·.2)

def contains (t : Table κ β) (key : κ) : Bool := (get? t key).isSome

/-- The table with a value for a key. -/
def put : Table κ β → κ → β → Table κ β
  | [], key, value => [(key, value)]
  | (k, v) :: rest, key, value => if k = key then (k, value) :: rest else (k, v) :: put rest key value

/-- The table without a key. -/
def erase (t : Table κ β) (key : κ) : Table κ β := t.filter fun e => decide (e.1 ≠ key)

def ofPairs (pairs : List (κ × β)) : Table κ β := pairs.foldl (fun t e => put t e.1 e.2) []

theorem get?_put (t : Table κ β) (key other : κ) (value : β) :
    get? (put t key value) other = if key = other then some value else get? t other := by
  induction t with
  | nil => by_cases h : key = other <;> simp [put, get?, h]
  | cons e rest ih =>
    obtain ⟨k, v⟩ := e
    by_cases hk : k = key
    · by_cases h : key = other <;> simp_all [put, get?]
    · by_cases h : k = other
      · subst h
        simp [put, get?, hk, Ne.symm hk]
      · have step := ih
        simp only [get?] at step
        simp [put, get?, hk, h, step]

theorem get?_erase (t : Table κ β) (key other : κ) :
    get? (erase t key) other = if key = other then none else get? t other := by
  rw [get?, erase, List.find?_filter]
  by_cases h : key = other
  · have hnone : t.find? (fun e => decide (decide (e.1 ≠ key) = true ∧ decide (e.1 = other) = true)) = none := by
      rw [List.find?_eq_none]
      intro e _
      simp [h]
    rw [hnone, if_pos h, Option.map_none]
  · have hsame : (fun e : κ × β => decide (decide (e.1 ≠ key) = true ∧ decide (e.1 = other) = true)) =
        fun e => decide (e.1 = other) := by
      funext e
      by_cases he : e.1 = other
      · simp [he, Ne.symm h]
      · simp [he]
    rw [hsame, if_neg h, get?]

theorem get?_foldl_put (pairs : List (κ × β)) (t : Table κ β) (key : κ) :
    get? (pairs.foldl (fun t e => put t e.1 e.2) t) key =
      ((pairs.reverse.find? fun e => decide (e.1 = key)).map (·.2)).or (get? t key) := by
  induction pairs generalizing t with
  | nil => rfl
  | cons e rest ih =>
    rw [List.foldl_cons, ih, get?_put, List.reverse_cons, List.find?_append]
    cases rest.reverse.find? fun e => decide (e.1 = key) with
    | some last => rfl
    | none => by_cases h : e.1 = key <;> simp [h]

/-- Of several values of one key the last is in the table. -/
theorem get?_ofPairs (pairs : List (κ × β)) (key : κ) :
    get? (ofPairs pairs) key = (pairs.reverse.find? fun e => decide (e.1 = key)).map (·.2) := by
  rw [ofPairs, get?_foldl_put]
  exact Option.or_none

/-! ### A key that is not in the table, and the last key -/

section

variable {t : Table κ β} {key : κ}

theorem put_of_not_mem (h : key ∉ t.map (·.1)) (value : β) : put t key value = t ++ [(key, value)] := by
  induction t with
  | nil => rfl
  | cons e rest ih =>
    simp only [List.map_cons, List.mem_cons, not_or] at h
    rw [put, if_neg (Ne.symm h.1), ih h.2, List.cons_append]

theorem put_concat (h : key ∉ t.map (·.1)) (old value : β) :
    put (t ++ [(key, old)]) key value = t ++ [(key, value)] := by
  induction t with
  | nil => simp [put]
  | cons e rest ih =>
    simp only [List.map_cons, List.mem_cons, not_or] at h
    rw [List.cons_append, put, if_neg (Ne.symm h.1), ih h.2, List.cons_append]

theorem get?_of_not_mem (h : key ∉ t.map (·.1)) : get? t key = none := by
  have hnone : t.find? (fun e => decide (e.1 = key)) = none := by
    rw [List.find?_eq_none]
    intro e he hkey
    exact h (List.mem_map.mpr ⟨e, he, of_decide_eq_true hkey⟩)
  rw [get?, hnone, Option.map_none]

theorem get?_concat (h : key ∉ t.map (·.1)) (value : β) : get? (t ++ [(key, value)]) key = some value := by
  rw [← put_of_not_mem h, get?_put, if_pos rfl]

end

end Table
end RepoSurvey
