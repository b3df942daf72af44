import RepoSurvey.Proofs.Text.Distinct
import RepoSurvey.Table

/-!
# Looking up by a key

* `find?_beq`: the search for a value in a list.
* `find?_key_eq_some`: where keys are distinct, what is found under a key is the one entry with it.
* `find?_key_of_perm`: the order of the entries does not matter then.
* `Table.keys_ofPairs`, `Table.ofPairs_of_nodup`: the keys of a table made of pairs, and pairs of distinct keys.
* `Table.mem_of_mem_ofPairs`: its entries are among the pairs.
-/

namespace RepoSurvey

variable {α κ : Type} [DecidableEq κ]

theorem find?_beq [BEq α] [LawfulBEq α] (l : List α) (t : α) [Decidable (t ∈ l)] :
    l.find? (· == t) = if t ∈ l then some t else none := by
  by_cases ht : t ∈ l
  · have hsome : (l.find? (· == t)).isSome = true := List.find?_isSome.mpr ⟨t, ht, beq_self_eq_true t⟩
    obtain ⟨x, hx⟩ := Option.isSome_iff_exists.mp hsome
    have hxt : (x == t) = true := by simpa using List.find?_some hx
    rw [if_pos ht, hx, eq_of_beq hxt]
  · rw [if_neg ht, List.find?_eq_none]
    exact fun x hx hxt => ht (eq_of_beq hxt ▸ hx)

section DistinctKeys

variable {key : α → κ} {l l' : List α} {k : κ}

/-- Where keys are distinct, what is found under a key is the one entry with it. -/
theorem find?_key_eq_some (hnodup : (l.map key).Nodup) {x : α} :
    l.find? (fun y => decide (key y = k)) = some x ↔ x ∈ l ∧ key x = k := by
  constructor
  · intro h
    exact ⟨List.mem_of_find?_eq_some h, by simpa using List.find?_some h⟩
  · rintro ⟨hx, rfl⟩
    have hsome : (l.find? fun y => decide (key y = key x)).isSome = true :=
      List.find?_isSome.mpr ⟨x, hx, decide_eq_true rfl⟩
    obtain ⟨y, hy⟩ := Option.isSome_iff_exists.mp hsome
    have hkey : key y = key x := by simpa using List.find?_some hy
    rw [hy, List.inj_on_of_nodup_map hnodup (List.mem_of_find?_eq_some hy) hx hkey]

theorem find?_key_of_perm (hnodup : (l.map key).Nodup) (hperm : l.Perm l') :
    l.find? (fun y => decide (key y = k)) = l'.find? fun y => decide (key y = k) := by
  refine Option.ext fun x => ?_
  rw [find?_key_eq_some hnodup, find?_key_eq_some ((hperm.map key).nodup_iff.mp hnodup), hperm.mem_iff]

end DistinctKeys

/-! ### Tables -/

namespace Table

variable {β : Type}

/-- A table in which no key comes up twice holds the value that is got under a key. -/
theorem get?_eq_some {t : Table κ β} (hnodup : (t.map (·.1)).Nodup) {k : κ} {v : β} :
    t.get? k = some v ↔ (k, v) ∈ t := by
  rw [get?, Option.map_eq_some_iff]
  constructor
  · rintro ⟨⟨k', v'⟩, hfind, rfl⟩
    obtain ⟨hmem, rfl⟩ := (find?_key_eq_some hnodup).mp hfind
    exact hmem
  · intro hmem
    exact ⟨(k, v), (find?_key_eq_some hnodup).mpr ⟨hmem, rfl⟩, rfl⟩

theorem keys_put (t : Table κ β) (key : κ) (value : β) :
    (t.put key value).map (·.1) = if key ∈ t.map (·.1) then t.map (·.1) else t.map (·.1) ++ [key] := by
  induction t with
  | nil => rfl
  | cons e rest ih =>
    rw [put]
    by_cases he : e.1 = key
    · rw [if_pos he, if_pos (List.mem_map.mpr ⟨e, List.mem_cons_self, he⟩)]
      rfl
    · have hmem : key ∈ (e :: rest).map (·.1) ↔ key ∈ rest.map (·.1) := by
        rw [List.map_cons, List.mem_cons]
        exact or_iff_right (Ne.symm he)
      rw [if_neg he, List.map_cons, ih]
      by_cases hkey : key ∈ rest.map (·.1)
      · rw [if_pos hkey, if_pos (hmem.mpr hkey)]
        rfl
      · rw [if_neg hkey, if_neg fun h => hkey (hmem.mp h)]
        rfl

theorem ofPairs_concat (pairs : List (κ × β)) (e : κ × β) : ofPairs (pairs ++ [e]) = (ofPairs pairs).put e.1 e.2 := by
  rw [ofPairs, List.foldl_append]
  rfl

/-- The keys of a table are those of its pairs in order of first appearance. -/
theorem keys_ofPairs [BEq κ] [LawfulBEq κ] (pairs : List (κ × β)) :
    (ofPairs pairs).map (·.1) = (pairs.map (·.1)).eraseDups := by
  induction pairs using List.reverseRecOn with
  | nil => rfl
  | append_singleton rest e ih =>
    rw [ofPairs_concat, keys_put, ih, List.map_append, List.map_singleton, eraseDups_concat]
    by_cases he : e.1 ∈ rest.map (·.1)
    · rw [if_pos (List.mem_eraseDups.mpr he), if_pos he]
    · rw [if_neg fun h => he (List.mem_eraseDups.mp h), if_neg he]

/-- Pairs of distinct keys are a table already. -/
theorem ofPairs_of_nodup {pairs : List (κ × β)} (hnodup : (pairs.map (·.1)).Nodup) : ofPairs pairs = pairs := by
  induction pairs using List.reverseRecOn with
  | nil => rfl
  | append_singleton rest e ih =>
    rw [List.map_append, List.map_singleton] at hnodup
    obtain ⟨hrest, -, hapart⟩ := List.nodup_append.mp hnodup
    have hfresh : e.1 ∉ rest.map (·.1) := fun he => hapart e.1 he e.1 (List.mem_singleton_self _) rfl
    rw [ofPairs_concat, ih hrest, put_of_not_mem hfresh]

/-- A table made of pairs has entries among them. -/
theorem mem_of_mem_ofPairs {pairs : List (κ × β)} {e : κ × β} (h : e ∈ ofPairs pairs) :
    e ∈ pairs := by
  have hnodup : ((ofPairs pairs).map (·.1)).Nodup := by
    rw [keys_ofPairs]
    exact nodup_eraseDups _
  have hget := (get?_eq_some hnodup).mpr h
  rw [get?_ofPairs] at hget
  obtain ⟨e', hfind, hvalue⟩ := Option.map_eq_some_iff.mp hget
  have hkey : e'.1 = e.1 := by simpa using List.find?_some hfind
  rw [← Prod.ext hkey hvalue]
  exact List.mem_reverse.mp (List.mem_of_find?_eq_some hfind)

end Table

end RepoSurvey
