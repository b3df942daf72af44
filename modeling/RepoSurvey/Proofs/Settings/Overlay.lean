import Mathlib.Data.List.Induction

/-!
# One table over another

Settings are put over each other on two levels: the sections of a document by their names, and the fields of a section
by theirs. On both levels a table is a list of keys with values, a test says which keys count as equal, and a rule says
what comes of the lower and the upper value of a key.

* `Overlay.put`, `Overlay.get?`: one entry more, and the value of a key.
* `Overlay.overlay`: the lower table with the entries of the upper one over its own.
* `get?_over`: what is under a key afterwards.
* `over_put`: an entry more in the upper table is an entry more in the whole.
* `over_assoc`: three tables over each other.
-/

namespace RepoSurvey
namespace Overlay

variable {κ β : Type}

/-- A test that equal keys pass; a key need not be equal to itself. -/
structure IsKeyTest (same : κ → κ → Bool) : Prop where
  symm : ∀ {j k}, same j k = true → same k j = true
  trans : ∀ {i j k}, same i j = true → same j k = true → same i k = true

/-- The table with a value for a key: an equal key keeps its place. -/
def put (same : κ → κ → Bool) : List (κ × β) → κ → β → List (κ × β)
  | [], key, value => [(key, value)]
  | (k, old) :: rest, key, value =>
    if same k key then (k, value) :: rest else (k, old) :: put same rest key value

def get? (same : κ → κ → Bool) (t : List (κ × β)) (key : κ) : Option β := (t.find? fun e => same e.1 key).map (·.2)

/-- No two keys count as equal. -/
def Distinct (same : κ → κ → Bool) (t : List (κ × β)) : Prop := t.Pairwise fun e e' => same e.1 e'.1 = false

/-- The lower table with the entries of the upper one over its own. -/
def overlay (same : κ → κ → Bool) (rule : κ → Option β → β → β) (lower upper : List (κ × β)) : List (κ × β) :=
  upper.foldl (fun t e => put same t e.1 (rule e.1 (get? same t e.1) e.2)) lower

/-! ### One entry more -/

section Put

variable {same : κ → κ → Bool} {t : List (κ × β)} {e : κ × β} {i j k : κ} {u v w : β}

theorem get?_cons : get? same (e :: t) k = if same e.1 k then some e.2 else get? same t k := by
  rw [get?, List.find?_cons]
  cases same e.1 k <;> rfl

theorem get?_eq_none : get? same t k = none ↔ ∀ e ∈ t, same e.1 k = false := by
  rw [get?, Option.map_eq_none_iff, List.find?_eq_none]
  simp only [Bool.not_eq_true]

/-- A value that is found under a key stands under an equal one. -/
theorem exists_of_get? (h : get? same t k = some v) : ∃ j, same j k = true ∧ (j, v) ∈ t := by
  obtain ⟨e, hfind, rfl⟩ := Option.map_eq_some_iff.mp h
  exact ⟨e.1, by simpa using List.find?_some hfind, List.mem_of_find?_eq_some hfind⟩

theorem mem_put (h : e ∈ put same t k v) : e ∈ t ∨ e.2 = v ∧ (e.1 = k ∨ same e.1 k = true) := by
  induction t with
  | nil =>
    rw [List.mem_singleton.mp h]
    exact .inr ⟨rfl, .inl rfl⟩
  | cons head rest ih =>
    rw [put] at h
    by_cases hhead : same head.1 k = true
    · rw [if_pos hhead] at h
      rcases List.mem_cons.mp h with rfl | h
      · exact .inr ⟨rfl, .inr hhead⟩
      · exact .inl (List.mem_cons_of_mem _ h)
    · rw [if_neg hhead] at h
      rcases List.mem_cons.mp h with rfl | h
      · exact .inl List.mem_cons_self
      · exact (ih h).imp_left (List.mem_cons_of_mem _)

variable (htest : IsKeyTest same)

include htest

theorem IsKeyTest.congr_left (h : same i j = true) : same i k = same j k :=
  Bool.eq_iff_iff.mpr ⟨htest.trans (htest.symm h), htest.trans h⟩

theorem IsKeyTest.congr_right (h : same j k = true) : same i j = same i k :=
  Bool.eq_iff_iff.mpr ⟨fun hi => htest.trans hi h, fun hi => htest.trans hi (htest.symm h)⟩

theorem get?_congr (h : same j k = true) (t : List (κ × β)) : get? same t j = get? same t k := by
  simp only [get?, htest.congr_right h]

theorem get?_put (t : List (κ × β)) (j k : κ) (v : β) :
    get? same (put same t j v) k = if same j k then some v else get? same t k := by
  induction t with
  | nil => rw [put, get?_cons]
  | cons head rest ih =>
    rw [put, get?_cons]
    by_cases hhead : same head.1 j = true
    · rw [if_pos hhead, get?_cons, htest.congr_left hhead]
      by_cases hj : same j k = true
      · rw [if_pos hj, if_pos hj]
      · rw [if_neg hj, if_neg hj, if_neg hj]
    · rw [if_neg hhead, get?_cons, ih]
      by_cases hk : same head.1 k = true
      · have hj : ¬ same j k = true := fun hj => hhead (htest.trans hk (htest.symm hj))
        rw [if_pos hk, if_neg hj, if_pos hk]
      · rw [if_neg hk, if_neg hk]

theorem put_put (h : same j k = true) (t : List (κ × β)) (v w : β) :
    put same (put same t j v) k w = put same t j w := by
  induction t with
  | nil => rw [put, put, put, if_pos h]
  | cons head rest ih =>
    rw [put, put]
    by_cases hhead : same head.1 j = true
    · rw [if_pos hhead, if_pos hhead, put, if_pos (htest.trans hhead h)]
    · have hk : ¬ same head.1 k = true := fun hk => hhead (htest.trans hk (htest.symm h))
      rw [if_neg hhead, if_neg hhead, put, if_neg hk, ih]

/-- The values of two keys can be set in either order if one of the keys is there already. -/
theorem put_comm (h : same j k = false) (hthere : get? same t j ≠ none) (v w : β) :
    put same (put same t k w) j v = put same (put same t j v) k w := by
  induction t with
  | nil => exact absurd rfl hthere
  | cons head rest ih =>
    rw [put, put]
    by_cases hj : same head.1 j = true
    · have hk : ¬ same head.1 k = true := by rw [htest.congr_left hj, h]; decide
      rw [if_pos hj, if_neg hk, put, put, if_pos hj, if_neg hk]
    · rw [get?_cons, if_neg hj] at hthere
      by_cases hk : same head.1 k = true
      · rw [if_neg hj, if_pos hk, put, put, if_neg hj, if_pos hk]
      · rw [if_neg hj, if_neg hk, put, put, if_neg hj, if_neg hk, ih hthere]

/-- No key after the first one counts as equal to it. -/
theorem get?_rest (h : Distinct same (e :: t)) (hk : same e.1 k = true) : get? same t k = none := by
  rw [get?_eq_none]
  intro e' he'
  rw [Bool.eq_false_iff, ← htest.congr_right hk]
  exact fun hsame => Bool.eq_false_iff.mp ((List.pairwise_cons.mp h).1 e' he') (htest.symm hsame)

theorem distinct_put (h : Distinct same t) : Distinct same (put same t k v) := by
  induction t with
  | nil => exact List.pairwise_singleton _ _
  | cons head rest ih =>
    obtain ⟨hhead, hrest⟩ := List.pairwise_cons.mp h
    rw [put]
    by_cases hk : same head.1 k = true
    · rw [if_pos hk]
      exact List.pairwise_cons.mpr ⟨hhead, hrest⟩
    · rw [if_neg hk]
      refine List.pairwise_cons.mpr ⟨fun e he => ?_, ih hrest⟩
      rw [Bool.not_eq_true] at hk
      rcases mem_put he with he | ⟨-, rfl | he⟩
      · exact hhead e he
      · exact hk
      · rw [htest.congr_right he, hk]

end Put

/-! ### All entries of another table -/

/-- A rule for the values of a key that are `Sound`: a value over none stays as it is, and of three values over each
other it does not matter which two are put together first. -/
structure IsRule (same : κ → κ → Bool) (rule : κ → Option β → β → β) (Sound : κ → β → Prop) : Prop where
  congr : ∀ {j k}, same j k = true → rule j = rule k ∧ Sound j = Sound k
  alone : ∀ k v, rule k none v = v
  sound : ∀ {k u v}, Sound k u → Sound k v → Sound k (rule k (some u) v)
  assoc : ∀ {k u v w}, Sound k u → Sound k v → Sound k w →
    rule k (some (rule k (some u) v)) w = rule k (some u) (rule k (some v) w)

section Over

variable {same : κ → κ → Bool} {rule : κ → Option β → β → β} {Sound : κ → β → Prop}
variable {a b c : List (κ × β)} {j k : κ} {v w : β}

theorem over_cons {e : κ × β} :
    overlay same rule a (e :: b) = overlay same rule (put same a e.1 (rule e.1 (get? same a e.1) e.2)) b := rfl

theorem over_concat {e : κ × β} : overlay same rule a (b ++ [e]) =
    put same (overlay same rule a b) e.1 (rule e.1 (get? same (overlay same rule a b) e.1) e.2) := by
  rw [overlay, List.foldl_append]
  rfl

section KeyTest

variable (htest : IsKeyTest same)

include htest

theorem distinct_over (h : Distinct same a) : Distinct same (overlay same rule a b) := by
  induction b generalizing a with
  | nil => exact h
  | cons e rest ih => exact ih (distinct_put htest h)

/-- A key that is there below and not in the upper table can be set before or after. -/
theorem over_put_left (hthere : get? same a k ≠ none) (hnone : get? same b k = none) (v : β) :
    overlay same rule (put same a k v) b = put same (overlay same rule a b) k v := by
  induction b generalizing a with
  | nil => rfl
  | cons e rest ih =>
    rw [get?_cons] at hnone
    have he : ¬ same e.1 k = true := fun he => by simp [he] at hnone
    rw [if_neg he] at hnone
    have hke : same k e.1 = false := Bool.eq_false_iff.mpr fun h => he (htest.symm h)
    have hthere' : get? same (put same a e.1 (rule e.1 (get? same a e.1) e.2)) k ≠ none := by
      rw [get?_put htest, if_neg he]
      exact hthere
    rw [over_cons, over_cons, get?_put htest, if_neg (by rw [hke]; decide),
      ← put_comm htest hke hthere, ih hthere' hnone]

end KeyTest

section Rule

variable (hrule : IsRule same rule Sound)

include hrule

theorem sound_get? (ha : ∀ e ∈ a, Sound e.1 e.2) (h : get? same a k = some v) : Sound k v := by
  obtain ⟨j, hj, hmem⟩ := exists_of_get? h
  rw [← (hrule.congr hj).2]
  exact ha _ hmem

theorem sound_rule (ha : ∀ e ∈ a, Sound e.1 e.2) (hv : Sound k v) : Sound k (rule k (get? same a k) v) := by
  cases hget : get? same a k with
  | none =>
    rw [hrule.alone]
    exact hv
  | some u => exact hrule.sound (sound_get? hrule ha hget) hv

theorem sound_over (ha : ∀ e ∈ a, Sound e.1 e.2) (hb : ∀ e ∈ b, Sound e.1 e.2) :
    ∀ e ∈ overlay same rule a b, Sound e.1 e.2 := by
  induction b generalizing a with
  | nil => exact ha
  | cons e rest ih =>
    refine ih (fun e' he' => ?_) fun e' he' => hb e' (List.mem_cons_of_mem _ he')
    have hsound := sound_rule hrule ha (hb e List.mem_cons_self)
    rcases mem_put he' with he' | ⟨hvalue, hkey⟩
    · exact ha e' he'
    · rw [hvalue]
      rcases hkey with hkey | hkey
      · rw [hkey]
        exact hsound
      · rw [(hrule.congr hkey).2]
        exact hsound

end Rule

variable (htest : IsKeyTest same) (hrule : IsRule same rule Sound)

include htest hrule

/-- What is under a key: the value of the upper table over that of the lower one. -/
theorem get?_over (hb : Distinct same b) (k : κ) : get? same (overlay same rule a b) k =
    ((get? same b k).map (rule k (get? same a k))).or (get? same a k) := by
  induction b generalizing a with
  | nil => rfl
  | cons e rest ih =>
    rw [over_cons, ih hb.of_cons, get?_put htest, get?_cons]
    by_cases hk : same e.1 k = true
    · rw [if_pos hk, if_pos hk, get?_rest htest hb hk, (hrule.congr hk).1, get?_congr htest hk]
      rfl
    · rw [if_neg hk, if_neg hk]

/-- **An entry more** in the upper table is an entry more in the whole. -/
theorem over_put (hb : Distinct same b) (k : κ) (w : β) :
    overlay same rule a (put same b k w) = put same (overlay same rule a b) k (rule k (get? same a k) w) := by
  induction b generalizing a with
  | nil => rfl
  | cons e rest ih =>
    rw [put]
    by_cases hk : same e.1 k = true
    · -- The key is there: its new value is put over that of the lower table, in its old place.
      have hthere : get? same (put same a e.1 (rule e.1 (get? same a e.1) e.2)) k ≠ none := by
        rw [get?_put htest, if_pos hk]
        exact Option.some_ne_none _
      rw [if_pos hk, over_cons, over_cons, ← over_put_left htest hthere (get?_rest htest hb hk), put_put htest hk,
        (hrule.congr hk).1, get?_congr htest hk]
    · rw [if_neg hk, over_cons, over_cons, ih hb.of_cons, get?_put htest, if_neg hk]

/-- **Three tables over each other**: it does not matter which two are put together first. -/
theorem over_assoc (ha : ∀ e ∈ a, Sound e.1 e.2) (hb : ∀ e ∈ b, Sound e.1 e.2) (hc : ∀ e ∈ c, Sound e.1 e.2)
    (hdistinct : Distinct same b) :
    overlay same rule (overlay same rule a b) c = overlay same rule a (overlay same rule b c) := by
  induction c using List.reverseRecOn with
  | nil => rfl
  | append_singleton rest e ih =>
    have hrest : ∀ e ∈ rest, Sound e.1 e.2 := fun e' he' => hc e' (List.mem_append_left _ he')
    have hmiddle := sound_over hrule hb hrest
    have hlast : Sound e.1 e.2 := hc e (List.mem_append_right _ (List.mem_singleton_self e))
    have hb' : Distinct same (overlay same rule b rest) := distinct_over htest hdistinct
    rw [over_concat, ih hrest, over_concat, over_put htest hrule hb', get?_over htest hrule hb']
    congr 1
    cases hmid : get? same (overlay same rule b rest) e.1 with
    | none => rw [hrule.alone, Option.map_none, Option.none_or]
    | some v =>
      rw [Option.map_some, Option.some_or]
      have hv := sound_get? hrule hmiddle hmid
      cases hlow : get? same a e.1 with
      | none => simp only [hrule.alone]
      | some u => exact hrule.assoc (sound_get? hrule ha hlow) hv hlast

end Over

end Overlay
end RepoSurvey
