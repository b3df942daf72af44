import Mathlib.Data.List.Forall2

/-!
# Things that can fail

* `bind_eq_ok`, `mapError_eq_ok`: when what is done in two steps succeeds, and what is reported under another error.
* `bind_eq_error`, `mapError_eq_error`: when it fails.
* `map_bind_congr`, `map_mapError_congr`: steps of which a part of the outcome is told alike.
* `mapM_error`, `mapM_ok`: a list whose items are worked on one after the other fails with the first error, and else
  yields every value.
* `mapM_eq_ok`, `exists_of_mem_mapM`: it succeeds if every item does, and every value comes of an item.
* `mapM_eq_error`, `foldlM_eq_error`: a list, or a run over it, fails at the first item that does.
* `mapM_around`, `mapM_replaced`: what comes of one item and of those around it, and of another item in its place.
* `mapM_of_perm`: in another order it yields the same values in another order.
-/

namespace RepoSurvey

variable {ε β γ : Type}

/-- Two steps succeed if the first one does, and the second one on its value. -/
theorem bind_eq_ok {x : Except ε β} {f : β → Except ε γ} {value : γ} :
    (x >>= f) = .ok value ↔ ∃ b, x = .ok b ∧ f b = .ok value := by
  cases x with
  | error e => exact ⟨nofun, fun ⟨_, h, _⟩ => absurd h nofun⟩
  | ok b =>
    constructor
    · exact fun h => ⟨b, rfl, h⟩
    · rintro ⟨b', hb, h⟩
      rw [Except.ok.inj hb]
      exact h

/-- Two steps fail if the first one does, or the second one on its value. -/
theorem bind_eq_error {x : Except ε β} {f : β → Except ε γ} {e : ε} :
    (x >>= f) = .error e ↔ x = .error e ∨ ∃ b, x = .ok b ∧ f b = .error e := by
  cases x with
  | error e' =>
    constructor
    · exact fun h => .inl (congrArg Except.error (Except.error.inj h))
    · rintro (h | ⟨_, h, _⟩)
      · exact congrArg Except.error (Except.error.inj h)
      · cases h
  | ok b =>
    constructor
    · exact fun h => .inr ⟨b, rfl, h⟩
    · rintro (h | ⟨b', hb, h⟩)
      · cases h
      · rw [Except.ok.inj hb]
        exact h

/-- What is built of a value fails where the value does. -/
theorem bind_pure_eq_error {x : Except ε β} {f : β → γ} {e : ε} :
    (x >>= fun b => pure (f b)) = .error e ↔ x = .error e := by
  rw [bind_eq_error]
  exact ⟨fun h => h.resolve_right nofun, .inl⟩

/-- Another error in place of the one reported changes no success. -/
theorem mapError_eq_ok {ε' : Type} {x : Except ε γ} {g : ε → ε'} {value : γ} :
    x.mapError g = .ok value ↔ x = .ok value := by
  cases x with
  | error e => exact ⟨nofun, nofun⟩
  | ok b => exact ⟨fun h => congrArg Except.ok (Except.ok.inj h), fun h => congrArg Except.ok (Except.ok.inj h)⟩

theorem mapError_eq_error {ε' : Type} {x : Except ε γ} {g : ε → ε'} {e' : ε'} :
    x.mapError g = .error e' ↔ ∃ e, x = .error e ∧ g e = e' := by
  cases x with
  | error e =>
    constructor
    · exact fun h => ⟨e, rfl, Except.error.inj h⟩
    · rintro ⟨_, h, rfl⟩
      rw [Except.error.inj h]
      rfl
  | ok b => exact ⟨nofun, fun ⟨_, h, _⟩ => absurd h nofun⟩

/-- Two second steps, of whose values the same is told, are told alike after any first step. -/
theorem map_bind_congr {δ : Type} {x : Except ε β} {f g : β → Except ε γ} {told : γ → δ}
    (h : ∀ b, (f b).map told = (g b).map told) : (x >>= f).map told = (x >>= g).map told := by
  cases x with
  | error e => rfl
  | ok b => exact h b

/-- The same for a step that cannot fail, and whose errors are reported under other ones. -/
theorem map_mapError_congr {δ ε' : Type} {x : Except ε β} {f g : β → γ} {report : ε → ε'} {told : γ → δ}
    (h : ∀ b, told (f b) = told (g b)) :
    ((x.map f).mapError report).map told = ((x.map g).mapError report).map told := by
  cases x with
  | error e => rfl
  | ok b => exact congrArg Except.ok (h b)

/-- The error, if there is one. -/
def errorOf? : Except ε γ → Option ε
  | .error e => some e
  | .ok _ => none

variable {f : β → Except ε γ} {items items' : List β}

theorem mapM_error {e : ε} (h : (items.findSome? fun item => errorOf? (f item)) = some e) :
    items.mapM f = .error e := by
  induction items with
  | nil => simp at h
  | cons item rest ih =>
    rw [List.mapM_cons]
    rw [List.findSome?_cons] at h
    cases hf : f item with
    | error e' =>
      rw [hf] at h
      obtain rfl := Option.some.inj h
      rfl
    | ok value =>
      rw [hf] at h
      rw [ih h]
      rfl

theorem mapM_ok (h : (items.findSome? fun item => errorOf? (f item)) = none) :
    items.mapM f = .ok (items.filterMap fun item => (f item).toOption) := by
  induction items with
  | nil => rfl
  | cons item rest ih =>
    rw [List.mapM_cons, List.filterMap_cons]
    rw [List.findSome?_cons] at h
    cases hf : f item with
    | error e' =>
      rw [hf] at h
      exact absurd h (by simp [errorOf?])
    | ok value =>
      rw [hf] at h
      rw [ih h]
      rfl

theorem mapM_eq_ok {values : List γ} :
    items.mapM f = .ok values ↔ List.Forall₂ (fun item value => f item = .ok value) items values := by
  induction items generalizing values with
  | nil =>
    rw [List.forall₂_nil_left_iff]
    exact ⟨fun h => (Except.ok.inj h).symm, fun h => congrArg Except.ok h.symm⟩
  | cons item rest ih =>
    rw [List.forall₂_cons_left_iff, List.mapM_cons]
    constructor
    · intro h
      cases hitem : f item with
      | error e =>
        rw [hitem] at h
        cases h
      | ok value =>
        cases hrest : rest.mapM f with
        | error e =>
          rw [hitem, hrest] at h
          cases h
        | ok others =>
          rw [hitem, hrest] at h
          exact ⟨value, others, rfl, ih.mp hrest, (Except.ok.inj h).symm⟩
    · rintro ⟨value, others, hitem, hrest, rfl⟩
      rw [hitem, ih.mpr hrest]
      rfl

/-- A list fails with the error of an item before which every one succeeds. -/
theorem mapM_eq_error {e : ε} :
    items.mapM f = .error e ↔
      ∃ before item after, items = before ++ item :: after ∧ (∀ x ∈ before, ∃ value, f x = .ok value) ∧
        f item = .error e := by
  have herror : items.mapM f = .error e ↔ (items.findSome? fun item => errorOf? (f item)) = some e := by
    constructor
    · intro h
      cases hfirst : items.findSome? fun item => errorOf? (f item) with
      | none =>
        rw [mapM_ok hfirst] at h
        cases h
      | some e' =>
        rw [mapM_error hfirst] at h
        rw [Except.error.inj h]
    · exact mapM_error
  have hsome : ∀ {x : Except ε γ}, errorOf? x = some e ↔ x = .error e := by
    rintro (e' | value)
    · exact ⟨fun h => congrArg Except.error (Option.some.inj h), fun h => congrArg some (Except.error.inj h)⟩
    · exact ⟨nofun, nofun⟩
  have hnone : ∀ {x : Except ε γ}, errorOf? x = none ↔ ∃ value, x = .ok value := by
    rintro (e' | value)
    · exact ⟨nofun, nofun⟩
    · exact ⟨fun _ => ⟨value, rfl⟩, fun _ => rfl⟩
  rw [herror, List.findSome?_eq_some_iff]
  simp only [hsome, hnone]
  constructor
  · rintro ⟨before, item, after, rfl, hitem, hbefore⟩
    exact ⟨before, item, after, rfl, hbefore, hitem⟩
  · rintro ⟨before, item, after, rfl, hbefore, hitem⟩
    exact ⟨before, item, after, rfl, hitem, hbefore⟩

/-- A run over a list fails with the error of a step up to which all steps succeed. -/
theorem foldlM_eq_error {σ : Type} {step : σ → β → Except ε σ} {s : σ} {e : ε} :
    items.foldlM step s = .error e ↔
      ∃ before item after s', items = before ++ item :: after ∧ before.foldlM step s = .ok s' ∧
        step s' item = .error e := by
  induction items generalizing s with
  | nil =>
    refine ⟨nofun, fun ⟨before, item, after, _, hsplit, _⟩ => ?_⟩
    exact absurd hsplit.symm (List.append_ne_nil_of_right_ne_nil before (List.cons_ne_nil item after))
  | cons x rest ih =>
    rw [List.foldlM_cons, bind_eq_error]
    constructor
    · rintro (hx | ⟨s₁, hx, hrest⟩)
      · exact ⟨[], x, rest, s, rfl, rfl, hx⟩
      · obtain ⟨before, item, after, s', rfl, hbefore, hitem⟩ := ih.mp hrest
        refine ⟨x :: before, item, after, s', rfl, ?_, hitem⟩
        rw [List.foldlM_cons]
        exact bind_eq_ok.mpr ⟨s₁, hx, hbefore⟩
    · rintro ⟨before, item, after, s', hsplit, hbefore, hitem⟩
      cases before with
      | nil =>
        obtain ⟨rfl, rfl⟩ := List.cons.inj hsplit
        rw [← Except.ok.inj hbefore] at hitem
        exact .inl hitem
      | cons y before =>
        obtain ⟨rfl, rfl⟩ := List.cons.inj hsplit
        rw [List.foldlM_cons] at hbefore
        obtain ⟨s₁, hx, hbefore⟩ := bind_eq_ok.mp hbefore
        exact .inr ⟨s₁, hx, ih.mpr ⟨before, item, after, s', rfl, hbefore, hitem⟩⟩

/-- Every value comes of an item. -/
theorem exists_of_mem_mapM {values : List γ} (h : items.mapM f = .ok values) {value : γ} (hmem : value ∈ values) :
    ∃ item ∈ items, f item = .ok value := by
  have hpairs := mapM_eq_ok.mp h
  induction hpairs generalizing value with
  | nil => exact absurd hmem List.not_mem_nil
  | cons hhead hrest ih =>
    rcases List.mem_cons.mp hmem with rfl | hmem
    · exact ⟨_, List.mem_cons_self, hhead⟩
    · obtain ⟨item, hitem, hvalue⟩ := ih (mapM_eq_ok.mpr hrest) hmem
      exact ⟨item, List.mem_cons_of_mem _ hitem, hvalue⟩

/-- What succeeds on a list does so before, on and behind each of its items. -/
theorem mapM_around {before after : List β} {item : β} {values : List γ}
    (h : (before ++ item :: after).mapM f = .ok values) :
    ∃ before' value after', before.mapM f = .ok before' ∧ f item = .ok value ∧ after.mapM f = .ok after' ∧
      values = before' ++ value :: after' := by
  rw [List.mapM_append, List.mapM_cons] at h
  cases hbefore : before.mapM f with
  | error e =>
    rw [hbefore] at h
    cases h
  | ok before' =>
    cases hitem : f item with
    | error e =>
      rw [hbefore, hitem] at h
      cases h
    | ok value =>
      cases hafter : after.mapM f with
      | error e =>
        rw [hbefore, hitem, hafter] at h
        cases h
      | ok after' =>
        rw [hbefore, hitem, hafter] at h
        exact ⟨before', value, after', rfl, rfl, rfl, (Except.ok.inj h).symm⟩

/-- Lists that succeed and differ in one item differ in what comes of it, if at all. -/
theorem mapM_replaced {before after : List β} {item item' : β} {values values' : List γ}
    (h : (before ++ item :: after).mapM f = .ok values) (h' : (before ++ item' :: after).mapM f = .ok values') :
    ∃ value value', f item = .ok value ∧ f item' = .ok value' ∧ (values = values' ↔ value = value') := by
  obtain ⟨others, value, others', hothers, hitem, hothers', rfl⟩ := mapM_around h
  obtain ⟨same, value', same', hsame, hitem', hsame', rfl⟩ := mapM_around h'
  obtain rfl := Except.ok.inj (hothers.symm.trans hsame)
  obtain rfl := Except.ok.inj (hothers'.symm.trans hsame')
  refine ⟨value, value', hitem, hitem', ?_⟩
  rw [List.append_cancel_left_eq, List.cons.injEq, and_iff_left rfl]

/-- What succeeds has met no error. -/
theorem findSome?_errorOf? {values : List γ} (h : items.mapM f = .ok values) :
    (items.findSome? fun item => errorOf? (f item)) = none := by
  cases herror : items.findSome? fun item => errorOf? (f item) with
  | none => rfl
  | some e =>
    rw [mapM_error herror] at h
    cases h

/-- In another order the same values come in another order. -/
theorem mapM_of_perm (hperm : items.Perm items') {values : List γ} (h : items.mapM f = .ok values) :
    ∃ values', items'.mapM f = .ok values' ∧ values.Perm values' := by
  have hnone := findSome?_errorOf? h
  have hnone' : (items'.findSome? fun item => errorOf? (f item)) = none :=
    List.findSome?_eq_none_iff.mpr fun item hitem =>
      List.findSome?_eq_none_iff.mp hnone item (hperm.mem_iff.mpr hitem)
  refine ⟨_, mapM_ok hnone', ?_⟩
  rw [mapM_ok hnone] at h
  obtain rfl := Except.ok.inj h
  exact hperm.filterMap _

end RepoSurvey
