import RepoSurvey.History.Diff

/-!
# Sections of lines

* `sections_flatMap`: sections written one after the other are found again.
* `sections_eq_nil`: there is no section where there is no header.
* `sections_append_of_last`: lines that follow go to the last section up to their first header.
* `sections_sublist`: the lines of a section are among the lines that were cut.
-/

namespace RepoSurvey

section Sections

variable {β γ : Type} {header? : List Char → Option β} {line : List Char} {before xs : List (List Char)}
  {b : β} {found : List (β × List (List Char))}

theorem sections_cons_header (h : header? line = some b) (rest : List (List Char)) :
    sections header? (line :: rest) = ([], (b, (sections header? rest).1) :: (sections header? rest).2) := by
  rw [sections]
  simp only [h]

theorem sections_cons_other (h : header? line = none) (rest : List (List Char)) :
    sections header? (line :: rest) = (line :: (sections header? rest).1, (sections header? rest).2) := by
  rw [sections]
  simp only [h]

theorem sections_headless_append (h : ∀ line ∈ before, header? line = none) (rest : List (List Char)) :
    sections header? (before ++ rest) = (before ++ (sections header? rest).1, (sections header? rest).2) := by
  induction before with
  | nil => rfl
  | cons line before ih =>
    rw [List.cons_append, sections_cons_other (h line List.mem_cons_self),
      ih fun other hother => h other (List.mem_cons_of_mem line hother), List.cons_append]

theorem sections_headless (h : ∀ line ∈ before, header? line = none) : sections header? before = (before, []) := by
  have happend := sections_headless_append h []
  rwa [List.append_nil, sections, List.append_nil] at happend

/-- Sections written one after the other are found again. -/
theorem sections_flatMap {items : List γ} {head : γ → List Char} {value : γ → β} {below : γ → List (List Char)}
    (hhead : ∀ item ∈ items, header? (head item) = some (value item))
    (hbelow : ∀ item ∈ items, ∀ line ∈ below item, header? line = none) :
    sections header? (items.flatMap fun item => head item :: below item) =
      ([], items.map fun item => (value item, below item)) := by
  induction items with
  | nil => rfl
  | cons item rest ih =>
    have hrest := ih (fun other hother => hhead other (List.mem_cons_of_mem item hother))
      fun other hother => hbelow other (List.mem_cons_of_mem item hother)
    rw [List.flatMap_cons, List.cons_append, sections_cons_header (hhead item List.mem_cons_self),
      sections_headless_append (hbelow item List.mem_cons_self), hrest, List.append_nil, List.map_cons]

/-- There is no section where there is no header. -/
theorem sections_eq_nil : (sections header? xs).2 = [] ↔ ∀ line ∈ xs, header? line = none := by
  constructor
  · intro h
    induction xs with
    | nil => simp
    | cons line rest ih =>
      cases hline : header? line with
      | some b =>
        rw [sections_cons_header hline] at h
        cases h
      | none =>
        rw [sections_cons_other hline] at h
        exact List.forall_mem_cons.mpr ⟨hline, ih h⟩
  · intro h
    rw [sections_headless h]

/-- Lines that follow go to the last section up to their first header. -/
theorem sections_append_of_last {lines : List (List Char)} (h : (sections header? xs).2 = found ++ [(b, lines)])
    (ys : List (List Char)) :
    sections header? (xs ++ ys) = ((sections header? xs).1,
      found ++ (b, lines ++ (sections header? ys).1) :: (sections header? ys).2) := by
  induction xs generalizing found with
  | nil => simp [sections] at h
  | cons line rest ih =>
    cases hline : header? line with
    | none =>
      rw [sections_cons_other hline] at h
      rw [List.cons_append, sections_cons_other hline, sections_cons_other hline, ih h]
    | some b' =>
      rw [sections_cons_header hline] at h
      rw [List.cons_append, sections_cons_header hline, sections_cons_header hline]
      cases found with
      | nil =>
        -- the header of this line is the only one
        obtain ⟨⟨rfl, rfl⟩, hnil⟩ : (b' = b ∧ (sections header? rest).1 = lines) ∧ (sections header? rest).2 = [] := by
          simpa using h
        have hrest := sections_eq_nil.mp hnil
        rw [sections_headless_append hrest, sections_headless hrest, List.nil_append]
      | cons first found =>
        rw [List.cons_append] at h
        obtain ⟨rfl, htail⟩ := List.cons.inj h
        rw [ih htail, List.cons_append]

/-- The lines of a section are among the lines that were cut, in their order. -/
theorem sections_sublist (xs : List (List Char)) :
    (sections header? xs).1.Sublist xs ∧ ∀ entry ∈ (sections header? xs).2, entry.2.Sublist xs := by
  induction xs with
  | nil => exact ⟨List.Sublist.refl _, fun entry hentry => absurd hentry List.not_mem_nil⟩
  | cons line rest ih =>
    obtain ⟨hfirst, hlater⟩ := ih
    cases hline : header? line with
    | none =>
      rw [sections_cons_other hline]
      exact ⟨hfirst.cons_cons line, fun entry hentry => (hlater entry hentry).cons line⟩
    | some b =>
      rw [sections_cons_header hline]
      refine ⟨List.nil_sublist _, List.forall_mem_cons.mpr ⟨hfirst.cons line, ?_⟩⟩
      exact fun entry hentry => (hlater entry hentry).cons line

end Sections

end RepoSurvey
