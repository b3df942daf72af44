import Mathlib.Data.List.Induction
import Mathlib.Data.List.Nodup
import RepoSurvey.Text.Cut

/-!
# Distinct texts in ascending order

* `eraseDups_concat`, `nodup_eraseDups`: first appearances, one text at a time.
* `pairwise_mergeSort_key`, `pairwise_lt_of_nodup`: what is sorted by a text ascends by it, strictly if no text is
  there twice.
* `Text.mem_distinctAscending`, `Text.nodup_distinctAscending`, `Text.pairwise_distinctAscending`: a list of distinct
  texts holds the same texts, each once, in order.
* `Text.find?_ascending_eq_some`: a search in ascending order finds the least text.
* `Text.ascending_of_perm`, `Text.distinctAscending_congr`: it depends on the texts only, not on their order.
-/

namespace RepoSurvey

/-! ### First appearances -/

section FirstAppearances

variable {α : Type} [BEq α] [LawfulBEq α]

theorem eraseDups_concat (l : List α) (t : α) [Decidable (t ∈ l)] :
    (l ++ [t]).eraseDups = if t ∈ l then l.eraseDups else l.eraseDups ++ [t] := by
  rw [List.eraseDups_append]
  by_cases ht : t ∈ l
  · have hnone : [t].removeAll l = [] := by simp [List.removeAll, ht]
    rw [if_pos ht, hnone, List.eraseDups_nil, List.append_nil]
  · have hkeep : [t].removeAll l = [t] := by simp [List.removeAll, ht]
    rw [if_neg ht, hkeep, List.eraseDups_cons, List.filter_nil, List.eraseDups_nil]

theorem filter_eraseDups (keep : α → Bool) (l : List α) : l.eraseDups.filter keep = (l.filter keep).eraseDups := by
  classical
  induction l using List.reverseRecOn with
  | nil => rfl
  | append_singleton l t ih =>
    rw [eraseDups_concat, List.filter_append]
    by_cases hk : keep t = true
    · rw [List.filter_cons_of_pos hk, List.filter_nil, eraseDups_concat, ← ih]
      by_cases ht : t ∈ l
      · rw [if_pos ht, if_pos (List.mem_filter.mpr ⟨ht, hk⟩)]
      · rw [if_neg ht, if_neg fun hf => ht (List.mem_filter.mp hf).1, List.filter_append,
          List.filter_cons_of_pos hk, List.filter_nil]
    · rw [List.filter_cons_of_neg hk, List.filter_nil, List.append_nil, ← ih]
      by_cases ht : t ∈ l
      · rw [if_pos ht]
      · rw [if_neg ht, List.filter_append, List.filter_cons_of_neg hk, List.filter_nil, List.append_nil]

theorem nodup_eraseDups (l : List α) : l.eraseDups.Nodup := by
  classical
  induction l using List.reverseRecOn with
  | nil => exact List.nodup_nil
  | append_singleton l t ih =>
    rw [eraseDups_concat]
    by_cases ht : t ∈ l
    · rw [if_pos ht]
      exact ih
    · rw [if_neg ht, List.nodup_append]
      refine ⟨ih, List.nodup_singleton t, fun x hx y hy hxy => ht ?_⟩
      rw [← List.mem_singleton.mp hy, ← hxy]
      exact List.mem_eraseDups.mp hx

/-- Lists of the same values have the same first appearances in some order. -/
theorem perm_eraseDups {l l' : List α} (h : ∀ x, x ∈ l ↔ x ∈ l') : l.eraseDups.Perm l'.eraseDups := by
  rw [List.perm_ext_iff_of_nodup (nodup_eraseDups l) (nodup_eraseDups l')]
  intro x
  rw [List.mem_eraseDups, List.mem_eraseDups, h x]

theorem eraseDups_of_nodup {l : List α} (h : l.Nodup) : l.eraseDups = l := by
  classical
  induction l using List.reverseRecOn with
  | nil => rfl
  | append_singleton l t ih =>
    obtain ⟨hl, -, hlt⟩ := List.nodup_append.mp h
    have ht : t ∉ l := fun ht => hlt t ht t (List.mem_singleton_self t) rfl
    rw [eraseDups_concat, if_neg ht, ih hl]

end FirstAppearances

/-! ### Sorting by a text -/

section Sorting

variable {α : Type} (key : α → String)

/-- What is sorted by a text ascends by it. -/
theorem pairwise_mergeSort_key (l : List α) :
    (l.mergeSort fun a b => decide (key a ≤ key b)).Pairwise fun a b => key a ≤ key b := by
  have htrans : ∀ a b c : α, decide (key a ≤ key b) = true → decide (key b ≤ key c) = true →
      decide (key a ≤ key c) = true := by
    intro a b c hab hbc
    exact decide_eq_true (String.le_trans (of_decide_eq_true hab) (of_decide_eq_true hbc))
  have htotal : ∀ a b : α, (decide (key a ≤ key b) || decide (key b ≤ key a)) = true := by
    intro a b
    simpa using String.le_total (key a) (key b)
  exact (List.pairwise_mergeSort htrans htotal l).imp of_decide_eq_true

/-- What is sorted by distinct texts ascends strictly by them. -/
theorem pairwise_lt_of_nodup {texts : List String} (hascending : texts.Pairwise (· ≤ ·)) (hnodup : texts.Nodup) :
    texts.Pairwise (· < ·) :=
  (hascending.and hnodup).imp fun h => Std.lt_of_le_of_ne h.1 h.2

end Sorting

namespace Text

variable (texts : List String)

theorem mem_distinctAscending {s : String} : s ∈ distinctAscending texts ↔ s ∈ texts := by
  rw [distinctAscending, mem_ascending, List.mem_eraseDups]

theorem nodup_distinctAscending : (distinctAscending texts).Nodup :=
  (List.mergeSort_perm _ _).nodup_iff.mpr (nodup_eraseDups texts)

theorem pairwise_distinctAscending : (distinctAscending texts).Pairwise (· ≤ ·) := pairwise_mergeSort_key id _

theorem pairwise_lt_distinctAscending : (distinctAscending texts).Pairwise (· < ·) :=
  pairwise_lt_of_nodup (pairwise_distinctAscending texts) (nodup_distinctAscending texts)

/-- Distinct texts in ascending order stay as they are. -/
theorem distinctAscending_idem : distinctAscending (distinctAscending texts) = distinctAscending texts := by
  rw [distinctAscending, eraseDups_of_nodup (nodup_distinctAscending texts), ascending]
  exact List.mergeSort_of_pairwise ((pairwise_distinctAscending texts).imp fun h => decide_eq_true h)

variable {texts} {texts' : List String}

/-- Texts in ascending order are the same, whatever their order was before. -/
theorem ascending_of_perm (h : texts.Perm texts') : ascending texts = ascending texts' := by
  have hperm : (ascending texts).Perm (ascending texts') :=
    (List.mergeSort_perm texts _).trans (h.trans (List.mergeSort_perm texts' _).symm)
  exact hperm.eq_of_pairwise (fun a b _ _ hab hba => String.le_antisymm hab hba)
    (pairwise_mergeSort_key id texts) (pairwise_mergeSort_key id texts')

/-- The first text in ascending order that is accepted is the least one that is accepted. -/
theorem find?_ascending_eq_some {accepts : String → Bool} {t : String} :
    (ascending texts).find? accepts = some t ↔
      t ∈ texts ∧ accepts t = true ∧ ∀ s ∈ texts, accepts s = true → t ≤ s := by
  have hleast {t : String} (h : (ascending texts).find? accepts = some t) :
      ∀ s ∈ texts, accepts s = true → t ≤ s := by
    intro s hs haccepts
    obtain ⟨-, before, after, hcut, hbefore⟩ := List.find?_eq_some_iff_append.mp h
    have hpairwise : (ascending texts).Pairwise (· ≤ ·) := pairwise_mergeSort_key id texts
    have hmem : s ∈ ascending texts := mem_ascending.mpr hs
    rw [hcut] at hpairwise hmem
    rcases List.mem_append.mp hmem with hs | hs
    · have hnot := hbefore s hs
      rw [haccepts] at hnot
      cases hnot
    · rcases List.mem_cons.mp hs with rfl | hs
      · exact String.le_refl s
      · exact (List.pairwise_cons.mp (List.pairwise_append.mp hpairwise).2.1).1 s hs
  constructor
  · intro h
    exact ⟨mem_ascending.mp (List.mem_of_find?_eq_some h), List.find?_some h, hleast h⟩
  · rintro ⟨ht, haccepts, hle⟩
    have hsome : ((ascending texts).find? accepts).isSome := by
      rw [List.find?_isSome]
      exact ⟨t, mem_ascending.mpr ht, haccepts⟩
    obtain ⟨s, hs⟩ := Option.isSome_iff_exists.mp hsome
    have hst : s ≤ t := hleast hs t ht haccepts
    have hts : t ≤ s := hle s (mem_ascending.mp (List.mem_of_find?_eq_some hs)) (List.find?_some hs)
    rw [hs, String.le_antisymm hst hts]

/-- Lists of the same texts have the same distinct texts. -/
theorem distinctAscending_congr (h : ∀ s, s ∈ texts ↔ s ∈ texts') :
    distinctAscending texts = distinctAscending texts' :=
  ascending_of_perm (perm_eraseDups h)

end Text
end RepoSurvey
