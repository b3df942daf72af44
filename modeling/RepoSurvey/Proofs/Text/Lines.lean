import Mathlib.Data.List.Basic
import Mathlib.Tactic.SplitIfs

/-!
# Lines of a text

* `not_mem_of_mem_splitOn`: no piece holds the character at which a text is cut.
* `intercalate_append`: two lists of pieces are joined one after the other.
* `linesOf_intercalate`: texts joined by line feeds have each other's lines one after the other.
* `linesOf_ofList_intercalate`: lines joined by line feeds are read back.
-/

namespace RepoSurvey

/-- No piece of a list holds the value at which it was cut. -/
theorem not_mem_of_mem_splitOn {α : Type} [BEq α] [LawfulBEq α] {a : α} {xs part : List α}
    (h : part ∈ xs.splitOn a) : a ∉ part := by
  induction xs generalizing part with
  | nil => simp_all
  | cons x xs ih =>
    rw [List.splitOn_cons_eq_if_modifyHead] at h
    split_ifs at h with hx
    · rcases List.mem_cons.mp h with rfl | h
      · exact List.not_mem_nil
      · exact ih h
    · obtain ⟨first, others, hs⟩ := List.exists_cons_of_ne_nil (List.splitOn_ne_nil a xs)
      rw [hs, List.modifyHead_cons] at h
      have hfirst : a ∉ first := ih (by rw [hs]; exact List.mem_cons_self)
      rcases List.mem_cons.mp h with rfl | h
      · rintro (_ | ⟨_, hmem⟩)
        · exact hx (beq_self_eq_true _)
        · exact hfirst hmem
      · exact ih (by rw [hs]; exact List.mem_cons_of_mem _ h)

theorem intercalate_append {α : Type} {sep : List α} {xs ys : List (List α)} (hxs : xs ≠ []) (hys : ys ≠ []) :
    sep.intercalate (xs ++ ys) = sep.intercalate xs ++ (sep ++ sep.intercalate ys) := by
  induction xs with
  | nil => exact absurd rfl hxs
  | cons x xs ih =>
    cases xs with
    | nil =>
      obtain ⟨y, ys, rfl⟩ := List.exists_cons_of_ne_nil hys
      simp [List.intercalate_cons_cons]
    | cons x' xs =>
      have h := ih (List.cons_ne_nil x' xs)
      simp only [List.cons_append, List.intercalate_cons_cons, List.append_assoc] at h ⊢
      rw [h]

namespace Text

/-- The lines of a text, without their line feeds. -/
def linesOf (s : String) : List (List Char) := s.toList.splitOn '\n'

/-- A text that does not begin with a line feed begins as its first line does. -/
theorem exists_linesOf_cons {s : String} {c : Char} {rest : List Char} (h : s.toList = c :: rest) (hc : c ≠ '\n') :
    ∃ line others, linesOf s = (c :: line) :: others := by
  obtain ⟨line, others, hrest⟩ := List.exists_cons_of_ne_nil (List.splitOn_ne_nil '\n' rest)
  refine ⟨line, others, ?_⟩
  rw [linesOf, h, List.splitOn_cons_eq_if_modifyHead, if_neg (by simpa using hc), hrest, List.modifyHead_cons]

theorem linesOf_append (s t : String) : linesOf (s ++ "\n" ++ t) = linesOf s ++ linesOf t := by
  rw [linesOf, String.toList_append, String.toList_append, List.append_assoc]
  exact List.splitOn_append_cons_self _ _

/-- Texts joined by line feeds have each other's lines one after the other. -/
theorem linesOf_intercalate {texts : List String} (h : texts ≠ []) :
    linesOf ("\n".intercalate texts) = texts.flatMap linesOf := by
  induction texts with
  | nil => exact absurd rfl h
  | cons s rest ih =>
    cases rest with
    | nil => rw [String.intercalate_singleton, List.flatMap_singleton]
    | cons t rest =>
      rw [String.intercalate_cons_cons, linesOf_append, ih (List.cons_ne_nil t rest), ← List.flatMap_cons]

/-- Joined lines get longer by a line that is not empty. -/
theorem length_intercalate_lt (lines rest : List (List Char)) {line : List Char} (hline : line ≠ []) :
    (['\n'].intercalate lines).length < (['\n'].intercalate (lines ++ line :: rest)).length := by
  have hlength : 0 < line.length := List.length_pos_iff.mpr hline
  have hrest : line.length ≤ (['\n'].intercalate (line :: rest)).length := by
    cases rest with
    | nil => simp
    | cons other rest =>
      rw [List.intercalate_cons_cons, List.length_append, List.length_append]
      omega
  by_cases hlines : lines = []
  · rw [hlines, List.nil_append, List.intercalate_nil, List.length_nil]
    omega
  · rw [intercalate_append hlines (List.cons_ne_nil line rest), List.length_append, List.length_append]
    omega

/-- Lines joined by line feeds are read back. -/
theorem linesOf_ofList_intercalate {lines : List (List Char)} (hne : lines ≠ []) (h : ∀ line ∈ lines, '\n' ∉ line) :
    linesOf (String.ofList (['\n'].intercalate lines)) = lines := by
  rw [linesOf, String.toList_ofList, List.splitOn_intercalate '\n' h hne]

end Text
end RepoSurvey
