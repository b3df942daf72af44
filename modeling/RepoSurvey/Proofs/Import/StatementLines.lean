import RepoSurvey.Import.Statement
import RepoSurvey.Proofs.Text.CursorReading
import RepoSurvey.Proofs.Text.Distinct

/-!
# Statements line by line

The patterns of statements begin with an indentation, which is read at the beginning of a line only and may run over
blank lines.

* `Cursor.nextLine`, `findFrom_nextLine`: without a match at a place the search goes on at the next line.
* `Captures`: what a pattern captures on a line, whatever stands around it.
* `captured_findFrom_lines`: what a pattern captures in joined lines is what it captures on each of them.
-/

namespace RepoSurvey

namespace Cursor

variable {c e : Cursor}

/-- The beginning of the next line. -/
def nextLine (c : Cursor) : Cursor :=
  ⟨c.position + (c.rest.takeWhile (· != '\n')).length + 1, some '\n', (c.rest.dropWhile (· != '\n')).tail, none⟩

/-- From every place on a line the next line is the same. -/
theorem nextLine_of_read {read : List Char} (hread : '\n' ∉ read) (hrest : c.rest = read ++ e.rest)
    (hposition : e.position = c.position + read.length) : e.nextLine = c.nextLine := by
  have hpass : ∀ l ∈ read, (l != '\n') = true := fun l hl => bne_iff_ne.mpr fun heq => hread (heq ▸ hl)
  rw [nextLine, nextLine, hrest, hposition, List.takeWhile_append_of_pos hpass, List.dropWhile_append_of_pos hpass,
    List.length_append, ← Nat.add_assoc]

end Cursor

namespace Statement

open Pattern

variable {q : Pattern} {c : Cursor} {space s : List Char}

/-! ### Indentations -/

section Indentation

theorem match?_indent_seq_of_midLine (h : c.atLineStart = false) : (seq indent q).match? c = none := by
  have hnil : (seq indent q).ends c = [] := by
    simp [indent, ends, h]
  rw [match?, hnil, List.head?_nil]

/-- An indentation is read as far as it goes. -/
theorem match?_indent_seq (hc : c.atLineStart = true)
    (hq : ∀ d : Cursor, d.rest.head?.any Text.isBlank = true → q.ends d = []) (h : c.rest = space ++ s)
    (hspace : ∀ l ∈ space, Text.isBlank l = true) (hs : s.head?.any Text.isBlank = false) :
    (seq indent q).match? c = q.match? (c.past space s) := by
  have hends : (seq indent q).match? c = (seq blanks q).match? c := by
    simp [match?, indent, ends, hc]
  rw [hends]
  exact match?_most_seq hq h hspace hs (Nat.zero_le _)

theorem findFrom_nextLine (h : (seq indent q).match? { c with captured := none } = none) :
    (seq indent q).findFrom c = (seq indent q).findFrom c.nextLine := by
  obtain ⟨position, previous, s, captured⟩ := c
  induction s generalizing position previous captured with
  | nil => rw [findFrom_nil, Cursor.nextLine, List.dropWhile_nil, List.tail_nil, findFrom_nil]
  | cons l s ih =>
    rw [findFrom_of_none h rfl]
    by_cases hl : l = '\n'
    · subst hl
      rfl
    · have hmid : (⟨position + 1, some l, s, none⟩ : Cursor).atLineStart = false := by
        simpa [Cursor.atLineStart] using hl
      rw [ih _ _ _ (match?_indent_seq_of_midLine hmid)]
      exact congrArg _ (Cursor.nextLine_of_read (by simpa using Ne.symm hl) List.singleton_append.symm rfl)

/-- An indentation runs over a blank line. -/
theorem match?_indent_seq_of_blankLine {line text : List Char} (hc : c.atLineStart = true)
    (hq : ∀ d : Cursor, d.rest.head?.any Text.isBlank = true → q.ends d = []) (h : c.rest = line ++ '\n' :: text)
    (hline : ∀ l ∈ line, Text.isBlank l = true) : (seq indent q).match? c =
      (seq indent q).match? ⟨c.position + line.length + 1, some '\n', text, c.captured⟩ := by
  obtain ⟨space, code, rfl, hspace, hcode⟩ : ∃ space code, text = space ++ code ∧
      (∀ l ∈ space, Text.isBlank l = true) ∧ code.head?.any Text.isBlank = false :=
    ⟨_, _, List.takeWhile_append_dropWhile.symm, fun l => List.mem_takeWhile_imp, any_head?_dropWhile _ text⟩
  have hover : c.rest = (line ++ '\n' :: space) ++ code := by rw [h, List.append_assoc, List.cons_append]
  have hblank : ∀ l ∈ line ++ '\n' :: space, Text.isBlank l = true :=
    List.forall_mem_append.mpr ⟨hline, List.forall_mem_cons.mpr ⟨rfl, hspace⟩⟩
  rw [match?_indent_seq hc hq hover hblank hcode, match?_indent_seq rfl hq rfl hspace hcode, ← Cursor.past_past,
    Cursor.past_cons]
  rfl

/-- A statement has characters. -/
theorem length_lt_of_match?_statement {l : Char} {w : List Char} {e : Cursor}
    (h : (seq indent (seq (word (l :: w)) q)).match? c = some e) : e.rest.length < c.rest.length := by
  obtain ⟨d, hd, he⟩ := List.mem_flatMap.mp (List.mem_of_mem_head? h)
  by_cases hprefix : l :: w <+: d.rest
  · obtain ⟨s, hs⟩ := hprefix
    rw [ends, ends_word hs.symm, List.flatMap_singleton] at he
    have hbefore := (reaches_ends indent hd).length_add
    have hbehind := (reaches_ends q he).length_add
    have hfurther := (reaches_ends indent hd).position_le
    have hfurther' := (reaches_ends q he).position_le
    simp only [Cursor.past_position, Cursor.past_rest, List.length_cons] at hbehind hfurther'
    rw [← hs, List.length_append, List.length_cons] at hbefore
    omega
  · rw [ends_word_seq_of_mismatch hprefix] at he
    cases he

end Indentation

/-! ### Lines -/

section Lines

variable {line : List Char} {lines : List (List Char)}

/-- What stands behind a line in joined lines: nothing, or a line feed. -/
theorem exists_after (line : List Char) (lines : List (List Char)) :
    ∃ after, ['\n'].intercalate (line :: lines) = line ++ after ∧ after.head?.all (· == '\n') = true := by
  cases lines with
  | nil => exact ⟨[], by rw [List.intercalate_singleton, List.append_nil], rfl⟩
  | cons other lines => exact ⟨_, List.intercalate_cons_cons.trans (List.append_assoc _ _ _), rfl⟩

theorem nextLine_of_lines (h : c.rest = ['\n'].intercalate (line :: lines)) (hline : '\n' ∉ line) :
    c.nextLine = ⟨c.position + line.length + 1, some '\n', ['\n'].intercalate lines, none⟩ := by
  have hpass : ∀ l ∈ line, (l != '\n') = true := fun l hl => bne_iff_ne.mpr fun heq => hline (heq ▸ hl)
  rw [Cursor.nextLine, h]
  cases lines with
  | nil =>
    rw [List.intercalate_singleton, List.intercalate_nil, List.takeWhile_eq_self_iff.mpr hpass,
      List.dropWhile_eq_nil_iff.mpr hpass, List.tail_nil]
  | cons other lines =>
    have hedge : (['\n'] ++ ['\n'].intercalate (other :: lines)).head?.any (· != '\n') = false := rfl
    rw [List.intercalate_cons_cons, List.append_assoc, takeWhile_append_edge hpass hedge,
      dropWhile_append_edge hpass hedge]
    rfl

/-- What a pattern captures on a line, whatever the lines around it are. -/
def Captures (p : Pattern) (line : List Char) (found : Option (Nat × List Char)) : Prop :=
  ∀ (c : Cursor) (after : List Char), c.atLineStart = true → c.rest = line ++ after →
    after.head?.all (· == '\n') = true →
    match found with
    | none => p.match? c = none
    | some (k, part) => ∃ e, p.match? c = some e ∧ e.captured = some (c.position + k, part) ∧ after <:+ e.rest ∧
        e.rest.length < c.rest.length

theorem captured_findFrom_line {found : Option (Nat × List Char)} {after : List Char}
    (h : Captures (seq indent q) line found) (hc : c.atLineStart = true) (hrest : c.rest = line ++ after)
    (hafter : after.head?.all (· == '\n') = true) (hline : '\n' ∉ line) :
    ((seq indent q).findFrom c).filterMap (·.captured) =
      (found.map fun (k, part) => (c.position + k, part)).toList ++
        ((seq indent q).findFrom c.nextLine).filterMap (·.captured) := by
  have hcaptures := h { c with captured := none } after hc hrest hafter
  cases found with
  | none => rw [findFrom_nextLine hcaptures, Option.map_none, Option.toList_none, List.nil_append]
  | some hit =>
    obtain ⟨e, hmatch, hcaptured, ⟨behind, hbehind⟩, hlt⟩ := hcaptures
    obtain ⟨read, hread, hposition, hprevious⟩ := reaches_ends _ (List.mem_of_mem_head? hmatch)
    have hread : c.rest = read ++ e.rest := hread
    have hcut : read ++ behind = line := by
      have hwhole : (read ++ behind) ++ after = line ++ after := by
        rw [List.append_assoc, hbehind, ← hread, hrest]
      exact List.append_cancel_right hwhole
    have hnewline : '\n' ∉ read := fun hmem => hline (hcut ▸ List.mem_append_left _ hmem)
    have hne : read ≠ [] := by
      rintro rfl
      rw [List.nil_append] at hread
      exact absurd hlt (by rw [hread]; exact lt_irrefl _)
    have hmid : e.atLineStart = false := by
      rw [Cursor.atLineStart, hprevious, List.getLast?_eq_some_getLast hne, Option.some_or, Option.all_some]
      exact beq_eq_false_iff_ne.mpr fun heq => hnewline (heq ▸ List.getLast_mem hne)
    have hnext : e.nextLine = c.nextLine := Cursor.nextLine_of_read hnewline hread hposition
    have hfind : (seq indent q).findFrom e = (seq indent q).findFrom c.nextLine := by
      rw [← hnext]
      exact findFrom_nextLine (match?_indent_seq_of_midLine hmid)
    rw [findFrom_of_match? hmatch hlt, List.filterMap_cons, hfind]
    simp only [hcaptured]
    rfl

/-- On a blank line nothing is captured, though a match may begin there. -/
theorem captured_findFrom_blankLine {l : Char} {w : List Char} (hl : Text.isBlank l = false)
    (hc : c.atLineStart = true) (hrest : c.rest = ['\n'].intercalate (line :: lines))
    (hline : '\n' ∉ line) (hblank : ∀ l ∈ line, Text.isBlank l = true) :
    ((seq indent (seq (word (l :: w)) q)).findFrom c).filterMap (·.captured) =
      ((seq indent (seq (word (l :: w)) q)).findFrom c.nextLine).filterMap (·.captured) := by
  have hq (d : Cursor) (hd : d.rest.head?.any Text.isBlank = true) : (seq (word (l :: w)) q).ends d = [] :=
    ends_word_seq_of_first hl hd
  have hnext := nextLine_of_lines hrest hline
  cases lines with
  | nil =>
    rw [List.intercalate_singleton, ← List.append_nil line] at hrest
    have hmatch : (seq indent (seq (word (l :: w)) q)).match? { c with captured := none } = none := by
      rw [match?_indent_seq (c := { c with captured := none }) hc hq hrest hblank rfl, match?,
        ends_word_seq_of_mismatch (by simp), List.head?_nil]
    rw [findFrom_nextLine hmatch]
  | cons other lines =>
    have hrest : c.rest = line ++ '\n' :: ['\n'].intercalate (other :: lines) := by
      rw [hrest, List.intercalate_cons_cons, List.append_assoc]
      rfl
    have hmatch : (seq indent (seq (word (l :: w)) q)).match? { c with captured := none } =
        (seq indent (seq (word (l :: w)) q)).match? c.nextLine := by
      rw [match?_indent_seq_of_blankLine (c := { c with captured := none }) hc hq hrest hblank, hnext]
    cases hfound : (seq indent (seq (word (l :: w)) q)).match? c.nextLine with
    | none => rw [findFrom_nextLine (hmatch.trans hfound)]
    | some e =>
      have hlt := length_lt_of_match?_statement hfound
      have hlt' := length_lt_of_match?_statement (hmatch.trans hfound)
      rw [findFrom_of_match? (hmatch.trans hfound) hlt', findFrom_of_match? (c := c.nextLine) hfound hlt]
      rfl

end Lines

/-! ### Joined lines -/

section Joined

variable {α : Type} (text : α → List Char) (found : α → Option (Nat × List Char))

/-- What is found on the lines of a text, each with its distance from the beginning. -/
def placed : Nat → List α → List (Nat × List Char)
  | _, [] => []
  | n, line :: lines =>
    ((found line).map fun (k, part) => (n + k, part)).toList ++ placed (n + (text line).length + 1) lines

variable {text found}

/-- **What a statement's pattern captures in joined lines** is what it captures on each of them, blank lines left out. -/
theorem captured_findFrom_lines {l : Char} {w : List Char} (hl : Text.isBlank l = false) {lines : List α}
    (hlines : ∀ line ∈ lines, '\n' ∉ text line)
    (hfound : ∀ line ∈ lines, (∀ c ∈ text line, Text.isBlank c = true) ∧ found line = none ∨
      Captures (seq indent (seq (word (l :: w)) q)) (text line) (found line))
    (hc : c.atLineStart = true) (hrest : c.rest = ['\n'].intercalate (lines.map text)) :
    ((seq indent (seq (word (l :: w)) q)).findFrom c).filterMap (·.captured) =
      placed text found c.position lines := by
  induction lines generalizing c with
  | nil =>
    obtain ⟨position, previous, rest, captured⟩ := c
    obtain rfl : rest = [] := hrest
    rw [findFrom_nil]
    rfl
  | cons line lines ih =>
    rw [List.forall_mem_cons] at hlines hfound
    rw [List.map_cons] at hrest
    have hnext := nextLine_of_lines hrest hlines.1
    have hlater : ((seq indent (seq (word (l :: w)) q)).findFrom c.nextLine).filterMap (·.captured) =
        placed text found (c.position + (text line).length + 1) lines := by
      rw [hnext]
      exact ih hlines.2 hfound.2 rfl rfl
    rw [placed, ← hlater]
    rcases hfound.1 with ⟨hblank, hnone⟩ | hcaptures
    · rw [captured_findFrom_blankLine hl hc hrest hlines.1 hblank, hnone]
      rfl
    · obtain ⟨after, hcut, hafter⟩ := exists_after (text line) (lines.map text)
      exact captured_findFrom_line hcaptures hc (hrest.trans hcut) hafter hlines.1

/-- Two ways to find something, of which none finds anything where the other one does, find what both find. -/
theorem perm_placed {found' both : α → Option (Nat × List Char)} (lines : List α)
    (h : ∀ line, (found line = none ∧ both line = found' line) ∨ (found' line = none ∧ both line = found line))
    (n : Nat) : (placed text found n lines ++ placed text found' n lines).Perm (placed text both n lines) := by
  induction lines generalizing n with
  | nil => exact .nil
  | cons line lines ih =>
    have hlater := ih (n + (text line).length + 1)
    simp only [placed]
    rcases h line with ⟨hnone, hboth⟩ | ⟨hnone, hboth⟩
    · rw [hnone, hboth, Option.map_none, Option.toList_none, List.nil_append]
      exact (List.perm_append_comm_assoc _ _ _).trans (hlater.append_left _)
    · rw [hnone, hboth, Option.map_none, Option.toList_none, List.nil_append, List.append_assoc]
      exact hlater.append_left _

theorem le_of_mem_placed {lines : List α} {n : Nat} {a : Nat × List Char} (ha : a ∈ placed text found n lines) :
    n ≤ a.1 := by
  induction lines generalizing n with
  | nil => cases ha
  | cons line lines ih =>
    rcases List.mem_append.mp ha with ha | ha
    · obtain ⟨hit, -, rfl⟩ := Option.map_eq_some_iff.mp (Option.mem_toList.mp ha)
      exact Nat.le_add_right n hit.1
    · have hlater := ih ha
      omega

/-- What is found on lines comes in the order of the text. -/
theorem pairwise_placed (hfound : ∀ line hit, found line = some hit → hit.1 ≤ (text line).length) (lines : List α)
    (n : Nat) : (placed text found n lines).Pairwise fun a b => a.1 < b.1 := by
  induction lines generalizing n with
  | nil => exact .nil
  | cons line lines ih =>
    refine List.pairwise_append.mpr ⟨?_, ih _, fun a ha b hb => ?_⟩
    · cases found line with
      | none => exact .nil
      | some hit => exact List.pairwise_singleton _ _
    · obtain ⟨hit, hhit, rfl⟩ := Option.map_eq_some_iff.mp (Option.mem_toList.mp ha)
      have hwithin := hfound line hit hhit
      have hlater := le_of_mem_placed hb
      show n + hit.1 < b.1
      omega

theorem map_snd_placed (lines : List α) (n : Nat) :
    (placed text found n lines).map (·.2) = lines.filterMap fun line => (found line).map (·.2) := by
  induction lines generalizing n with
  | nil => rfl
  | cons line lines ih =>
    rw [placed, List.map_append, ih, List.filterMap_cons]
    cases found line <;> rfl

end Joined

/-! ### The order of specifiers -/

section Order

/-- What is found at places that ascend is put into that order. -/
theorem mergeSort_comesBefore_of_perm {found ordered : List (Nat × String)} (h : found.Perm ordered)
    (hordered : ordered.Pairwise fun a b => a.1 < b.1) : found.mergeSort comesBefore = ordered := by
  have htrans : ∀ a b c : Nat × String, comesBefore a b = true → comesBefore b c = true → comesBefore a c = true := by
    intro a b c hab hbc
    simp only [comesBefore, Bool.or_eq_true, Bool.and_eq_true, decide_eq_true_eq, beq_iff_eq] at hab hbc ⊢
    rcases hab with hab | ⟨hab, htext⟩
    · exact .inl (by omega)
    · rcases hbc with hbc | ⟨hbc, htext'⟩
      · exact .inl (by omega)
      · exact .inr ⟨hab.trans hbc, String.le_trans htext htext'⟩
  have htotal : ∀ a b : Nat × String, (comesBefore a b || comesBefore b a) = true := by
    intro a b
    simp only [comesBefore, Bool.or_eq_true, Bool.and_eq_true, decide_eq_true_eq, beq_iff_eq]
    rcases lt_trichotomy a.1 b.1 with hlt | heq | hgt
    · exact .inl (.inl hlt)
    · exact (String.le_total a.2 b.2).imp (fun htext => .inr ⟨heq, htext⟩) fun htext => .inr ⟨heq.symm, htext⟩
    · exact .inr (.inl hgt)
  have hbefore : ordered.Pairwise fun a b => comesBefore a b = true := hordered.imp fun hlt => by
    rw [comesBefore, decide_eq_true hlt, Bool.true_or]
  refine ((List.mergeSort_perm found comesBefore).trans h).eq_of_pairwise (fun a b _ _ hab hba => ?_)
    (List.pairwise_mergeSort htrans htotal found) hbefore
  simp only [comesBefore, Bool.or_eq_true, Bool.and_eq_true, decide_eq_true_eq, beq_iff_eq] at hab hba
  obtain ⟨heq, hab, hba⟩ : a.1 = b.1 ∧ a.2 ≤ b.2 ∧ b.2 ≤ a.2 := by
    rcases hab with hab | ⟨heq, hab⟩ <;> rcases hba with hba | ⟨heq', hba⟩
    · omega
    · omega
    · omega
    · exact ⟨heq, hab, hba⟩
  exact Prod.ext heq (String.le_antisymm hab hba)

end Order

end Statement
end RepoSurvey
