import RepoSurvey.Proofs.History.UnreadableHeader

/-!
# The changed lines of a hunk

A hunk counts its added and its removed lines when it is read, and lists them from its content. A line that begins
with its mark three times is counted but not listed: it is taken for a header of a file.

* `Hunk.linesWith`: the lines of the content that begin with a mark.
* `Hunk.Reports`: how a count of lines and a list of them stand to these.
* `FileDiff.parse_reports`: how the counts and the lists of every hunk of a diff stand to each other.
-/

namespace RepoSurvey

open Text (linesOf)

namespace Hunk

/-! ### Lines with a mark -/

section LinesWith

variable (mark : Char) (lines : List (List Char))

/-- The lines of a hunk's content that begin with a mark. -/
def linesWith (h : Hunk) : List (List Char) := (linesOf h.content).filter (·.head? == some mark)

/-- Whether a line begins with a mark three times. -/
def IsThreefold (line : List Char) : Prop := [mark, mark, mark] <+: line

instance : DecidablePred (IsThreefold mark) := fun line => inferInstanceAs (Decidable ([mark, mark, mark] <+: line))

/-- What a hunk lists of the lines with a mark: those that do not have it three times, without it. -/
theorem marked_eq (h : Hunk) :
    h.marked mark = ((h.linesWith mark).filter fun line => decide (¬ IsThreefold mark line)).map List.tail := by
  rw [marked, linesWith, linesOf]
  induction h.content.toList.splitOn '\n' with
  | nil => rfl
  | cons line rest ih =>
    cases line with
    | nil => exact ih
    | cons c body =>
      rw [List.filterMap_cons, ih]
      by_cases hc : c = mark
      · subst hc
        by_cases hthree : [c, c] <+: body
        · simp [IsThreefold, List.cons_prefix_cons, hthree]
        · simp [IsThreefold, List.cons_prefix_cons, hthree]
      · simp [hc]

end LinesWith

/-- How a count and a list of a hunk's lines stand to the lines of its content with a mark. -/
structure Reports (h : Hunk) (mark : Char) (count : Int) (bodies : List (List Char)) : Prop where
  counted : count = (h.linesWith mark).length
  listed : bodies = ((h.linesWith mark).filter fun line => decide (¬ IsThreefold mark line)).map List.tail
  /-- The list is shorter by the lines that begin with the mark three times. -/
  missing : count = bodies.length + (h.linesWith mark).countP fun line => decide (IsThreefold mark line)
  length_eq_iff : (bodies.length : Int) = count ↔ ∀ line ∈ h.linesWith mark, ¬ IsThreefold mark line
  whole_iff : bodies = (h.linesWith mark).map List.tail ↔ ∀ line ∈ h.linesWith mark, ¬ IsThreefold mark line

/-- A hunk that counts the lines with a mark lists all of them but those that begin with it three times. -/
theorem reports_of_counted {h : Hunk} {mark : Char} {count : Int} (hcount : count = (h.linesWith mark).length) :
    h.Reports mark count (h.marked mark) := by
  have hlisted := marked_eq mark h
  have hmissing : (h.linesWith mark).length =
      (h.marked mark).length + (h.linesWith mark).countP fun line => decide (IsThreefold mark line) := by
    rw [hlisted, List.length_map, ← List.countP_eq_length_filter, Nat.add_comm]
    simpa using List.length_eq_countP_add_countP (fun line => decide (IsThreefold mark line)) (l := h.linesWith mark)
  have hnone : ((h.linesWith mark).countP fun line => decide (IsThreefold mark line)) = 0 ↔
      ∀ line ∈ h.linesWith mark, ¬ IsThreefold mark line := by
    rw [List.countP_eq_zero]
    simp
  have hlength : (h.marked mark).length = (h.linesWith mark).length ↔
      ∀ line ∈ h.linesWith mark, ¬ IsThreefold mark line := by
    rw [← hnone]
    omega
  refine ⟨hcount, hlisted, ?_, ?_, ?_⟩
  · rw [hcount, hmissing, Int.natCast_add]
  · rw [hcount, Int.natCast_inj, hlength]
  · constructor
    · intro hwhole
      rw [← hlength, hwhole, List.length_map]
    · intro hplain
      have hall : (h.linesWith mark).filter (fun line => decide (¬ IsThreefold mark line)) = h.linesWith mark :=
        List.filter_eq_self.mpr fun line hline => decide_eq_true (hplain line hline)
      rw [hlisted, hall]

/-- What is counted below a hunk's header are lines of the hunk's content. -/
theorem countMarked_content {h : Hunk} {body : List (List Char)} {mark : Char}
    (hcontent : h.content = String.ofList (['\n'].intercalate body)) (hlines : ∀ line ∈ body, '\n' ∉ line) :
    countMarked mark body = (h.linesWith mark).length := by
  rw [linesWith, hcontent, countMarked, List.countP_eq_length_filter]
  by_cases hbody : body = []
  · -- an empty content has one line, which is empty
    subst hbody
    rw [linesOf, String.toList_ofList]
    rfl
  · rw [Text.linesOf_ofList_intercalate hbody hlines]

end Hunk

namespace FileDiff

/-! ### The hunks of a diff -/

section Hunks

variable {text : String} {ds : List FileDiff}

/-- A hunk of a diff that is read is a section of one of its files, and the lines of it are lines of the text. -/
theorem exists_section_of_hunk (h : parse text = .ok ds) {d : FileDiff} (hd : d ∈ ds) {hunk : Hunk}
    (hhunk : hunk ∈ d.hunks) :
    ∃ header body, Hunk.ofSection d.filePath (header, body) = .ok hunk ∧ body.Sublist (linesOf text) := by
  obtain ⟨⟨⟨old, new⟩, lines⟩, hfile, hread⟩ := exists_of_mem_mapM h hd
  obtain ⟨hunks, hhunks, rfl⟩ := ofSection_eq_ok.mp hread
  obtain ⟨⟨header, body⟩, hsection, hofSection⟩ := exists_of_mem_mapM hhunks hhunk
  have hlines : lines.Sublist (linesOf text) := (sections_sublist _).2 _ hfile
  have hbody : body.Sublist lines := (sections_sublist _).2 _ hsection
  exact ⟨header, body, hofSection, hbody.trans hlines⟩

/-- **The counts and the lists of a hunk**: the additions and the deletions are the numbers of the content's lines that
begin with a plus and with a minus. The lists hold the same lines in their order, each without the mark, but for those
that begin with the mark three times. So a count is the length of its list, and a list is whole, if and only if there
is no such line. -/
theorem parse_reports (h : parse text = .ok ds) : ∀ d ∈ ds, ∀ hunk ∈ d.hunks,
    hunk.Reports '+' hunk.additions hunk.addedLines ∧ hunk.Reports '-' hunk.deletions hunk.removedLines := by
  intro d hd hunk hhunk
  obtain ⟨header, body, hread, hbody⟩ := exists_section_of_hunk h hd hhunk
  obtain ⟨hcontent, hadditions, hdeletions⟩ := kept_of_ofSection hread
  have hlines : ∀ line ∈ body, '\n' ∉ line := fun line hline => not_mem_of_mem_splitOn (hbody.subset hline)
  have hcount (mark : Char) : Hunk.countMarked mark body = (hunk.linesWith mark).length :=
    Hunk.countMarked_content hcontent hlines
  rw [hcount] at hadditions hdeletions
  exact ⟨Hunk.reports_of_counted hadditions, Hunk.reports_of_counted hdeletions⟩

/-- A diff that adds and removes a line of its own plus and minus signs. -/
def stepText : String := "diff --git a/x.ts b/x.ts\n@@ -1,2 +1,2 @@\n---n;\n+++n;\n-a;\n+b;"

/-- Both steps are counted, and neither is listed. -/
theorem parse_reports_of_steps :
    ∃ hunk : Hunk, parse stepText = .ok [⟨"x.ts", .modified, [hunk], none⟩] ∧
      hunk.linesWith '+' = ["+++n;".toList, "+b;".toList] ∧ hunk.additions = 2 ∧ hunk.addedLines = ["b;".toList] ∧
      hunk.linesWith '-' = ["---n;".toList, "-a;".toList] ∧ hunk.deletions = 2 ∧
      hunk.removedLines = ["a;".toList] := by
  let hunk : Hunk := ⟨"x.ts", 1, 2, 1, 2, "---n;\n+++n;\n-a;\n+b;", 2, 2⟩
  have hparse : parse stepText = .ok [⟨"x.ts", .modified, [hunk], none⟩] := by decide +kernel
  obtain ⟨hadded, hremoved⟩ := parse_reports hparse _ (List.mem_singleton_self _) hunk (List.mem_singleton_self _)
  have hplus : hunk.linesWith '+' = ["+++n;".toList, "+b;".toList] := by decide +kernel
  have hminus : hunk.linesWith '-' = ["---n;".toList, "-a;".toList] := by decide +kernel
  refine ⟨hunk, hparse, hplus, hadded.counted.trans ?_, hadded.listed.trans ?_, hminus, hremoved.counted.trans ?_,
    hremoved.listed.trans ?_⟩
  · rw [hplus]
    rfl
  · rw [hplus]
    rfl
  · rw [hminus]
    rfl
  · rw [hminus]
    rfl

end Hunks

end FileDiff
end RepoSurvey
