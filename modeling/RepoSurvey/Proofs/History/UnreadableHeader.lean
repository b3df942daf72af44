import RepoSurvey.Proofs.Failing
import RepoSurvey.Proofs.History.Rendering

/-!
# Headers that cannot be read

Some files of a diff have a header of another form, such as one with quoted paths. Such a file has no place of its own:
it is passed over at the beginning of a diff, and below a file its lines go to that file.

* `FileDiff.assembled`: the change of a file from its paths, a status and its hunks.
* `FileDiff.eq_iff_of_append`: when further lines make no difference to a file.
* `FileDiff.parse_unreadable`: what is read of a diff in whose midst a header cannot be read.
-/

namespace RepoSurvey
namespace FileDiff

open Text (linesOf)

/-! ### Further lines below a file -/

section FurtherLines

/-- The change of a file from its paths, the status that its lines name, and its hunks. -/
def assembled (old new : String) (status : ChangeStatus) (hunks : List Hunk) : FileDiff :=
  let renamed := status = .modified ∧ old ≠ new
  { filePath := new
    status := if renamed then .renamed else status
    hunks
    oldPath := if renamed then some old else none }

variable {old new : String} {lines extra : List (List Char)} {d d' : FileDiff}

theorem assembled_inj {status status' : ChangeStatus} {hunks hunks' : List Hunk} (h : status ≠ .renamed)
    (h' : status' ≠ .renamed) :
    assembled old new status hunks = assembled old new status' hunks' ↔ status = status' ∧ hunks = hunks' := by
  refine ⟨fun heq => ⟨?_, congrArg FileDiff.hunks heq⟩, fun ⟨hstatus, hhunks⟩ => hstatus ▸ hhunks ▸ rfl⟩
  have hstatus := congrArg FileDiff.status heq
  simp only [assembled] at hstatus
  split_ifs at hstatus with hrenamed hrenamed' hrenamed'
  · rw [hrenamed.1, hrenamed'.1]
  · exact absurd hstatus.symm h'
  · exact absurd hstatus h
  · exact hstatus

theorem statusOf_ne_renamed (lines : List (List Char)) : statusOf lines ≠ .renamed := by
  rw [FileText.statusOf_eq]
  cases hlast : (lines.filterMap FileText.namedStatus?).getLast? with
  | none => exact ChangeStatus.noConfusion
  | some status =>
    obtain ⟨line, -, hline⟩ := List.mem_filterMap.mp (List.mem_of_getLast? hlast)
    rw [FileText.namedStatus?] at hline
    rw [Option.getD_some]
    rintro rfl
    split_ifs at hline <;> cases hline

/-- A file is read if its hunks are. -/
theorem ofSection_eq_ok : ofSection ((old, new), lines) = .ok d ↔
    ∃ hunks, (sections hunkHeader? lines).2.mapM (Hunk.ofSection new) = .ok hunks ∧
      d = assembled old new (statusOf (sections hunkHeader? lines).1) hunks := by
  have hopen : ofSection ((old, new), lines) = ((sections hunkHeader? lines).2.mapM (Hunk.ofSection new) >>=
      fun hunks => pure (assembled old new (statusOf (sections hunkHeader? lines).1) hunks)) := rfl
  rw [hopen]
  cases (sections hunkHeader? lines).2.mapM (Hunk.ofSection new) with
  | error e =>
    constructor
    · intro h
      cases h
    · rintro ⟨_, h, _⟩
      cases h
  | ok hunks =>
    constructor
    · intro h
      exact ⟨hunks, rfl, (Except.ok.inj h).symm⟩
    · rintro ⟨_, h, rfl⟩
      rw [← Except.ok.inj h]
      rfl

/-- A hunk that is read keeps the lines below its header, and counts those that begin with a mark. -/
theorem kept_of_ofSection {header : WrittenRange × WrittenRange} {body : List (List Char)} {h : Hunk}
    (hread : Hunk.ofSection new (header, body) = .ok h) :
    h.content = String.ofList (['\n'].intercalate body) ∧ h.additions = Hunk.countMarked '+' body ∧
      h.deletions = Hunk.countMarked '-' body := by
  obtain ⟨old', new'⟩ := header
  rw [Hunk.ofSection] at hread
  cases hold : old'.read with
  | error e =>
    rw [hold] at hread
    cases hread
  | ok oldRange =>
    cases hnew : new'.read with
    | error e =>
      rw [hold, hnew] at hread
      cases hread
    | ok newRange =>
      rw [hold, hnew] at hread
      rw [← Except.ok.inj hread]
      exact ⟨rfl, rfl, rfl⟩

/-- A hunk with further lines below it is another hunk. -/
theorem ne_of_further_lines {header : WrittenRange × WrittenRange} {body rest : List (List Char)} {line : List Char}
    (hline : line ≠ []) {h h' : Hunk} (hread : Hunk.ofSection new (header, body ++ line :: rest) = .ok h)
    (hread' : Hunk.ofSection new (header, body) = .ok h') : h ≠ h' := by
  rintro rfl
  have hcontent := (kept_of_ofSection hread').1.symm.trans (kept_of_ofSection hread).1
  have hlength := congrArg List.length (String.ofList_injective hcontent)
  have hlonger := Text.length_intercalate_lt body rest hline
  omega

/-- Further lines make no difference to a file without hunks if they neither open a hunk nor change the status; a file
with a hunk gets them into its last one. -/
theorem eq_iff_of_append {line : List Char} {rest : List (List Char)} (hextra : extra = line :: rest) (hline : line ≠ [])
    (hfirst : hunkHeader? line = none) (hread : ofSection ((old, new), lines ++ extra) = .ok d)
    (hread' : ofSection ((old, new), lines) = .ok d') :
    d = d' ↔ (∀ line ∈ lines ++ extra, hunkHeader? line = none) ∧ statusOf (lines ++ extra) = statusOf lines := by
  obtain ⟨hunks, hhunks, rfl⟩ := ofSection_eq_ok.mp hread
  obtain ⟨hunks', hhunks', rfl⟩ := ofSection_eq_ok.mp hread'
  rw [assembled_inj (statusOf_ne_renamed _) (statusOf_ne_renamed _)]
  rcases List.eq_nil_or_concat' (sections hunkHeader? lines).2 with hnone | ⟨found, ⟨header, body⟩, hlast⟩
  · -- above the first hunk, every line counts for the status
    have hheadless := sections_eq_nil.mp hnone
    rw [sections_headless_append hheadless] at hhunks ⊢
    rw [sections_headless hheadless] at hhunks' ⊢
    obtain rfl : [] = hunks' := Except.ok.inj hhunks'
    constructor
    · rintro ⟨hstatus, rfl⟩
      have hnil : (sections hunkHeader? extra).2 = [] := List.length_eq_zero_iff.mp (mapM_eq_ok.mp hhunks).length_eq
      have hextraHeadless := sections_eq_nil.mp hnil
      rw [sections_headless hextraHeadless] at hstatus
      exact ⟨List.forall_mem_append.mpr ⟨hheadless, hextraHeadless⟩, hstatus⟩
    · rintro ⟨hall, hstatus⟩
      have hextraHeadless := (List.forall_mem_append.mp hall).2
      rw [sections_headless hextraHeadless] at hhunks ⊢
      exact ⟨hstatus, (Except.ok.inj hhunks).symm⟩
  · refine iff_of_false ?_ ?_
    · rintro ⟨-, rfl⟩
      have hbegin : (sections hunkHeader? extra).1 = line :: (sections hunkHeader? rest).1 := by
        rw [hextra, sections_cons_other hfirst]
      rw [sections_append_of_last hlast, hbegin] at hhunks
      rw [hlast] at hhunks'
      -- equally many hunks, so that none begins further down, but the last one has got longer
      have hlength := (mapM_eq_ok.mp hhunks).length_eq.trans (mapM_eq_ok.mp hhunks').length_eq.symm
      simp only [List.length_append, List.length_cons, List.length_nil] at hlength
      have hnil : (sections hunkHeader? extra).2 = [] := List.length_eq_zero_iff.mp (by omega)
      rw [hnil] at hhunks
      obtain ⟨h, h', hh, hh', hiff⟩ := mapM_replaced hhunks hhunks'
      exact ne_of_further_lines hline hh hh' (hiff.mp rfl)
    · rintro ⟨hall, -⟩
      have hnil := sections_eq_nil.mpr (List.forall_mem_append.mp hall).1
      rw [hlast] at hnil
      exact List.append_ne_nil_of_right_ne_nil _ (List.cons_ne_nil _ _) hnil

end FurtherLines

/-! ### A diff with such a header -/

section UnreadableHeader

/-- The sections of a text, each with the header of its file. -/
def sectionsOf (text : String) : List ((String × String) × List (List Char)) :=
  (sections fileHeader? (linesOf text)).2

variable {above skipped : String} {following : Option String}

theorem parse_eq (text : String) : parse text = (sectionsOf text).mapM ofSection := rfl

theorem sections_following (hfollowing : ∀ text ∈ following, ∃ line ∈ (linesOf text).head?, (fileHeader? line).isSome) :
    sections fileHeader? (following.toList.flatMap linesOf) = ([], following.toList.flatMap sectionsOf) := by
  cases following with
  | none => rfl
  | some text =>
    obtain ⟨line, hline, hheader⟩ := hfollowing text rfl
    obtain ⟨header, hheader⟩ := Option.isSome_iff_exists.mp hheader
    obtain ⟨rest, hlines⟩ := List.head?_eq_some_iff.mp hline
    rw [Option.toList_some, List.flatMap_singleton, List.flatMap_singleton, sectionsOf, hlines,
      sections_cons_header hheader]

/-- The lines of a section whose header cannot be read go before everything else below what is above. -/
theorem sections_skipped (hskipped : ∀ line ∈ linesOf skipped, fileHeader? line = none)
    (hfollowing : ∀ text ∈ following, ∃ line ∈ (linesOf text).head?, (fileHeader? line).isSome) :
    sections fileHeader? ((skipped :: following.toList).flatMap linesOf) =
      (linesOf skipped, following.toList.flatMap sectionsOf) := by
  rw [List.flatMap_cons, sections_headless_append hskipped, sections_following hfollowing, List.append_nil]

theorem sectionsOf_intercalate (texts : List String) : sectionsOf ("\n".intercalate (above :: texts)) =
    (sections fileHeader? (linesOf above ++ texts.flatMap linesOf)).2 := by
  rw [sectionsOf, Text.linesOf_intercalate (List.cons_ne_nil above texts), List.flatMap_cons]

/-- **A section whose header cannot be read** is passed over where no file is above it, and else its lines belong to the
file above. That makes no difference exactly if neither the file nor the section has a hunk and the lines leave the
status as it is. -/
theorem parse_unreadable (hstart : "diff --git ".toList <+: skipped.toList)
    (hskipped : ∀ line ∈ linesOf skipped, fileHeader? line = none)
    (hfollowing : ∀ text ∈ following, ∃ line ∈ (linesOf text).head?, (fileHeader? line).isSome) :
    (sectionsOf above = [] →
      parse ("\n".intercalate (above :: skipped :: following.toList)) =
        parse ("\n".intercalate (above :: following.toList))) ∧
    ∀ found header lines, sectionsOf above = found ++ [(header, lines)] →
      parse ("\n".intercalate (above :: skipped :: following.toList)) =
        (found ++ (header, lines ++ linesOf skipped) :: following.toList.flatMap sectionsOf).mapM ofSection ∧
      parse ("\n".intercalate (above :: following.toList)) =
        (found ++ (header, lines) :: following.toList.flatMap sectionsOf).mapM ofSection ∧
      ∀ ds ds', parse ("\n".intercalate (above :: skipped :: following.toList)) = .ok ds →
        parse ("\n".intercalate (above :: following.toList)) = .ok ds' →
        (ds = ds' ↔ (∀ line ∈ lines ++ linesOf skipped, hunkHeader? line = none) ∧
          statusOf (lines ++ linesOf skipped) = statusOf lines) := by
  simp only [parse_eq, sectionsOf_intercalate]
  refine ⟨fun hnone => ?_, fun found header lines hlast => ?_⟩
  · have habove := sections_eq_nil.mp hnone
    rw [sections_headless_append habove, sections_headless_append habove, sections_skipped hskipped hfollowing,
      sections_following hfollowing]
  · obtain ⟨old, new⟩ := header
    rw [sections_append_of_last hlast, sections_append_of_last hlast, sections_skipped hskipped hfollowing,
      sections_following hfollowing, List.append_nil]
    refine ⟨rfl, rfl, fun ds ds' hds hds' => ?_⟩
    obtain ⟨d, d', hd, hd', hiff⟩ := mapM_replaced hds hds'
    rw [hiff]
    obtain ⟨rest, hrest⟩ := hstart
    obtain ⟨first, others, hlines⟩ := Text.exists_linesOf_cons hrest.symm (by decide)
    have hfirst : hunkHeader? ('d' :: first) = none := hunkHeader?_eq_none (by simp [List.cons_prefix_cons])
    exact eq_iff_of_append hlines (List.cons_ne_nil _ _) hfirst hd hd'

/-- The hunk of a file with quoted paths becomes a hunk of the file above it. -/
theorem parse_unreadable_of_quoted_paths :
    let above := "diff --git a/x.ts b/x.ts\n@@ -1 +1 @@\n-x();\n+y();"
    let skipped := "diff --git \"a/\\303\\244\" \"b/\\303\\244\"\n@@ -0,0 +1 @@\n+if (a) z();"
    let following := some "diff --git a/y.ts b/y.ts"
    let found : List FileDiff := [
      ⟨"x.ts", .modified, [
        ⟨"x.ts", 1, 1, 1, 1,
          "-x();\n+y();\ndiff --git \"a/\\303\\244\" \"b/\\303\\244\"", 1, 1⟩,
        ⟨"x.ts", 0, 0, 1, 1, "+if (a) z();", 1, 0⟩], none⟩,
      ⟨"y.ts", .modified, [], none⟩]
    "diff --git ".toList <+: skipped.toList ∧ (∀ line ∈ linesOf skipped, fileHeader? line = none) ∧
      (∀ text ∈ following, ∃ line ∈ (linesOf text).head?, (fileHeader? line).isSome) ∧
      parse ("\n".intercalate (above :: skipped :: following.toList)) = .ok found ∧
      parse ("\n".intercalate (above :: following.toList)) ≠ .ok found := by
  intro above skipped following found
  have hstart : "diff --git ".toList <+: skipped.toList := by decide
  have hskipped : ∀ line ∈ linesOf skipped, fileHeader? line = none := by decide +kernel
  have hfollowing : ∀ text ∈ following, ∃ line ∈ (linesOf text).head?, (fileHeader? line).isSome := by
    intro text htext
    obtain rfl := Option.some.inj htext
    exact ⟨"diff --git a/y.ts b/y.ts".toList, by decide +kernel, by decide +kernel⟩
  have hfound : parse ("\n".intercalate (above :: skipped :: following.toList)) = .ok found := by decide +kernel
  refine ⟨hstart, hskipped, hfollowing, hfound, fun hwithout => ?_⟩
  -- the section has a hunk, so that its lines make a difference
  have habove : sectionsOf above = [] ++ [(("x.ts", "x.ts"),
      ["@@ -1 +1 @@".toList, "-x();".toList, "+y();".toList])] := by decide +kernel
  obtain ⟨-, -, hiff⟩ := (parse_unreadable hstart hskipped hfollowing).2 [] _ _ habove
  have hall := ((hiff _ _ hfound hwithout).mp rfl).1
  exact absurd (hall "@@ -0,0 +1 @@".toList (by decide +kernel)) (by decide +kernel)

end UnreadableHeader

end FileDiff
end RepoSurvey
