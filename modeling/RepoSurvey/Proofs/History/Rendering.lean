import Mathlib.Data.List.Induction
import Mathlib.Tactic.SplitIfs
import RepoSurvey.Proofs.History.Sections
import RepoSurvey.Proofs.Number.DigitLimit
import RepoSurvey.Proofs.Text.Lines
import RepoSurvey.Proofs.Text.PatternReading

/-!
# Writing a diff

* `HunkText`, `FileText`: a hunk and a file of a diff as they are written, line by line.
* `HunkText.hunk`, `FileText.diff`: the change that they describe.
* `FileText.render`: the text of some files.
* `FileDiff.parse_render`: every such text is read back file by file, unless a number in it has too many digits.
-/

namespace RepoSurvey

/-! ### Cutting at the last separator -/

namespace Text

variable {sep : List Char} {suits : List Char → Bool}

theorem after?_append (start s : List Char) : after? start (start ++ s) = some s := by
  rw [after?, if_pos (List.isPrefixOf_iff_prefix.mpr (List.prefix_append start s)), List.drop_left]

theorem splitAtLast_eq_none {s : List Char} (h : ¬ sep <:+: s) : splitAtLast sep suits s = none := by
  induction s with
  | nil => rfl
  | cons c rest ih =>
    rw [List.infix_cons_iff, not_or] at h
    rw [splitAtLast, ih h.2]
    have hstart : sep.isPrefixOf (c :: rest) = false := by
      rw [← Bool.not_eq_true, List.isPrefixOf_iff_prefix]
      exact h.1
    simp only [hstart, Bool.false_and, Bool.false_eq_true, if_false]

/-- Where no separator begins later, the text is cut at this one. -/
theorem splitAtLast_append {left right : List Char} (hsep : sep ≠ []) (hsuits : suits right = true)
    (hlast : ¬ sep <:+: sep.tail ++ right) :
    splitAtLast sep suits (left ++ (sep ++ right)) = some (left, right) := by
  induction left with
  | nil =>
    obtain ⟨c, letters, rfl⟩ := List.exists_cons_of_ne_nil hsep
    have hstart : (c :: letters).isPrefixOf (c :: letters ++ right) = true :=
      List.isPrefixOf_iff_prefix.mpr (List.prefix_append _ _)
    rw [List.tail_cons] at hlast
    rw [List.nil_append, List.cons_append, splitAtLast, splitAtLast_eq_none hlast, ← List.cons_append, List.drop_left]
    simp only [hstart, hsuits, Bool.and_self, if_true]
  | cons c left ih =>
    rw [List.cons_append, splitAtLast, ih]

end Text

/-! ### Headers -/

section Headers

/-- A header is cut at the last ` b/`; the old path may hold one itself. -/
theorem fileHeader?_written {old new : String} (hold : old ≠ "") (hnew : new ≠ "")
    (hlast : ¬ " b/".toList <:+: new.toList) :
    fileHeader? ("diff --git a/".toList ++ (old.toList ++ (" b/".toList ++ new.toList))) = some (old, new) := by
  have hstart := List.isPrefixOf_iff_prefix.mpr
    (List.prefix_append "diff --git a/".toList (old.toList ++ (" b/".toList ++ new.toList)))
  obtain ⟨c, letters, hletters⟩ := List.exists_cons_of_ne_nil fun h => hold (String.toList_eq_nil_iff.mp h)
  have hsuits : (!new.toList.isEmpty) = true := by simpa [String.toList_eq_nil_iff] using hnew
  have hcut : Text.splitAtLast " b/".toList (!·.isEmpty) (letters ++ (" b/".toList ++ new.toList)) =
      some (letters, new.toList) := by
    refine Text.splitAtLast_append (by decide) hsuits ?_
    show ¬ [' ', 'b', '/'] <:+: 'b' :: '/' :: new.toList
    rw [List.infix_cons_iff, List.infix_cons_iff]
    simpa [List.cons_prefix_cons] using hlast
  rw [fileHeader?]
  simp only [if_pos hstart, List.drop_left]
  rw [hletters, List.cons_append]
  simp only [hcut, Option.map_some, ← hletters, String.ofList_toList]

/-- Digits before something that is none. -/
theorem digits?_append {digits rest : List Char} (hne : digits ≠ []) (hdigits : ∀ c ∈ digits, Text.isDigit c = true)
    (hrest : ∀ c ∈ rest.head?, Text.isDigit c = false) : digits? (digits ++ rest) = some (digits, rest) := by
  have hstop : rest.head?.any Text.isDigit = false := by
    cases rest with
    | nil => rfl
    | cons c rest => exact hrest c rfl
  rw [digits?, Pattern.takeWhile_append_edge hdigits hstop, Pattern.dropWhile_append_edge hdigits hstop,
    if_neg (by simpa using hne)]

namespace WrittenRange

/-- The digits of a range's numbers. -/
def numbers (r : WrittenRange) : List (List Char) := r.start :: r.count.toList

/-- The numbers of a range consist of digits. -/
def IsNumbered (r : WrittenRange) : Prop := ∀ digits ∈ r.numbers, digits ≠ [] ∧ ∀ c ∈ digits, Text.isDigit c = true

/-- A range without a count is numbered if its first line is. -/
theorem isNumbered_start {digits : List Char} (hne : digits ≠ []) (h : ∀ c ∈ digits, Text.isDigit c = true) :
    IsNumbered ⟨digits, none⟩ := by
  intro written hwritten
  rw [List.mem_singleton.mp hwritten]
  exact ⟨hne, h⟩

/-- A range as it stands in a hunk header. -/
def text (r : WrittenRange) : List Char := r.start ++ r.count.elim [] (',' :: ·)

/-- The first line and the count, where a count that is left out is one. -/
def values (r : WrittenRange) : Nat × Nat := (Text.numberOf r.start, r.count.elim 1 Text.numberOf)

theorem read_eq (r : WrittenRange) : r.read = Numeral.checked r.numbers r.values := by
  obtain ⟨start, count⟩ := r
  rw [read, Numeral.ofDigits_eq]
  refine Numeral.checked_bind [start] count.toList _ _ ?_
  cases count with
  | none => rfl
  | some digits =>
    rw [Option.map_some, Option.getD_some, Numeral.ofDigits_eq]
    exact Numeral.checked_bind_pure _ _ _

/-- A range is read back before a blank. -/
theorem range?_text {r : WrittenRange} (h : r.IsNumbered) (rest : List Char) :
    range? (r.text ++ ' ' :: rest) = some (r, ' ' :: rest) := by
  obtain ⟨start, count⟩ := r
  obtain ⟨hne, hdigits⟩ := h start List.mem_cons_self
  have hblank : ∀ c ∈ (' ' :: rest).head?, Text.isDigit c = false := by simp; decide
  cases count with
  | none =>
    rw [text, Option.elim_none, List.append_nil, range?, digits?_append hne hdigits hblank]
    rfl
  | some digits =>
    obtain ⟨hcount, hcountDigits⟩ := h digits (by simp [numbers])
    have hcomma : ∀ c ∈ (',' :: (digits ++ ' ' :: rest)).head?, Text.isDigit c = false := by simp; decide
    rw [text, Option.elim_some, List.append_assoc, List.cons_append, range?, digits?_append hne hdigits hcomma]
    simp only [Option.bind_eq_bind, Option.bind_some, digits?_append hcount hcountDigits hblank]

theorem newline_not_mem_text {r : WrittenRange} (h : r.IsNumbered) : '\n' ∉ r.text := by
  have hnewline : Text.isDigit '\n' ≠ true := by decide
  obtain ⟨start, count⟩ := r
  have hstart : '\n' ∉ start := fun hmem => hnewline ((h start List.mem_cons_self).2 _ hmem)
  cases count with
  | none => simpa [text] using hstart
  | some digits =>
    have hcount : '\n' ∉ digits := fun hmem => hnewline ((h digits (by simp [numbers])).2 _ hmem)
    simp [text, hstart, hcount]

end WrittenRange

/-- A hunk header is read back, whatever stands behind it. -/
theorem hunkHeader?_written {old new : WrittenRange} (hold : old.IsNumbered) (hnew : new.IsNumbered)
    (tail : List Char) :
    hunkHeader? ("@@ -".toList ++ (old.text ++ (" +".toList ++ (new.text ++ (" @@".toList ++ tail))))) =
      some (old, new) := by
  rw [hunkHeader?, Text.after?_append, Option.bind_eq_bind, Option.bind_some]
  show (range? (old.text ++ ' ' :: _)).bind _ = _
  rw [WrittenRange.range?_text hold, Option.bind_some]
  show (Text.after? " +".toList (" +".toList ++ (new.text ++ (" @@".toList ++ tail)))).bind _ = _
  rw [Text.after?_append, Option.bind_some]
  show (range? (new.text ++ ' ' :: _)).bind _ = _
  rw [WrittenRange.range?_text hnew, Option.bind_some]
  show (Text.after? " @@".toList (" @@".toList ++ tail)).bind _ = _
  rw [Text.after?_append, Option.bind_some]

theorem fileHeader?_eq_none {line : List Char} (h : ¬ "diff --git ".toList <+: line) : fileHeader? line = none := by
  rw [fileHeader?, if_neg]
  intro hstart
  have hshort : "diff --git ".toList <+: "diff --git a/".toList := by decide
  exact h (hshort.trans (List.isPrefixOf_iff_prefix.mp hstart))

theorem hunkHeader?_eq_none {line : List Char} (h : ¬ "@@".toList <+: line) : hunkHeader? line = none := by
  have hshort : "@@".toList <+: "@@ -".toList := by decide
  have hstart : ¬ "@@ -".toList.isPrefixOf line = true := fun hstart =>
    h (hshort.trans (List.isPrefixOf_iff_prefix.mp hstart))
  rw [hunkHeader?, Text.after?, if_neg hstart]
  rfl

end Headers

/-! ### Hunks as they are written -/

/-- The characters that a line of a hunk begins with. -/
def bodyMarks : List Char := [' ', '+', '-', '\\']

/-- A hunk of a diff, with a header and the lines below it. -/
structure HunkText where
  old : WrittenRange
  new : WrittenRange
  /-- What stands behind the header on its line. -/
  tail : List Char
  body : List (List Char)
  old_numbered : old.IsNumbered
  new_numbered : new.IsNumbered
  tail_line : '\n' ∉ tail
  body_lines : ∀ line ∈ body, '\n' ∉ line ∧ ∃ mark ∈ bodyMarks, line.head? = some mark

namespace HunkText

variable (h : HunkText)

def header : List Char :=
  "@@ -".toList ++ (h.old.text ++ (" +".toList ++ (h.new.text ++ (" @@".toList ++ h.tail))))

def lines : List (List Char) := h.header :: h.body

def numbers : List (List Char) := h.old.numbers ++ h.new.numbers

/-- The change that a hunk of a file describes. -/
def hunk (filePath : String) : Hunk where
  filePath
  oldStart := h.old.values.1
  oldLines := h.old.values.2
  newStart := h.new.values.1
  newLines := h.new.values.2
  content := String.ofList (['\n'].intercalate h.body)
  additions := (h.body.filter (·.head? == some '+')).length
  deletions := (h.body.filter (·.head? == some '-')).length

theorem ofSection_eq (filePath : String) :
    Hunk.ofSection filePath ((h.old, h.new), h.body) = Numeral.checked h.numbers (h.hunk filePath) := by
  have hcount : ∀ mark, Hunk.countMarked mark h.body = (h.body.filter (·.head? == some mark)).length :=
    fun mark => List.countP_eq_length_filter
  rw [Hunk.ofSection, WrittenRange.read_eq, WrittenRange.read_eq]
  refine Numeral.checked_bind _ _ _ _ ?_
  rw [hunk, ← hcount, ← hcount]
  exact Numeral.checked_bind_pure h.new.numbers h.new.values fun (values : Nat × Nat) => _

theorem newline_not_mem_lines {line : List Char} (hline : line ∈ h.lines) : '\n' ∉ line := by
  rcases List.mem_cons.mp hline with rfl | hbody
  · have hold := WrittenRange.newline_not_mem_text h.old_numbered
    have hnew := WrittenRange.newline_not_mem_text h.new_numbered
    have htail := h.tail_line
    simp [header, hold, hnew, htail]
  · exact (h.body_lines line hbody).1

/-- No line of a hunk begins with a letter. -/
theorem fileHeader?_lines {line : List Char} (hline : line ∈ h.lines) : fileHeader? line = none := by
  refine fileHeader?_eq_none fun hstart => ?_
  obtain ⟨rest, rfl⟩ := hstart
  rcases List.mem_cons.mp hline with hheader | hbody
  · have hfirst := congrArg List.head? hheader
    simp [header] at hfirst
  · obtain ⟨-, mark, hmark, hfirst⟩ := h.body_lines _ hbody
    obtain rfl : 'd' = mark := by simpa using hfirst
    exact absurd hmark (by decide)

theorem hunkHeader?_body {line : List Char} (hline : line ∈ h.body) : hunkHeader? line = none := by
  refine hunkHeader?_eq_none fun hstart => ?_
  obtain ⟨rest, rfl⟩ := hstart
  obtain ⟨-, mark, hmark, hfirst⟩ := h.body_lines _ hline
  obtain rfl : '@' = mark := by simpa using hfirst
  exact absurd hmark (by decide)

end HunkText

/-! ### Files as they are written -/

/-- A file of a diff: a header, lines about the file, and hunks. -/
structure FileText where
  old : String
  new : String
  metadata : List (List Char)
  hunks : List HunkText
  old_ne : old ≠ ""
  new_ne : new ≠ ""
  old_line : '\n' ∉ old.toList
  new_line : '\n' ∉ new.toList
  new_whole : ¬ " b/".toList <:+: new.toList
  metadata_lines : ∀ line ∈ metadata, '\n' ∉ line ∧ ¬ "diff --git ".toList <+: line ∧ ¬ "@@".toList <+: line

namespace FileText

variable (f : FileText)

def header : List Char := "diff --git a/".toList ++ (f.old.toList ++ (" b/".toList ++ f.new.toList))

def below : List (List Char) := f.metadata ++ f.hunks.flatMap HunkText.lines

def lines : List (List Char) := f.header :: f.below

def numbers : List (List Char) := f.hunks.flatMap HunkText.numbers

/-- The text of some files, without a line feed at its end. -/
def render (files : List FileText) : String := String.ofList (['\n'].intercalate (files.flatMap lines))

/-- The status that a line about a file names. -/
def namedStatus? (line : List Char) : Option ChangeStatus :=
  if "new file mode".toList <+: line then some .added
  else if "deleted file mode".toList <+: line then some .deleted
  else none

/-- The change that a file of a diff describes: the last line that names a status counts, and without one the file has
been renamed if its paths differ. -/
def diff : FileDiff :=
  let hunks := f.hunks.map fun h => h.hunk f.new
  match (f.metadata.filterMap namedStatus?).getLast? with
  | some status => { filePath := f.new, status, hunks, oldPath := none }
  | none =>
    if f.old = f.new then { filePath := f.new, status := .modified, hunks, oldPath := none }
    else { filePath := f.new, status := .renamed, hunks, oldPath := some f.old }

/-- The last line that names a status counts. -/
theorem statusOf_eq (lines : List (List Char)) :
    FileDiff.statusOf lines = ((lines.filterMap namedStatus?).getLast?).getD .modified := by
  have hstep : ∀ status line, (if "new file mode".toList.isPrefixOf line then ChangeStatus.added
      else if "deleted file mode".toList.isPrefixOf line then .deleted else status) =
        (namedStatus? line).getD status := by
    intro status line
    simp only [namedStatus?, List.isPrefixOf_iff_prefix]
    split_ifs <;> rfl
  induction lines using List.reverseRecOn with
  | nil => rfl
  | append_singleton lines line ih =>
    rw [FileDiff.statusOf, List.foldl_append, ← FileDiff.statusOf, ih, List.foldl_cons, List.foldl_nil, hstep,
      List.filterMap_append, List.filterMap_cons]
    cases namedStatus? line with
    | none => rw [List.filterMap_nil, List.append_nil, Option.getD_none]
    | some status => rw [List.filterMap_nil, List.getLast?_concat, Option.getD_some, Option.getD_some]

theorem namedStatus?_ne_modified {line : List Char} : namedStatus? line ≠ some .modified := by
  rw [namedStatus?]
  split_ifs <;> simp

theorem sections_below : sections hunkHeader? f.below = (f.metadata, f.hunks.map fun h => ((h.old, h.new), h.body)) := by
  have hmetadata : ∀ line ∈ f.metadata, hunkHeader? line = none :=
    fun line hline => hunkHeader?_eq_none (f.metadata_lines line hline).2.2
  have hhunks : sections hunkHeader? (f.hunks.flatMap HunkText.lines) =
      ([], f.hunks.map fun h => ((h.old, h.new), h.body)) :=
    sections_flatMap (fun h _ => hunkHeader?_written h.old_numbered h.new_numbered h.tail)
      fun h _ line hline => h.hunkHeader?_body hline
  rw [below, sections_headless_append hmetadata, hhunks, List.append_nil]

theorem ofSection_eq : FileDiff.ofSection ((f.old, f.new), f.below) = Numeral.checked f.numbers f.diff := by
  have hhunks : (f.hunks.map fun h => ((h.old, h.new), h.body)).mapM (Hunk.ofSection f.new) =
      Numeral.checked f.numbers (f.hunks.map fun h => h.hunk f.new) := by
    rw [List.mapM_map]
    show f.hunks.mapM (fun h => Hunk.ofSection f.new ((h.old, h.new), h.body)) = _
    simp only [HunkText.ofSection_eq]
    exact Numeral.mapM_checked _ _ _
  rw [FileDiff.ofSection]
  simp only [f.sections_below, hhunks, Numeral.checked_bind_pure, diff, statusOf_eq]
  cases hlast : (f.metadata.filterMap namedStatus?).getLast? with
  | none => by_cases hpaths : f.old = f.new <;> simp [hpaths]
  | some status =>
    obtain ⟨line, -, hline⟩ := List.mem_filterMap.mp (List.mem_of_getLast? hlast)
    have hstatus : status ≠ .modified := fun h => namedStatus?_ne_modified (h ▸ hline)
    simp [hstatus]

theorem newline_not_mem_lines {line : List Char} (hline : line ∈ f.lines) : '\n' ∉ line := by
  rcases List.mem_cons.mp hline with rfl | hbelow
  · have hstart : '\n' ∉ "diff --git a/".toList := by decide
    have hbetween : '\n' ∉ " b/".toList := by decide
    intro hmem
    rcases List.mem_append.mp hmem with hmem | hmem
    · exact hstart hmem
    · rcases List.mem_append.mp hmem with hmem | hmem
      · exact f.old_line hmem
      · exact (List.mem_append.mp hmem).elim hbetween f.new_line
  · rcases List.mem_append.mp hbelow with hmetadata | hhunk
    · exact (f.metadata_lines line hmetadata).1
    · obtain ⟨h, -, hlines⟩ := List.mem_flatMap.mp hhunk
      exact h.newline_not_mem_lines hlines

theorem fileHeader?_below {line : List Char} (hline : line ∈ f.below) : fileHeader? line = none := by
  rcases List.mem_append.mp hline with hmetadata | hhunk
  · exact fileHeader?_eq_none (f.metadata_lines line hmetadata).2.1
  · obtain ⟨h, -, hlines⟩ := List.mem_flatMap.mp hhunk
    exact h.fileHeader?_lines hlines

/-- The sections of a written diff are its files. -/
theorem sections_render (files : List FileText) :
    (sections fileHeader? (Text.linesOf (render files))).2 = files.map fun f => ((f.old, f.new), f.below) := by
  have hfiles : sections fileHeader? (files.flatMap lines) = ([], files.map fun f => ((f.old, f.new), f.below)) :=
    sections_flatMap (fun f _ => fileHeader?_written f.old_ne f.new_ne f.new_whole)
      fun f _ line hline => f.fileHeader?_below hline
  rcases files with _ | ⟨f, rest⟩
  · have hempty : Text.linesOf (render []) = [[]] := by
      rw [render, Text.linesOf, String.toList_ofList]
      rfl
    rw [hempty]
    rfl
  · have hlines : ∀ line ∈ (f :: rest).flatMap lines, '\n' ∉ line := by
      intro line hline
      obtain ⟨other, -, hother⟩ := List.mem_flatMap.mp hline
      exact other.newline_not_mem_lines hother
    have hne : (f :: rest).flatMap lines ≠ [] := List.cons_ne_nil _ _
    rw [render, Text.linesOf_ofList_intercalate hne hlines, hfiles]

/-- The files of a written diff are read one after the other. -/
theorem mapM_ofSection (files : List FileText) :
    (files.map fun f => ((f.old, f.new), f.below)).mapM FileDiff.ofSection =
      Numeral.checked (files.flatMap numbers) (files.map diff) := by
  rw [List.mapM_map]
  show files.mapM (fun f => FileDiff.ofSection ((f.old, f.new), f.below)) = _
  simp only [ofSection_eq]
  exact Numeral.mapM_checked _ _ _

end FileText

namespace FileDiff

open FileText

/-- **A written diff is read back file by file**, unless a number has too many digits; then the first such number is
reported. -/
theorem parse_render (files : List FileText) :
    parse (render files) = match (files.flatMap numbers).find? Numeral.isLong with
      | some digits => .error ⟨digits.length⟩
      | none => .ok (files.map diff) := by
  show (sections fileHeader? (Text.linesOf (render files))).2.mapM ofSection = _
  rw [sections_render]
  exact mapM_ofSection files

/-- A number that is one, behind as many zeros as a whole number may have digits. -/
def paddedOne : List Char := List.replicate Numeral.digitLimit '0' ++ ['1']

theorem length_paddedOne : paddedOne.length = 4301 := by
  rw [paddedOne, List.length_append, List.length_replicate]
  rfl

theorem isLong_paddedOne : Numeral.isLong paddedOne = true :=
  decide_eq_true (by rw [length_paddedOne]; decide)

theorem isDigit_paddedOne {c : Char} (hc : c ∈ paddedOne) : Text.isDigit c = true := by
  rcases List.mem_append.mp hc with hzero | hone
  · rw [List.eq_of_mem_replicate hzero]
    decide
  · rw [List.mem_singleton.mp hone]
    decide

/-- A file with one hunk, whose first line is numbered with zeros in front. -/
def paddedFile : FileText where
  old := "a"
  new := "a"
  metadata := []
  hunks := [{
    old := ⟨paddedOne, none⟩
    new := ⟨['1'], none⟩
    tail := []
    body := []
    old_numbered := WrittenRange.isNumbered_start (List.append_ne_nil_of_right_ne_nil _ (List.cons_ne_nil _ _))
      fun c => isDigit_paddedOne
    new_numbered := WrittenRange.isNumbered_start (List.cons_ne_nil _ _) (by simp; decide)
    tail_line := by simp
    body_lines := by simp }]
  old_ne := by decide
  new_ne := by decide
  old_line := by decide
  new_line := by decide
  new_whole := by decide
  metadata_lines := by simp

/-- A diff with too many digits is not read back, although it writes the number one. -/
theorem parse_padded : parse (render [paddedFile]) = .error ⟨4301⟩ ∧
    ¬ ∀ files : List FileText, parse (render files) = .ok (files.map diff) := by
  have hlong : ([paddedFile].flatMap numbers).find? Numeral.isLong = some paddedOne :=
    List.find?_cons_of_pos isLong_paddedOne
  have herror : parse (render [paddedFile]) = .error ⟨4301⟩ := by
    show (sections fileHeader? (Text.linesOf (render [paddedFile]))).2.mapM ofSection = _
    rw [sections_render, mapM_ofSection, Numeral.checked, hlong, ← length_paddedOne]
  refine ⟨herror, fun hread => ?_⟩
  rw [hread] at herror
  cases herror

end FileDiff

end RepoSurvey
