import RepoSurvey.Proofs.Import.DottedModules
import RepoSurvey.Proofs.Import.StatementLines
import RepoSurvey.Proofs.Text.Blank

/-!
# Import statements

Python imports modules in two statements, `import a.b as c, d` and `from ..a.b import c`, each on a line of its own.

* `ImportLine`: such a line, or a blank one, with any white space; `ImportLine.text`: its characters.
* `ImportLine.named`: the modules that it names; `ImportLine.read?`: the one that is read on it.
* `captures_imports`, `captures_sources`: what the two patterns capture on a line.
* `importSpecifiers_of_lines`: the specifiers of a text of such lines.
-/

namespace RepoSurvey
namespace Statement

open Pattern

/-! ### Lines -/

section Lines

/-- White space on one line, of at least so many characters. -/
structure Gap (atLeast : Nat) where
  chars : List Char
  blank : ∀ c ∈ chars, Text.isBlank c = true
  inLine : '\n' ∉ chars
  long : atLeast ≤ chars.length

/-- A module, named by identifiers with dots between them. -/
structure ModuleName where
  parts : List (List Char)
  nonempty : parts ≠ []
  identifiers : ∀ part ∈ parts, Text.isIdentifier part = true

def ModuleName.text (m : ModuleName) : List Char := Repository.dottedName m.parts

/-- Where names are imported from: a module, or a module or package found from the package of the file. -/
inductive Source where
  | absolute (module : ModuleName)
  /-- One dot and one more for each package above, then the module below that package, if one is named. -/
  | relative (above : Nat) (module : Option ModuleName)

def Source.text : Source → List Char
  | absolute m => m.text
  | relative above m => List.replicate (above + 1) '.' ++ m.elim [] ModuleName.text

/-- Another name for an imported module. -/
structure NewName where
  before : Gap 1
  behind : Gap 1
  name : List Char
  identifier : Text.isIdentifier name = true

def NewName.text (n : NewName) : List Char := n.before.chars ++ ("as".toList ++ (n.behind.chars ++ n.name))

/-- An imported module. -/
structure Clause where
  module : ModuleName
  newName : Option NewName
  behind : Gap 0

def Clause.text (c : Clause) : List Char := c.module.text ++ (c.newName.elim [] NewName.text ++ c.behind.chars)

/-- A line with an import statement, or a blank one. -/
inductive ImportLine where
  | blank (space : Gap 0)
  | modules (indent : Gap 0) (gap : Gap 1) (first : Clause) (others : List (Gap 0 × Clause))
  /-- Whatever is imported from the source, as long as the second keyword ends where it stands. -/
  | names (indent : Gap 0) (gap : Gap 1) (source : Source) (behind : Gap 1) (imported : List Char)
      (inLine : '\n' ∉ imported) (apart : imported.head?.any Text.isWord = false)

namespace ImportLine

/-- The characters behind the first module of an import. -/
def laterModules (others : List (Gap 0 × Clause)) : List Char :=
  others.flatMap fun (gap, clause) => ',' :: (gap.chars ++ clause.text)

def text : ImportLine → List Char
  | blank space => space.chars
  | modules indent gap first others =>
    indent.chars ++ ("import".toList ++ (gap.chars ++ (first.text ++ laterModules others)))
  | names indent gap source behind imported _ _ =>
    indent.chars ++ ("from".toList ++ (gap.chars ++ (source.text ++ (behind.chars ++ ("import".toList ++ imported)))))

/-- The modules that a line names. -/
def named : ImportLine → List (List Char)
  | blank _ => []
  | modules _ _ first others => first.module.text :: others.map (·.2.module.text)
  | names _ _ source _ _ _ _ => [source.text]

/-- The module that is read on a line: of an import's first module what comes before a character that is no letter,
digit, underscore or dot, if anything does, and a source without such a character. -/
def read? : ImportLine → Option (List Char)
  | blank _ => none
  | modules _ _ first _ =>
    if first.module.text.head?.any isDotted then some (first.module.text.takeWhile isDotted) else none
  | names _ _ source _ _ _ _ => if source.text.all isDotted then some source.text else none

/-- Whether a line's modules consist of letters, digits, underscores and dots. An identifier may have other
characters, such as combining marks. -/
def InWords (line : ImportLine) : Prop := ∀ m ∈ line.named, m.all isDotted = true

instance (line : ImportLine) : Decidable line.InWords := List.decidableBAll _ _

end ImportLine

/-- Lines joined by line feeds. -/
def textOf (lines : List ImportLine) : String := String.ofList (['\n'].intercalate (lines.map ImportLine.text))

end Lines

/-! ### Characters of names -/

section Characters

variable {c : Char} {s : List Char}

theorem isDotted_of_isBlank (h : Text.isBlank c = true) : isDotted c = false := by
  have hdot : c ≠ '.' := by
    rintro rfl
    cases h
  rw [isDotted, Text.isWord_of_isBlank h, Bool.false_or]
  exact beq_eq_false_iff_ne.mpr hdot

theorem not_dotted_of_blank (h : s.head?.any Text.isBlank = true) : s.head?.any isDotted = false := by
  cases s with
  | nil => rfl
  | cons c rest => exact isDotted_of_isBlank h

theorem Gap.blank_append (gap : Gap 1) (s : List Char) : (gap.chars ++ s).head?.any Text.isBlank = true := by
  have hlong := gap.long
  cases hgap : gap.chars with
  | nil =>
    rw [hgap] at hlong
    cases hlong
  | cons c chars => exact gap.blank c (hgap ▸ List.mem_cons_self)

theorem Gap.not_dotted {n : Nat} (gap : Gap n) : gap.chars.head?.any isDotted = false := by
  cases hgap : gap.chars with
  | nil => rfl
  | cons c chars => exact isDotted_of_isBlank (gap.blank c (hgap ▸ List.mem_cons_self))

theorem isBlank_of_mem_module {m : ModuleName} (hc : c ∈ m.text) : Text.isBlank c = false :=
  Repository.isBlank_of_mem_dottedName m.identifiers hc

theorem ModuleName.text_ne_nil (m : ModuleName) : m.text ≠ [] :=
  Repository.dottedName_ne_nil m.nonempty m.identifiers

theorem Source.text_ne_nil (source : Source) : source.text ≠ [] := by
  cases source with
  | absolute m => exact m.text_ne_nil
  | relative above m => simp [Source.text]

theorem isBlank_of_mem_source {source : Source} (hc : c ∈ source.text) : Text.isBlank c = false := by
  cases source with
  | absolute m => exact isBlank_of_mem_module hc
  | relative above m =>
    rcases List.mem_append.mp hc with hdot | hname
    · rw [List.eq_of_mem_replicate hdot]
      rfl
    · cases m with
      | none => cases hname
      | some m => exact isBlank_of_mem_module hname

theorem newline_not_mem_of_not_blank (h : ∀ c ∈ s, Text.isBlank c = false) : '\n' ∉ s := fun hmem =>
  absurd (h '\n' hmem) (by decide)

theorem Clause.newline_not_mem_text (clause : Clause) : '\n' ∉ clause.text := by
  have hmodule : '\n' ∉ clause.module.text := newline_not_mem_of_not_blank fun c => isBlank_of_mem_module
  refine List.not_mem_append hmodule (List.not_mem_append ?_ clause.behind.inLine)
  cases clause.newName with
  | none => exact List.not_mem_nil
  | some n =>
    have hname : '\n' ∉ n.name := newline_not_mem_of_not_blank (Text.isBlank_of_isIdentifier n.identifier)
    exact List.not_mem_append n.before.inLine (List.not_mem_append (by decide)
      (List.not_mem_append n.behind.inLine hname))

/-- A line's text is on one line. -/
theorem ImportLine.newline_not_mem_text (line : ImportLine) : '\n' ∉ line.text := by
  cases line with
  | blank space => exact space.inLine
  | modules indent gap first others =>
    have hothers : '\n' ∉ laterModules others := by
      intro hmem
      obtain ⟨⟨gap, clause⟩, -, hin⟩ := List.mem_flatMap.mp hmem
      rcases List.mem_cons.mp hin with hcomma | hin
      · cases hcomma
      · exact List.not_mem_append gap.inLine clause.newline_not_mem_text hin
    exact List.not_mem_append indent.inLine (List.not_mem_append (by decide)
      (List.not_mem_append gap.inLine (List.not_mem_append first.newline_not_mem_text hothers)))
  | names indent gap source behind imported inLine apart =>
    have hsource : '\n' ∉ source.text := newline_not_mem_of_not_blank fun c => isBlank_of_mem_source
    exact List.not_mem_append indent.inLine (List.not_mem_append (by decide) (List.not_mem_append gap.inLine
      (List.not_mem_append hsource (List.not_mem_append behind.inLine (List.not_mem_append (by decide) inLine)))))

end Characters

/-! ### What is captured on a line -/

section Captured

variable {c d e : Cursor} {s : List Char} {line : ImportLine}

/-- How far from the beginning of a line its first module stands. -/
def ImportLine.before : ImportLine → Nat
  | blank space => space.chars.length
  | modules indent gap _ _ => indent.chars.length + ("import".toList.length + gap.chars.length)
  | names indent gap _ _ _ _ _ => indent.chars.length + ("from".toList.length + gap.chars.length)

/-- The module that is read on a line, with its place. -/
def ImportLine.found? (line : ImportLine) : Option (Nat × List Char) := line.read?.map (line.before, ·)

/-- What the pattern of `import` captures. -/
def ImportLine.importFound? (line : ImportLine) : Option (Nat × List Char) :=
  match line with
  | modules .. => line.found?
  | _ => none

/-- What the pattern of `from` captures. -/
def ImportLine.sourceFound? (line : ImportLine) : Option (Nat × List Char) :=
  match line with
  | names .. => line.found?
  | _ => none

/-- The pattern of an imported module. -/
def modulePattern : Pattern := .capture (.most 1 isDotted)

/-- The pattern of a source, and of what stands behind it. -/
def sourcePattern : Pattern := .alt (.seq (.most 1 (· == '.')) (.most 0 isDotted)) (.most 1 isDotted)

def behindSource : Pattern := sequence [someBlanks, literal "import", .boundary]

theorem ends_modulePattern_eq_nil (h : c.rest.head?.any isDotted = false) : modulePattern.ends c = [] := by
  rw [modulePattern, ends, ends_most_eq_nil h, List.map_nil]

/-- A source may be read up to any of its characters behind the first. -/
theorem exists_past_of_mem_sourcePattern (h : e ∈ sourcePattern.ends c) : ∃ read rest, c.rest = read ++ rest ∧
    (∀ l ∈ read, isDotted l = true) ∧ 1 ≤ read.length ∧ e = c.past read rest := by
  rcases List.mem_append.mp h with h | h
  · obtain ⟨d, hd, he⟩ := List.mem_flatMap.mp h
    obtain ⟨dots, rest, hrest, hdots, hlength, rfl⟩ := mem_ends_most.mp hd
    obtain ⟨letters, rest', hrest', hletters, -, rfl⟩ := mem_ends_most.mp he
    obtain rfl : rest = letters ++ rest' := hrest'
    refine ⟨dots ++ letters, rest', by rw [hrest, List.append_assoc], ?_, ?_, Cursor.past_past⟩
    · refine List.forall_mem_append.mpr ⟨fun l hl => ?_, hletters⟩
      rw [isDotted, hdots l hl, Bool.or_true]
    · rw [List.length_append]
      omega
  · exact mem_ends_most.mp h

theorem ends_sourcePattern_eq_nil (h : c.rest.head?.any isDotted = false) : sourcePattern.ends c = [] := by
  refine List.eq_nil_iff_forall_not_mem.mpr fun e he => ?_
  have hmost : e ∈ (most 1 isDotted).ends c := mem_ends_most.mpr (exists_past_of_mem_sourcePattern he)
  rw [ends_most_eq_nil h] at hmost
  cases hmost

/-- What stands behind a source begins with white space. -/
theorem ends_behindSource_eq_nil (h : c.rest.head?.any Text.isBlank = false) : behindSource.ends c = [] := by
  have hpattern : behindSource = seq (most 1 Text.isBlank) (sequence [literal "import", .boundary]) := rfl
  rw [hpattern, ends, ends_most_eq_nil h, List.flatMap_nil]

variable {q : Pattern} {indentation : Gap 0} {gap : Gap 1} {l : Char} {w : List Char}

/-- A statement's keyword is read with the white space around it. -/
theorem match?_keyword (hl : Text.isBlank l = false)
    (hq : ∀ d : Cursor, d.rest.head?.any Text.isBlank = true → q.ends d = []) (hc : c.atLineStart = true)
    (hrest : c.rest = indentation.chars ++ (l :: w ++ (gap.chars ++ s))) (hs : s.head?.any Text.isBlank = false) :
    (seq indent (seq (word (l :: w)) (seq someBlanks q))).match? c =
      q.match? (c.past (indentation.chars ++ (l :: w ++ gap.chars)) s) := by
  have hword : (l :: w ++ (gap.chars ++ s)).head?.any Text.isBlank = false := hl
  have hpast : c.past (indentation.chars ++ (l :: w ++ gap.chars)) s =
      (c.past indentation.chars (l :: w ++ gap.chars ++ s)).past (l :: w ++ gap.chars) s := Cursor.past_past.symm
  rw [match?_indent_seq hc (fun d => ends_word_seq_of_first hl) hrest indentation.blank hword, match?_word_seq rfl,
    someBlanks, match?_most_seq hq rfl gap.blank hs gap.long, hpast, List.append_assoc (l :: w), ← Cursor.past_past]

/-- Nothing is read on a line with another keyword. -/
theorem match?_otherKeyword (l' : Char) (hl : Text.isBlank l = false) (hl' : Text.isBlank l' = false) (hne : l ≠ l')
    (hc : c.atLineStart = true) (hrest : c.rest = indentation.chars ++ l' :: s) :
    (seq indent (seq (word (l :: w)) q)).match? c = none := by
  have hprefix : ¬l :: w <+: l' :: s := fun h => hne (List.cons_prefix_cons.mp h).1
  rw [match?_indent_seq hc (fun d => ends_word_seq_of_first hl) hrest indentation.blank hl', match?,
    ends_word_seq_of_mismatch hprefix, List.head?_nil]

theorem not_dotted_append {s' : List Char} (h : s.head?.any isDotted = false) (h' : s'.head?.any isDotted = false) :
    (s ++ s').head?.any isDotted = false := by
  cases s with
  | nil => exact h'
  | cons c s => exact h

/-- The first module of an import ends where another character than those of a dotted name stands. -/
theorem not_dotted_behindFirst (first : Clause) (others : List (Gap 0 × Clause)) {after : List Char}
    (hafter : after.head?.all (· == '\n') = true) :
    ((first.newName.elim [] NewName.text ++ first.behind.chars) ++ ImportLine.laterModules others ++
      after).head?.any isDotted = false := by
  have hnewName : (first.newName.elim [] NewName.text).head?.any isDotted = false := by
    cases first.newName with
    | none => rfl
    | some n => exact not_dotted_of_blank (n.before.blank_append _)
  have hothers : (ImportLine.laterModules others).head?.any isDotted = false := by
    cases others with
    | nil => rfl
    | cons => rfl
  have hend : after.head?.any isDotted = false := by
    cases after with
    | nil => rfl
    | cons c after =>
      rw [List.head?_cons, Option.all_some, beq_iff_eq] at hafter
      rw [hafter]
      rfl
  exact not_dotted_append (not_dotted_append (not_dotted_append hnewName first.behind.not_dotted) hothers) hend

/-- A module is read as far as it consists of letters, digits, underscores and dots. -/
theorem match?_modulePattern {m tail : List Char} (hrest : c.rest = m ++ tail)
    (htail : tail.head?.any isDotted = false) : modulePattern.match? c = if m.head?.any isDotted then
      some (c.capturing (m.takeWhile isDotted) (m.dropWhile isDotted ++ tail)) else none := by
  split_ifs with hfirst
  · have hsplit : c.rest = m.takeWhile isDotted ++ (m.dropWhile isDotted ++ tail) := by
      rw [hrest, ← List.append_assoc, List.takeWhile_append_dropWhile]
    have hmore := not_dotted_append (any_head?_dropWhile isDotted m) htail
    have hne : m.takeWhile isDotted ≠ [] := fun hnil => by
      rw [any_head?_of_takeWhile_eq_nil hnil] at hfirst
      cases hfirst
    have hread := match?_most hsplit (fun l => List.mem_takeWhile_imp) hmore (List.length_pos_iff.mpr hne)
    exact match?_capture hread hsplit
  · have hnone : c.rest.head?.any isDotted = false := by
      rw [hrest]
      exact not_dotted_append (Bool.eq_false_iff.mpr hfirst) htail
    rw [match?, ends_modulePattern_eq_nil hnone, List.head?_nil]

theorem exists_capturing_of_mem_ends (h : d ∈ (capture sourcePattern).ends c) : ∃ read rest, c.rest = read ++ rest ∧
    (∀ l ∈ read, isDotted l = true) ∧ d = c.capturing read rest := by
  obtain ⟨e, he, rfl⟩ := List.mem_map.mp h
  obtain ⟨read, rest, hrest, hread, -, rfl⟩ := exists_past_of_mem_sourcePattern he
  exact ⟨read, rest, hrest, hread, capture_past hrest⟩

/-- Behind a source the keyword is read. -/
theorem match?_behindSource {gap : Gap 1} {imported : List Char}
    (hrest : c.rest = gap.chars ++ ("import".toList ++ imported))
    (himported : imported.head?.any Text.isWord = false) : behindSource.match? c =
      some ((c.past gap.chars ("import".toList ++ imported)).past "import".toList imported) := by
  have hpattern : behindSource = seq (most 1 Text.isBlank) (seq (word ['i', 'm', 'p', 'o', 'r', 't']) .boundary) := rfl
  have hword (d : Cursor) (hd : d.rest.head?.any Text.isBlank = true) :
      (seq (word ['i', 'm', 'p', 'o', 'r', 't']) .boundary).ends d = [] := ends_word_seq_of_first rfl hd
  have hedge : ((c.past gap.chars ("import".toList ++ imported)).past "import".toList imported).atBoundary = true := by
    rw [Cursor.atBoundary, Cursor.past_rest, himported]
    rfl
  rw [hpattern, match?_most_seq hword hrest gap.blank rfl gap.long, match?_word_seq rfl, match?, ends]
  exact congrArg List.head? (if_pos hedge)

/-- A source is read as a whole, or not at all. -/
theorem match?_source {source : Source} {gap : Gap 1} {imported : List Char}
    (hrest : c.rest = source.text ++ (gap.chars ++ ("import".toList ++ imported)))
    (himported : imported.head?.any Text.isWord = false) :
    (seq (capture sourcePattern) behindSource).match? c = if source.text.all isDotted then
      some (((c.capturing source.text (gap.chars ++ ("import".toList ++ imported))).past gap.chars
        ("import".toList ++ imported)).past "import".toList imported) else none := by
  have hgap := gap.blank_append ("import".toList ++ imported)
  split_ifs with hdotted
  · rw [List.all_eq_true] at hdotted
    have hmost : c.past source.text (gap.chars ++ ("import".toList ++ imported)) ∈ (most 1 isDotted).ends c :=
      mem_ends_most.mpr ⟨_, _, hrest, hdotted, List.length_pos_iff.mpr source.text_ne_nil, rfl⟩
    have hmem := capturing_mem_ends (p := sourcePattern) (List.mem_append_right _ hmost) hrest
    have hdead (d : Cursor) (hd : d.rest.head?.any isDotted = true) : behindSource.ends d = [] := by
      refine ends_behindSource_eq_nil (Bool.eq_false_iff.mpr fun hblank => ?_)
      rw [not_dotted_of_blank hblank] at hd
      cases hd
    rw [match?_seq_of_runs (fun _ _ => rfl) (fun d => exists_capturing_of_mem_ends) hdead hrest hdotted
      (not_dotted_of_blank hgap) hmem, match?_behindSource rfl himported]
  · have hnone : (seq (capture sourcePattern) behindSource).ends c = [] := by
      refine List.flatMap_eq_nil_iff.mpr fun d hd => ?_
      obtain ⟨read, rest, hcut, hread, rfl⟩ := exists_capturing_of_mem_ends hd
      refine ends_behindSource_eq_nil ?_
      rw [hrest] at hcut
      rcases List.append_eq_append_iff.mp hcut with ⟨more, rfl, hmore⟩ | ⟨more, hsource, rfl⟩
      · exact absurd (List.all_eq_true.mpr fun l hl => hread l (List.mem_append_left _ hl)) hdotted
      · cases more with
        | nil =>
          rw [List.append_nil] at hsource
          exact absurd (List.all_eq_true.mpr (hsource ▸ hread)) hdotted
        | cons l more =>
          have hl : l ∈ source.text := by
            rw [hsource]
            exact List.mem_append_right _ List.mem_cons_self
          exact isBlank_of_mem_source hl
    rw [match?, hnone, List.head?_nil]

end Captured

/-! ### Lines of a text -/

section Texts

variable {indentation : Gap 0} {gap behind : Gap 1} {source : Source} {imported : List Char} {first : Clause}
  {others : List (Gap 0 × Clause)}

/-- The pattern of an import, and the one of an import from a source. -/
def importPattern : Pattern :=
  .seq indent (.seq (.word ['i', 'm', 'p', 'o', 'r', 't']) (.seq someBlanks modulePattern))

def fromPattern : Pattern :=
  .seq indent (.seq (.word ['f', 'r', 'o', 'm']) (.seq someBlanks (.seq (.capture sourcePattern) behindSource)))

theorem importPatterns_python : importPatterns .python = [importPattern, fromPattern] := rfl

/-- **An import's first module** is read as far as it consists of letters, digits, underscores and dots. -/
theorem captures_modules : Captures importPattern (ImportLine.modules indentation gap first others).text
    (ImportLine.modules indentation gap first others).found? := by
  intro c after hc hrest hafter
  have htail := not_dotted_behindFirst first others hafter
  set tail := (first.newName.elim [] NewName.text ++ first.behind.chars) ++ ImportLine.laterModules others ++ after
    with htaildef
  have hcut : c.rest =
      indentation.chars ++ ('i' :: ['m', 'p', 'o', 'r', 't'] ++ (gap.chars ++ (first.module.text ++ tail))) := by
    rw [hrest, ImportLine.text, Clause.text, htaildef]
    simp only [List.append_assoc]
    rfl
  have hblank : (first.module.text ++ tail).head?.any Text.isBlank = false := by
    obtain ⟨l, rest, hcons⟩ := List.exists_cons_of_ne_nil first.module.text_ne_nil
    have hmem : l ∈ first.module.text := hcons ▸ List.mem_cons_self
    have hl : Text.isBlank l = false := isBlank_of_mem_module hmem
    rw [hcons]
    exact hl
  have hmatch := match?_keyword (l := 'i') (w := ['m', 'p', 'o', 'r', 't']) rfl
    (fun d hd => ends_modulePattern_eq_nil (not_dotted_of_blank hd)) hc hcut hblank
  rw [match?_modulePattern rfl htail] at hmatch
  rw [ImportLine.found?, ImportLine.read?]
  split_ifs at hmatch ⊢ with hfirst
  · refine ⟨_, hmatch, ?_, ?_, length_lt_of_match?_statement hmatch⟩
    · rw [Cursor.capturing_captured, Cursor.past_position, List.length_append, List.length_append]
      rfl
    · exact List.suffix_append_of_suffix (List.suffix_append _ _)
  · exact hmatch

/-- **A source** is read if it consists of letters, digits, underscores and dots. -/
theorem captures_names {inLine : '\n' ∉ imported} {apart : imported.head?.any Text.isWord = false} :
    Captures fromPattern (ImportLine.names indentation gap source behind imported inLine apart).text
      (ImportLine.names indentation gap source behind imported inLine apart).found? := by
  intro c after hc hrest hafter
  have hcut : c.rest = indentation.chars ++ ('f' :: ['r', 'o', 'm'] ++
      (gap.chars ++ (source.text ++ (behind.chars ++ ("import".toList ++ (imported ++ after)))))) := by
    rw [hrest, ImportLine.text]
    simp only [List.append_assoc]
    rfl
  have hend : (imported ++ after).head?.any Text.isWord = false := by
    cases imported with
    | cons c imported => exact apart
    | nil =>
      cases after with
      | nil => rfl
      | cons c after =>
        rw [List.head?_cons, Option.all_some, beq_iff_eq] at hafter
        rw [hafter]
        rfl
  have hhead : (source.text ++ (behind.chars ++ ("import".toList ++ (imported ++ after)))).head?.any Text.isBlank =
      false := by
    obtain ⟨l, rest, hcons⟩ := List.exists_cons_of_ne_nil source.text_ne_nil
    have hmem : l ∈ source.text := hcons ▸ List.mem_cons_self
    have hl : Text.isBlank l = false := isBlank_of_mem_source hmem
    rw [hcons]
    exact hl
  have hdead (d : Cursor) (hd : d.rest.head?.any Text.isBlank = true) :
      (seq (capture sourcePattern) behindSource).ends d = [] := by
    rw [ends, ends, ends_sourcePattern_eq_nil (not_dotted_of_blank hd), List.map_nil, List.flatMap_nil]
  have hmatch := match?_keyword (l := 'f') (w := ['r', 'o', 'm']) rfl hdead hc hcut hhead
  rw [match?_source rfl hend] at hmatch
  rw [ImportLine.found?, ImportLine.read?]
  split_ifs at hmatch ⊢ with hdotted
  · refine ⟨_, hmatch, ?_, ?_, length_lt_of_match?_statement hmatch⟩
    · rw [Cursor.past_captured, Cursor.past_captured, Cursor.capturing_captured, Cursor.past_position,
        List.length_append, List.length_append]
      rfl
    · exact List.suffix_append _ _
  · exact hmatch

theorem isBlank_or_captures_import (line : ImportLine) :
    (∀ c ∈ line.text, Text.isBlank c = true) ∧ line.importFound? = none ∨
      Captures importPattern line.text line.importFound? := by
  cases line with
  | blank space => exact .inl ⟨space.blank, rfl⟩
  | modules => exact .inr captures_modules
  | names indentation gap source behind imported inLine apart =>
    refine .inr fun c after hc hrest _ => ?_
    rw [ImportLine.text, List.append_assoc] at hrest
    exact match?_otherKeyword 'f' rfl rfl (by decide) hc hrest

theorem isBlank_or_captures_source (line : ImportLine) :
    (∀ c ∈ line.text, Text.isBlank c = true) ∧ line.sourceFound? = none ∨
      Captures fromPattern line.text line.sourceFound? := by
  cases line with
  | blank space => exact .inl ⟨space.blank, rfl⟩
  | modules indentation gap first others =>
    refine .inr fun c after hc hrest _ => ?_
    rw [ImportLine.text, List.append_assoc] at hrest
    exact match?_otherKeyword 'i' rfl rfl (by decide) hc hrest
  | names => exact .inr captures_names

theorem before_le_length (line : ImportLine) : line.before ≤ line.text.length := by
  have hparts (space keyword gap rest : List Char) :
      space.length + (keyword.length + gap.length) ≤ (space ++ (keyword ++ (gap ++ rest))).length := by
    rw [List.length_append, List.length_append, List.length_append]
    omega
  cases line with
  | blank => exact le_rfl
  | modules => exact hparts _ _ _ _
  | names => exact hparts _ _ _ _

/-- On a line at most one of the patterns captures something. -/
theorem found?_cases (line : ImportLine) : (line.importFound? = none ∧ line.found? = line.sourceFound?) ∨
    (line.sourceFound? = none ∧ line.found? = line.importFound?) := by
  cases line with
  | blank => exact .inl ⟨rfl, rfl⟩
  | modules => exact .inr ⟨rfl, rfl⟩
  | names => exact .inl ⟨rfl, rfl⟩

/-- What both patterns capture in a text of lines, in its order. -/
theorem map_snd_mergeSort_importsFound (lines : List ImportLine) :
    ((importsFound .python (textOf lines).toList).mergeSort comesBefore).map (·.2) =
      (lines.filterMap ImportLine.read?).map String.ofList := by
  have htext : (textOf lines).toList = ['\n'].intercalate (lines.map ImportLine.text) := String.toList_ofList
  have himports : (importPattern.findAll (textOf lines).toList).filterMap (·.captured) =
      placed ImportLine.text ImportLine.importFound? 0 lines :=
    captured_findFrom_lines rfl (fun line _ => line.newline_not_mem_text) (fun line _ => isBlank_or_captures_import line)
      rfl htext
  have hsources : (fromPattern.findAll (textOf lines).toList).filterMap (·.captured) =
      placed ImportLine.text ImportLine.sourceFound? 0 lines :=
    captured_findFrom_lines rfl (fun line _ => line.newline_not_mem_text) (fun line _ => isBlank_or_captures_source line)
      rfl htext
  set shown : Nat × List Char → Nat × String := fun hit => (hit.1, String.ofList hit.2) with hshown
  have hcaptured (p : Pattern) (s : List Char) : capturedIn p s = ((p.findAll s).filterMap (·.captured)).map shown :=
    List.map_filterMap.symm
  have hfound : importsFound .python (textOf lines).toList =
      (placed ImportLine.text ImportLine.importFound? 0 lines ++
        placed ImportLine.text ImportLine.sourceFound? 0 lines).map shown := by
    have hgo : (if Language.python = Language.go then blockImports (textOf lines).toList else []) = [] := rfl
    rw [importsFound, importPatterns_python, hgo, List.append_nil, List.flatMap_cons, List.flatMap_singleton,
      hcaptured, hcaptured, himports, hsources, List.map_append]
  have hperm : (placed ImportLine.text ImportLine.importFound? 0 lines ++
      placed ImportLine.text ImportLine.sourceFound? 0 lines).Perm (placed ImportLine.text ImportLine.found? 0 lines) :=
    perm_placed lines found?_cases 0
  have hordered : ((placed ImportLine.text ImportLine.found? 0 lines).map shown).Pairwise fun a b => a.1 < b.1 := by
    refine List.pairwise_map.mpr (pairwise_placed (fun line hit hhit => ?_) lines 0)
    obtain ⟨m, -, rfl⟩ := Option.map_eq_some_iff.mp hhit
    exact before_le_length line
  rw [hfound, mergeSort_comesBefore_of_perm (hperm.map shown) hordered, List.map_map]
  have hread : (placed ImportLine.text ImportLine.found? 0 lines).map (·.2) = lines.filterMap ImportLine.read? := by
    rw [map_snd_placed]
    refine List.filterMap_congr fun line _ => ?_
    rw [ImportLine.found?, Option.map_map]
    exact Option.map_id'
  rw [← hread, List.map_map]
  rfl

/-- Without other characters a line's first module is read. -/
theorem read?_of_inWords {line : ImportLine} (h : line.InWords) : line.read? = line.named.head? := by
  cases line with
  | blank => rfl
  | modules indentation gap first others =>
    have hletters : ∀ c ∈ first.module.text, isDotted c = true := List.all_eq_true.mp (h _ List.mem_cons_self)
    have hfirst : first.module.text.head?.any isDotted = true := by
      obtain ⟨l, rest, hcons⟩ := List.exists_cons_of_ne_nil first.module.text_ne_nil
      rw [hcons]
      exact hletters l (hcons ▸ List.mem_cons_self)
    rw [ImportLine.read?, if_pos hfirst, List.takeWhile_eq_self_iff.mpr hletters]
    rfl
  | names indentation gap source behind imported inLine apart =>
    rw [ImportLine.read?, if_pos (h _ (List.mem_singleton_self _))]
    rfl

/-- **The specifiers of import statements**, with any white space, are the modules that are read line by line, each
once. Where all modules consist of letters, digits, underscores and dots, they are the sources and the first modules of
the imports: a module behind a comma is left out unless a line has it first. Where no line names a second module, they
are all modules named. -/
theorem importSpecifiers_of_lines (lines : List ImportLine) :
    importSpecifiers .python (textOf lines) = ((lines.filterMap ImportLine.read?).map String.ofList).eraseDups ∧
    ((∀ line ∈ lines, line.InWords) →
      importSpecifiers .python (textOf lines) = ((lines.filterMap (·.named.head?)).map String.ofList).eraseDups ∧
      ((∀ line ∈ lines, line.named.length ≤ 1) →
        importSpecifiers .python (textOf lines) = ((lines.flatMap ImportLine.named).map String.ofList).eraseDups)) := by
  have hread : importSpecifiers .python (textOf lines) =
      ((lines.filterMap ImportLine.read?).map String.ofList).eraseDups := by
    rw [importSpecifiers, map_snd_mergeSort_importsFound]
  refine ⟨hread, fun hwords => ?_⟩
  have hfirst : lines.filterMap ImportLine.read? = lines.filterMap (·.named.head?) :=
    List.filterMap_congr fun line hline => read?_of_inWords (hwords line hline)
  refine ⟨hread.trans (by rw [hfirst]), fun hone => ?_⟩
  have hall : lines.filterMap (·.named.head?) = lines.flatMap ImportLine.named := by
    rw [List.filterMap_eq_flatMap_toList]
    refine List.flatMap_congr fun line hline => ?_
    have hline := hone line hline
    cases hnamed : line.named with
    | nil => rfl
    | cons m more =>
      rw [hnamed, List.length_cons] at hline
      obtain rfl : more = [] := List.length_eq_zero_iff.mp (by omega)
      rfl
  rw [hread, hfirst, hall]

/-- One space, and no white space. -/
def Gap.space {n : Nat} (h : n ≤ 1) : Gap n := ⟨[' '], List.forall_mem_singleton.mpr rfl, by decide, h⟩

def Gap.empty : Gap 0 := ⟨[], List.forall_mem_nil _, fun h => List.not_mem_nil h, Nat.zero_le _⟩

/-- A module of the top. -/
def ModuleName.single (part : List Char) (h : Text.isIdentifier part = true) : ModuleName :=
  ⟨[part], List.cons_ne_nil _ _, List.forall_mem_singleton.mpr h⟩

/-- The second module of an import is left out, and with one line for each module nothing is. -/
theorem importSpecifiers_of_lines_of_two_modules :
    (∃ lines, textOf lines = "import os, sys" ∧ lines.flatMap ImportLine.named = ["os".toList, "sys".toList] ∧
      (∀ line ∈ lines, line.InWords) ∧ importSpecifiers .python (textOf lines) = ["os"]) ∧
    ∃ lines, textOf lines = "import os\nfrom ..core import sys" ∧ (∀ line ∈ lines, line.InWords) ∧
      (∀ line ∈ lines, line.named.length ≤ 1) ∧ importSpecifiers .python (textOf lines) = ["os", "..core"] := by
  refine ⟨⟨[.modules .empty (.space le_rfl) ⟨.single "os".toList (by decide), none, .empty⟩
      [(.space (Nat.zero_le 1), ⟨.single "sys".toList (by decide), none, .empty⟩)]],
    by decide, rfl, by decide, ?_⟩,
    ⟨[.modules .empty (.space le_rfl) ⟨.single "os".toList (by decide), none, .empty⟩ [],
      .names .empty (.space le_rfl) (.relative 1 (some (.single "core".toList (by decide)))) (.space le_rfl)
        " sys".toList (by decide) rfl],
    by decide, by decide, by decide, ?_⟩⟩
  · exact ((importSpecifiers_of_lines _).2 (by decide)).1.trans rfl
  · exact (((importSpecifiers_of_lines _).2 (by decide)).2 (by decide)).trans rfl

end Texts

end Statement
end RepoSurvey
