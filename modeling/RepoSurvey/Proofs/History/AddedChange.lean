import RepoSurvey.Proofs.History.LogTotals

/-!
# One more change in a log

A line that reports a change, put anywhere below a commit line, adds the change to what is said about the author of the
nearest commit line above, and nothing else.

* `attributed_append_lines`: lines below others are attributed to the last author above them.
* `Activity.withChange`: the activity of a developer with one more change.
* `Activity.addsChange_of_line`: a log with one more line.
* `Activity.ofLog_moved_file`: the change of a file that has moved is one of its new path.
-/

namespace RepoSurvey

/-! ### A line among others -/

section Lines

variable {above : List (List Char)} {author : String}

/-- The author of the last commit line. -/
def lastAuthor? (lines : List (List Char)) : Option String := (lines.filterMap commitLine?).getLast?

theorem lastAuthor?_cons_other {line : List Char} (h : commitLine? line = none) :
    lastAuthor? (line :: above) = lastAuthor? above := by
  rw [lastAuthor?, List.filterMap_cons_none h, lastAuthor?]

/-- Lines below others are attributed to the last author above them. -/
theorem attributed_append_lines (before : Option String) (above rest : List (List Char)) :
    attributed before ((above ++ rest).map LogLine.ofChars) =
      attributed before (above.map LogLine.ofChars) ++
        attributed ((lastAuthor? above).or before) (rest.map LogLine.ofChars) := by
  induction above generalizing before with
  | nil => cases before <;> rfl
  | cons line above ih =>
    rw [List.cons_append, List.map_cons, List.map_cons]
    cases hcommit : commitLine? line with
    | some author =>
      have hlast : (lastAuthor? (line :: above)).or before = (lastAuthor? above).or (some author) := by
        rw [lastAuthor?, List.filterMap_cons_some hcommit, Pattern.getLast?_cons_or, lastAuthor?]
      rw [attributed_commitLine hcommit, attributed_commitLine hcommit, ih, hlast, List.cons_append]
    | none =>
      rw [attributed_otherLine hcommit, attributed_otherLine hcommit, ih, lastAuthor?_cons_other hcommit,
        List.append_assoc]

theorem mem_filterMap_of_lastAuthor? (h : lastAuthor? above = some author) : author ∈ above.filterMap commitLine? :=
  List.mem_of_getLast? h

theorem changesBelow_append (h : lastAuthor? above = some author) (rest : List (List Char)) :
    changesBelow (above ++ rest) = changesBelow above ++ rest.filterMap changeLine? := by
  obtain ⟨line, hline, hcommit⟩ := List.mem_filterMap.mp (mem_filterMap_of_lastAuthor? h)
  have hsome : ¬(above.dropWhile fun line => (commitLine? line).isNone).isEmpty = true := by
    intro hempty
    have hnone := List.dropWhile_eq_nil_iff.mp (List.isEmpty_iff.mp hempty) line hline
    rw [hcommit] at hnone
    cases hnone
  rw [changesBelow, List.dropWhile_append, if_neg hsome, List.filterMap_append, changesBelow]

/-- The author of the last commit line has something attributed. -/
theorem mem_attributed_of_lastAuthor? (h : lastAuthor? above = some author) :
    (author, none) ∈ attributed none (above.map LogLine.ofChars) := by
  have hcommit := mem_filterMap_of_lastAuthor? h
  rw [← commits_attributed none] at hcommit
  obtain ⟨⟨other, change⟩, hevent, rfl⟩ := List.mem_map.mp hcommit
  obtain ⟨hmem, hnone⟩ := List.mem_filter.mp hevent
  obtain rfl := Option.isNone_iff_eq_none.mp hnone
  exact hmem

end Lines

namespace Activity

variable {start finish : Option Moment} {author : String}

/-! ### One more event -/

section Events

variable {c : LogChange}

/-- The activity of a developer with one more change; a file without an extension counts for none. -/
def withChange (a : Activity) (c : LogChange) : Activity :=
  { a with
    filesChanged := a.filesChanged + 1
    linesAdded := a.linesAdded + c.added
    linesRemoved := a.linesRemoved + c.removed
    fileTypes := addCounts a.fileTypes (if extensionOf c.path = "" then [] else [(extensionOf c.path, 1)])
    filesTouched := Text.distinctAscending (a.filesTouched ++ [c.path]) }

theorem ofEvents_concat (developer : String) (events : List (Option LogChange)) :
    ofEvents start finish developer (events ++ [some c]) = (ofEvents start finish developer events).withChange c := by
  have hone (text : String) : [text].eraseDups = [text] := eraseDups_of_nodup (List.nodup_singleton text)
  have htypes : (ofEvents start finish developer [some c]).fileTypes =
      if extensionOf c.path = "" then [] else [(extensionOf c.path, 1)] := by
    by_cases hnone : extensionOf c.path = "" <;> simp [ofEvents, tally, hnone, hone]
  have htouched : (ofEvents start finish developer [some c]).filesTouched = [c.path] := by
    simp [ofEvents, Text.distinctAscending, Text.ascending, hone]
  rw [ofEvents_append, add, htypes, htouched, withChange]
  simp [ofEvents, total_cons, total_nil]

/-- One more change belongs to its author; the other developers stay as they are. -/
theorem ofAttributed_concat {events : List (String × Option LogChange)} (hauthor : author ∈ events.map (·.1)) :
    ofAttributed start finish (events ++ [(author, some c)]) =
      (ofAttributed start finish events).map fun a => if a.developer = author then a.withChange c else a := by
  have hdevelopers : Text.distinctAscending ((events ++ [(author, some c)]).map (·.1)) =
      Text.distinctAscending (events.map (·.1)) := by
    refine Text.distinctAscending_congr fun name => ?_
    rw [List.map_append, List.mem_append, List.map_singleton, List.mem_singleton, or_iff_left_iff_imp]
    rintro rfl
    exact hauthor
  rw [ofAttributed, hdevelopers, ofAttributed, List.map_map]
  refine List.map_congr_left fun developer _ => ?_
  show _ = if developer = author then (ofEvents start finish developer (eventsFor developer events)).withChange c
    else ofEvents start finish developer (eventsFor developer events)
  rw [eventsFor_append]
  by_cases hdeveloper : developer = author
  · have hevent : eventsFor developer [(author, some c)] = [some c] := by simp [eventsFor, hdeveloper]
    rw [hevent, ofEvents_concat, if_pos hdeveloper]
  · have hevent : eventsFor developer [(author, some c)] = [] := by simp [eventsFor, Ne.symm hdeveloper]
    rw [hevent, List.append_nil, if_neg hdeveloper]

end Events

/-! ### One more line -/

section Line

variable {log log' : String} {above below : List (List Char)}

/-- The second log says the same as the first, and one more change about an author of the first. -/
def AddsChange (start finish : Option Moment) (log log' : String) (author : String) (c : WrittenChange) : Prop :=
  ∃ as bs, ofLog log start finish = Numeral.checked (numbersIn log) as ∧
    ofLog log' start finish = Numeral.checked (numbersIn log') bs ∧
    (numbersIn log').Perm (c.numbers ++ numbersIn log) ∧ author ∈ as.map (·.developer) ∧
    List.Forall₂ AgreesWith (as.map fun a => if a.developer = author then a.withChange c.value else a) bs

/-- A line that reports a change adds it to what is said about the author of the nearest commit line above. -/
theorem addsChange_of_line {line : List Char} {c : WrittenChange} (hauthor : lastAuthor? above = some author)
    (hlog : Text.linesOf log = above ++ below) (hlog' : Text.linesOf log' = above ++ line :: below)
    (hline : LogLine.ofChars line = .change c) : AddsChange start finish log log' author c := by
  have hchange : changeLine? line = some c := by rw [changeLine?, hline]
  have hnumbers : (numbersIn log').Perm (c.numbers ++ numbersIn log) := by
    rw [numbersIn, numbersIn, hlog, hlog', changesBelow_append hauthor, changesBelow_append hauthor,
      List.filterMap_cons_some hchange, List.flatMap_append, List.flatMap_append, List.flatMap_cons]
    exact List.perm_append_comm_assoc _ _ _
  have hevents : (eventsIn log ++ [(author, some c.value)]).Perm (eventsIn log') := by
    rw [eventsIn, eventsIn, hlog, hlog', attributed_append_lines, attributed_append_lines, hauthor, Option.some_or,
      List.map_cons, hline, attributed, List.map_append, List.map_append, List.map_cons, List.append_assoc]
    exact (List.perm_append_singleton _ _).append_left _
  have hmem : author ∈ (eventsIn log).map (·.1) := by
    rw [eventsIn, hlog, attributed_append_lines, List.map_append, List.map_append, List.mem_append]
    exact Or.inl (List.mem_map_of_mem (List.mem_map_of_mem (mem_attributed_of_lastAuthor? hauthor)))
  refine ⟨_, _, ofLog_eq_checked start finish log, ofLog_eq_checked start finish log', hnumbers, ?_, ?_⟩
  · rw [map_developer_ofAttributed, Text.mem_distinctAscending]
    exact hmem
  · rw [← ofAttributed_concat hmem]
    exact ofAttributed_perm hevents

/-- A text that a log may write as a part of a path. -/
structure IsPlain (part : List Char) : Prop where
  no_brace : ∀ c ∈ part, LogLine.isBrace c = false
  no_return : '\r' ∉ part
  no_arrow : ¬ "=>".toList <:+: part

/-- **A file that has moved counts under its new path.** A line with the change of a file whose path has become another
one between `pre` and `suf` adds the change to the author of the nearest commit line above, with the new path in normal
form; a line with a whole old path and a new one adds the change of exactly the new one. -/
theorem ofLog_moved_file {added removed : List Char} (hauthor : lastAuthor? above = some author)
    (hlog : Text.linesOf log = above ++ below) (hadded : ∀ c ∈ added, Text.isDigit c = true)
    (hremoved : ∀ c ∈ removed, Text.isDigit c = true) :
    (∀ pre old new suf : List Char, IsPlain pre → IsPlain old → IsPlain new → IsPlain suf →
      Text.linesOf log' = above ++ LogLine.changeText added removed
        (pre ++ '\x7b' :: (old ++ (" => ".toList ++ new) ++ '\x7d' :: suf)) :: below →
      AddsChange start finish log log' author
        ⟨added, removed, String.ofList (Path.normal (pre ++ (new ++ suf)))⟩) ∧
    ∀ old new : List Char, IsPlain old → IsPlain new → new.head?.any Text.isBlank = false →
      new.getLast?.any Text.isBlank = false →
      Text.linesOf log' = above ++ LogLine.changeText added removed (old ++ (" => ".toList ++ new)) :: below →
      AddsChange start finish log log' author ⟨added, removed, String.ofList new⟩ := by
  constructor
  · intro pre old new suf hpre hold hnew hsuf hlog'
    have hreturn : '\r' ∉ pre ++ '\x7b' :: (old ++ (" => ".toList ++ new) ++ '\x7d' :: suf) := by
      simp [hpre.no_return, hold.no_return, hnew.no_return, hsuf.no_return]
    refine addsChange_of_line hauthor hlog hlog' ?_
    rw [LogLine.ofChars_changeText hadded hremoved (by simp) fun hend => hreturn (List.mem_of_getLast? hend),
      LogLine.newPath_braces hpre.no_brace hold.no_brace hnew.no_brace hsuf.no_brace hnew.no_arrow]
  · intro old new hold hnew hfirst hlast hlog'
    have hreturn : '\r' ∉ old ++ (" => ".toList ++ new) := by simp [hold.no_return, hnew.no_return]
    refine addsChange_of_line hauthor hlog hlog' ?_
    rw [LogLine.ofChars_changeText hadded hremoved (by simp) fun hend => hreturn (List.mem_of_getLast? hend),
      LogLine.newPath_arrow hold.no_brace hold.no_arrow hnew.no_brace hfirst hlast]

/-- A log of one commit with one file that has moved. -/
def logOfMoved (path : List Char) : String :=
  String.ofList (['\n'].intercalate [headOfAnn, LogLine.changeText ['3'] ['1'] path])

theorem linesOf_logOfMoved {path : List Char} (h : '\n' ∉ path) :
    Text.linesOf (logOfMoved path) = [headOfAnn] ++ [LogLine.changeText ['3'] ['1'] path] := by
  refine Text.linesOf_ofList_intercalate (List.cons_ne_nil _ _) ?_
  rw [List.forall_mem_cons, List.forall_mem_singleton]
  exact ⟨by decide, by simpa [LogLine.changeText, LogLine.countText] using h⟩

theorem ofLog_moved_file_of_two_forms :
    AddsChange none none (String.ofList headOfAnn) (logOfMoved "src/\x7bsub => \x7d/x.ts".toList) "ann"
        ⟨['3'], ['1'], "src/x.ts"⟩ ∧
      AddsChange none none (String.ofList headOfAnn) (logOfMoved "a.ts => b/c.py".toList) "ann"
        ⟨['3'], ['1'], "b/c.py"⟩ := by
  have hlog : Text.linesOf (String.ofList headOfAnn) = [headOfAnn] ++ [] := by
    have hone := Text.linesOf_ofList_intercalate (List.cons_ne_nil headOfAnn []) (by
      rw [List.forall_mem_singleton]
      decide)
    rwa [List.intercalate_singleton] at hone
  have hauthor : lastAuthor? [headOfAnn] = some "ann" := by decide +kernel
  have hplain (part : List Char) (hbrace : part.all (!LogLine.isBrace ·)) (hreturn : '\r' ∉ part)
      (harrow : ¬ "=>".toList <:+: part) : IsPlain part :=
    ⟨by simpa using hbrace, hreturn, harrow⟩
  have hnormal : "src/x.ts" = String.ofList (Path.normal ("src/".toList ++ ([] ++ "/x.ts".toList))) := by
    decide +kernel
  have hadded : ∀ c ∈ ['3'], Text.isDigit c = true := List.forall_mem_singleton.mpr (by decide)
  have hremoved : ∀ c ∈ ['1'], Text.isDigit c = true := List.forall_mem_singleton.mpr (by decide)
  have hbraces : "src/\x7bsub => \x7d/x.ts".toList =
      "src/".toList ++ '\x7b' :: ("sub".toList ++ (" => ".toList ++ []) ++ '\x7d' :: "/x.ts".toList) := by decide
  have harrow : "a.ts => b/c.py".toList = "a.ts".toList ++ (" => ".toList ++ "b/c.py".toList) := by decide
  constructor
  · rw [hbraces, hnormal]
    refine (ofLog_moved_file hauthor hlog hadded hremoved).1 "src/".toList "sub".toList [] "/x.ts".toList
      (hplain _ (by decide) (by decide) (by decide)) (hplain _ (by decide) (by decide) (by decide))
      (hplain _ (by decide) (by decide) (by decide)) (hplain _ (by decide) (by decide) (by decide)) ?_
    exact linesOf_logOfMoved (by decide)
  · have hnew : "b/c.py" = String.ofList "b/c.py".toList := String.ofList_toList.symm
    rw [harrow, hnew]
    refine (ofLog_moved_file hauthor hlog hadded hremoved).2 "a.ts".toList "b/c.py".toList
      (hplain _ (by decide) (by decide) (by decide)) (hplain _ (by decide) (by decide) (by decide))
      (by decide) (by decide) ?_
    exact linesOf_logOfMoved (by decide)

end Line

end Activity
end RepoSurvey
