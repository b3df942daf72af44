import Mathlib.Data.List.Perm.Subperm
import RepoSurvey.Proofs.History.ChangeLine
import RepoSurvey.Proofs.History.LogMerge
import RepoSurvey.Proofs.Number.Totals

/-!
# Totals of a log

What a log says is divided among its developers: nothing is lost and nothing is counted twice.

* `changesBelow`: the changes that count, which are those below the first commit line.
* `Activity.ofLog_eq_checked`: the developers of a log, unless a count in it has too many digits.
* `Activity.ofLog_conserves`: their totals are those of the log's lines.
-/

namespace RepoSurvey

/-! ### What the lines of a log say -/

section Lines

namespace WrittenChange

/-- The two counts of a change, by their digits. -/
def numbers (c : WrittenChange) : List (List Char) := [c.added, c.removed]

/-- The change with the numbers that the digits write; a count without digits is zero. -/
def value (c : WrittenChange) : LogChange := ⟨Text.numberOf c.added, Text.numberOf c.removed, c.path⟩

theorem read_eq (c : WrittenChange) : c.read = Numeral.checked c.numbers c.value := by
  rw [read, Numeral.ofDigits_eq, Numeral.ofDigits_eq]
  refine Numeral.checked_bind [c.added] [c.removed] _ _ ?_
  exact Numeral.checked_bind_pure _ _ _

end WrittenChange

/-- A commit or change of an author, with the numbers that the digits write. -/
def valueOf (event : String × Option WrittenChange) : String × Option LogChange :=
  (event.1, event.2.map WrittenChange.value)

theorem readEvent_eq (event : String × Option WrittenChange) :
    readEvent event = Numeral.checked (event.2.toList.flatMap WrittenChange.numbers) (valueOf event) := by
  obtain ⟨author, change⟩ := event
  cases change with
  | none => rfl
  | some c =>
    have hopened : readEvent (author, some c) = c.read >>= fun read => pure (author, some read) := by
      rw [readEvent, Option.mapM_some]
      cases c.read <;> rfl
    rw [hopened, WrittenChange.read_eq, Numeral.checked_bind_pure, Option.toList_some, List.flatMap_singleton]
    rfl

/-- The changes that lines report below the first commit line; those above it belong to nobody. -/
def changesBelow (lines : List (List Char)) : List WrittenChange :=
  (lines.dropWhile fun line => (commitLine? line).isNone).filterMap changeLine?

theorem filterMap_changesOf (author : String) (lines : List (List Char)) :
    (changesOf author lines).filterMap (·.2) = lines.filterMap changeLine? := by
  rw [changesOf, List.filterMap_map]
  exact List.filterMap_some

theorem filter_isNone_changesOf (author : String) (lines : List (List Char)) :
    (changesOf author lines).filter (·.2.isNone) = [] := by
  rw [changesOf, List.filter_map]
  simp

/-- The changes that are attributed are those below the first commit line, or all of them if an author is before. -/
theorem filterMap_attributed (before : Option String) (lines : List (List Char)) :
    (attributed before (lines.map LogLine.ofChars)).filterMap (·.2) =
      before.elim (changesBelow lines) fun _ => lines.filterMap changeLine? := by
  induction lines generalizing before with
  | nil => cases before <;> rfl
  | cons line rest ih =>
    rw [List.map_cons]
    cases hcommit : commitLine? line with
    | some author =>
      have hchange := changeLine?_of_commitLine? hcommit
      rw [attributed_commitLine hcommit, List.filterMap_cons_none rfl, ih, Option.elim_some]
      cases before <;> simp [changesBelow, hcommit, hchange]
    | none =>
      rw [attributed_otherLine hcommit, List.filterMap_append, ih]
      cases before with
      | none => simp [changesBelow, hcommit]
      | some author =>
        rw [Option.elim_some, Option.elim_some, Option.elim_some, filterMap_changesOf, ← List.filterMap_append,
          List.singleton_append]

/-- The commits that are attributed are those of the commit lines. -/
theorem commits_attributed (before : Option String) (lines : List (List Char)) :
    ((attributed before (lines.map LogLine.ofChars)).filter (·.2.isNone)).map (·.1) =
      lines.filterMap commitLine? := by
  induction lines generalizing before with
  | nil => cases before <;> rfl
  | cons line rest ih =>
    rw [List.map_cons]
    cases hcommit : commitLine? line with
    | some author =>
      rw [attributed_commitLine hcommit, List.filter_cons_of_pos rfl, List.map_cons, ih,
        List.filterMap_cons_some hcommit]
    | none =>
      have hchanges : (before.elim [] fun author => changesOf author [line]).filter (·.2.isNone) = [] := by
        cases before with
        | none => rfl
        | some author => exact filter_isNone_changesOf author [line]
      rw [attributed_otherLine hcommit, List.filter_append, hchanges, List.nil_append, ih,
        List.filterMap_cons_none hcommit]

/-- Whoever something is attributed to has a commit. -/
theorem commit_mem_attributed {lines : List (List Char)} {event : String × Option WrittenChange}
    (h : event ∈ attributed none (lines.map LogLine.ofChars)) :
    (event.1, none) ∈ attributed none (lines.map LogLine.ofChars) := by
  rw [attributed_eq, Option.elim_none, List.nil_append, List.mem_flatMap] at h ⊢
  obtain ⟨commit, hcommit, hevent⟩ := h
  have hauthor : event.1 = commit.1 := by
    rcases List.mem_cons.mp hevent with rfl | hchange
    · rfl
    · obtain ⟨c, -, rfl⟩ := List.mem_map.mp hchange
      rfl
  exact ⟨commit, hcommit, hauthor ▸ List.mem_cons_self⟩

end Lines

namespace Activity

/-! ### What is said about the developers -/

section Reported

variable (start finish : Option Moment) (log : String)

/-- What the lines of a log say, with the numbers that their digits write. -/
def eventsIn : List (String × Option LogChange) :=
  (attributed none ((Text.linesOf log).map LogLine.ofChars)).map valueOf

/-- The numbers that count in a log, by their digits. -/
def numbersIn : List (List Char) := (changesBelow (Text.linesOf log)).flatMap WrittenChange.numbers

/-- The developers of a log are reported unless a number has too many digits; the first such number stands against the
log. -/
theorem ofLog_eq_checked :
    ofLog log start finish = Numeral.checked (numbersIn log) (ofAttributed start finish (eventsIn log)) := by
  have hnumbers : (attributed none ((Text.linesOf log).map LogLine.ofChars)).flatMap
      (fun event => event.2.toList.flatMap WrittenChange.numbers) = numbersIn log := by
    have hchanges := filterMap_attributed none (Text.linesOf log)
    rw [Option.elim_none] at hchanges
    rw [numbersIn, ← hchanges, List.filterMap_eq_flatMap_toList, List.flatMap_assoc]
  have hread : readEvent = fun event =>
      Numeral.checked (event.2.toList.flatMap WrittenChange.numbers) (valueOf event) := funext readEvent_eq
  rw [ofLog_eq, hread, Numeral.mapM_checked, hnumbers, Numeral.checked_bind_pure]
  rfl

end Reported

/-! ### Totals -/

/-- What holds of the numbers of one developer. -/
structure IsConsistent (a : Activity) : Prop where
  commits_pos : 1 ≤ a.commits
  length_filesTouched_le : (a.filesTouched.length : Int) ≤ a.filesChanged
  filesTouched_ascending : a.filesTouched.Pairwise (· < ·)
  fileTypes_le : signedTotal (a.fileTypes.map (·.2)) ≤ a.filesChanged

/-- The developers of a log share out its commit lines and the changes below the first of them. -/
structure Conserves (log : String) (as : List Activity) : Prop where
  commits : signedTotal (as.map (·.commits)) = (Text.linesOf log).countP fun line => (commitLine? line).isSome
  filesChanged : signedTotal (as.map (·.filesChanged)) = (changesBelow (Text.linesOf log)).length
  linesAdded : signedTotal (as.map (·.linesAdded)) =
    total ((changesBelow (Text.linesOf log)).map fun c => Text.numberOf c.added)
  linesRemoved : signedTotal (as.map (·.linesRemoved)) =
    total ((changesBelow (Text.linesOf log)).map fun c => Text.numberOf c.removed)
  ascending : (as.map (·.developer)).Pairwise (· < ·)
  consistent : ∀ a ∈ as, a.IsConsistent

section Totals

variable (start finish : Option Moment)

/-- A measure that adds up over commits and changes is the sum of the measures of the developers. -/
theorem signedTotal_eventsFor (events : List (String × Option LogChange)) (measure : List (Option LogChange) → Nat)
    (hadd : ∀ xs ys, measure (xs ++ ys) = measure xs + measure ys) :
    signedTotal ((Text.distinctAscending (events.map (·.1))).map fun developer =>
      (measure (eventsFor developer events) : Int)) = measure (events.map (·.2)) := by
  have hcover : ∀ event ∈ events, event.1 ∈ Text.distinctAscending (events.map (·.1)) := fun event hevent =>
    (Text.mem_distinctAscending _).mpr (List.mem_map_of_mem hevent)
  have hsum := total_filter_key (Text.nodup_distinctAscending _) hcover
    (fun events : List (String × Option LogChange) => measure (events.map fun event => event.2)) fun xs ys => by
      rw [List.map_append, hadd]
  rw [signedTotal_natCast]
  exact congrArg Nat.cast hsum

/-- The counts of some texts add up to the number of texts. -/
theorem signedTotal_tally (texts : List String) : signedTotal ((tally texts).map (·.2)) = texts.length := by
  have hcounts : (tally texts).map (·.2) =
      texts.eraseDups.map fun text => ((texts.filter fun other => decide (other = text)).length : Int) := by
    rw [tally, List.map_map]
    refine List.map_congr_left fun text _ => ?_
    rw [← List.countP_eq_length_filter]
    rfl
  rw [hcounts, signedTotal_natCast]
  exact congrArg Nat.cast (total_filter_key (nodup_eraseDups texts) (fun _ => List.mem_eraseDups.mpr) List.length
    fun _ _ => List.length_append)

/-- Whoever has a commit has numbers that fit together. -/
theorem isConsistent_ofEvents (developer : String) {events : List (Option LogChange)} (hcommit : none ∈ events) :
    (ofEvents start finish developer events).IsConsistent where
  commits_pos := by
    have hpos : 0 < events.countP (·.isNone) := List.countP_pos_iff.mpr ⟨none, hcommit, rfl⟩
    exact Int.ofNat_le.mpr hpos
  length_filesTouched_le := by
    have hdistinct := List.subperm_of_subset (Text.nodup_distinctAscending ((events.filterMap id).map (·.path)))
      fun _ => (Text.mem_distinctAscending _).mp
    exact Int.ofNat_le.mpr (hdistinct.length_le.trans_eq (List.length_map _))
  filesTouched_ascending := Text.pairwise_lt_distinctAscending _
  fileTypes_le := by
    have hfewer := List.length_filter_le (· != "") (((events.filterMap id).map (·.path)).map extensionOf)
    rw [List.length_map, List.length_map] at hfewer
    rw [ofEvents, signedTotal_tally]
    exact Int.ofNat_le.mpr hfewer

variable (log : String)

theorem commits_eventsIn : ((eventsIn log).map (·.2)).countP (·.isNone) =
    (Text.linesOf log).countP fun line => (commitLine? line).isSome := by
  have hvalue : ((·.isNone) ∘ (·.2)) ∘ valueOf = fun event => event.2.isNone := by
    funext event
    exact Option.isNone_map
  rw [eventsIn, List.countP_map, List.countP_map, hvalue, List.countP_eq_length_filter,
    ← List.length_map (·.1), commits_attributed, List.length_filterMap_eq_countP]

theorem changes_eventsIn : ((eventsIn log).map (·.2)).filterMap id =
    (changesBelow (Text.linesOf log)).map WrittenChange.value := by
  have hchanges := filterMap_attributed none (Text.linesOf log)
  rw [Option.elim_none] at hchanges
  rw [← hchanges, eventsIn, List.map_map, List.filterMap_map, List.map_filterMap]
  rfl

/-- A measure that adds up over changes is the sum of the measures of the developers' changes. -/
theorem signedTotal_changesFor (measure : List LogChange → Nat)
    (hadd : ∀ xs ys, measure (xs ++ ys) = measure xs + measure ys) :
    signedTotal ((Text.distinctAscending ((eventsIn log).map (·.1))).map fun developer =>
      (measure ((eventsFor developer (eventsIn log)).filterMap id) : Int)) =
      measure ((changesBelow (Text.linesOf log)).map WrittenChange.value) := by
  have hsum := signedTotal_eventsFor (eventsIn log) (fun xs => measure (xs.filterMap id)) fun xs ys => by
    rw [List.filterMap_append, hadd]
  rwa [changes_eventsIn] at hsum

theorem conserves_ofAttributed : Conserves log (ofAttributed start finish (eventsIn log)) where
  commits := by
    rw [← commits_eventsIn, ofAttributed, List.map_map]
    exact signedTotal_eventsFor (eventsIn log) (List.countP (·.isNone)) fun _ _ => List.countP_append
  filesChanged := by
    have hsum := signedTotal_changesFor log List.length fun _ _ => List.length_append
    rw [List.length_map] at hsum
    rw [ofAttributed, List.map_map]
    exact hsum
  linesAdded := by
    have hsum := signedTotal_changesFor log (fun cs => total (cs.map (·.added))) fun _ _ => by
      rw [List.map_append, total_append]
    rw [List.map_map] at hsum
    rw [ofAttributed, List.map_map]
    exact hsum
  linesRemoved := by
    have hsum := signedTotal_changesFor log (fun cs => total (cs.map (·.removed))) fun _ _ => by
      rw [List.map_append, total_append]
    rw [List.map_map] at hsum
    rw [ofAttributed, List.map_map]
    exact hsum
  ascending := by
    rw [map_developer_ofAttributed]
    exact Text.pairwise_lt_distinctAscending _
  consistent := by
    intro a ha
    obtain ⟨developer, hdeveloper, rfl⟩ := List.mem_map.mp ha
    rw [Text.mem_distinctAscending, eventsIn, List.map_map] at hdeveloper
    obtain ⟨event, hevent, rfl⟩ := List.mem_map.mp hdeveloper
    refine isConsistent_ofEvents start finish _ (List.mem_map.mpr ⟨(event.1, none), ?_, rfl⟩)
    have hcommit : (event.1, none) ∈ eventsIn log :=
      List.mem_map.mpr ⟨(event.1, none), commit_mem_attributed hevent, rfl⟩
    exact List.mem_filter.mpr ⟨hcommit, beq_self_eq_true event.1⟩

/-- **Nothing in a log is lost or counted twice.** Its developers stand in ascending order and share out its commit
lines, the changes below the first of them and the lines that these add and remove; unless a number that counts has
too many digits, and then the first such number stands against the log. -/
theorem ofLog_conserves : ∃ as, ofLog log start finish = Numeral.checked (numbersIn log) as ∧ Conserves log as :=
  ⟨_, ofLog_eq_checked start finish log, conserves_ofAttributed start finish log⟩

/-- A commit line. -/
def headOfAnn : List Char := "0123456789abcdef0123456789abcdef01234567|1|ann|A".toList

/-- The lines of a log with one commit, which added a single line to a file, with zeros in front of the one. -/
def paddedLines : List (List Char) := [headOfAnn, LogLine.changeText FileDiff.paddedOne ['0'] "a.ts".toList]

def paddedLog : String := String.ofList (['\n'].intercalate paddedLines)

theorem linesOf_paddedLog : Text.linesOf paddedLog = paddedLines := by
  refine Text.linesOf_ofList_intercalate (List.cons_ne_nil _ _) ?_
  have hcount : '\n' ∉ LogLine.countText FileDiff.paddedOne :=
    LogLine.not_mem_countText (fun c => FileDiff.isDigit_paddedOne) (by decide) (by decide)
  have hline : '\n' ∉ LogLine.changeText FileDiff.paddedOne ['0'] "a.ts".toList := by
    rw [LogLine.changeText, List.mem_append, not_or]
    exact ⟨hcount, by decide⟩
  rw [paddedLines, List.forall_mem_cons, List.forall_mem_singleton]
  exact ⟨by decide, hline⟩

/-- A number with too many digits stands against a log, although it writes the number one. -/
theorem ofLog_paddedLog : ofLog paddedLog none none = .error ⟨4301⟩ ∧
    ¬ ∀ log, ∃ as, ofLog log none none = .ok as ∧ Conserves log as := by
  have hline : changeLine? (LogLine.changeText FileDiff.paddedOne ['0'] "a.ts".toList) =
      some ⟨FileDiff.paddedOne, ['0'], "a.ts"⟩ := by
    rw [changeLine?, LogLine.ofChars_changeText (fun c => FileDiff.isDigit_paddedOne)
      (List.forall_mem_singleton.mpr (by decide)) (by decide) (by decide)]
    rfl
  have hnumbers : numbersIn paddedLog = [FileDiff.paddedOne, ['0']] := by
    rw [numbersIn, linesOf_paddedLog, changesBelow, paddedLines, List.dropWhile_cons_of_neg (by decide +kernel),
      List.filterMap_cons_none (by decide +kernel), List.filterMap_cons_some hline]
    rfl
  have herror : ofLog paddedLog none none = .error ⟨4301⟩ := by
    rw [ofLog_eq_checked, hnumbers, Numeral.checked, List.find?_cons_of_pos FileDiff.isLong_paddedOne,
      ← FileDiff.length_paddedOne]
  refine ⟨herror, fun hanswered => ?_⟩
  obtain ⟨as, has, -⟩ := hanswered paddedLog
  rw [has] at herror
  cases herror

end Totals

end Activity
end RepoSurvey
