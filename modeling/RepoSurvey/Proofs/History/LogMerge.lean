import RepoSurvey.Proofs.Failing
import RepoSurvey.Proofs.History.Attribution
import RepoSurvey.Proofs.LookUp
import RepoSurvey.Proofs.Text.Distinct

/-!
# Logs one after the other and in another order

What the developers of a log did is a sum over its commits, developer by developer.

* `Activity.merge`: two lists of activities put together, developer by developer.
* `merge_ofAttributed`: what is attributed in two parts is the merge of what is attributed in each.
* `ofAttributed_perm`: in another order only the order of the extensions changes.
* `ofLog_eq_of_commits`, `ofLog_append`, `ofLog_perm`: a log and its commits, a log written below another one, and a
  log with its commits in another order.
-/

namespace RepoSurvey
namespace Activity

/-! ### Putting activities together -/

/-- Two tables of counts added up: the names of the first, then those that only the second has. -/
def addCounts (a b : Table String Int) : Table String Int :=
  a.map (fun entry => (entry.1, entry.2 + (b.get? entry.1).getD 0)) ++ b.filter (!a.contains ·.1)

/-- One developer's activity in two parts of the same period, put together. -/
def add (a b : Activity) : Activity :=
  { a with
    commits := a.commits + b.commits
    filesChanged := a.filesChanged + b.filesChanged
    linesAdded := a.linesAdded + b.linesAdded
    linesRemoved := a.linesRemoved + b.linesRemoved
    fileTypes := addCounts a.fileTypes b.fileTypes
    filesTouched := Text.distinctAscending (a.filesTouched ++ b.filesTouched) }

/-- The activity of a developer in a list. -/
def of? (activities : List Activity) (developer : String) : Option Activity :=
  activities.find? (·.developer == developer)

/-- Two lists of activities put together developer by developer, in ascending order. -/
def merge (as bs : List Activity) : List Activity :=
  (Text.distinctAscending ((as ++ bs).map (·.developer))).filterMap fun developer =>
    Option.merge add (of? as developer) (of? bs developer)

/-- The same activity up to the order of the extensions. -/
def AgreesWith (a b : Activity) : Prop :=
  a.fileTypes.Perm b.fileTypes ∧ { a with fileTypes := b.fileTypes } = b

/-- The commits and changes attributed to a developer. -/
def eventsFor (developer : String) (events : List (String × Option LogChange)) : List (Option LogChange) :=
  (events.filter (·.1 == developer)).map (·.2)

/-- What the developers of some attributed commits and changes did. -/
def ofAttributed (start finish : Option Moment) (events : List (String × Option LogChange)) : List Activity :=
  (Text.distinctAscending (events.map (·.1))).map fun developer =>
    ofEvents start finish developer (eventsFor developer events)

theorem ofLog_eq (log : String) (start finish : Option Moment) :
    ofLog log start finish =
      (attributed none ((Text.linesOf log).map LogLine.ofChars)).mapM readEvent >>= fun events =>
        pure (ofAttributed start finish events) := rfl

/-! ### Counts -/

section Counts

variable (s t : List String)

theorem get?_tally (name : String) :
    Table.get? (tally s) name = if name ∈ s then some (s.count name : Int) else none := by
  have hkey : (fun entry : String × Int => decide (entry.1 = name)) ∘ (fun x => (x, (s.count x : Int))) =
      (· == name) := by
    funext x
    rfl
  rw [Table.get?, tally, List.find?_map, hkey, find?_beq]
  by_cases hname : name ∈ s
  · rw [if_pos (List.mem_eraseDups.mpr hname), if_pos hname]
    rfl
  · rw [if_neg fun h => hname (List.mem_eraseDups.mp h), if_neg hname]
    rfl

theorem getD_get?_tally (name : String) : (Table.get? (tally s) name).getD 0 = s.count name := by
  rw [get?_tally]
  by_cases hname : name ∈ s
  · rw [if_pos hname, Option.getD_some]
  · rw [if_neg hname, List.count_eq_zero_of_not_mem hname]
    rfl

theorem contains_tally (name : String) : Table.contains (tally s) name = decide (name ∈ s) := by
  rw [Table.contains, get?_tally]
  by_cases hname : name ∈ s <;> simp [hname]

/-- The counts of some texts with other counts added. -/
theorem addCounts_tally (b : Table String Int) :
    addCounts (tally s) b =
      s.eraseDups.map (fun name => (name, (s.count name : Int) + (b.get? name).getD 0)) ++
        b.filter (!s.elem ·.1) := by
  have hnew : (fun entry : String × Int => !Table.contains (tally s) entry.1) = fun entry => !s.elem entry.1 := by
    funext entry
    rw [contains_tally, List.elem_eq_mem]
  rw [addCounts, hnew, tally, List.map_map]
  rfl

theorem tally_append : tally (s ++ t) = addCounts (tally s) (tally t) := by
  have hfirst : s.eraseDups.map (fun name => (name, ((s ++ t).count name : Int))) =
      s.eraseDups.map fun name => (name, (s.count name : Int) + (Table.get? (tally t) name).getD 0) := by
    refine List.map_congr_left fun name _ => ?_
    rw [List.count_append, Int.natCast_add, getD_get?_tally]
  have hsecond : (t.removeAll s).eraseDups.map (fun name => (name, ((s ++ t).count name : Int))) =
      (tally t).filter (!s.elem ·.1) := by
    have hnew : (fun entry : String × Int => !s.elem entry.1) ∘ (fun name => (name, (t.count name : Int))) =
        fun name => !s.elem name := by
      funext name
      rfl
    rw [tally, List.filter_map, hnew, filter_eraseDups]
    refine List.map_congr_left fun name hname => ?_
    have hs : name ∉ s := by simpa using (List.mem_filter.mp (List.mem_eraseDups.mp hname)).2
    rw [List.count_append, List.count_eq_zero_of_not_mem hs, Nat.zero_add]
  rw [addCounts_tally, ← hfirst, ← hsecond, tally, List.eraseDups_append, List.map_append]

variable {s t}

theorem tally_perm (h : s.Perm t) : (tally s).Perm (tally t) := by
  have hcounts : (fun name => (name, (s.count name : Int))) = fun name => (name, (t.count name : Int)) := by
    funext name
    rw [h.count_eq]
  rw [tally, tally, hcounts]
  exact (perm_eraseDups fun name => h.mem_iff).map _

end Counts

/-! ### One developer -/

section OneDeveloper

variable (start finish : Option Moment) (developer : String)

theorem ofEvents_append (xs ys : List (Option LogChange)) :
    ofEvents start finish developer (xs ++ ys) =
      add (ofEvents start finish developer xs) (ofEvents start finish developer ys) := by
  have htouched (paths paths' : List String) : Text.distinctAscending (paths ++ paths') =
      Text.distinctAscending (Text.distinctAscending paths ++ Text.distinctAscending paths') :=
    Text.distinctAscending_congr fun path => by simp only [List.mem_append, Text.mem_distinctAscending]
  simp only [ofEvents, add, List.filterMap_append, List.map_append, List.filter_append, List.countP_append,
    List.length_append, total_append, tally_append, Int.natCast_add, ← htouched]

theorem ofEvents_perm {xs ys : List (Option LogChange)} (h : xs.Perm ys) :
    AgreesWith (ofEvents start finish developer xs) (ofEvents start finish developer ys) := by
  have hchanges : (xs.filterMap id).Perm (ys.filterMap id) := h.filterMap id
  have hpaths := hchanges.map (·.path)
  refine ⟨tally_perm ((hpaths.map extensionOf).filter _), ?_⟩
  simp only [ofEvents, h.countP_eq, hchanges.length_eq, total_of_perm (hchanges.map (·.added)),
    total_of_perm (hchanges.map (·.removed)), Text.distinctAscending_congr fun path => hpaths.mem_iff]

end OneDeveloper

/-! ### All developers -/

section AllDevelopers

variable {start finish : Option Moment} {events events' : List (String × Option LogChange)} {developer : String}

theorem eventsFor_append (xs ys : List (String × Option LogChange)) :
    eventsFor developer (xs ++ ys) = eventsFor developer xs ++ eventsFor developer ys := by
  rw [eventsFor, List.filter_append, List.map_append]
  rfl

theorem eventsFor_eq_nil (h : developer ∉ events.map (·.1)) : eventsFor developer events = [] := by
  have hnone : events.filter (·.1 == developer) = [] := by
    rw [List.filter_eq_nil_iff]
    intro event hevent hdeveloper
    exact h (List.mem_map.mpr ⟨event, hevent, eq_of_beq hdeveloper⟩)
  rw [eventsFor, hnone, List.map_nil]

theorem map_developer_ofAttributed :
    (ofAttributed start finish events).map (·.developer) = Text.distinctAscending (events.map (·.1)) := by
  rw [ofAttributed, List.map_map]
  exact List.map_id _

theorem of?_ofAttributed :
    of? (ofAttributed start finish events) developer =
      if developer ∈ events.map (·.1) then some (ofEvents start finish developer (eventsFor developer events))
      else none := by
  have hkey : (fun a : Activity => a.developer == developer) ∘ (fun developer =>
      ofEvents start finish developer (eventsFor developer events)) = (· == developer) := by
    funext other
    rfl
  rw [of?, ofAttributed, List.find?_map, hkey, find?_beq]
  by_cases hdeveloper : developer ∈ events.map (·.1)
  · rw [if_pos ((Text.mem_distinctAscending _).mpr hdeveloper), if_pos hdeveloper]
    rfl
  · rw [if_neg fun h => hdeveloper ((Text.mem_distinctAscending _).mp h), if_neg hdeveloper]
    rfl

/-- What is attributed in two parts is, for each developer of either, the activity in both put together. -/
theorem merge_ofAttributed_at (h : developer ∈ events.map (·.1) ++ events'.map (·.1)) :
    Option.merge add (of? (ofAttributed start finish events) developer)
        (of? (ofAttributed start finish events') developer) =
      some (ofEvents start finish developer (eventsFor developer (events ++ events'))) := by
  rw [of?_ofAttributed, of?_ofAttributed, eventsFor_append]
  by_cases hfirst : developer ∈ events.map (·.1)
  · by_cases hsecond : developer ∈ events'.map (·.1)
    · rw [if_pos hfirst, if_pos hsecond, ofEvents_append]
      rfl
    · rw [if_pos hfirst, if_neg hsecond, eventsFor_eq_nil hsecond, List.append_nil]
      rfl
  · have hsecond : developer ∈ events'.map (·.1) := (List.mem_append.mp h).resolve_left hfirst
    rw [if_neg hfirst, if_pos hsecond, eventsFor_eq_nil hfirst, List.nil_append]
    rfl

/-- What is attributed in two parts is the merge of what is attributed in each. -/
theorem merge_ofAttributed :
    merge (ofAttributed start finish events) (ofAttributed start finish events') =
      ofAttributed start finish (events ++ events') := by
  have hdevelopers : Text.distinctAscending
      ((ofAttributed start finish events ++ ofAttributed start finish events').map (·.developer)) =
        Text.distinctAscending ((events ++ events').map (·.1)) := by
    rw [List.map_append, map_developer_ofAttributed, map_developer_ofAttributed, List.map_append]
    exact Text.distinctAscending_congr fun name => by simp only [List.mem_append, Text.mem_distinctAscending]
  have heach : merge (ofAttributed start finish events) (ofAttributed start finish events') =
      (Text.distinctAscending ((events ++ events').map (·.1))).filterMap
        (some ∘ fun developer => ofEvents start finish developer (eventsFor developer (events ++ events'))) := by
    rw [merge, hdevelopers]
    refine List.filterMap_congr fun developer hdeveloper => ?_
    rw [Text.mem_distinctAscending, List.map_append] at hdeveloper
    exact merge_ofAttributed_at hdeveloper
  rw [heach, List.filterMap_eq_map, ofAttributed]

/-- In another order each developer's activity is the same up to the order of the extensions. -/
theorem ofAttributed_perm (h : events.Perm events') :
    List.Forall₂ AgreesWith (ofAttributed start finish events) (ofAttributed start finish events') := by
  rw [ofAttributed, ofAttributed, Text.distinctAscending_congr fun name => (h.map (·.1)).mem_iff,
    List.forall₂_map_left_iff, List.forall₂_map_right_iff, List.forall₂_same]
  intro developer _
  exact ofEvents_perm start finish developer ((h.filter _).map _)

end AllDevelopers

/-! ### Logs -/

section Logs

variable (start finish : Option Moment)

/-- A log says what its commits say, each commit about its own author. -/
theorem ofLog_eq_of_commits (log : String) :
    ofLog log start finish =
      do return ofAttributed start finish (← ((commitsOf log).flatMap eventsOf).mapM readEvent) := by
  rw [ofLog_eq, attributed_linesOf]

/-- A log below another one, beginning with a commit line, adds what it says by itself. -/
theorem ofLog_append {first second : String}
    (h : ∀ line ∈ (Text.linesOf second).find? (!·.all Text.isBlank), (commitLine? line).isSome) :
    ofLog (first ++ "\n" ++ second) start finish =
      (do return merge (← ofLog first start finish) (← ofLog second start finish)) := by
  have hlines : attributed none ((Text.linesOf (first ++ "\n" ++ second)).map LogLine.ofChars) =
      attributed none ((Text.linesOf first).map LogLine.ofChars) ++
        attributed none ((Text.linesOf second).map LogLine.ofChars) := by
    rw [Text.linesOf_append, List.map_append]
    exact attributed_append (attributed_of_leading h) _
  rw [ofLog_eq, ofLog_eq, ofLog_eq, hlines, List.mapM_append]
  cases (attributed none ((Text.linesOf first).map LogLine.ofChars)).mapM readEvent with
  | error e => rfl
  | ok events =>
    cases (attributed none ((Text.linesOf second).map LogLine.ofChars)).mapM readEvent with
    | error e => rfl
    | ok events' => exact congrArg Except.ok merge_ofAttributed.symm

/-- A log with its commits in another order says the same about each developer. -/
theorem ofLog_perm {log log' : String} (h : (commitsOf log).Perm (commitsOf log')) {as : List Activity}
    (hlog : ofLog log start finish = .ok as) :
    ∃ bs, ofLog log' start finish = .ok bs ∧ List.Forall₂ AgreesWith as bs := by
  rw [ofLog_eq_of_commits] at hlog
  rw [ofLog_eq_of_commits]
  cases hevents : ((commitsOf log).flatMap eventsOf).mapM readEvent with
  | error e =>
    rw [hevents] at hlog
    cases hlog
  | ok events =>
    rw [hevents] at hlog
    obtain rfl := Except.ok.inj hlog
    obtain ⟨events', hevents', hperm⟩ := mapM_of_perm (h.flatMap_right eventsOf) hevents
    exact ⟨_, by rw [hevents']; rfl, ofAttributed_perm hperm⟩

/-- **A log is a sum over its commits**: it says what they say, each about its own author. A log below another one,
beginning with a commit line, adds what it says by itself; and the commits of a log, each with its own lines, may be
written in another order without changing what is said about a developer, but for the order of the extensions. -/
theorem ofLog_joined_and_reordered :
    (∀ log : String, ofLog log start finish =
      do return ofAttributed start finish (← ((commitsOf log).flatMap eventsOf).mapM readEvent)) ∧
    (∀ first second : String,
      (∀ line ∈ (Text.linesOf second).find? (!·.all Text.isBlank), (commitLine? line).isSome) →
      ofLog (first ++ "\n" ++ second) start finish =
        do return merge (← ofLog first start finish) (← ofLog second start finish)) ∧
    ∀ log log' : String, (commitsOf log).Perm (commitsOf log') → ∀ as, ofLog log start finish = .ok as →
      ∃ bs, ofLog log' start finish = .ok bs ∧ List.Forall₂ AgreesWith as bs :=
  ⟨ofLog_eq_of_commits start finish, fun _ _ h => ofLog_append start finish h,
    fun _ _ h _ hlog => ofLog_perm start finish h hlog⟩

/-- A log of one commit, with a binary file. -/
def logOfAnn : String := "0123456789abcdef0123456789abcdef01234567|1|ann|A\n3\t1\ta.py\n-\t-\tb.png"

/-- A log of one commit, with a file that has moved. -/
def logOfBob : String := "89abcdef0123456789abcdef0123456789abcdef|2|bob|B\n2\t0\t{a => c}/a.py"

/-- What the two logs say. -/
def eventsOfBoth : List (String × Option LogChange) :=
  [("ann", none), ("ann", some ⟨3, 1, "a.py"⟩), ("ann", some ⟨0, 0, "b.png"⟩), ("bob", none),
    ("bob", some ⟨2, 0, "c/a.py"⟩)]

theorem ofLog_joined_and_reordered_of_two_developers :
    (ofLog (logOfAnn ++ "\n" ++ logOfBob) none none =
      do return merge (← ofLog logOfAnn none none) (← ofLog logOfBob none none)) ∧
    ∃ bs, ofLog (logOfBob ++ "\n" ++ logOfAnn) none none = .ok bs ∧
      List.Forall₂ AgreesWith (ofAttributed none none eventsOfBoth) bs := by
  have hperm : (commitsOf (logOfAnn ++ "\n" ++ logOfBob)).Perm (commitsOf (logOfBob ++ "\n" ++ logOfAnn)) := by
    rw [commitsOf, commitsOf, Text.linesOf_append, Text.linesOf_append]
    decide +kernel
  have hevents : (attributed none ((Text.linesOf logOfAnn ++ Text.linesOf logOfBob).map LogLine.ofChars)).mapM
      readEvent = .ok eventsOfBoth := by
    decide +kernel
  have hlog : ofLog (logOfAnn ++ "\n" ++ logOfBob) none none = .ok (ofAttributed none none eventsOfBoth) := by
    rw [ofLog_eq, Text.linesOf_append, hevents]
    rfl
  obtain ⟨-, hjoined, hreordered⟩ := ofLog_joined_and_reordered none none
  exact ⟨hjoined _ _ (by decide +kernel), hreordered _ _ hperm _ hlog⟩

end Logs

end Activity
end RepoSurvey
