import RepoSurvey.Proofs.Graph.SearchRun

/-!
# What a search has done

An account of a search: the files that it has put on the path, and the imports that it has examined.

* `Stage.left`: the targets of a file that have not been examined at a stage. `Stage.upcoming`: the import that is next.
* `Move.examines`, `Move.visits`: a move examines the import that is next, and visits what it puts on the path.
* `Records`: an account of what has been done up to a stage. `Records.move`, `Records.root`: a move and the turn of a
  root keep it.
-/

namespace RepoSurvey
namespace Search

/-- The targets of a file among some imports that have been examined. -/
def examinedBy (p : String) (examined : List (String × String)) : List String :=
  (examined.filter fun e => e.1 = p).map (·.2)

variable {targets? : String → Option (List String)} {nodes : List String}

theorem examinedBy_append (p : String) (l l' : List (String × String)) :
    examinedBy p (l ++ l') = examinedBy p l ++ examinedBy p l' := by
  rw [examinedBy, List.filter_append, List.map_append, examinedBy, examinedBy]

theorem examinedBy_self (u v : String) : examinedBy u [(u, v)] = [v] := by simp [examinedBy]

theorem examinedBy_of_ne {u p : String} (h : u ≠ p) (v : String) : examinedBy p [(u, v)] = [] := by
  simp [examinedBy, h]

/-! ### What is left at a stage -/

namespace Stage

variable {u v p : String} {rest done : List String} {below : List (String × List String)} {found : List Cycle}

/-- The import that is examined next. -/
def upcoming (x : Stage) : List (String × String) :=
  match x.frames with
  | (u, v :: _) :: _ => [(u, v)]
  | _ => []

variable (targets?) in
/-- The targets of a file that have not been examined. -/
def left (x : Stage) (p : String) : List String :=
  (Table.get? x.frames p).getD (if p ∈ x.finished then [] else (targets? p).getD [])

theorem left_top : left targets? ⟨(u, rest) :: below, done, found⟩ u = rest := by
  simp [left, Table.get?]

theorem left_below (h : u ≠ p) :
    left targets? ⟨(u, rest) :: below, done, found⟩ p = left targets? ⟨below, done, found⟩ p := by
  simp [left, Table.get?, h]

theorem left_off_path {x : Stage} (h : p ∉ x.path) :
    x.left targets? p = if p ∈ x.finished then [] else (targets? p).getD [] := by
  have hkey : p ∉ x.frames.map (·.1) := fun hp => h (List.mem_reverse.mpr hp)
  rw [left, Table.get?_of_not_mem hkey, Option.getD_none]

/-- A target that is examined is one less that is left, whatever has been found by then. -/
theorem left_examined (u v : String) (rest : List String) (below : List (String × List String)) (done : List String)
    (found found' : List Cycle) (p : String) :
    left targets? ⟨(u, v :: rest) :: below, done, found⟩ p =
      examinedBy p [(u, v)] ++ left targets? ⟨(u, rest) :: below, done, found'⟩ p := by
  by_cases hp : u = p
  · subst hp
    rw [left_top, left_top, examinedBy_self, List.singleton_append]
  · rw [left_below hp, left_below hp, examinedBy_of_ne hp, List.nil_append]
    rfl

/-- A file that is finished changes nothing for the others. -/
theorem left_finished (h : u ≠ p) :
    left targets? ⟨below, u :: done, found⟩ p = left targets? ⟨below, done, found⟩ p := by
  have hmem : p ∈ u :: done ↔ p ∈ done := by simp [Ne.symm h]
  simp only [left, hmem]

end Stage

section Moves

variable {x x' : Stage}

/-- **A move examines what comes next**, and nothing else. -/
theorem Move.examines (h : Move targets? nodes x x') (hnodup : x.trail.Nodup) (p : String) :
    x.left targets? p = examinedBy p x.upcoming ++ x'.left targets? p := by
  cases h with
  | finish u below done found =>
    show _ = Stage.left targets? ⟨below, u :: done, found⟩ p
    by_cases hp : u = p
    · subst hp
      have hu : u ∉ pathOf below := not_mem_below (List.nodup_append.mp hnodup).1
      rw [Stage.left_top, Stage.left_off_path hu, if_pos List.mem_cons_self]
    · rw [Stage.left_below hp, Stage.left_finished hp]
  | close u v rest below done found i hi => exact Stage.left_examined u v rest below done found _ p
  | pass u v rest below done found hv => exact Stage.left_examined u v rest below done found found p
  | enter u v rest below done found ts hnode hv hts =>
    show _ = examinedBy p [(u, v)] ++ _
    rw [List.mem_append, not_or] at hv
    have huv : u ≠ v := by
      rintro rfl
      exact hv.1 (by simp [pathOf])
    by_cases hp : v = p
    · subst hp
      -- none of its own targets has been examined
      rw [Stage.left_off_path hv.1, if_neg hv.2, hts, Option.getD_some, examinedBy_of_ne huv, Stage.left_top,
        List.nil_append]
    · rw [Stage.left_below hp]
      exact Stage.left_examined u v rest below done found found p

/-- A path that stays as it is has nothing more on it. -/
theorem perm_append_drop_length (trail path : List String) : trail.Perm (trail ++ path.drop path.length) := by
  rw [List.drop_length, List.append_nil]

/-- **A move visits the file that it puts on the path**, and no other. -/
theorem Move.visits (h : Move targets? nodes x x') : x'.trail.Perm (x.trail ++ x'.path.drop x.path.length) := by
  cases h with
  | finish u below done found =>
    show (pathOf below ++ u :: done).Perm
      (pathOf ((u, []) :: below) ++ done ++ (pathOf below).drop (pathOf ((u, []) :: below)).length)
    have hlength : (pathOf below).length ≤ (pathOf ((u, []) :: below)).length := by
      rw [length_pathOf, length_pathOf, List.length_cons]
      exact Nat.le_succ _
    rw [List.drop_eq_nil_of_le hlength, List.append_nil, pathOf_cons, List.append_assoc, List.singleton_append]
  | close u v rest below done found i hi => exact perm_append_drop_length _ _
  | pass u v rest below done found hv => exact perm_append_drop_length _ _
  | enter u v rest below done found ts hnode hv hts =>
    show (pathOf ((v, ts) :: (u, rest) :: below) ++ done).Perm (pathOf ((u, rest) :: below) ++ done ++
      (pathOf ((v, ts) :: (u, rest) :: below)).drop (pathOf ((u, rest) :: below)).length)
    rw [pathOf_cons v, List.drop_left, List.append_assoc, List.append_assoc]
    exact List.perm_append_comm.append_left _

end Moves

/-! ### The account of a stage -/

section Records

variable {pushed : List String} {examined : List (String × String)}

/-- The files put on the path are those visited, and the imports examined are those that are not left. -/
structure Records (targets? : String → Option (List String)) (pushed : List String) (examined : List (String × String))
    (x : Stage) : Prop where
  pushed : pushed.Perm x.trail
  examined : ∀ p, examinedBy p examined ++ x.left targets? p = (targets? p).getD []

theorem Records.move {x x' : Stage} (h : Records targets? pushed examined x) (hmove : Move targets? nodes x x')
    (hnodup : x.trail.Nodup) :
    Records targets? (pushed ++ x'.path.drop x.path.length) (examined ++ x.upcoming) x' where
  pushed := (h.pushed.append_right _).trans hmove.visits.symm
  examined := by
    intro p
    rw [examinedBy_append, List.append_assoc, ← hmove.examines hnodup, h.examined]

theorem Records.root {done : List String} {found : List Cycle} (h : Records targets? pushed examined ⟨[], done, found⟩)
    {root : String} {ts : List String} (hnew : root ∉ done) (hts : targets? root = some ts) :
    Records targets? (pushed ++ [root]) examined ⟨[(root, ts)], done, found⟩ where
  pushed := (h.pushed.append_right [root]).trans List.perm_append_comm
  examined := by
    intro p
    rw [← h.examined p]
    by_cases hp : root = p
    · subst hp
      rw [Stage.left_top, Stage.left_off_path List.not_mem_nil, if_neg hnew, hts, Option.getD_some]
    · rw [Stage.left_below hp]

end Records

end Search
end RepoSurvey
