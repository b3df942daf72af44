import Mathlib.Data.List.Nodup
import RepoSurvey.Graph.CycleSearch

/-!
# Stages of the search

A search keeps its path four times: as a list of files, as their places, as a colour and as a stack of pending targets.
A stage holds the same once.

* `Stage`: the frames of the path, each a file with its pending targets, the finished files and the cycles found.
* `Move`: what one step can do to a stage: finish a file, close a cycle, pass a finished target or enter a new one.
* `Tracks nodes s x`: the path, places, colours and pending targets of the search `s` are those of the stage `x`.
* `step_tracks`: a step of a search that is tracked finds all that it asks for, and is a move.
-/

namespace RepoSurvey
namespace Search

/-- A stage of a search. -/
structure Stage where
  /-- The files of the path with the targets still to be examined, the last file first. -/
  frames : List (String × List String)
  /-- The finished files, the last one first. -/
  finished : List String
  found : List Cycle

/-- The path of some frames, from its root on. -/
def pathOf (frames : List (String × List String)) : List String := (frames.map (·.1)).reverse

theorem pathOf_cons (u : String) (rest : List String) (below : List (String × List String)) :
    pathOf ((u, rest) :: below) = pathOf below ++ [u] := by
  rw [pathOf, List.map_cons, List.reverse_cons, pathOf]

theorem length_pathOf (frames : List (String × List String)) : (pathOf frames).length = frames.length := by
  rw [pathOf, List.length_reverse, List.length_map]

namespace Stage

def path (x : Stage) : List String := pathOf x.frames

/-- All visited files in the order in which they would be finished if nothing more was pending, the last one first. -/
def trail (x : Stage) : List String := x.path ++ x.finished

end Stage

/-- The colour of a file, given the path and the finished files. -/
def colorIn (nodes path done : List String) (p : String) : Option Color :=
  if p ∈ path then some .gray
  else if p ∈ done then some .black
  else if p ∈ nodes then some .white
  else none

variable {targets? : String → Option (List String)} {nodes : List String}

/-- What one step can do. -/
inductive Move (targets? : String → Option (List String)) (nodes : List String) : Stage → Stage → Prop
  | finish (u : String) (below : List (String × List String)) (done : List String) (found : List Cycle) :
      Move targets? nodes ⟨(u, []) :: below, done, found⟩ ⟨below, u :: done, found⟩
  | close (u v : String) (rest : List String) (below : List (String × List String)) (done : List String)
      (found : List Cycle) (i : Nat) (hi : (pathOf ((u, rest) :: below))[i]? = some v) :
      Move targets? nodes ⟨(u, v :: rest) :: below, done, found⟩
        ⟨(u, rest) :: below, done,
          (Cycle.around ((pathOf ((u, rest) :: below)).drop i) v).addTo found⟩
  | pass (u v : String) (rest : List String) (below : List (String × List String)) (done : List String)
      (found : List Cycle) (hv : v ∈ done) :
      Move targets? nodes ⟨(u, v :: rest) :: below, done, found⟩ ⟨(u, rest) :: below, done, found⟩
  | enter (u v : String) (rest : List String) (below : List (String × List String)) (done : List String)
      (found : List Cycle) (ts : List String) (hnode : v ∈ nodes)
      (hv : v ∉ pathOf ((u, rest) :: below) ++ done) (hts : targets? v = some ts) :
      Move targets? nodes ⟨(u, v :: rest) :: below, done, found⟩ ⟨(v, ts) :: (u, rest) :: below, done, found⟩

/-- A search stands at a stage. -/
structure Tracks (nodes : List String) (s : Search) (x : Stage) : Prop where
  path : s.path = x.path
  pending : s.pending = x.frames.map (·.2)
  found : s.found = x.found
  color : ∀ p, s.color.get? p = colorIn nodes x.path x.finished p
  place : ∀ p i, s.place.get? p = some i ↔ x.path[i]? = some p

/-- Every file has targets, and they are files. -/
def Closed (targets? : String → Option (List String)) (nodes : List String) : Prop :=
  ∀ p ∈ nodes, ∃ ts, targets? p = some ts ∧ ∀ t ∈ ts, t ∈ nodes

/-! ### Colours and places -/

section Colors

variable {path done : List String} {u v p : String}

theorem colorIn_path (h : p ∈ path) : colorIn nodes path done p = some .gray := by
  rw [colorIn, if_pos h]

theorem colorIn_finished (hpath : p ∉ path) (h : p ∈ done) : colorIn nodes path done p = some .black := by
  rw [colorIn, if_neg hpath, if_pos h]

theorem colorIn_new (hpath : p ∉ path) (hdone : p ∉ done) (h : p ∈ nodes) :
    colorIn nodes path done p = some .white := by
  rw [colorIn, if_neg hpath, if_neg hdone, if_pos h]

theorem colorIn_eq_gray : colorIn nodes path done p = some .gray ↔ p ∈ path := by
  rw [colorIn]
  split_ifs <;> simp_all

theorem colorIn_nil_eq_black : colorIn nodes [] done p = some .black ↔ p ∈ done := by
  rw [colorIn, if_neg List.not_mem_nil]
  split_ifs <;> simp_all

theorem colorIn_enter :
    colorIn nodes (path ++ [v]) done p = if v = p then some .gray else colorIn nodes path done p := by
  by_cases hp : v = p
  · rw [if_pos hp, colorIn_path (by simp [hp])]
  · have hmem : p ∈ path ++ [v] ↔ p ∈ path := by simp [Ne.symm hp]
    rw [if_neg hp, colorIn, colorIn]
    by_cases hpath : p ∈ path
    · rw [if_pos hpath, if_pos (hmem.mpr hpath)]
    · rw [if_neg hpath, if_neg fun h => hpath (hmem.mp h)]

theorem colorIn_finish (hu : u ∉ path) :
    colorIn nodes path (u :: done) p = if u = p then some .black else colorIn nodes (path ++ [u]) done p := by
  rw [colorIn_enter]
  by_cases hp : u = p
  · subst hp
    rw [if_pos rfl, colorIn_finished hu List.mem_cons_self]
  · have hmem : p ∈ u :: done ↔ p ∈ done := by simp [Ne.symm hp]
    rw [if_neg hp, if_neg hp, colorIn, colorIn]
    by_cases hdone : p ∈ done
    · rw [if_pos hdone, if_pos (hmem.mpr hdone)]
    · rw [if_neg hdone, if_neg fun h => hdone (hmem.mp h)]

theorem getElem?_concat_eq_some {l : List String} {i : Nat} {p : String} :
    (l ++ [v])[i]? = some p ↔ l[i]? = some p ∨ i = l.length ∧ v = p := by
  rw [List.getElem?_append]
  by_cases hlt : i < l.length
  · rw [if_pos hlt]
    exact ⟨Or.inl, fun h => h.resolve_right fun h' => absurd h'.1 (Nat.ne_of_lt hlt)⟩
  · rw [if_neg hlt, List.getElem?_singleton, List.getElem?_eq_none (Nat.le_of_not_lt hlt)]
    by_cases heq : i = l.length
    · simp [heq]
    · have hne : i - l.length ≠ 0 := by omega
      simp [heq, hne]

end Colors

/-! ### One step -/

section Step

variable {s : Search} {u v : String} {rest done : List String} {below : List (String × List String)}
  {found : List Cycle}

theorem Tracks.getLast? (h : Tracks nodes s ⟨(u, rest) :: below, done, found⟩) : s.path.getLast? = some u := by
  rw [h.path, Stage.path, pathOf_cons, List.getLast?_concat]

theorem Tracks.pending_eq_nil {x : Stage} (h : Tracks nodes s x) : s.pending = [] ↔ x.frames = [] := by
  rw [h.pending, List.map_eq_nil_iff]

/-- The last file of a path without repetitions is not below itself. -/
theorem not_mem_below (hnodup : (pathOf ((u, rest) :: below)).Nodup) : u ∉ pathOf below := by
  rw [pathOf_cons, List.nodup_append] at hnodup
  exact fun hmem => hnodup.2.2 u hmem u (List.mem_singleton_self u) rfl

variable (targets?) in
/-- A file that is finished leaves the path and turns black. -/
theorem Tracks.finish (h : Tracks nodes s ⟨(u, []) :: below, done, found⟩)
    (hnodup : (pathOf ((u, []) :: below)).Nodup) :
    ∃ s', s.step targets? = .ok s' ∧ Tracks nodes s' ⟨below, u :: done, found⟩ := by
  have hpath : s.path = pathOf below ++ [u] := h.path.trans (pathOf_cons u [] below)
  have hplace : ∀ p i, s.place.get? p = some i ↔ (pathOf below ++ [u])[i]? = some p := by
    intro p i
    rw [h.place, ← hpath, h.path]
  have hu : u ∉ pathOf below := not_mem_below hnodup
  have hplaced : s.place.contains u = true := by
    have hget : s.place.get? u = some below.length := by
      rw [hplace, getElem?_concat_eq_some]
      exact Or.inr ⟨(length_pathOf below).symm, rfl⟩
    rw [Table.contains, hget, Option.isSome_some]
  have hstep : s.step targets? = .ok
      { s with color := s.color.put u .black, place := s.place.erase u, path := s.path.dropLast
               pending := below.map (·.2) } := by
    rw [step, h.getLast?, h.pending]
    simp only [List.map_cons]
    rw [Search.finish, if_pos hplaced]
  refine ⟨_, hstep, ?_, rfl, h.found, fun p => ?_, fun p i => ?_⟩
  · show s.path.dropLast = _
    rw [hpath, List.dropLast_concat]
    rfl
  · show (s.color.put u .black).get? p = colorIn nodes (pathOf below) (u :: done) p
    rw [Table.get?_put, h.color, colorIn_finish hu, ← pathOf_cons u []]
    rfl
  · show (s.place.erase u).get? p = some i ↔ (pathOf below)[i]? = some p
    rw [Table.get?_erase]
    by_cases hp : u = p
    · subst hp
      rw [if_pos rfl]
      exact ⟨fun hn => absurd hn (by simp), fun hi => absurd (List.mem_of_getElem? hi) hu⟩
    · rw [if_neg hp, hplace, getElem?_concat_eq_some, or_iff_left fun hq => hp hq.2]

/-- One target less is pending. -/
theorem Tracks.examine (h : Tracks nodes s ⟨(u, v :: rest) :: below, done, found⟩) :
    Tracks nodes { s with pending := rest :: below.map (·.2) } ⟨(u, rest) :: below, done, found⟩ where
  path := h.path
  pending := rfl
  found := h.found
  color := h.color
  place := h.place

variable (targets?) in
/-- What a step makes of the next target. -/
theorem Tracks.step_cons (h : Tracks nodes s ⟨(u, v :: rest) :: below, done, found⟩) :
    s.step targets? =
      match colorIn nodes (pathOf ((u, rest) :: below)) done v with
      | none => .error (.uncolored v)
      | some .gray => Search.close { s with pending := rest :: below.map (·.2) } v
      | some .white => Search.enter targets? { s with pending := rest :: below.map (·.2) } v
      | some .black => .ok { s with pending := rest :: below.map (·.2) } := by
  rw [step, h.getLast?, h.pending]
  simp only [List.map_cons]
  rw [h.color]
  rfl

theorem Tracks.close {x : Stage} (h : Tracks nodes s x) {i : Nat} (hi : x.path[i]? = some v) :
    ∃ s', s.close v = .ok s' ∧
      Tracks nodes s' ⟨x.frames, x.finished, (Cycle.around (x.path.drop i) v).addTo x.found⟩ := by
  refine ⟨{ s with found := (Cycle.around (s.path.drop i) v).addTo s.found }, ?_, h.path, h.pending, ?_, h.color,
    h.place⟩
  · rw [Search.close, (h.place v i).mpr hi]
  · show (Cycle.around (s.path.drop i) v).addTo s.found = _
    rw [h.path, h.found]

theorem Tracks.enter {x : Stage} (h : Tracks nodes s x) {ts : List String} (hts : targets? v = some ts)
    (hv : v ∉ x.path) :
    ∃ s', s.enter targets? v = .ok s' ∧ Tracks nodes s' ⟨(v, ts) :: x.frames, x.finished, x.found⟩ := by
  obtain ⟨frames, done, found⟩ := x
  have henter : s.enter targets? v = .ok
      { s with color := s.color.put v .gray, place := s.place.put v s.path.length, path := s.path ++ [v]
               pending := ts :: s.pending } := by
    rw [Search.enter, hts]
  refine ⟨_, henter, ?_, ?_, h.found, fun p => ?_, fun p i => ?_⟩
  · show s.path ++ [v] = pathOf ((v, ts) :: frames)
    rw [h.path, pathOf_cons]
    rfl
  · show ts :: s.pending = _
    rw [h.pending]
    rfl
  · show (s.color.put v .gray).get? p = colorIn nodes (pathOf ((v, ts) :: frames)) done p
    rw [Table.get?_put, h.color, pathOf_cons, colorIn_enter]
    rfl
  · show (s.place.put v s.path.length).get? p = some i ↔ (pathOf ((v, ts) :: frames))[i]? = some p
    rw [Table.get?_put, pathOf_cons, getElem?_concat_eq_some, h.path]
    by_cases hp : v = p
    · subst hp
      have hnone : (pathOf frames)[i]? ≠ some v := fun hi => hv (List.mem_of_getElem? hi)
      rw [if_pos rfl, or_iff_right hnone, and_iff_left rfl, Option.some.injEq, eq_comm]
      rfl
    · rw [if_neg hp, h.place, or_iff_left fun hq => hp hq.2]
      rfl

/-- **One step** of a search that is tracked finds all that it asks for, and is a move. -/
theorem step_tracks {x : Stage} (hclosed : Closed targets? nodes) (h : Tracks nodes s x)
    (hnodup : x.path.Nodup) (hpending : ∀ f ∈ x.frames, ∀ t ∈ f.2, t ∈ nodes) (hne : x.frames ≠ []) :
    ∃ s' x', s.step targets? = .ok s' ∧ Move targets? nodes x x' ∧ Tracks nodes s' x' := by
  obtain ⟨frames, done, found⟩ := x
  match frames, hne with
  | (u, []) :: below, _ =>
    obtain ⟨s', hs, htracks⟩ := h.finish targets? hnodup
    exact ⟨s', _, hs, .finish u below done found, htracks⟩
  | (u, v :: rest) :: below, _ =>
    have hv : v ∈ nodes := hpending (u, v :: rest) (by simp) v (by simp)
    have hexamined := h.examine
    have hstep := h.step_cons targets?
    by_cases hpath : v ∈ pathOf ((u, rest) :: below)
    · -- on the path: a cycle
      obtain ⟨i, hi⟩ := List.mem_iff_getElem?.mp hpath
      obtain ⟨s', hs, htracks⟩ := hexamined.close hi
      rw [colorIn_path hpath] at hstep
      exact ⟨s', _, hstep.trans hs, .close u v rest below done found i hi, htracks⟩
    · by_cases hdone : v ∈ done
      · -- finished
        rw [colorIn_finished hpath hdone] at hstep
        exact ⟨_, _, hstep, .pass u v rest below done found hdone, hexamined⟩
      · -- new
        rw [colorIn_new hpath hdone hv] at hstep
        obtain ⟨ts, hts, -⟩ := hclosed v hv
        obtain ⟨s', hs, htracks⟩ := hexamined.enter hts hpath
        refine ⟨s', _, hstep.trans hs, .enter u v rest below done found ts hv ?_ hts, htracks⟩
        rw [List.mem_append, not_or]
        exact ⟨hpath, hdone⟩

end Step

end Search
end RepoSurvey
