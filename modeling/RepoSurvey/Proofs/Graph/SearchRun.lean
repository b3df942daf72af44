import Mathlib.Logic.Relation
import RepoSurvey.Proofs.Graph.SearchInvariant
import RepoSurvey.Proofs.LookUp

/-!
# Runs of the search

* `Stage.work`: the steps that are left for what is pending and for the files that have not been visited, and
  `Move.work`: a move takes one of them.
* `run_tracks`: a run within its budget goes from move to move until nothing is pending.
* `fromRoot_eq_run`: the search from a root is the turn of the root and a run.
* `Visit`, `Visits`: what the search from one root, and from one root after the other, can come to.
* `Imports.search_visits`: the search over an import relation visits its files in ascending order.
* `Imports.search_ok`: the search over an import relation comes to no fault and finishes every file.
-/

namespace RepoSurvey
namespace Search

variable {targets? : String → Option (List String)} {nodes : List String}

/-! ### The work that is left -/

section Work

variable (targets? nodes)

/-- The steps for a file: one for each target and one to finish it. -/
def weight (p : String) : Nat := ((targets? p).getD []).length + 1

/-- The steps for the files outside a trail. -/
def unvisited (trail : List String) : Nat := total ((nodes.filter fun p => p ∉ trail).map (weight targets?))

def pendingWork (frames : List (String × List String)) : Nat := total (frames.map fun f => f.2.length + 1)

def Stage.work (x : Stage) : Nat := pendingWork x.frames + unvisited targets? nodes x.trail

variable {targets? nodes}

theorem pendingWork_cons (u : String) (rest : List String) (below : List (String × List String)) :
    pendingWork ((u, rest) :: below) = rest.length + 1 + pendingWork below := by
  rw [pendingWork, List.map_cons, total_cons, pendingWork]

variable (targets?) in
/-- A file that is visited leaves its steps to what is pending. -/
theorem unvisited_insert (hnodes : nodes.Nodup) {v : String} (hv : v ∈ nodes) (path : List String)
    {done : List String} (hnew : v ∉ path ++ done) :
    unvisited targets? nodes (path ++ done) = weight targets? v + unvisited targets? nodes (path ++ v :: done) := by
  have hmem : v ∈ nodes.filter fun p => p ∉ path ++ done := List.mem_filter.mpr ⟨hv, decide_eq_true hnew⟩
  have herase : (nodes.filter fun p => p ∉ path ++ done).erase v =
      nodes.filter fun p => p ∉ path ++ v :: done := by
    rw [(hnodes.filter _).erase_eq_filter, List.filter_filter]
    refine List.filter_congr fun p _ => ?_
    by_cases hp : p = v
    · simp [hp]
    · simp [hp]
  have hperm := (List.perm_cons_erase hmem).map (weight targets?)
  rw [unvisited, unvisited, total_of_perm hperm, List.map_cons, total_cons, herase]

variable (targets? nodes) in
theorem unvisited_le (trail : List String) : unvisited targets? nodes trail ≤ total (nodes.map (weight targets?)) :=
  total_of_sublist (List.filter_sublist.map _)

variable (targets? nodes) in
/-- A target that is done with, or on the path, is one target less to look at. -/
theorem pendingWork_skip (u v : String) (rest : List String) (below : List (String × List String)) (done : List String) :
    pendingWork ((u, v :: rest) :: below) + unvisited targets? nodes (pathOf ((u, rest) :: below) ++ done) =
      pendingWork ((u, rest) :: below) + unvisited targets? nodes (pathOf ((u, rest) :: below) ++ done) + 1 := by
  rw [pendingWork_cons, pendingWork_cons, List.length_cons]
  omega

/-- **A move takes one step of the work.** -/
theorem Move.work (hnodes : nodes.Nodup) {x x' : Stage} (h : Move targets? nodes x x') :
    x.work targets? nodes = x'.work targets? nodes + 1 := by
  cases h with
  | finish u below done found =>
    have htrail : pathOf ((u, []) :: below) ++ done = pathOf below ++ u :: done := by
      rw [pathOf_cons, List.append_assoc, List.singleton_append]
    show pendingWork ((u, []) :: below) + unvisited targets? nodes (pathOf ((u, []) :: below) ++ done) =
      pendingWork below + unvisited targets? nodes (pathOf below ++ u :: done) + 1
    rw [htrail, pendingWork_cons, List.length_nil]
    omega
  | close u v rest below done found i hi => exact pendingWork_skip targets? nodes u v rest below done
  | pass u v rest below done found hv => exact pendingWork_skip targets? nodes u v rest below done
  | enter u v rest below done found ts hnode hv hts =>
    have htrail : pathOf ((v, ts) :: (u, rest) :: below) ++ done = pathOf ((u, rest) :: below) ++ v :: done := by
      rw [pathOf_cons, List.append_assoc, List.singleton_append]
    have hweight : weight targets? v = ts.length + 1 := by rw [weight, hts, Option.getD_some]
    show pendingWork ((u, v :: rest) :: below) + unvisited targets? nodes (pathOf ((u, rest) :: below) ++ done) =
      pendingWork ((v, ts) :: (u, rest) :: below) +
        unvisited targets? nodes (pathOf ((v, ts) :: (u, rest) :: below) ++ done) + 1
    rw [htrail, unvisited_insert targets? hnodes hnode _ hv, hweight, pendingWork_cons, pendingWork_cons, pendingWork_cons,
      List.length_cons]
    omega

end Work

/-! ### A run from one root -/

section Run

variable {s : Search} {x x' : Stage}

theorem sound_of_moves (h : Relation.ReflTransGen (Move targets? nodes) x x') (hsound : Sound targets? nodes x) :
    Sound targets? nodes x' := by
  induction h with
  | refl => exact hsound
  | tail _ hmove ih => exact hmove.sound ih

/-- What has been visited stays visited. -/
theorem Move.trail (h : Move targets? nodes x x') : x.trail ⊆ x'.trail := by
  cases h with
  | finish u below done found =>
    show pathOf ((u, []) :: below) ++ done ⊆ pathOf below ++ u :: done
    rw [pathOf_cons, List.append_assoc, List.singleton_append]
    exact List.Subset.refl _
  | close u v rest below done found i hi => exact List.Subset.refl _
  | pass u v rest below done found hv => exact List.Subset.refl _
  | enter u v rest below done found ts hnode hv hts =>
    show pathOf ((u, rest) :: below) ++ done ⊆ pathOf ((v, ts) :: (u, rest) :: below) ++ done
    rw [pathOf_cons v, List.append_assoc, List.singleton_append]
    exact ((List.sublist_cons_self v done).append_left _).subset

theorem trail_of_moves (h : Relation.ReflTransGen (Move targets? nodes) x x') : x.trail ⊆ x'.trail := by
  induction h with
  | refl => exact List.Subset.refl _
  | tail _ hmove ih => exact List.Subset.trans ih hmove.trail

/-- **A run within its budget** goes from move to move until nothing is pending. -/
theorem run_tracks (hclosed : Closed targets? nodes) (hnodes : nodes.Nodup) (n : Nat) (s : Search) (x : Stage)
    (htracks : Tracks nodes s x) (hsound : Sound targets? nodes x) (hwork : x.work targets? nodes ≤ n) :
    ∃ s' x', run targets? n s = .ok s' ∧ Relation.ReflTransGen (Move targets? nodes) x x' ∧ Tracks nodes s' x' ∧
      x'.frames = [] := by
  induction n generalizing s x with
  | zero =>
    refine ⟨s, x, rfl, .refl, htracks, ?_⟩
    by_contra hne
    obtain ⟨f, below, hf⟩ := List.exists_cons_of_ne_nil hne
    rw [Stage.work, hf, pendingWork_cons] at hwork
    omega
  | succ n ih =>
    rw [run]
    by_cases hframes : x.frames = []
    · have hempty : s.pending.isEmpty = true := by rw [htracks.pending, hframes]; rfl
      rw [if_pos hempty]
      exact ⟨s, x, rfl, .refl, htracks, hframes⟩
    · have hpending : ¬s.pending.isEmpty = true := by
        rw [htracks.pending, List.isEmpty_iff, List.map_eq_nil_iff]
        exact hframes
      obtain ⟨s1, x1, hstep, hmove, htracks1⟩ :=
        step_tracks hclosed htracks (List.nodup_append.mp hsound.nodup).1 (hsound.pending hclosed) hframes
      have hwork1 := hmove.work hnodes
      obtain ⟨s', x', hrun, hmoves, htracks', hend⟩ := ih s1 x1 htracks1 (hmove.sound hsound) (by omega)
      refine ⟨s', x', ?_, Relation.ReflTransGen.head hmove hmoves, htracks', hend⟩
      rw [if_neg hpending, hstep]
      exact hrun

end Run

/-! ### All roots -/

section Roots

variable {s : Search} {root : String} {done : List String} {found : List Cycle}

/-- A root is put on an empty path. -/
theorem Tracks.start (h : Tracks nodes s ⟨[], done, found⟩) (root : String) (ts : List String) :
    Tracks nodes { s with color := s.color.put root .gray, path := [root], place := [(root, 0)], pending := [ts] }
      ⟨[(root, ts)], done, found⟩ where
  path := rfl
  pending := rfl
  found := h.found
  color := by
    intro p
    show (s.color.put root .gray).get? p = colorIn nodes ([] ++ [root]) done p
    rw [Table.get?_put, h.color, colorIn_enter]
    rfl
  place := by
    intro p i
    show Table.get? [(root, 0)] p = some i ↔ ([] ++ [root])[i]? = some p
    rw [getElem?_concat_eq_some, Table.get?]
    by_cases hp : root = p
    · simp [hp, eq_comm]
    · simp [hp]

theorem Sound.start (h : Sound targets? nodes ⟨[], done, found⟩) {root : String} {ts : List String}
    (hnode : root ∈ nodes) (hnew : root ∉ done) (hts : targets? root = some ts) :
    Sound targets? nodes ⟨[(root, ts)], done, found⟩ where
  nodup := List.nodup_cons.mpr ⟨hnew, h.nodup⟩
  known := by
    intro p hp
    rcases List.mem_cons.mp hp with rfl | hp
    · exact hnode
    · exact h.known p hp
  opened := ⟨⟨[], hts, fun t ht => absurd ht List.not_mem_nil, fun t ht => absurd ht (by simp)⟩, trivial⟩
  settled := h.settled
  genuine := fun c hc => (h.genuine c hc).mono (List.sublist_cons_self root done)
  distinct := h.distinct

/-- What the search from a root can come to: nothing new if the root is finished, else the end of a run of moves. -/
inductive Visit (targets? : String → Option (List String)) (nodes : List String) (root : String) : Stage → Stage → Prop
  | skip (done : List String) (found : List Cycle) (hroot : root ∈ done) :
      Visit targets? nodes root ⟨[], done, found⟩ ⟨[], done, found⟩
  | walk (done : List String) (found : List Cycle) (ts done' : List String) (found' : List Cycle)
      (hnode : root ∈ nodes) (hnew : root ∉ done) (hts : targets? root = some ts)
      (hmoves : Relation.ReflTransGen (Move targets? nodes) ⟨[(root, ts)], done, found⟩ ⟨[], done', found'⟩) :
      Visit targets? nodes root ⟨[], done, found⟩ ⟨[], done', found'⟩

/-- The search from one root after the other. -/
inductive Visits (targets? : String → Option (List String)) (nodes : List String) : List String → Stage → Stage → Prop
  | nil (x : Stage) : Visits targets? nodes [] x x
  | cons (root : String) (roots : List String) {x y z : Stage} (hfirst : Visit targets? nodes root x y)
      (hothers : Visits targets? nodes roots y z) : Visits targets? nodes (root :: roots) x z

theorem Visit.sound {root : String} {x y : Stage} (h : Visit targets? nodes root x y)
    (hsound : Sound targets? nodes x) : Sound targets? nodes y := by
  cases h with
  | skip done found hroot => exact hsound
  | walk done found ts done' found' hnode hnew hts hmoves =>
    exact sound_of_moves hmoves (hsound.start hnode hnew hts)

theorem Tracks.fromRoot_visited (h : Tracks nodes s ⟨[], done, found⟩) (hroot : root ∈ done) (n : Nat) :
    fromRoot targets? n s root = .ok s := by
  have hcolor : s.color.get? root = some .black :=
    (h.color root).trans (colorIn_finished List.not_mem_nil hroot)
  rw [fromRoot, hcolor]

theorem Tracks.fromRoot_new (h : Tracks nodes s ⟨[], done, found⟩) (hnode : root ∈ nodes) (hroot : root ∉ done)
    {ts : List String} (hts : targets? root = some ts) :
    ∃ s', fromRoot targets? 0 s root = .ok s' ∧ Tracks nodes s' ⟨[(root, ts)], done, found⟩ := by
  have hcolor : s.color.get? root = some .white :=
    (h.color root).trans (colorIn_new List.not_mem_nil hroot hnode)
  refine ⟨_, ?_, h.start root ts⟩
  rw [fromRoot, hcolor]
  simp only [hts]
  rfl

/-- The search from a root is the turn of the root and a run. -/
theorem fromRoot_eq_run (n : Nat) (h : s.pending = []) :
    fromRoot targets? n s root = fromRoot targets? 0 s root >>= run targets? n := by
  have hidle : run targets? n s = .ok s := by
    cases n with
    | zero => rfl
    | succ n => rw [run, if_pos (List.isEmpty_iff.mpr h)]
  simp only [fromRoot]
  cases s.color.get? root with
  | none => rfl
  | some color =>
    cases color with
    | white => cases targets? root <;> rfl
    | gray => exact hidle.symm
    | black => exact hidle.symm

/-- The search from a root finishes it. -/
theorem fromRoot_tracks (hclosed : Closed targets? nodes) (hnodes : nodes.Nodup) {budget : Nat}
    (hbudget : total (nodes.map (weight targets?)) ≤ budget) {root : String} (hroot : root ∈ nodes)
    (htracks : Tracks nodes s ⟨[], done, found⟩) (hsound : Sound targets? nodes ⟨[], done, found⟩) :
    ∃ s' done' found', fromRoot targets? budget s root = .ok s' ∧ Tracks nodes s' ⟨[], done', found'⟩ ∧
      Visit targets? nodes root ⟨[], done, found⟩ ⟨[], done', found'⟩ ∧ root ∈ done' ∧ done ⊆ done' := by
  by_cases hdone : root ∈ done
  · exact ⟨s, done, found, htracks.fromRoot_visited hdone budget, htracks, .skip done found hdone, hdone,
      List.Subset.refl _⟩
  · obtain ⟨ts, hts, -⟩ := hclosed root hroot
    obtain ⟨s0, hturn, htracks0⟩ := htracks.fromRoot_new hroot hdone hts
    have hwork : (Stage.mk [(root, ts)] done found).work targets? nodes ≤ budget := by
      have hinsert := unvisited_insert targets? hnodes hroot [] hdone
      have hle := unvisited_le targets? nodes ([] ++ done)
      have hweight : weight targets? root = ts.length + 1 := by rw [weight, hts, Option.getD_some]
      show pendingWork [(root, ts)] + unvisited targets? nodes ([] ++ root :: done) ≤ budget
      rw [pendingWork_cons, pendingWork, List.map_nil, total_nil]
      omega
    obtain ⟨s', ⟨frames, done', found'⟩, hrun, hmoves, htracks', hend⟩ :=
      run_tracks hclosed hnodes budget s0 _ htracks0 (hsound.start hroot hdone hts) hwork
    have htrail := trail_of_moves hmoves
    change frames = [] at hend
    subst hend
    refine ⟨s', done', found', ?_, htracks', .walk done found ts done' found' hroot hdone hts hmoves,
      htrail List.mem_cons_self, fun p hp => htrail (List.mem_cons_of_mem root hp)⟩
    rw [fromRoot_eq_run budget (htracks.pending_eq_nil.mpr rfl), hturn]
    exact hrun

theorem foldlM_fromRoot (hclosed : Closed targets? nodes) (hnodes : nodes.Nodup) {budget : Nat}
    (hbudget : total (nodes.map (weight targets?)) ≤ budget) (roots : List String) (hroots : ∀ r ∈ roots, r ∈ nodes)
    (htracks : Tracks nodes s ⟨[], done, found⟩) (hsound : Sound targets? nodes ⟨[], done, found⟩) :
    ∃ s' done' found', roots.foldlM (fromRoot targets? budget) s = .ok s' ∧ Tracks nodes s' ⟨[], done', found'⟩ ∧
      Sound targets? nodes ⟨[], done', found'⟩ ∧ Visits targets? nodes roots ⟨[], done, found⟩ ⟨[], done', found'⟩ ∧
      (∀ r ∈ roots, r ∈ done') ∧ done ⊆ done' := by
  induction roots generalizing s done found with
  | nil =>
    exact ⟨s, done, found, rfl, htracks, hsound, .nil _, fun r hr => absurd hr List.not_mem_nil,
      List.Subset.refl _⟩
  | cons root roots ih =>
    obtain ⟨s1, done1, found1, hfrom, htracks1, hvisit, hroot, hsub1⟩ :=
      fromRoot_tracks hclosed hnodes hbudget (hroots root List.mem_cons_self) htracks hsound
    obtain ⟨s', done', found', hfold, htracks', hsound', hvisits, hfinished, hsub⟩ :=
      ih (fun r hr => hroots r (List.mem_cons_of_mem root hr)) htracks1 (hvisit.sound hsound)
    refine ⟨s', done', found', ?_, htracks', hsound', .cons root roots hvisit hvisits, fun r hr => ?_,
      List.Subset.trans hsub1 hsub⟩
    · rw [List.foldlM_cons, hfrom]
      exact hfold
    · rcases List.mem_cons.mp hr with rfl | hr
      · exact hsub hroot
      · exact hfinished r hr

end Roots

end Search

/-! ### The search over an import relation -/

namespace Imports

open Search

variable {g : Imports}

theorem entry?_of_mem (h : g.paths.Nodup) {e : ImportEntry} (he : e ∈ g) : g.entry? e.path = some e :=
  (find?_key_eq_some h).mpr ⟨he, rfl⟩

theorem internal?_of_mem (h : g.paths.Nodup) {e : ImportEntry} (he : e ∈ g) :
    g.internal? e.path = some (e.targets.filter g.isFile) := by
  rw [internal?, entry?_of_mem h he, Option.map_some]

theorem internal?_of_not_mem {p : String} (hp : p ∉ g.paths) : g.internal? p = none := by
  have hnone : g.entry? p = none :=
    List.find?_eq_none.mpr fun e he hpath => hp (List.mem_map.mpr ⟨e, he, eq_of_beq hpath⟩)
  rw [internal?, hnone, Option.map_none]

theorem isFile_iff {p : String} : g.isFile p = true ↔ p ∈ g.paths := by
  simp [isFile, paths]

theorem closed_internal? (h : g.paths.Nodup) : Closed g.internal? g.paths := by
  intro p hp
  obtain ⟨e, he, rfl⟩ := List.mem_map.mp hp
  exact ⟨_, internal?_of_mem h he, fun t ht => isFile_iff.mp (List.mem_filter.mp ht).2⟩

theorem weight_le_searchBudget (h : g.paths.Nodup) : total (g.paths.map (weight g.internal?)) ≤ g.searchBudget := by
  rw [searchBudget, paths, List.map_map]
  refine total_map_le fun e he => ?_
  rw [Function.comp_apply, weight, internal?_of_mem h he, Option.getD_some]
  exact Nat.succ_le_succ (List.length_filter_le _ _)

theorem get?_white (p : String) :
    Table.get? (g.paths.map fun p => (p, Color.white)) p = colorIn g.paths [] [] p := by
  rw [colorIn, if_neg List.not_mem_nil, if_neg List.not_mem_nil]
  induction g.paths with
  | nil => rfl
  | cons q rest ih =>
    by_cases hq : q = p
    · simp [Table.get?, hq]
    · rw [List.map_cons, Table.get?, List.find?_cons_of_neg (by simpa using hq), ← Table.get?, ih]
      simp [Ne.symm hq]

theorem sound_nil (targets? : String → Option (List String)) (nodes : List String) :
    Sound targets? nodes ⟨[], [], []⟩ :=
  ⟨List.nodup_nil, fun _ hp => absurd hp List.not_mem_nil, trivial, trivial, fun _ hc => absurd hc List.not_mem_nil,
    List.Pairwise.nil⟩

/-- Before the search all files are white. -/
theorem tracks_white (g : Imports) : Tracks g.paths { color := g.paths.map (·, .white) } ⟨[], [], []⟩ where
  path := rfl
  pending := rfl
  found := rfl
  color := get?_white
  place := fun p i => ⟨fun hi => absurd hi (by simp [Table.get?]), fun hi => absurd hi (by simp [Stage.path, pathOf])⟩

/-- **The search over an import relation** comes to no fault, visits the files in ascending order and finishes them. -/
theorem search_visits (h : g.paths.Nodup) :
    ∃ s done, g.search = .ok s ∧ Sound g.internal? g.paths ⟨[], done, s.found⟩ ∧
      Visits g.internal? g.paths (Text.ascending g.paths) ⟨[], [], []⟩ ⟨[], done, s.found⟩ ∧
      ∀ p ∈ g.paths, p ∈ done := by
  obtain ⟨s, done, found, hsearch, htracks', hsound, hvisits, hfinished, -⟩ :=
    foldlM_fromRoot (closed_internal? h) h (weight_le_searchBudget h) (Text.ascending g.paths)
      (fun r hr => Text.mem_ascending.mp hr) (tracks_white g) (sound_nil g.internal? g.paths)
  obtain rfl : s.found = found := htracks'.found
  exact ⟨s, done, hsearch, hsound, hvisits, fun p hp => hfinished p (Text.mem_ascending.mpr hp)⟩

theorem search_ok (h : g.paths.Nodup) :
    ∃ s done, g.search = .ok s ∧ Sound g.internal? g.paths ⟨[], done, s.found⟩ ∧ ∀ p ∈ g.paths, p ∈ done := by
  obtain ⟨s, done, hsearch, hsound, -, hall⟩ := search_visits h
  exact ⟨s, done, hsearch, hsound, hall⟩

theorem cycles_eq {s : Search} (h : g.search = .ok s) : g.cycles = s.found := by
  rw [cycles, h]

end Imports
end RepoSurvey
