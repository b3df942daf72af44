import RepoSurvey.Proofs.Failing
import RepoSurvey.Proofs.Graph.SearchAccount

/-!
# The search in progress

The search over all roots, one target or one root at a time, with an account of what it has done so far.

* `UnderWay.next?`: what comes next, a step or the turn of a root.
* `Runs`: what a search can come to, with the files that it has put on the path and the imports that it has examined.
* `Search.IsInStep`: places, colours and pending targets tell the same path. `IsExhaustive`: every file has been put
  on the path once, and every import inside has been examined once.
* `Stands.next`: what comes next keeps a search in step with a stage and with its account, and is no fault.
* `Imports.search_isInStep`: the search stays in step, comes to no fault, and ends when it has done all.
-/

namespace RepoSurvey
namespace Search

/-- A search over several roots on its way. -/
structure UnderWay where
  /-- The roots whose turn has not come. -/
  roots : List String
  state : Search

namespace UnderWay

/-- What comes next: a step while there is something pending, else the turn of the next root, which is put on the path
unless it has been visited. Nothing comes after the last root. -/
def next? (targets? : String → Option (List String)) (x : UnderWay) : Option (Except SearchFault UnderWay) :=
  match x.state.pending, x.roots with
  | _ :: _, roots => some ((x.state.step targets?).map fun s => ⟨roots, s⟩)
  | [], root :: roots => some ((fromRoot targets? 0 x.state root).map fun s => ⟨roots, s⟩)
  | [], [] => none

/-- The files that have been put on the path in between. -/
def pushed (x y : UnderWay) : List String := y.state.path.drop x.state.path.length

/-- The import that is examined next: one of the last file on the path. -/
def examined (x : UnderWay) : List (String × String) :=
  match x.state.path.getLast?, x.state.pending with
  | some file, (target :: _) :: _ => [(file, target)]
  | _, _ => []

end UnderWay

/-- What a search can come to, with the files that it puts on the path and the imports that it examines on the way. -/
inductive Runs (targets? : String → Option (List String)) (x : UnderWay) :
    List String → List (String × String) → UnderWay → Prop
  | start : Runs targets? x [] [] x
  | next {pushed : List String} {examined : List (String × String)} {y z : UnderWay}
      (h : Runs targets? x pushed examined y) (hnext : y.next? targets? = some (.ok z)) :
      Runs targets? x (pushed ++ y.pushed z) (examined ++ y.examined) z

/-- The places of its files, the colours and the pending targets of a search tell the same path, in which each file
imports the next one. -/
structure IsInStep (g : Imports) (s : Search) : Prop where
  nodup : s.path.Nodup
  pending : s.pending.length = s.path.length
  place : ∀ p i, s.place.get? p = some i ↔ s.path[i]? = some p
  gray : ∀ p, s.color.get? p = some .gray ↔ p ∈ s.path
  chain : List.IsChain (fun p t => t ∈ g.internal p) s.path

/-- A search has put every file on the path once and has examined every import inside once, those of each file in their
order, and all files are finished. -/
structure IsExhaustive (g : Imports) (pushed : List String) (examined : List (String × String)) (s : Search) :
    Prop where
  pushed : pushed.Perm g.paths
  examined : ∀ p, examinedBy p examined = g.internal p
  black : ∀ p, s.color.get? p = some .black ↔ p ∈ g.paths

variable {targets? : String → Option (List String)} {nodes : List String} {pushed pushed' : List String}
  {examined examined' : List (String × String)} {x y z : UnderWay}

/-! ### The account of a search -/

/-- A search stands at a stage, with an account of what it has done, and every file has been visited or is a root to
come. -/
structure Stands (targets? : String → Option (List String)) (nodes : List String) (x : UnderWay) (z : Stage)
    (pushed : List String) (examined : List (String × String)) : Prop where
  tracks : Tracks nodes x.state z
  sound : Sound targets? nodes z
  records : Records targets? pushed examined z
  roots : ∀ r ∈ x.roots, r ∈ nodes
  covers : ∀ p ∈ nodes, p ∈ z.trail ∨ p ∈ x.roots

section Stands

variable {s : Search} {roots : List String} {root : String} {done : List String} {found : List Cycle}

theorem Tracks.upcoming {z : Stage} (h : Tracks nodes s z) (roots : List String) :
    (UnderWay.mk roots s).examined = z.upcoming := by
  obtain ⟨frames, done, found⟩ := z
  rw [UnderWay.examined, h.path, h.pending, Stage.path]
  rcases frames with _ | ⟨⟨u, _ | ⟨v, rest⟩⟩, below⟩
  · rfl
  · rw [pathOf_cons, List.getLast?_concat]
    rfl
  · rw [pathOf_cons, List.getLast?_concat]
    rfl

theorem next?_step (h : s.pending ≠ []) :
    (UnderWay.mk roots s).next? targets? = some ((s.step targets?).map fun s => ⟨roots, s⟩) := by
  obtain ⟨ts, below, hpending⟩ := List.exists_cons_of_ne_nil h
  simp only [UnderWay.next?, hpending]

theorem next?_root (h : s.pending = []) :
    (UnderWay.mk (root :: roots) s).next? targets? =
      some ((fromRoot targets? 0 s root).map fun s => ⟨roots, s⟩) := by
  simp only [UnderWay.next?, h]

theorem next?_end (h : s.pending = []) : (UnderWay.mk [] s).next? targets? = none := by
  simp only [UnderWay.next?, h]

/-- A step keeps the account. -/
theorem Stands.step (hclosed : Closed targets? nodes) {z : Stage}
    (h : Stands targets? nodes ⟨roots, s⟩ z pushed examined) (hframes : z.frames ≠ []) :
    ∃ y z', (UnderWay.mk roots s).next? targets? = some (.ok y) ∧
      Stands targets? nodes y z' (pushed ++ (UnderWay.mk roots s).pushed y)
        (examined ++ (UnderWay.mk roots s).examined) := by
  obtain ⟨s', z', hstep, hmove, htracks⟩ :=
    step_tracks hclosed h.tracks (List.nodup_append.mp h.sound.nodup).1 (h.sound.pending hclosed) hframes
  refine ⟨⟨roots, s'⟩, z', ?_, htracks, hmove.sound h.sound, ?_, h.roots, fun p hp => ?_⟩
  · rw [next?_step fun hnone => hframes (h.tracks.pending_eq_nil.mp hnone), hstep]
    rfl
  · rw [h.tracks.upcoming, UnderWay.pushed, htracks.path, h.tracks.path]
    exact h.records.move hmove h.sound.nodup
  · exact (h.covers p hp).imp_left fun hmem => hmove.trail hmem

/-- After the turn of a root that has been visited by then, every file has been visited or is a root to come. -/
theorem Stands.covers_turn {z z' : Stage} (h : Stands targets? nodes ⟨root :: roots, s⟩ z pushed examined)
    (htrail : z.trail ⊆ z'.trail) (hroot : root ∈ z'.trail) : ∀ p ∈ nodes, p ∈ z'.trail ∨ p ∈ roots := by
  intro p hp
  rcases h.covers p hp with hvisited | hleft
  · exact Or.inl (htrail hvisited)
  · rcases List.mem_cons.mp hleft with rfl | hleft
    · exact Or.inl hroot
    · exact Or.inr hleft

/-- The turn of a root keeps the account. -/
theorem Stands.turn (hclosed : Closed targets? nodes)
    (h : Stands targets? nodes ⟨root :: roots, s⟩ ⟨[], done, found⟩ pushed examined) :
    ∃ y z', (UnderWay.mk (root :: roots) s).next? targets? = some (.ok y) ∧
      Stands targets? nodes y z' (pushed ++ (UnderWay.mk (root :: roots) s).pushed y)
        (examined ++ (UnderWay.mk (root :: roots) s).examined) := by
  have hnode : root ∈ nodes := h.roots root List.mem_cons_self
  have hroots : ∀ r ∈ roots, r ∈ nodes := fun r hr => h.roots r (List.mem_cons_of_mem root hr)
  have hpending : s.pending = [] := h.tracks.pending_eq_nil.mpr rfl
  have hnone : (UnderWay.mk (root :: roots) s).examined = [] := h.tracks.upcoming _
  rw [next?_root hpending, hnone, List.append_nil]
  by_cases hroot : root ∈ done
  · have hsame : (UnderWay.mk (root :: roots) s).pushed ⟨roots, s⟩ = [] := List.drop_length
    refine ⟨⟨roots, s⟩, ⟨[], done, found⟩, ?_, h.tracks, h.sound, ?_, hroots,
      h.covers_turn (List.Subset.refl _) hroot⟩
    · rw [h.tracks.fromRoot_visited hroot]
      rfl
    · rw [hsame, List.append_nil]
      exact h.records
  · obtain ⟨ts, hts, -⟩ := hclosed root hnode
    obtain ⟨s', hfrom, htracks⟩ := h.tracks.fromRoot_new hnode hroot hts
    have hput : (UnderWay.mk (root :: roots) s).pushed ⟨roots, s'⟩ = [root] := by
      rw [UnderWay.pushed, htracks.path, h.tracks.path]
      rfl
    refine ⟨⟨roots, s'⟩, ⟨[(root, ts)], done, found⟩, ?_, htracks, h.sound.start hnode hroot hts, ?_, hroots,
      h.covers_turn (List.subset_cons_self root done) List.mem_cons_self⟩
    · rw [hfrom]
      rfl
    · rw [hput]
      exact h.records.root hroot hts

/-- **What comes next is no fault and keeps the account**, unless nothing is left to do. -/
theorem Stands.next (hclosed : Closed targets? nodes) {z : Stage} (h : Stands targets? nodes x z pushed examined) :
    x.roots = [] ∧ z.frames = [] ∨
      ∃ y z', x.next? targets? = some (.ok y) ∧
        Stands targets? nodes y z' (pushed ++ x.pushed y) (examined ++ x.examined) := by
  obtain ⟨roots, s⟩ := x
  obtain ⟨frames, done, found⟩ := z
  match frames, roots with
  | f :: below, _ => exact Or.inr (h.step hclosed (List.cons_ne_nil f below))
  | [], root :: roots => exact Or.inr (h.turn hclosed)
  | [], [] => exact Or.inl ⟨rfl, rfl⟩

theorem Stands.next?_ne_error (hclosed : Closed targets? nodes) {z : Stage}
    (h : Stands targets? nodes x z pushed examined) (fault : SearchFault) : x.next? targets? ≠ some (.error fault) := by
  intro hfault
  obtain ⟨roots, s⟩ := x
  rcases h.next hclosed with ⟨rfl, hframes⟩ | ⟨y, -, hnext, -⟩
  · rw [next?_end (h.tracks.pending_eq_nil.mpr hframes)] at hfault
    exact absurd hfault (by simp)
  · rw [hfault] at hnext
    exact absurd hnext (by simp)

end Stands

/-! ### Runs -/

theorem Runs.trans (h : Runs targets? x pushed examined y) (h' : Runs targets? y pushed' examined' z) :
    Runs targets? x (pushed ++ pushed') (examined ++ examined') z := by
  induction h' with
  | start =>
    rw [List.append_nil, List.append_nil]
    exact h
  | next _ hnext ih =>
    rw [← List.append_assoc, ← List.append_assoc]
    exact ih.next hnext

/-- A run keeps the account. -/
theorem Runs.stands (hclosed : Closed targets? nodes) {z : Stage} (hstart : Stands targets? nodes x z [] [])
    (h : Runs targets? x pushed examined y) : ∃ z', Stands targets? nodes y z' pushed examined := by
  induction h with
  | start => exact ⟨z, hstart⟩
  | @next pushed examined y y' _ hnext ih =>
    obtain ⟨roots, s⟩ := y
    obtain ⟨z', hstands⟩ := ih
    rcases hstands.next hclosed with ⟨rfl, hframes⟩ | ⟨y'', z'', hnext', hstands'⟩
    · rw [next?_end (hstands.tracks.pending_eq_nil.mpr hframes)] at hnext
      exact absurd hnext (by simp)
    · rw [hnext', Option.some.injEq, Except.ok.injEq] at hnext
      exact ⟨z'', hnext ▸ hstands'⟩

/-- One thing at most comes next, so that a course of the search meets all that a run comes to. -/
theorem Runs.meets (h : Runs targets? x pushed examined y) {course : Nat → UnderWay} (hstart : course 0 = x)
    (hcourse : ∀ n, (course n).next? targets? = some (.ok (course (n + 1)))) : ∃ n, course n = y := by
  induction h with
  | start => exact ⟨0, hstart⟩
  | next _ hnext ih =>
    obtain ⟨n, hn⟩ := ih
    have hafter := hcourse n
    rw [hn, hnext, Option.some.injEq, Except.ok.injEq] at hafter
    exact ⟨n + 1, hafter.symm⟩

section Fold

variable {s s' : Search} {roots : List String} {root : String} {done : List String} {found : List Cycle}

theorem runs_of_run (roots : List String) {n : Nat} (h : run targets? n s = .ok s') :
    ∃ pushed examined, Runs targets? ⟨roots, s⟩ pushed examined ⟨roots, s'⟩ := by
  induction n generalizing s with
  | zero =>
    obtain rfl := Except.ok.inj h
    exact ⟨[], [], .start⟩
  | succ n ih =>
    rw [run] at h
    by_cases hpending : s.pending = []
    · rw [if_pos (List.isEmpty_iff.mpr hpending)] at h
      obtain rfl := Except.ok.inj h
      exact ⟨[], [], .start⟩
    · rw [if_neg (mt List.isEmpty_iff.mp hpending)] at h
      obtain ⟨s1, hstep, hrest⟩ := bind_eq_ok.mp h
      obtain ⟨pushed, examined, hruns⟩ := ih hrest
      have hnext : (UnderWay.mk roots s).next? targets? = some (.ok ⟨roots, s1⟩) := by
        rw [next?_step hpending, hstep]
        rfl
      exact ⟨_, _, (Runs.start.next hnext).trans hruns⟩

theorem runs_of_fromRoot (roots : List String) {n : Nat} (hpending : s.pending = [])
    (h : fromRoot targets? n s root = .ok s') :
    ∃ pushed examined, Runs targets? ⟨root :: roots, s⟩ pushed examined ⟨roots, s'⟩ := by
  rw [fromRoot_eq_run n hpending] at h
  obtain ⟨s1, hturn, hrun⟩ := bind_eq_ok.mp h
  obtain ⟨pushed, examined, hruns⟩ := runs_of_run roots hrun
  have hnext : (UnderWay.mk (root :: roots) s).next? targets? = some (.ok ⟨roots, s1⟩) := by
    rw [next?_root hpending, hturn]
    rfl
  exact ⟨_, _, (Runs.start.next hnext).trans hruns⟩

/-- **The search from one root after the other is a run to its end.** -/
theorem runs_of_foldlM (hclosed : Closed targets? nodes) (hnodes : nodes.Nodup) {budget : Nat}
    (hbudget : total (nodes.map (weight targets?)) ≤ budget) (hroots : ∀ r ∈ roots, r ∈ nodes)
    (htracks : Tracks nodes s ⟨[], done, found⟩) (hsound : Sound targets? nodes ⟨[], done, found⟩) :
    ∃ s' pushed examined, roots.foldlM (fromRoot targets? budget) s = .ok s' ∧
      Runs targets? ⟨roots, s⟩ pushed examined ⟨[], s'⟩ ∧ s'.pending = [] := by
  induction roots generalizing s done found with
  | nil => exact ⟨s, [], [], rfl, .start, htracks.pending_eq_nil.mpr rfl⟩
  | cons root roots ih =>
    obtain ⟨s1, done1, found1, hfrom, htracks1, hvisit, -⟩ :=
      fromRoot_tracks hclosed hnodes hbudget (hroots root List.mem_cons_self) htracks hsound
    obtain ⟨pushed, examined, hruns⟩ := runs_of_fromRoot roots (htracks.pending_eq_nil.mpr rfl) hfrom
    obtain ⟨s', pushed', examined', hfold, hruns', hpending⟩ :=
      ih (fun r hr => hroots r (List.mem_cons_of_mem root hr)) htracks1 (hvisit.sound hsound)
    refine ⟨s', _, _, ?_, hruns.trans hruns', hpending⟩
    rw [List.foldlM_cons, hfrom]
    exact hfold

end Fold

/-! ### What a search in progress satisfies -/

section Outcome

variable {g : Imports} {stage : Stage}

theorem Stands.isInStep (h : Stands g.internal? g.paths x stage pushed examined) : x.state.IsInStep g where
  nodup := by
    rw [h.tracks.path]
    exact (List.nodup_append.mp h.sound.nodup).1
  pending := by
    rw [h.tracks.path, h.tracks.pending, List.length_map, Stage.path, length_pathOf]
  place := by
    intro p i
    rw [h.tracks.place, h.tracks.path]
  gray := by
    intro p
    rw [h.tracks.color, h.tracks.path, colorIn_eq_gray]
  chain := by
    rw [h.tracks.path]
    refine h.sound.opened.chain.imp fun p t hleads => ?_
    obtain ⟨ts, hts, ht⟩ := hleads
    rw [Imports.internal, hts]
    exact ht

/-- At its end a search has done all. -/
theorem Stands.isExhaustive {s : Search} (hdistinct : g.paths.Nodup)
    (h : Stands g.internal? g.paths ⟨[], s⟩ stage pushed examined) (hend : s.pending = []) :
    IsExhaustive g pushed examined s := by
  obtain ⟨frames, done, found⟩ := stage
  obtain rfl : frames = [] := h.tracks.pending_eq_nil.mp hend
  have hdone : ∀ p, p ∈ done ↔ p ∈ g.paths := fun p =>
    ⟨h.sound.known p, fun hp => (h.covers p hp).resolve_right List.not_mem_nil⟩
  have hleft : ∀ p, Stage.left g.internal? ⟨[], done, found⟩ p = [] := by
    intro p
    rw [Stage.left_off_path List.not_mem_nil]
    by_cases hp : p ∈ done
    · rw [if_pos hp]
    · rw [if_neg hp, Imports.internal?_of_not_mem fun hfile => hp ((hdone p).mpr hfile), Option.getD_none]
  refine ⟨h.records.pushed.trans ((List.perm_ext_iff_of_nodup h.sound.nodup hdistinct).mpr hdone), fun p => ?_,
    fun p => ?_⟩
  · rw [Imports.internal, ← h.records.examined p, hleft, List.append_nil]
  · rw [← hdone]
    exact (Eq.congr_left (h.tracks.color p)).trans colorIn_nil_eq_black

end Outcome

end Search

namespace Imports

open Search

variable {g : Imports}

/-- The search before the turn of its first root. -/
def beginning (g : Imports) : UnderWay := ⟨Text.ascending g.paths, { color := g.paths.map (·, .white) }⟩

theorem stands_beginning (g : Imports) : Stands g.internal? g.paths g.beginning ⟨[], [], []⟩ [] [] where
  tracks := tracks_white g
  sound := sound_nil g.internal? g.paths
  records := ⟨List.Perm.refl _, fun p => by rw [Stage.left_off_path List.not_mem_nil, if_neg List.not_mem_nil]; rfl⟩
  roots := fun r hr => Text.mem_ascending.mp hr
  covers := fun p hp => Or.inr (Text.mem_ascending.mpr hp)

/-- The search is a run to its end. -/
theorem exists_runs_search (hdistinct : g.paths.Nodup) :
    ∃ pushed examined s, Runs g.internal? g.beginning pushed examined ⟨[], s⟩ ∧ s.pending = [] ∧
      g.search = .ok s := by
  obtain ⟨s, pushed, examined, hsearch, hruns, hend⟩ :=
    runs_of_foldlM (closed_internal? hdistinct) hdistinct (weight_le_searchBudget hdistinct)
      (fun r hr => Text.mem_ascending.mp hr) (tracks_white g) (sound_nil g.internal? g.paths)
  exact ⟨pushed, examined, s, hruns, hend, hsearch⟩

/-- **The search stays in step and ends.** Whatever it comes to, its places, colours and pending targets tell the same
path, and what comes next is no fault. It does not go on for ever, and at its end it has put every file on the path once
and has examined every import inside once. -/
theorem search_isInStep (hdistinct : g.paths.Nodup) :
    (∀ pushed examined x, Runs g.internal? g.beginning pushed examined x →
      x.state.IsInStep g ∧ ∀ fault, x.next? g.internal? ≠ some (.error fault)) ∧
    (∀ course : Nat → UnderWay, course 0 = g.beginning →
      ∃ n, (course n).next? g.internal? ≠ some (.ok (course (n + 1)))) ∧
    ∃ pushed examined s, Runs g.internal? g.beginning pushed examined ⟨[], s⟩ ∧ s.pending = [] ∧
      g.search = .ok s ∧ IsExhaustive g pushed examined s := by
  have hclosed := closed_internal? hdistinct
  obtain ⟨pushed, examined, s, hruns, hend, hsearch⟩ := exists_runs_search hdistinct
  refine ⟨fun pushed examined x hx => ?_, fun course hstart => ?_, pushed, examined, s, hruns, hend, hsearch, ?_⟩
  · obtain ⟨stage, hstands⟩ := hx.stands hclosed (stands_beginning g)
    exact ⟨hstands.isInStep, hstands.next?_ne_error hclosed⟩
  · -- a course without an end would meet the end of the search, after which nothing comes
    by_contra hendless
    simp only [not_exists, not_not] at hendless
    obtain ⟨n, hn⟩ := hruns.meets hstart hendless
    have hafter := hendless n
    rw [hn, next?_end hend] at hafter
    exact absurd hafter (by simp)
  · obtain ⟨stage, hstands⟩ := hruns.stands hclosed (stands_beginning g)
    exact hstands.isExhaustive hdistinct hend

/-- A file that imports another one twice, and is imported by it. -/
theorem search_isInStep_of_repeated_import :
    let g : Imports := [⟨"b", ["a", "c", "a"], []⟩, ⟨"a", ["b", "lib"], []⟩, ⟨"c", [], []⟩]
    g.paths.Nodup ∧ ∃ (pushed : List String) (examined : List (String × String)) (s : Search),
      Runs g.internal? g.beginning pushed examined ⟨[], s⟩ ∧ g.search = .ok s ∧ pushed.Perm ["b", "a", "c"] ∧
      examinedBy "b" examined = ["a", "c", "a"] ∧ examinedBy "a" examined = ["b"] ∧
      s.color.get? "c" = some .black := by
  intro g
  have hdistinct : g.paths.Nodup := by decide
  obtain ⟨-, -, pushed, examined, s, hruns, -, hsearch, hall⟩ := search_isInStep hdistinct
  exact ⟨hdistinct, pushed, examined, s, hruns, hsearch, hall.pushed, hall.examined "b", hall.examined "a",
    (hall.black "c").mpr (by decide)⟩

end Imports
end RepoSurvey
