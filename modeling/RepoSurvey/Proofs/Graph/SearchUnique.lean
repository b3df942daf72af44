import RepoSurvey.Proofs.Graph.SearchRun

/-!
# The search has one outcome

What a search finds depends on the targets of its files and on the order of its roots, and on nothing else: not on the
order in which the files are held and not on the number of steps that it is granted.

* `Move.unique`: a sound stage has one move at most.
* `Visits.unique`: the search from given roots has one end.
* `Imports.cycles_congr`: relations of the same files and the same internal targets have the same cycles.
-/

namespace RepoSurvey

namespace Search

variable {targets? : String → Option (List String)} {nodes nodes' : List String} {x y z : Stage}

/-! ### Among more files -/

section Mono

theorem Move.mono (hsub : nodes ⊆ nodes') (h : Move targets? nodes x y) : Move targets? nodes' x y := by
  cases h with
  | finish u below done found => exact .finish u below done found
  | close u v rest below done found i hi => exact .close u v rest below done found i hi
  | pass u v rest below done found hv => exact .pass u v rest below done found hv
  | enter u v rest below done found ts hnode hv hts => exact .enter u v rest below done found ts (hsub hnode) hv hts

theorem Visit.mono (hsub : nodes ⊆ nodes') {root : String} (h : Visit targets? nodes root x y) :
    Visit targets? nodes' root x y := by
  cases h with
  | skip done found hroot => exact .skip done found hroot
  | walk done found ts done' found' hnode hnew hts hmoves =>
    have hmore := Relation.ReflTransGen.mono (fun _ _ => Move.mono hsub) _ _ hmoves
    exact .walk done found ts done' found' (hsub hnode) hnew hts hmore

theorem Visits.mono (hsub : nodes ⊆ nodes') {roots : List String} (h : Visits targets? nodes roots x y) :
    Visits targets? nodes' roots x y := by
  induction h with
  | nil x => exact .nil x
  | cons root roots hfirst _ ih => exact .cons root roots (hfirst.mono hsub) ih

end Mono

/-! ### One move at most -/

section Unique

variable {u v : String} {rest done : List String} {below : List (String × List String)} {found : List Cycle}

/-- A file is at one place of a path without repetitions. -/
theorem place_unique {l : List String} (hnodup : l.Nodup) {i j : Nat} (hi : l[i]? = some v) (hj : l[j]? = some v) :
    i = j := by
  obtain ⟨hlt, -⟩ := List.getElem?_eq_some_iff.mp hi
  exact (List.getElem?_inj hlt hnodup).mp (hi.trans hj.symm)

/-- **A sound stage has one move at most.** -/
theorem Move.unique (hsound : Sound targets? nodes x) (h : Move targets? nodes x y) (h' : Move targets? nodes x z) :
    y = z := by
  have hnodup : x.path.Nodup := (List.nodup_append.mp hsound.nodup).1
  have hdisjoint : ∀ p ∈ x.path, p ∉ x.finished := fun p hp hq =>
    (List.nodup_append.mp hsound.nodup).2.2 p hp p hq rfl
  cases h with
  | finish u below done found =>
    cases h'
    rfl
  | close u v rest below done found i hi =>
    have hpath : v ∈ pathOf ((u, rest) :: below) := List.mem_of_getElem? hi
    cases h' with
    | close _ _ _ _ _ _ j hj => rw [place_unique hnodup hi hj]
    | pass _ _ _ _ _ _ hv => exact absurd hv (hdisjoint v hpath)
    | enter _ _ _ _ _ _ ts _ hv _ => exact absurd (List.mem_append_left done hpath) hv
  | pass u v rest below done found hv =>
    cases h' with
    | close _ _ _ _ _ _ j hj => exact absurd hv (hdisjoint v (List.mem_of_getElem? hj))
    | pass => rfl
    | enter _ _ _ _ _ _ ts _ hnew _ => exact absurd (List.mem_append_right _ hv) hnew
  | enter u v rest below done found ts hnode hnew hts =>
    cases h' with
    | close _ _ _ _ _ _ j hj => exact absurd (List.mem_append_left done (List.mem_of_getElem? hj)) hnew
    | pass _ _ _ _ _ _ hv => exact absurd (List.mem_append_right _ hv) hnew
    | enter _ _ _ _ _ _ ts' _ _ hts' =>
      obtain rfl := Option.some.inj (hts.symm.trans hts')
      rfl

/-- A stage with an empty path has no move. -/
theorem Move.frames_ne_nil (h : Move targets? nodes x y) : x.frames ≠ [] := by
  cases h <;> exact List.cons_ne_nil _ _

/-- Runs from one stage that leave nothing on the path end alike. -/
theorem end_unique (hsound : Sound targets? nodes x) (h : Relation.ReflTransGen (Move targets? nodes) x y)
    (h' : Relation.ReflTransGen (Move targets? nodes) x z) (hy : y.frames = []) (hz : z.frames = []) : y = z := by
  induction h using Relation.ReflTransGen.head_induction_on with
  | refl =>
    rcases h'.cases_head with heq | ⟨w, hmove, -⟩
    · exact heq
    · exact absurd hy hmove.frames_ne_nil
  | head hmove _ ih =>
    rcases h'.cases_head with rfl | ⟨w, hmove', hrest⟩
    · exact absurd hz hmove.frames_ne_nil
    · obtain rfl := hmove.unique hsound hmove'
      exact ih (hmove.sound hsound) hrest

theorem Visit.unique {root : String} (hsound : Sound targets? nodes x) (h : Visit targets? nodes root x y)
    (h' : Visit targets? nodes root x z) : y = z := by
  cases h with
  | skip done found hroot =>
    cases h' with
    | skip => rfl
    | walk _ _ ts done' found' _ hnew _ _ => exact absurd hroot hnew
  | walk done found ts done' found' hnode hnew hts hmoves =>
    cases h' with
    | skip _ _ hroot => exact absurd hroot hnew
    | walk _ _ ts' done'' found'' _ _ hts' hmoves' =>
      obtain rfl := Option.some.inj (hts.symm.trans hts')
      exact end_unique (hsound.start hnode hnew hts) hmoves hmoves' rfl rfl

/-- **The search from given roots has one end.** -/
theorem Visits.unique {roots : List String} (hsound : Sound targets? nodes x) (h : Visits targets? nodes roots x y)
    (h' : Visits targets? nodes roots x z) : y = z := by
  induction h with
  | nil x =>
    cases h'
    rfl
  | cons root roots hfirst _ ih =>
    cases h' with
    | cons _ _ hfirst' hothers' =>
      obtain rfl := hfirst.unique hsound hfirst'
      exact ih (hfirst.sound hsound) hothers'

end Unique

end Search

namespace Imports

open Search

/-- **Relations of the same files and the same internal targets have the same cycles**, in the same order. -/
theorem cycles_congr {g g' : Imports} (hnodup : g.paths.Nodup) (hpaths : g.paths.Perm g'.paths)
    (hinternal : g.internal? = g'.internal?) : g.cycles = g'.cycles := by
  obtain ⟨s, done, hsearch, -, hvisits, -⟩ := search_visits hnodup
  obtain ⟨s', done', hsearch', -, hvisits', -⟩ := search_visits (hpaths.nodup_iff.mp hnodup)
  rw [← hinternal, ← Text.ascending_of_perm hpaths] at hvisits'
  have hend := hvisits.unique (sound_nil g.internal? g.paths) (hvisits'.mono hpaths.symm.subset)
  rw [cycles_eq hsearch, cycles_eq hsearch']
  exact congrArg Stage.found hend

end Imports
end RepoSurvey
