import Mathlib.Logic.Relation
import RepoSurvey.Proofs.Graph.Neighborhood

/-!
# Neighbourhoods and a queue

A neighbourhood can be searched for with a queue: a file is marked when it is queued, found when its turn comes, and
its neighbours are queued behind it unless it is as far away as the search goes.

* `QueueSearch.step?`: a step of such a search.
* `reaches_level`, `reaches_levels`: a level of the neighbourhood is worked off, and all of them.
* `neighborhood_isBreadthFirst`: a neighbourhood holds the files up to its depth, the nearest ones first, and is what
  the search finds.
-/

namespace RepoSurvey

/-- A search on its way: the files that have been met, those that wait with their distances, and those found. -/
structure QueueSearch (α : Type) where
  met : List String
  queue : List (String × Nat)
  found : List (FileNode α)

namespace QueueSearch

open DependencyGraph

variable {α : Type}

/-- A search that begins with a file. -/
def start (target : String) : QueueSearch α := ⟨[target], [(target, 0)], []⟩

/-- A name is marked and queued at a distance if it is that of a file that has not been met. -/
def meet (g : DependencyGraph α) (distance : Nat) (s : QueueSearch α) (name : String) : QueueSearch α :=
  if g.isFile name ∧ name ∉ s.met then
    { s with met := s.met ++ [name], queue := s.queue ++ [(name, distance)] }
  else s

/-- The first file of the queue is found, and its neighbours are met unless it is as far away as the search goes. There
is no step with an empty queue, nor for a name that is not that of a file. -/
def step? (g : DependencyGraph α) (depth : Nat) (s : QueueSearch α) : Option (QueueSearch α) :=
  match s.queue with
  | [] => none
  | (name, distance) :: rest => (g.node? name).map fun n =>
    let s := { s with queue := rest, found := s.found ++ [n] }
    if distance = depth then s else (n.imports ++ n.importedBy).foldl (meet g (distance + 1)) s

/-- A search gets from one state to another. -/
def Reaches (g : DependencyGraph α) (depth : Nat) : QueueSearch α → QueueSearch α → Prop :=
  Relation.ReflTransGen fun s s' => step? g depth s = some s'

/-! ### Names met one after the other -/

section Meeting

variable {g : DependencyGraph α} {seen : List String}

theorem unseen_cons_of_mem {name : String} (h : name ∈ seen) (rest : List String) :
    unseen seen (name :: rest) = unseen seen rest := by
  rw [unseen, List.filter_cons_of_neg (by simpa using h), unseen]

theorem unseen_cons_of_not_mem {name : String} (h : name ∉ seen) (rest : List String) :
    unseen seen (name :: rest) = name :: unseen (seen ++ [name]) rest := by
  rw [unseen, List.filter_cons_of_pos (by simpa using h), List.eraseDups_cons, List.filter_filter, unseen]
  congr 2
  refine List.filter_congr fun other _ => ?_
  simp [Bool.and_comm, beq_eq_decide]

/-- What comes later is unseen if it has not come up earlier. -/
theorem unseen_append (found later : List String) :
    unseen seen (found ++ later) = unseen seen found ++ unseen (seen ++ unseen seen found) later := by
  induction found generalizing seen with
  | nil => simp [unseen]
  | cons name rest ih =>
    by_cases h : name ∈ seen
    · rw [List.cons_append, unseen_cons_of_mem h, unseen_cons_of_mem h, ih]
    · rw [List.cons_append, unseen_cons_of_not_mem h, unseen_cons_of_not_mem h, ih, List.append_assoc,
        List.singleton_append, List.cons_append]

/-- Of several names, the files among them that have not been met are marked and queued, each once. -/
theorem foldl_meet (distance : Nat) (names : List String) (s : QueueSearch α) :
    names.foldl (meet g distance) s =
      { s with
        met := s.met ++ unseen s.met (names.filter g.isFile)
        queue := s.queue ++ (unseen s.met (names.filter g.isFile)).map (·, distance) } := by
  induction names generalizing s with
  | nil => simp [unseen]
  | cons name rest ih =>
    rw [List.foldl_cons, ih]
    by_cases hfile : g.isFile name = true
    · rw [List.filter_cons_of_pos hfile]
      by_cases hmet : name ∈ s.met
      · rw [meet, if_neg fun h => h.2 hmet, unseen_cons_of_mem hmet]
      · rw [meet, if_pos ⟨hfile, hmet⟩, unseen_cons_of_not_mem hmet]
        simp only [List.append_assoc, List.singleton_append, List.map_cons]
    · rw [List.filter_cons_of_neg hfile, meet, if_neg fun h => hfile h.1]

end Meeting

/-! ### One level after the other -/

section Levels

variable {g : DependencyGraph α} {depth distance : Nat} {met : List String} {level found : List (FileNode α)}

/-- Files wait for their turn at a distance. -/
def waiting (distance : Nat) (level : List (FileNode α)) : List (String × Nat) := level.map (·.path, distance)

/-- A level is worked off: its files are found, and their unseen neighbours wait behind the ones that are there. -/
theorem reaches_level (hknown : ∀ n ∈ level, g.node? n.path = some n) (hfar : distance ≠ depth)
    (behind : List String) :
    Reaches g depth ⟨met, waiting distance level ++ behind.map (·, distance + 1), found⟩
      ⟨met ++ unseen met (level.flatMap g.neighbours),
        (behind ++ unseen met (level.flatMap g.neighbours)).map (·, distance + 1), found ++ level⟩ := by
  induction level generalizing met found behind with
  | nil =>
    have hnone : unseen met (([] : List (FileNode α)).flatMap g.neighbours) = [] := rfl
    rw [hnone, List.append_nil, List.append_nil, List.append_nil]
    exact .refl
  | cons n rest ih =>
    have hstep : step? g depth ⟨met, waiting distance (n :: rest) ++ behind.map (·, distance + 1), found⟩ =
        some ⟨met ++ unseen met (g.neighbours n),
          waiting distance rest ++ (behind ++ unseen met (g.neighbours n)).map (·, distance + 1), found ++ [n]⟩ := by
      simp only [step?, waiting, List.map_cons, List.cons_append, hknown n List.mem_cons_self, Option.map_some,
        if_neg hfar, foldl_meet, neighbours, List.map_append, List.append_assoc]
    have hrest := @ih (met ++ unseen met (g.neighbours n)) (found ++ [n])
      (fun m hm => hknown m (List.mem_cons_of_mem n hm)) (behind ++ unseen met (g.neighbours n))
    rw [List.flatMap_cons, unseen_append]
    simp only [List.append_assoc, List.singleton_append] at hrest ⊢
    exact .head hstep hrest

/-- At the last distance nothing is queued any more. -/
theorem reaches_last (hknown : ∀ n ∈ level, g.node? n.path = some n) :
    Reaches g depth ⟨met, waiting depth level, found⟩ ⟨met, [], found ++ level⟩ := by
  induction level generalizing found with
  | nil =>
    rw [List.append_nil]
    exact .refl
  | cons n rest ih =>
    have hstep : step? g depth ⟨met, waiting depth (n :: rest), found⟩ =
        some ⟨met, waiting depth rest, found ++ [n]⟩ := by
      simp only [step?, waiting, List.map_cons, hknown n List.mem_cons_self, Option.map_some, if_pos]
    have hrest := @ih (found ++ [n]) fun m hm => hknown m (List.mem_cons_of_mem n hm)
    rw [List.append_assoc, List.singleton_append] at hrest
    exact .head hstep hrest

theorem known_filterMap (paths : List String) : ∀ n ∈ paths.filterMap g.node?, g.node? n.path = some n := by
  intro n hn
  obtain ⟨p, -, hp⟩ := List.mem_filterMap.mp hn
  have hpath : n.path = p := by simpa using List.find?_some hp
  rw [hpath, hp]

/-- Paths of files are those of their nodes. -/
theorem waiting_filterMap (paths : List String) (hfiles : ∀ p ∈ paths, g.isFile p = true) (distance : Nat) :
    waiting distance (paths.filterMap g.node?) = paths.map (·, distance) := by
  induction paths with
  | nil => rfl
  | cons p rest ih =>
    have hsome : (g.node? p).isSome = true := by
      rw [node?, List.find?_isSome]
      exact List.any_eq_true.mp (hfiles p List.mem_cons_self)
    obtain ⟨n, hn⟩ := Option.isSome_iff_exists.mp hsome
    have hpath : n.path = p := by simpa using List.find?_some hn
    rw [List.filterMap_cons_some hn, List.map_cons, ← ih fun q hq => hfiles q (List.mem_cons_of_mem p hq), waiting,
      List.map_cons, hpath]
    rfl

theorem isFile_of_mem_unseen {p : String} (hp : p ∈ unseen met (level.flatMap g.neighbours)) : g.isFile p = true := by
  obtain ⟨n, -, hn⟩ := List.mem_flatMap.mp (mem_unseen.mp hp).1
  exact (List.mem_filter.mp hn).2

/-- **A search works off the levels of a neighbourhood**, however many are left. -/
theorem reaches_levels (hknown : ∀ n ∈ level, g.node? n.path = some n) (left : Nat) (hdepth : distance + left = depth) :
    ∃ s, Reaches g depth ⟨met, waiting distance level, found⟩ s ∧ s.queue = [] ∧
      s.found = found ++ g.levels left met level := by
  induction left generalizing distance met level found with
  | zero =>
    obtain rfl : distance = depth := hdepth
    exact ⟨_, reaches_last hknown, rfl, rfl⟩
  | succ left ih =>
    have hlevel : Reaches g depth ⟨met, waiting distance level ++ ([] : List String).map (·, distance + 1), found⟩ _ :=
      reaches_level hknown (show distance ≠ depth by omega) []
    rw [List.map_nil, List.append_nil, List.nil_append,
      ← waiting_filterMap _ (fun p hp => isFile_of_mem_unseen hp)] at hlevel
    obtain ⟨s, hs, hqueue, hfound⟩ := ih (known_filterMap _) (show distance + 1 + left = depth by omega)
    refine ⟨s, hlevel.trans hs, hqueue, ?_⟩
    rw [hfound, levels_succ, List.append_assoc]

end Levels

end QueueSearch

namespace DependencyGraph

variable {α : Type}

/-! ### Neighbourhoods -/

section Neighborhood

/-- The neighbourhood of a file is a search breadth first. -/
structure IsBreadthFirst (g : DependencyGraph α) (target : String) (depth : ℕ) : Prop where
  /-- It holds the nodes at most `depth` imports away, whichever way these lead. -/
  mem : ∀ n, n ∈ g.neighborhood target depth ↔ n ∈ g.nodes ∧ g.distance target n.path ≤ depth
  distinct : ((g.neighborhood target depth).map (·.path)).Nodup
  first : (g.neighborhood target depth).head?.map (·.path) = some target
  /-- The nearer of two nodes comes first. -/
  order : (g.neighborhood target depth).Pairwise fun m n => g.distance target m.path ≤ g.distance target n.path
  /-- A deeper search begins with what this one finds. -/
  further : g.neighborhood target depth <+: g.neighborhood target (depth + 1 : ℕ)
  /-- The search with a queue comes to its end, with the same nodes in the same order. -/
  queue : ∃ s, QueueSearch.Reaches g depth (.start target) s ∧ s.queue = [] ∧
    s.found = g.neighborhood target depth

variable {g : DependencyGraph α}

theorem neighborhood_eq (hg : g.IsIndexed) {n : FileNode α} (hn : n ∈ g.nodes) (depth : ℕ) :
    g.neighborhood n.path depth = g.levels depth [n.path] [n] := by
  have hnode : g.node? n.path = some n := hg.node?_eq_some.mpr ⟨hn, rfl⟩
  rw [neighborhood, hnode]
  exact if_neg (by omega)

theorem isBreadthFirst_of_mem (hg : g.IsIndexed) {n : FileNode α} (hn : n ∈ g.nodes) (depth : ℕ) :
    g.IsBreadthFirst n.path depth := by
  have hband : IsBand g n.path 0 (0 + depth) (g.levels depth [n.path] [n]) :=
    isBand_levels hg depth (Frontier.start hg hn)
  rw [Nat.zero_add] at hband
  have hknown : ∀ m ∈ [n], g.node? m.path = some m := by
    intro m hm
    rw [List.mem_singleton.mp hm]
    exact hg.node?_eq_some.mpr ⟨hn, rfl⟩
  have hfirst : ∃ rest, g.levels depth [n.path] [n] = n :: rest := by
    cases depth with
    | zero => exact ⟨[], rfl⟩
    | succ depth => exact ⟨_, levels_succ g depth _ _⟩
  constructor
  · intro m
    rw [neighborhood_eq hg hn, hband.mem]
    simp
  · rw [neighborhood_eq hg hn]
    exact hband.distinct
  · obtain ⟨rest, hrest⟩ := hfirst
    rw [neighborhood_eq hg hn, hrest]
    rfl
  · rw [neighborhood_eq hg hn]
    exact hband.order
  · rw [neighborhood_eq hg hn, neighborhood_eq hg hn]
    exact levels_prefix g depth _ _
  · rw [neighborhood_eq hg hn]
    rw [← List.nil_append (g.levels _ _ _)]
    exact QueueSearch.reaches_levels hknown depth (Nat.zero_add depth)

variable [Scalar α] (formula : CouplingFormula) (files : List SourceFile)

/-- **A neighbourhood is a search breadth first** in the graph of imports without their directions. -/
theorem neighborhood_isBreadthFirst {target : String}
    (h : target ∈ (ofFiles formula files : DependencyGraph α).paths) (depth : ℕ) :
    (ofFiles formula files : DependencyGraph α).IsBreadthFirst target depth := by
  obtain ⟨n, hn, rfl⟩ := List.mem_map.mp h
  exact isBreadthFirst_of_mem (isIndexed_ofFiles formula files) hn depth

end Neighborhood

/-- In a ring of four files with a fifth that imports two of them, everything lies within two imports of the first. -/
theorem neighborhood_isBreadthFirst_of_ring :
    let g : DependencyGraph Float := ofFiles .fanInRelative [⟨"a.ts", ["b.ts", "react"], none, 0, 0, 0, 0⟩,
      ⟨"b.ts", ["c.ts"], none, 0, 0, 0, 0⟩, ⟨"c.ts", ["d.ts"], none, 0, 0, 0, 0⟩,
      ⟨"d.ts", ["a.ts"], none, 0, 0, 0, 0⟩, ⟨"e.ts", ["b.ts", "d.ts"], none, 0, 0, 0, 0⟩]
    "a.ts" ∈ g.paths ∧ g.IsBreadthFirst "a.ts" 2 ∧
      (g.neighborhood "a.ts" 2).map (·.path) = ["a.ts", "b.ts", "d.ts", "c.ts", "e.ts"] := by
  intro g
  have htarget : "a.ts" ∈ g.paths := by decide
  exact ⟨htarget, neighborhood_isBreadthFirst .fanInRelative _ htarget 2, by decide⟩

end DependencyGraph
end RepoSurvey
