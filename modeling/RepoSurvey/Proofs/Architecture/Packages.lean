import Mathlib.Data.List.Forall2
import RepoSurvey.Proofs.Architecture.Inside
import RepoSurvey.Velocity.Impact

/-!
# Imports of packages do not count

What a repository imports from outside is listed with its edges and outside imports, and influences nothing else.

* `inside g`: the graph without what lies outside.
* `neighborhood_inside`, `coreModules_inside`: neighbourhoods and core modules can be read off it.
* `SourceFile.SameInside`: two files that differ in imports from outside at most, and
  `inside_ofFiles_congr`: lists of such files have the same graph inside.
* `measuresAgree_of_sameInside`: every measure and every report of the two graphs is the same.
-/

namespace RepoSurvey

/-- A node whose imports are cut down to files. -/
def FileNode.within {α : Type} (isFile : String → Bool) (n : FileNode α) : FileNode α :=
  { n with imports := n.imports.filter isFile }

/-- Two files differ in imports from outside some paths at most, as far as a graph takes notice of them. -/
structure SourceFile.SameInside (paths : List String) (f f' : SourceFile) : Prop where
  path : f.path = f'.path
  imports : f.imports.filter (· ∈ paths) = f'.imports.filter (· ∈ paths)
  abstractTypes : f.abstractTypes = f'.abstractTypes
  concreteTypes : f.concreteTypes = f'.concreteTypes

namespace DependencyGraph

open Assembly

variable {α : Type}

/-! ### The graph without what lies outside -/

section Inside

/-- The graph without what lies outside. -/
def inside (g : DependencyGraph α) : DependencyGraph α :=
  { g with nodes := g.nodes.map (·.within g.isFile), edges := g.internalEdges, external := [] }

variable (g : DependencyGraph α)

theorem isFile_inside : g.inside.isFile = g.isFile := by
  funext p
  rw [isFile, isFile, inside, List.any_map]
  rfl

theorem node?_inside (p : String) : g.inside.node? p = (g.node? p).map (·.within g.isFile) := by
  rw [node?, inside, List.find?_map]
  rfl

theorem neighbours_within (n : FileNode α) : g.inside.neighbours (n.within g.isFile) = g.neighbours n := by
  have himports : (n.within g.isFile).imports.filter g.isFile = n.imports.filter g.isFile := by
    rw [FileNode.within, List.filter_filter]
    simp only [Bool.and_self]
  rw [neighbours, neighbours, isFile_inside, List.filter_append, List.filter_append, himports]
  rfl

/-- The levels of a neighbourhood hold the same files. -/
theorem levels_inside (depth : Nat) (seen : List String) (level : List (FileNode α)) :
    g.inside.levels depth seen (level.map (·.within g.isFile)) =
      (g.levels depth seen level).map (·.within g.isFile) := by
  induction depth generalizing seen level with
  | zero => rfl
  | succ depth ih =>
    have hfound : (level.map (·.within g.isFile)).flatMap g.inside.neighbours = level.flatMap g.neighbours := by
      rw [List.flatMap_map]
      exact List.flatMap_congr fun n _ => neighbours_within g n
    have hnext : ∀ next : List String, next.filterMap g.inside.node? =
        (next.filterMap g.node?).map (·.within g.isFile) := by
      intro next
      rw [List.map_filterMap]
      exact List.filterMap_congr fun p _ => node?_inside g p
    rw [levels, levels, List.isEmpty_map, hfound]
    by_cases hlevel : level.isEmpty = true
    · rw [if_pos hlevel, if_pos hlevel, List.map_nil]
    · rw [if_neg hlevel, if_neg hlevel]
      simp only [hnext, ih, List.map_append]

/-- **A neighbourhood is one of the graph inside.** -/
theorem neighborhood_inside (target : String) (depth : Int) :
    g.inside.neighborhood target depth = (g.neighborhood target depth).map (·.within g.isFile) := by
  rw [neighborhood, neighborhood, node?_inside]
  cases g.node? target with
  | none => rfl
  | some n =>
    simp only [Option.map_some]
    split_ifs
    · rfl
    · exact levels_inside g depth.toNat [target] [n]

theorem paths_neighborhood_inside (target : String) (depth : Int) :
    (g.inside.neighborhood target depth).map (·.path) = (g.neighborhood target depth).map (·.path) := by
  rw [neighborhood_inside, List.map_map]
  rfl

theorem coreModules_inside [Scalar α] (scoring : ScoringConfig Int α) :
    ImpactScore.coreModules (some g.inside) scoring = ImpactScore.coreModules (some g) scoring := by
  simp only [ImpactScore.coreModules, Option.map_some, Option.getD_some, inside, List.filter_map, List.map_map]
  rfl

end Inside

/-! ### Files that differ in imports from outside -/

section SameInside

variable {files files' : List SourceFile} {paths : List String}

open SourceFile (SameInside)

theorem paths_of_sameInside (h : List.Forall₂ (SameInside paths) files files') :
    files.map (·.path) = files'.map (·.path) := by
  induction h with
  | nil => rfl
  | cons hf _ ih => rw [List.map_cons, List.map_cons, hf.path, ih]

theorem pathsOf_of_sameInside (h : List.Forall₂ (SameInside paths) files files') : pathsOf files = pathsOf files' := by
  rw [pathsOf, pathsOf, paths_of_sameInside h]

/-- The first files of a path differ in imports from outside at most. -/
theorem find?_of_sameInside (h : List.Forall₂ (SameInside paths) files files') (p : String) :
    Option.Rel (SameInside paths) (files.find? (·.path == p)) (files'.find? (·.path == p)) := by
  induction h with
  | nil => exact .none
  | @cons f f' rest rest' hf _ ih =>
    by_cases hp : f.path = p
    · rw [List.find?_cons_of_pos (by simpa using hp), List.find?_cons_of_pos (by simpa [hf.path] using hp)]
      exact .some hf
    · rw [List.find?_cons_of_neg (by simpa using hp), List.find?_cons_of_neg (by simpa [hf.path] using hp)]
      exact ih

theorem filter_distinctTargets (keep : String → Bool) (p : String) (imports : List String) :
    (distinctTargets p imports).filter keep = distinctTargets p (imports.filter keep) := by
  rw [distinctTargets, distinctTargets, filter_eraseDups, List.filter_filter, List.filter_filter]
  simp only [Bool.and_comm]

theorem agreeInside_of_sameInside (h : List.Forall₂ (SameInside (files.map (·.path))) files files') :
    AgreeInside files files' where
  paths := by rw [pathsOf_of_sameInside h]
  inside := by
    intro p _
    have hmem : ∀ t, decide (t ∈ pathsOf files) = decide (t ∈ files.map (·.path)) := fun t =>
      decide_eq_decide.mpr List.mem_eraseDups
    rw [insideOf, insideOf, ← pathsOf_of_sameInside h, importsOf, importsOf]
    simp only [hmem]
    have hfind := find?_of_sameInside h p
    generalize files.find? (·.path == p) = found at hfind ⊢
    generalize files'.find? (·.path == p) = found' at hfind ⊢
    cases hfind with
    | none => rfl
    | some hf =>
      simp only [Option.map_some, Option.getD_some, filter_distinctTargets]
      rw [hf.imports]

theorem firstOfEach_of_sameInside (h : List.Forall₂ (SameInside paths) files files') :
    List.Forall₂ (SameInside paths) (Imports.firstOfEach files) (Imports.firstOfEach files') := by
  induction h with
  | nil => exact .nil
  | cons hf _ ih =>
    refine .cons hf (List.rel_filter ?_ ih)
    intro e e' he
    show (e.path != _) = true ↔ (e'.path != _) = true
    rw [hf.path, he.path]

variable [Scalar α]

theorem metrics_of_sameInside (h : List.Forall₂ (SameInside (files.map (·.path))) files files') :
    (ofFiles .fanInRelative files : DependencyGraph α).metrics =
      (ofFiles .fanInRelative files' : DependencyGraph α).metrics := by
  have hagree := agreeInside_of_sameInside h
  have hfiles : ∀ f ∈ Imports.firstOfEach files, f.path ∈ pathsOf files := by
    intro f hf
    rw [pathsOf, ← Imports.paths_firstOfEach]
    exact List.mem_map_of_mem hf
  show (Imports.firstOfEach files).map (fun f => (f.path, (Imports.ofFiles files).metrics f)) =
    (Imports.firstOfEach files').map fun f => (f.path, (Imports.ofFiles files').metrics f)
  have hfirst := firstOfEach_of_sameInside h
  generalize Imports.firstOfEach files = first at hfiles hfirst
  generalize Imports.firstOfEach files' = first' at hfirst
  induction hfirst with
  | nil => rfl
  | cons hf _ ih =>
    have hmem := hfiles _ List.mem_cons_self
    rw [List.map_cons, List.map_cons, ih fun f hf => hfiles f (List.mem_cons_of_mem _ hf),
      hagree.metrics hmem hf.path hf.abstractTypes hf.concreteTypes, hf.path]

/-- The node of a path, cut down to files, is the same. -/
theorem within_nodeOf_congr (h : List.Forall₂ (SameInside (files.map (·.path))) files files') {p : String}
    (hp : p ∈ pathsOf files) :
    (nodeOf files .fanInRelative p : FileNode α).within (fun t => decide (t ∈ pathsOf files)) =
      (nodeOf files' .fanInRelative p).within fun t => decide (t ∈ pathsOf files) := by
  have hagree := agreeInside_of_sameInside h
  have himports := hagree.inside p hp
  have himporters : importersOf files p = importersOf files' p := by
    rw [importersOf, importersOf, ← pathsOf_of_sameInside h]
    exact List.filter_congr fun q hq => decide_eq_decide.mpr (hagree.mem_imports hq hp)
  rw [insideOf, insideOf, ← pathsOf_of_sameInside h] at himports
  show FileNode.mk p _ _ _ = FileNode.mk p _ _ _
  rw [FileNode.mk.injEq]
  exact ⟨rfl, himports, himporters, hagree.coupling_fanInRelative hp⟩

/-- **Files that differ in imports from outside have the same graph inside.** -/
theorem inside_ofFiles_congr (h : List.Forall₂ (SameInside (files.map (·.path))) files files') :
    (ofFiles .fanInRelative files : DependencyGraph α).inside =
      (ofFiles .fanInRelative files' : DependencyGraph α).inside := by
  have hagree := agreeInside_of_sameInside h
  have hpaths := pathsOf_of_sameInside h
  have hmetrics := metrics_of_sameInside (α := α) h
  have hnodes : (ofFiles .fanInRelative files : DependencyGraph α).inside.nodes =
      (ofFiles .fanInRelative files' : DependencyGraph α).inside.nodes := by
    rw [inside, inside, nodes_eq_nodeOf, nodes_eq_nodeOf, isFile_ofFiles_eq, isFile_ofFiles_eq, List.map_map,
      List.map_map, ← hpaths]
    exact List.map_congr_left fun p hp => within_nodeOf_congr h hp
  have hedges : (ofFiles .fanInRelative files : DependencyGraph α).internalEdges =
      (ofFiles .fanInRelative files' : DependencyGraph α).internalEdges := by
    rw [internalEdges_ofFiles, internalEdges_ofFiles, ← hpaths]
    exact List.flatMap_congr fun p hp => by rw [hagree.inside p hp]
  have hscores : (ofFiles .fanInRelative files : DependencyGraph α).nodes.map (·.coupling) =
      (ofFiles .fanInRelative files' : DependencyGraph α).nodes.map (·.coupling) := by
    rw [nodes_eq_nodeOf, nodes_eq_nodeOf, List.map_map, List.map_map, ← hpaths]
    exact List.map_congr_left fun p hp => hagree.coupling_fanInRelative hp
  have haverage : ∀ measure : CouplingMetrics α → α,
      (ofFiles .fanInRelative files : DependencyGraph α).metrics.map (fun e => measure e.2) =
        (ofFiles .fanInRelative files' : DependencyGraph α).metrics.map fun e => measure e.2 := by
    intro measure
    rw [hmetrics]
  rw [inside, inside, DependencyGraph.mk.injEq]
  exact ⟨hnodes, hedges, rfl, hagree.cycles, hmetrics, congrArg meanOr0 hscores,
    congrArg (fun l => Scalar.roundPlaces 3 (meanOr0 l)) (haverage (·.instability)),
    congrArg (fun l => Scalar.roundPlaces 3 (meanOr0 l)) (haverage (·.distance))⟩

/-! ### What is measured and reported -/

/-- Two graphs agree in everything that is measured or reported inside. -/
structure MeasuresAgree (g g' : DependencyGraph α) : Prop where
  internalEdges : g.internalEdges = g'.internalEdges
  importedBy : g.nodes.map (fun n => (n.path, n.importedBy)) = g'.nodes.map fun n => (n.path, n.importedBy)
  cycles : g.cycles = g'.cycles
  coupling : g.nodes.map (fun n => (n.path, n.coupling)) = g'.nodes.map fun n => (n.path, n.coupling)
  metrics : g.metrics = g'.metrics
  averageCoupling : g.averageCoupling = g'.averageCoupling
  averageInstability : g.averageInstability = g'.averageInstability
  averageDistance : g.averageDistance = g'.averageDistance
  neighborhood : ∀ target depth,
    (g.neighborhood target depth).map (·.path) = (g'.neighborhood target depth).map (·.path)
  coreModules : ∀ scoring, ImpactScore.coreModules (some g) scoring = ImpactScore.coreModules (some g') scoring
  violations : ∀ layers, Violation.inGraph g layers = Violation.inGraph g' layers

/-- **Imports of packages do not count**: where two lists of files differ in imports from outside only, all that is
measured and reported is the same. -/
theorem measuresAgree_of_sameInside (h : List.Forall₂ (SameInside (files.map (·.path))) files files') :
    MeasuresAgree (ofFiles .fanInRelative files : DependencyGraph α)
      (ofFiles .fanInRelative files' : DependencyGraph α) := by
  have hinside := inside_ofFiles_congr (α := α) h
  have hnode : ∀ {β : Type} (view : FileNode α → β), (∀ isFile n, view (n.within isFile) = view n) →
      (ofFiles .fanInRelative files : DependencyGraph α).nodes.map view =
        (ofFiles .fanInRelative files' : DependencyGraph α).nodes.map view := by
    intro β view hview
    have hmap := congrArg (fun g : DependencyGraph α => g.nodes.map view) hinside
    simpa only [inside, List.map_map, Function.comp_def, hview] using hmap
  refine ⟨congrArg (·.edges) hinside, hnode _ fun _ _ => rfl, congrArg (·.cycles) hinside, hnode _ fun _ _ => rfl,
    congrArg (·.metrics) hinside, congrArg (·.averageCoupling) hinside, congrArg (·.averageInstability) hinside,
    congrArg (·.averageDistance) hinside, fun target depth => ?_, fun scoring => ?_, fun layers => ?_⟩
  · rw [← paths_neighborhood_inside, hinside, paths_neighborhood_inside]
  · rw [← coreModules_inside, hinside, coreModules_inside]
  · exact (agreeInside_of_sameInside h).violations .fanInRelative .fanInRelative layers

end SameInside

/-- A ring of two files with and without the packages that they import; the path of the first one comes up again. -/
theorem measuresAgree_without_packages :
    let files : List SourceFile := [⟨"ui/a.ts", ["react", "core/b.ts", "lodash"], none, 0, 0, 1, 1⟩,
      ⟨"core/b.ts", ["zod", "ui/a.ts"], none, 0, 0, 0, 2⟩, ⟨"ui/a.ts", ["vue"], none, 0, 0, 0, 0⟩]
    let files' : List SourceFile := [⟨"ui/a.ts", ["core/b.ts"], none, 0, 0, 1, 1⟩,
      ⟨"core/b.ts", ["ui/a.ts"], none, 0, 0, 0, 2⟩, ⟨"ui/a.ts", [], none, 0, 0, 0, 0⟩]
    List.Forall₂ (SourceFile.SameInside (files.map (·.path))) files files' ∧
      MeasuresAgree (ofFiles .fanInRelative files : DependencyGraph Float)
        (ofFiles .fanInRelative files' : DependencyGraph Float) := by
  intro files files'
  have hsame : List.Forall₂ (SourceFile.SameInside (files.map (·.path))) files files' :=
    .cons ⟨rfl, by decide, rfl, rfl⟩ (.cons ⟨rfl, by decide, rfl, rfl⟩ (.cons ⟨rfl, by decide, rfl, rfl⟩ .nil))
  exact ⟨hsame, measuresAgree_of_sameInside hsame⟩

end DependencyGraph
end RepoSurvey
