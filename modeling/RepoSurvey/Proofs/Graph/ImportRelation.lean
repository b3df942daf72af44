import RepoSurvey.Proofs.Graph.Assembly

/-!
# The graph is the import relation

* `DependencyGraph.IsRelationOf g files`: the nodes, forward and backward edges and outside imports of a graph are those
  of the first file of each path.
* `ofFiles_isRelationOf`: the graph of some files is one.
* `mem_internalEdges_ofFiles`: the edges inside the graph, read off the files.
-/

namespace RepoSurvey
namespace DependencyGraph

open Assembly

variable {α : Type}

/-- The imports that lead outside, as pairs of a file and its target. -/
def externalEdges (g : DependencyGraph α) : List (String × String) :=
  g.external.flatMap fun e => e.2.map (e.1, ·)

/-- A graph holds exactly the imports of some files; of several files with one path the first counts. -/
structure IsRelationOf (g : DependencyGraph α) (files : List SourceFile) : Prop where
  /-- The nodes are the distinct paths in order of first appearance. -/
  paths : g.paths = (files.map (·.path)).eraseDups
  /-- A node imports what its first file imports, in order of first appearance and itself excluded. -/
  imports : ∀ n ∈ g.nodes, ∃ f, files.find? (·.path == n.path) = some f ∧
    n.imports = (f.imports.filter (· ≠ n.path)).eraseDups
  edges : g.edges = g.nodes.flatMap fun n => n.imports.map (n.path, ·)
  importedBy_count : ∀ m ∈ g.nodes, ∀ n ∈ g.nodes,
    n.importedBy.count m.path = if n.path ∈ m.imports then 1 else 0
  /-- The importers of a node are nodes, in the order of the nodes. -/
  importedBy_order : ∀ n ∈ g.nodes, n.importedBy.Sublist g.paths
  mem_external : ∀ p outside, (p, outside) ∈ g.external ↔
    ∃ n ∈ g.nodes, n.path = p ∧ outside = (n.imports.filter fun t => t ∉ g.paths) ∧ outside ≠ []
  /-- A path is a key of the outside imports at most once. -/
  external_order : (g.external.map (·.1)).Sublist g.paths
  edges_perm : g.edges.Perm (g.internalEdges ++ g.externalEdges)
  edges_disjoint : g.internalEdges.Disjoint g.externalEdges
  edges_nodup : g.edges.Nodup

/-! ### The imports of a path -/

section ImportsOf

variable (files : List SourceFile)

/-- The distinct paths of some files. -/
def pathsOf (files : List SourceFile) : List String := (files.map (·.path)).eraseDups

theorem nodup_pathsOf : (pathsOf files).Nodup := nodup_eraseDups _

theorem mem_pathsOf {p : String} : p ∈ pathsOf files ↔ ∃ f ∈ files, f.path = p := by
  rw [pathsOf, List.mem_eraseDups, List.mem_map]

theorem exists_importsOf {p : String} (hp : p ∈ pathsOf files) :
    ∃ f, files.find? (·.path == p) = some f ∧ importsOf files p = distinctTargets p f.imports := by
  obtain ⟨e, he, hep⟩ := (mem_pathsOf files).mp hp
  have hsome : (files.find? (·.path == p)).isSome = true :=
    List.find?_isSome.mpr ⟨e, he, by rw [hep, beq_self_eq_true]⟩
  obtain ⟨f, hf⟩ := Option.isSome_iff_exists.mp hsome
  exact ⟨f, hf, by rw [importsOf, hf, Option.map_some, Option.getD_some]⟩

theorem nodup_importsOf (p : String) : (importsOf files p).Nodup := by
  rw [importsOf]
  cases files.find? (·.path == p) with
  | none => exact List.nodup_nil
  | some f => exact nodup_eraseDups _

/-- No path imports itself. -/
theorem ne_of_mem_importsOf {p t : String} (ht : t ∈ importsOf files p) : t ≠ p := by
  rw [importsOf] at ht
  cases hf : files.find? (·.path == p) with
  | none =>
    rw [hf] at ht
    exact absurd ht List.not_mem_nil
  | some f =>
    rw [hf, Option.map_some, Option.getD_some, distinctTargets, List.mem_eraseDups, List.mem_filter] at ht
    exact of_decide_eq_true ht.2

theorem entries_ofFiles : Imports.ofFiles files = (ofRelation (pathsOf files) (importsOf files)).entries := by
  rw [Imports.ofFiles, ofFiles_eq_ofRelation, pathsOf]

theorem paths_entries : (Imports.ofFiles files).paths = pathsOf files := by
  rw [entries_ofFiles, paths_ofRelation]

theorem internal?_entries {p : String} (hp : p ∈ pathsOf files) :
    (Imports.ofFiles files).internal? p = some ((importsOf files p).filter fun t => t ∈ pathsOf files) := by
  rw [entries_ofFiles, Imports.internal?, entry?_ofRelation hp, Option.map_some]
  exact congrArg some (List.filter_congr fun t _ => isFile_ofRelation)

theorem internal?_entries_none {p : String} (hp : p ∉ pathsOf files) : (Imports.ofFiles files).internal? p = none := by
  rw [entries_ofFiles, Imports.internal?, entry?_ofRelation_none hp, Option.map_none]

end ImportsOf

/-! ### The graph of some files -/

section OfFiles

variable [Scalar α] (formula : CouplingFormula) (files : List SourceFile)

theorem nodes_ofFiles : ((ofFiles formula files : DependencyGraph α)).nodes = (pathsOf files).map fun p =>
    ⟨p, importsOf files p, (pathsOf files).filter fun q => p ∈ importsOf files q,
      (ofRelation (pathsOf files) (importsOf files)).entries.couplingScore formula
        ⟨p, importsOf files p, (pathsOf files).filter fun q => p ∈ importsOf files q⟩⟩ := by
  simp only [ofFiles, ofFiles_eq_ofRelation]
  rw [ofRelation, List.map_map]
  rfl

theorem paths_ofFiles : (ofFiles formula files : DependencyGraph α).paths = pathsOf files := by
  rw [paths, nodes_ofFiles, List.map_map]
  simp [Function.comp_def]

theorem nodup_paths_ofFiles : (ofFiles formula files : DependencyGraph α).paths.Nodup := by
  rw [paths_ofFiles]
  exact nodup_pathsOf files

theorem isFile_ofFiles (p : String) :
    (ofFiles formula files : DependencyGraph α).isFile p = decide (p ∈ pathsOf files) := by
  rw [Bool.eq_iff_iff, isFile, nodes_ofFiles]
  simp

theorem edges_ofFiles : (ofFiles formula files : DependencyGraph α).edges =
    (pathsOf files).flatMap fun p => (importsOf files p).map (p, ·) := by
  simp only [ofFiles, ofFiles_eq_ofRelation]
  rfl

theorem external_ofFiles : (ofFiles formula files : DependencyGraph α).external =
    (pathsOf files).filterMap (outside? (pathsOf files) (importsOf files)) := by
  simp only [ofFiles, ofFiles_eq_ofRelation]
  rfl

theorem mem_edges_ofFiles {p t : String} :
    (p, t) ∈ (ofFiles formula files : DependencyGraph α).edges ↔ p ∈ pathsOf files ∧ t ∈ importsOf files p := by
  rw [edges_ofFiles]
  simp

theorem mem_internalEdges_ofFiles {p t : String} :
    (p, t) ∈ (ofFiles formula files : DependencyGraph α).internalEdges ↔
      p ∈ pathsOf files ∧ t ∈ importsOf files p ∧ t ∈ pathsOf files := by
  rw [internalEdges, List.mem_filter, mem_edges_ofFiles, isFile_ofFiles, decide_eq_true_eq, and_assoc]

theorem nodup_edges_ofFiles : (ofFiles formula files : DependencyGraph α).edges.Nodup := by
  rw [edges_ofFiles, List.nodup_flatMap]
  refine ⟨fun p _ => (nodup_importsOf files p).map fun t u htu => (Prod.mk.inj htu).2, ?_⟩
  refine (nodup_pathsOf files).imp fun {p q} hpq e hp hq => hpq ?_
  obtain ⟨t, -, rfl⟩ := List.mem_map.mp hp
  obtain ⟨u, -, hu⟩ := List.mem_map.mp hq
  exact (Prod.mk.inj hu).1.symm

theorem mem_external_ofFiles {p : String} {outside : List String} :
    (p, outside) ∈ (ofFiles formula files : DependencyGraph α).external ↔
      p ∈ pathsOf files ∧ outside = (importsOf files p).filter (fun t => t ∉ pathsOf files) ∧ outside ≠ [] := by
  rw [external_ofFiles, List.mem_filterMap]
  constructor
  · rintro ⟨q, hq, hqe⟩
    rw [outside?] at hqe
    split_ifs at hqe with hempty
    obtain ⟨rfl, rfl⟩ := Prod.mk.inj (Option.some.inj hqe)
    exact ⟨hq, rfl, hempty⟩
  · rintro ⟨hp, rfl, hne⟩
    exact ⟨p, hp, by rw [outside?, if_neg hne]⟩

/-- The table of outside imports, written out as edges, leaves nothing out. -/
theorem flatMap_outside? (paths : List String) (imports : String → List String) (l : List String) :
    ((l.filterMap (outside? paths imports)).flatMap fun e => e.2.map (e.1, ·)) =
      l.flatMap fun p => ((imports p).filter fun t => t ∉ paths).map (p, ·) := by
  induction l with
  | nil => rfl
  | cons p rest ih =>
    rw [List.filterMap_cons, List.flatMap_cons, ← ih, outside?]
    by_cases hempty : ((imports p).filter fun t => t ∉ paths) = []
    · rw [if_pos hempty, hempty, List.map_nil, List.nil_append]
    · rw [if_neg hempty, List.flatMap_cons]

theorem keys_outside? (paths : List String) (imports : String → List String) (l : List String) :
    ((l.filterMap (outside? paths imports)).map (·.1)).Sublist l := by
  induction l with
  | nil => exact List.Sublist.slnil
  | cons p rest ih =>
    rw [List.filterMap_cons, outside?]
    by_cases hempty : ((imports p).filter fun t => t ∉ paths) = []
    · rw [if_pos hempty]
      exact ih.cons p
    · rw [if_neg hempty, List.map_cons]
      exact ih.cons_cons p

theorem nodup_external_ofFiles : ((ofFiles formula files : DependencyGraph α).external.map (·.1)).Nodup := by
  rw [external_ofFiles]
  exact (nodup_pathsOf files).sublist (keys_outside? _ _ _)

theorem externalEdges_ofFiles : (ofFiles formula files : DependencyGraph α).externalEdges =
    (ofFiles formula files : DependencyGraph α).edges.filter
      fun e => !(ofFiles formula files : DependencyGraph α).isFile e.2 := by
  rw [externalEdges, external_ofFiles, edges_ofFiles, flatMap_outside?, List.filter_flatMap]
  refine List.flatMap_congr fun p _ => ?_
  rw [List.filter_map]
  congr 1
  refine List.filter_congr fun t _ => ?_
  rw [Function.comp_apply, isFile_ofFiles, decide_not]

/-- **The graph of some files is their import relation.** -/
theorem ofFiles_isRelationOf : (ofFiles formula files : DependencyGraph α).IsRelationOf files where
  paths := paths_ofFiles formula files
  imports := by
    intro n hn
    rw [nodes_ofFiles] at hn
    obtain ⟨p, hp, rfl⟩ := List.mem_map.mp hn
    exact exists_importsOf files hp
  edges := by
    rw [edges_ofFiles, nodes_ofFiles, List.flatMap_map]
  importedBy_count := by
    intro m hm n hn
    rw [nodes_ofFiles] at hm hn
    obtain ⟨p, hp, rfl⟩ := List.mem_map.mp hm
    obtain ⟨q, hq, rfl⟩ := List.mem_map.mp hn
    rw [((nodup_pathsOf files).filter _).count]
    simp [hp]
  importedBy_order := by
    intro n hn
    rw [nodes_ofFiles] at hn
    obtain ⟨p, hp, rfl⟩ := List.mem_map.mp hn
    rw [paths_ofFiles]
    exact List.filter_sublist
  mem_external := by
    intro p outside
    rw [mem_external_ofFiles, nodes_ofFiles, paths_ofFiles]
    constructor
    · rintro ⟨hp, hout, hne⟩
      exact ⟨_, List.mem_map.mpr ⟨p, hp, rfl⟩, rfl, hout, hne⟩
    · rintro ⟨n, hn, rfl, hout, hne⟩
      obtain ⟨q, hq, rfl⟩ := List.mem_map.mp hn
      exact ⟨hq, hout, hne⟩
  external_order := by
    rw [external_ofFiles, paths_ofFiles]
    exact keys_outside? _ _ _
  edges_perm := by
    rw [externalEdges_ofFiles, internalEdges]
    exact (List.filter_append_perm _ _).symm
  edges_disjoint := by
    intro e hin hout
    rw [internalEdges, List.mem_filter] at hin
    rw [externalEdges_ofFiles, List.mem_filter, hin.2] at hout
    exact absurd hout.2 (by decide)
  edges_nodup := nodup_edges_ofFiles formula files

end OfFiles

end DependencyGraph
end RepoSurvey
