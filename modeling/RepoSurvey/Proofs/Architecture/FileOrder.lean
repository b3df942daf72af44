import RepoSurvey.Proofs.Architecture.Inside

/-!
# The order of the files

Files of distinct paths can be handed over in any order. The nodes, the edges and the importers of a node change their
places with it, and nothing that is measured or reported does.

* `IsReorderingOf g g'`: the graphs differ in the order of nodes, edges and importers at most.
* `ofFiles_isReordering`: the graphs of some files in two orders do.
-/

namespace RepoSurvey
namespace DependencyGraph

open Assembly

variable {α : Type}

/-- Two graphs differ in the order of their nodes, edges and importers at most. -/
structure IsReorderingOf (g g' : DependencyGraph α) : Prop where
  paths : g.paths.Perm g'.paths
  /-- The same cycles in the same order, each with the same file first. -/
  cycles : g.cycles = g'.cycles
  imports : ∀ p, (g.node? p).map (·.imports) = (g'.node? p).map (·.imports)
  external : ∀ p, Table.get? g.external p = Table.get? g'.external p
  coupling : ∀ p, (g.node? p).map (·.coupling) = (g'.node? p).map (·.coupling)
  metrics : ∀ p, Table.get? g.metrics p = Table.get? g'.metrics p
  importedBy : ∀ p n n', g.node? p = some n → g'.node? p = some n' → n.importedBy.Perm n'.importedBy
  edges : g.edges.Perm g'.edges
  /-- The same violations in the same order, whatever the layers. -/
  violations : ∀ layers, Violation.inGraph g layers = Violation.inGraph g' layers

/-! ### Looking up a path -/

section LookUp

variable (files : List SourceFile) [Scalar α] (formula : CouplingFormula)

/-- The measures of a path are those of its first file. -/
theorem get?_metrics_ofFiles (p : String) : Table.get? (ofFiles formula files : DependencyGraph α).metrics p =
    (files.find? (·.path == p)).map (Imports.ofFiles files).metrics := by
  rw [← Imports.find?_firstOfEach, Table.get?]
  show (((Imports.firstOfEach files).map _).find? _).map _ = _
  rw [List.find?_map, Option.map_map]
  rfl

end LookUp

/-! ### Another order of the files -/

section Reordered

variable {files files' : List SourceFile}

variable (hdistinct : (files.map (·.path)).Nodup) (hperm : files.Perm files')

include hdistinct hperm

theorem find?_path_of_perm (p : String) : files.find? (·.path == p) = files'.find? (·.path == p) :=
  find?_key_of_perm hdistinct hperm

theorem importsOf_of_perm : importsOf files = importsOf files' := by
  funext p
  rw [importsOf, importsOf, find?_path_of_perm hdistinct hperm]

theorem pathsOf_of_perm : (pathsOf files).Perm (pathsOf files') := by
  rw [pathsOf, pathsOf, eraseDups_of_nodup hdistinct, eraseDups_of_nodup ((hperm.map _).nodup_iff.mp hdistinct)]
  exact hperm.map _

theorem agreeInside_of_perm : AgreeInside files files' where
  paths := pathsOf_of_perm hdistinct hperm
  inside := by
    intro p _
    rw [insideOf, insideOf, importsOf_of_perm hdistinct hperm]
    exact List.filter_congr fun t _ => decide_eq_decide.mpr (pathsOf_of_perm hdistinct hperm).mem_iff

/-- **The order of the files does not matter**: the graphs of some files in two orders differ in the order of nodes,
edges and importers at most. -/
theorem ofFiles_isReordering [Scalar α] (formula : CouplingFormula) :
    IsReorderingOf (ofFiles formula files : DependencyGraph α) (ofFiles formula files' : DependencyGraph α) := by
  have hagree := agreeInside_of_perm hdistinct hperm
  have himports := importsOf_of_perm hdistinct hperm
  refine ⟨?_, hagree.cycles, ?_, fun p => ?_, ?_, fun p => ?_, ?_, ?_, ?_⟩
  · rw [paths_ofFiles, paths_ofFiles]
    exact hagree.paths
  · exact hagree.map_node? formula fun p _ => congrFun himports p
  · refine Option.ext fun outside => ?_
    rw [Table.get?_eq_some (nodup_external_ofFiles formula files),
      Table.get?_eq_some (nodup_external_ofFiles formula files'), mem_external_ofFiles, mem_external_ofFiles, himports,
      hagree.mem_paths]
    simp only [hagree.mem_paths]
  · exact hagree.map_node? formula fun p hp => hagree.coupling formula hp (by rw [himports])
  · rw [get?_metrics_ofFiles, get?_metrics_ofFiles, ← find?_path_of_perm hdistinct hperm]
    cases hf : files.find? (·.path == p) with
    | none => rfl
    | some f =>
      have hmem : f.path ∈ pathsOf files := (mem_pathsOf files).mpr ⟨f, List.mem_of_find?_eq_some hf, rfl⟩
      rw [Option.map_some, Option.map_some, hagree.metrics hmem rfl rfl rfl]
  · intro p n n' hn hn'
    rw [node?_ofFiles] at hn hn'
    split_ifs at hn hn' with hp
    rw [← Option.some.inj hn, ← Option.some.inj hn']
    exact hagree.importers hp
  · rw [edges_ofFiles, edges_ofFiles, himports]
    exact hagree.paths.flatMap_right _
  · exact hagree.violations formula formula

end Reordered

/-- Three files that import each other in a ring, one of them a package as well, handed over in two orders. -/
theorem isReordering_of_ring :
    let files : List SourceFile := [⟨"c.ts", ["a.ts", "react"], none, 0, 0, 0, 0⟩,
      ⟨"a.ts", ["b.ts", "c.ts"], none, 0, 0, 1, 2⟩, ⟨"b.ts", ["c.ts"], none, 0, 0, 0, 1⟩]
    (files.map (·.path)).Nodup ∧ files.Perm files.reverse ∧
      IsReorderingOf (ofFiles .fanInRelative files : DependencyGraph Float)
        (ofFiles .fanInRelative files.reverse : DependencyGraph Float) := by
  intro files
  have hdistinct : (files.map (·.path)).Nodup := by decide
  have hperm : files.Perm files.reverse := files.reverse_perm.symm
  exact ⟨hdistinct, hperm, ofFiles_isReordering hdistinct hperm .fanInRelative⟩

end DependencyGraph
end RepoSurvey
