import RepoSurvey.Proofs.Graph.Cycles
import RepoSurvey.Proofs.Graph.SearchUnique
import RepoSurvey.Proofs.Layer.Violations

/-!
# What depends on the imports inside a repository only

* `insideOf files p`: the imports of a path that are files themselves.
* `AgreeInside files files'`: the same files import the same files, in the same order for each file.
* `AgreeInside.cycles`, `AgreeInside.fanIn`, `AgreeInside.coupling`, `AgreeInside.violations`: cycles, importers, scores
  and violations cannot tell such lists of files apart.
-/

namespace RepoSurvey
namespace DependencyGraph

open Assembly

variable {α : Type}

/-! ### The parts of a graph, path by path -/

section Parts

variable (files : List SourceFile)

/-- The imports of a path that are files themselves. -/
def insideOf (p : String) : List String := (importsOf files p).filter fun t => t ∈ pathsOf files

/-- The files that import a path, in order. -/
def importersOf (p : String) : List String := (pathsOf files).filter fun q => p ∈ importsOf files q

theorem fanIn_entries {p : String} (hp : p ∈ pathsOf files) :
    (Imports.ofFiles files).fanIn p = (importersOf files p).length := by
  rw [Imports.fanIn, Imports.importers, entries_ofFiles, entry?_ofRelation hp, Option.map_some, Option.getD_some,
    importersOf]

theorem maxFanIn_entries : (Imports.ofFiles files).maxFanIn =
    ((pathsOf files).map fun p => (importersOf files p).length).foldl max 0 := by
  rw [Imports.maxFanIn, paths_entries, List.map_congr_left fun p hp => fanIn_entries files hp]

theorem length_entries : (Imports.ofFiles files).length = (pathsOf files).length := by
  rw [← paths_entries, Imports.paths, List.length_map]

theorem internal_entries {p : String} (hp : p ∈ pathsOf files) :
    (Imports.ofFiles files).internal p = insideOf files p := by
  rw [Imports.internal, internal?_entries files hp, Option.getD_some, insideOf]

variable [Scalar α] (formula : CouplingFormula)

/-- The node of a path. -/
def nodeOf (p : String) : FileNode α where
  path := p
  imports := importsOf files p
  importedBy := importersOf files p
  coupling := (Imports.ofFiles files).couplingScore formula ⟨p, importsOf files p, importersOf files p⟩

theorem nodes_eq_nodeOf : (ofFiles formula files : DependencyGraph α).nodes =
    (pathsOf files).map (nodeOf files formula) := by
  rw [nodes_ofFiles]
  refine List.map_congr_left fun p _ => ?_
  rw [nodeOf, entries_ofFiles, importersOf]

theorem node?_ofFiles (p : String) : (ofFiles formula files : DependencyGraph α).node? p =
    if p ∈ pathsOf files then some (nodeOf files formula p) else none := by
  rw [node?, nodes_eq_nodeOf, List.find?_map]
  show ((pathsOf files).find? (· == p)).map (nodeOf files formula) = _
  rw [find?_beq]
  by_cases hp : p ∈ pathsOf files
  · rw [if_pos hp, if_pos hp, Option.map_some]
  · rw [if_neg hp, if_neg hp, Option.map_none]

theorem isFile_ofFiles_eq : (ofFiles formula files : DependencyGraph α).isFile = fun t => decide (t ∈ pathsOf files) :=
  funext (isFile_ofFiles formula files)

theorem internalEdges_ofFiles : (ofFiles formula files : DependencyGraph α).internalEdges =
    (pathsOf files).flatMap fun p => (insideOf files p).map (p, ·) := by
  rw [internalEdges, edges_ofFiles, isFile_ofFiles_eq, List.filter_flatMap]
  refine List.flatMap_congr fun p _ => ?_
  rw [List.filter_map, insideOf]
  rfl

/-- The violations are those of the files in ascending order and of the imports inside. -/
theorem report_ofFiles (layers : List LayerDefinition) :
    Violation.report (ofFiles formula files : DependencyGraph α) layers =
      (Text.ascending (pathsOf files)).flatMap fun p =>
        (insideOf files p).filterMap (Violation.between? layers p) := by
  have hascending : Violation.ascendingNodes (ofFiles formula files : DependencyGraph α) =
      (Text.ascending (pathsOf files)).map (nodeOf files formula) := by
    rw [Violation.ascendingNodes, nodes_eq_nodeOf, Text.ascending]
    have hkeys : ∀ p ∈ pathsOf files, ∀ q ∈ pathsOf files, decide (p ≤ q) =
        decide ((nodeOf files formula p : FileNode α).path ≤ (nodeOf files formula q : FileNode α).path) :=
      fun _ _ _ _ => rfl
    exact (List.map_mergeSort hkeys).symm
  rw [Violation.report, hascending, List.flatMap_map]
  refine List.flatMap_congr fun p _ => ?_
  rw [isFile_ofFiles_eq, insideOf]
  rfl

end Parts

/-! ### Files that agree inside -/

/-- The same files import the same files, in the same order for each file. -/
structure AgreeInside (files files' : List SourceFile) : Prop where
  paths : (pathsOf files).Perm (pathsOf files')
  inside : ∀ p ∈ pathsOf files, insideOf files p = insideOf files' p

namespace AgreeInside

variable {files files' : List SourceFile} {p t : String}

theorem mem_paths (h : AgreeInside files files') : p ∈ pathsOf files ↔ p ∈ pathsOf files' := h.paths.mem_iff

/-- A file is imported on both sides or on neither. -/
theorem mem_imports (h : AgreeInside files files') (hp : p ∈ pathsOf files) (ht : t ∈ pathsOf files) :
    t ∈ importsOf files p ↔ t ∈ importsOf files' p := by
  have hinside : t ∈ insideOf files p ↔ t ∈ insideOf files' p := by rw [h.inside p hp]
  simpa [insideOf, ht, h.mem_paths.mp ht] using hinside

theorem internal? (h : AgreeInside files files') :
    (Imports.ofFiles files).internal? = (Imports.ofFiles files').internal? := by
  funext p
  by_cases hp : p ∈ pathsOf files
  · have hinside := h.inside p hp
    rw [insideOf, insideOf] at hinside
    rw [internal?_entries files hp, internal?_entries files' (h.mem_paths.mp hp), hinside]
  · rw [internal?_entries_none files hp, internal?_entries_none files' fun hp' => hp (h.mem_paths.mpr hp')]

/-- **The cycles are the same**, each in the same rotation. -/
theorem cycles (h : AgreeInside files files') : (Imports.ofFiles files).cycles = (Imports.ofFiles files').cycles := by
  refine Imports.cycles_congr ?_ ?_ h.internal?
  · rw [paths_entries]
    exact nodup_pathsOf files
  · rw [paths_entries, paths_entries]
    exact h.paths

/-- The importers are the same, in the order of the files. -/
theorem importers (h : AgreeInside files files') (hp : p ∈ pathsOf files) :
    (importersOf files p).Perm (importersOf files' p) := by
  have hkeep : (pathsOf files).filter (fun q => p ∈ importsOf files q) =
      (pathsOf files).filter fun q => p ∈ importsOf files' q :=
    List.filter_congr fun q hq => decide_eq_decide.mpr (h.mem_imports hq hp)
  rw [importersOf, importersOf, hkeep]
  exact h.paths.filter _

theorem fanIn (h : AgreeInside files files') (hp : p ∈ pathsOf files) :
    (Imports.ofFiles files).fanIn p = (Imports.ofFiles files').fanIn p := by
  rw [fanIn_entries files hp, fanIn_entries files' (h.mem_paths.mp hp), (h.importers hp).length_eq]

theorem maxFanIn (h : AgreeInside files files') :
    (Imports.ofFiles files).maxFanIn = (Imports.ofFiles files').maxFanIn := by
  have hcounts : (pathsOf files).map (fun p => (importersOf files p).length) =
      (pathsOf files).map fun p => (importersOf files' p).length :=
    List.map_congr_left fun p hp => (h.importers hp).length_eq
  rw [maxFanIn_entries, maxFanIn_entries, hcounts]
  exact (h.paths.map _).foldl_eq 0

variable [Scalar α]

/-- A score relative to the most imported file does not tell the two apart. -/
theorem coupling_fanInRelative (h : AgreeInside files files') (hp : p ∈ pathsOf files) :
    (nodeOf files .fanInRelative p : FileNode α).coupling = (nodeOf files' .fanInRelative p).coupling := by
  simp only [nodeOf, Imports.couplingScore]
  rw [h.maxFanIn, h.fanIn hp]

/-- A score that counts imports needs the same number of them. -/
theorem coupling (h : AgreeInside files files') (formula : CouplingFormula) (hp : p ∈ pathsOf files)
    (himports : (importsOf files p).length = (importsOf files' p).length) :
    (nodeOf files formula p : FileNode α).coupling = (nodeOf files' formula p).coupling := by
  cases formula with
  | fanInRelative => exact h.coupling_fanInRelative hp
  | fanBlend =>
    simp only [nodeOf, Imports.couplingScore]
    rw [h.fanIn hp, himports, length_entries, length_entries, h.paths.length_eq]

/-- The measures of a file are the same if its types are. -/
theorem metrics (h : AgreeInside files files') {f f' : SourceFile} (hf : f.path ∈ pathsOf files)
    (hpath : f.path = f'.path) (habstract : f.abstractTypes = f'.abstractTypes)
    (hconcrete : f.concreteTypes = f'.concreteTypes) :
    ((Imports.ofFiles files).metrics f : CouplingMetrics α) = (Imports.ofFiles files').metrics f' := by
  have hinternal : (Imports.ofFiles files).internal f.path = (Imports.ofFiles files').internal f.path := by
    rw [internal_entries files hf, internal_entries files' (h.mem_paths.mp hf), h.inside _ hf]
  simp only [Imports.metrics, Imports.abstractness]
  rw [h.fanIn hf, hinternal, hpath, habstract, hconcrete]

/-- What is read off the node of a path is the same if it is for every file. -/
theorem map_node? {β : Type} {view : FileNode α → β} (h : AgreeInside files files') (formula : CouplingFormula)
    (hview : ∀ p ∈ pathsOf files, view (nodeOf files formula p) = view (nodeOf files' formula p)) (p : String) :
    ((ofFiles formula files : DependencyGraph α).node? p).map view =
      ((ofFiles formula files' : DependencyGraph α).node? p).map view := by
  rw [node?_ofFiles, node?_ofFiles]
  by_cases hp : p ∈ pathsOf files
  · rw [if_pos hp, if_pos (h.mem_paths.mp hp), Option.map_some, Option.map_some, hview p hp]
  · rw [if_neg hp, if_neg fun hp' => hp (h.mem_paths.mpr hp')]

/-- **The violations are the same**, in the same order. -/
theorem violations (h : AgreeInside files files') (formula formula' : CouplingFormula)
    (layers : List LayerDefinition) :
    Violation.inGraph (ofFiles formula files : DependencyGraph α) layers =
      Violation.inGraph (ofFiles formula' files' : DependencyGraph α) layers := by
  have hreport : Violation.report (ofFiles formula files : DependencyGraph α) layers =
      Violation.report (ofFiles formula' files' : DependencyGraph α) layers := by
    rw [report_ofFiles, report_ofFiles, ← Text.ascending_of_perm h.paths]
    refine List.flatMap_congr fun p hp => ?_
    rw [h.inside p (Text.mem_ascending.mp hp)]
  rw [Violation.inGraph_eq, Violation.inGraph_eq, hreport]

end AgreeInside

end DependencyGraph
end RepoSurvey
