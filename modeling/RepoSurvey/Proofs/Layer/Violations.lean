import RepoSurvey.Layer.Violation
import RepoSurvey.Proofs.Graph.ImportRelation
import RepoSurvey.Proofs.Layer.Assignment

/-!
# The reported violations are the forbidden imports

* `Violation.between?`: the violation by an import from one file to another, read off the layers.
* `Violation.report`: the violations of a graph file by file, and `inGraph_eq`: they are what a resolver reports.
* `Violation.IsReportOf vs g layers`: the violations are the forbidden edges inside a graph, each once and in order.
* `inGraph_isReportOf`: unless a number of rounds is beyond the limit, the reported ones are.
-/

namespace RepoSurvey
namespace Violation

open LayerDefinition LayerResolver

/-- A file of one layer must not import a file of another. -/
structure Forbidden (layers : List LayerDefinition) (source target sourceLayer targetLayer : String) : Prop where
  source : assigned layers source = some sourceLayer
  target : assigned layers target = some targetLayer
  different : targetLayer ≠ sourceLayer
  not_allowed : targetLayer ∉ allowance layers sourceLayer

/-- The violation by an import from a file of one layer to a file of another. -/
def between (layers : List LayerDefinition) (source target sourceLayer targetLayer : String) : Violation where
  sourceFile := source
  targetFile := target
  sourceLayer
  targetLayer
  importStatement := target
  message := messageOf sourceLayer targetLayer (allowance layers sourceLayer)

/-- The violation by an import from one file to another, if it is one. -/
def between? (layers : List LayerDefinition) (source target : String) : Option Violation :=
  match assigned layers source, assigned layers target with
  | some sourceLayer, some targetLayer =>
    if targetLayer = sourceLayer ∨ targetLayer ∈ allowance layers sourceLayer then none
    else some (between layers source target sourceLayer targetLayer)
  | _, _ => none

/-- The edge that a violation is about. -/
def edge (v : Violation) : String × String := (v.sourceFile, v.targetFile)

section Between

variable {layers : List LayerDefinition} {source target : String}

theorem between?_eq_some {v : Violation} : between? layers source target = some v ↔
    Forbidden layers source target v.sourceLayer v.targetLayer ∧
      v = between layers source target v.sourceLayer v.targetLayer := by
  constructor
  · intro h
    rw [between?] at h
    split at h
    · rename_i sourceLayer targetLayer hsource htarget
      split_ifs at h with hfree
      obtain ⟨hdifferent, hallowed⟩ := not_or.mp hfree
      obtain rfl := Option.some.inj h
      exact ⟨⟨hsource, htarget, hdifferent, hallowed⟩, rfl⟩
    · exact absurd h (by simp)
  · rintro ⟨hforbidden, hv⟩
    rw [between?, hforbidden.source, hforbidden.target]
    show (if _ then none else some _) = _
    rw [if_neg (not_or.mpr ⟨hforbidden.different, hforbidden.not_allowed⟩), ← hv]

theorem edge_of_between? {v : Violation} (h : between? layers source target = some v) : v.edge = (source, target) := by
  rw [(between?_eq_some.mp h).2]
  rfl

theorem between?_of_unassigned (h : assigned layers source = none) : between? layers source target = none := by
  rw [between?, h]

end Between

/-! ### What a resolver reports -/

section Report

variable {α : Type} {layers : List LayerDefinition} {s : LayerResolver}

/-- The violations of a graph, file by file. -/
def report (g : DependencyGraph α) (layers : List LayerDefinition) : List Violation :=
  (ascendingNodes g).flatMap fun n => (n.imports.filter g.isFile).filterMap (between? layers n.path)

/-- The order in which a message names the allowed layers is its own. -/
theorem messageOf_distinctAscending (source target : String) (names : List String) :
    messageOf source target (Text.distinctAscending names) = messageOf source target names := by
  unfold messageOf
  rw [Text.distinctAscending_idem]

theorem ofImport_eq (h : Remembers (ofUsable layers) s) {source sourceLayer : String}
    (hsource : assigned layers source = some sourceLayer) (target : String) :
    (ofImport source sourceLayer s target).1 = (between? layers source target).toList ∧
      Remembers (ofUsable layers) (ofImport source sourceLayer s target).2 := by
  obtain ⟨hanswer, hnext⟩ := h.ask target
  rw [ofImport, between?, hsource]
  rw [firstFit_ofUsable] at hanswer
  generalize s.ask target = asked at hanswer hnext ⊢
  obtain ⟨answer, s'⟩ := asked
  rw [← hanswer]
  cases answer with
  | none => exact ⟨rfl, hnext⟩
  | some targetLayer =>
    have hallowed : s'.allowed sourceLayer = Text.distinctAscending (allowance layers sourceLayer) := by
      rw [hnext.allowed_eq, allowed_ofUsable]
    simp only [hallowed, Text.mem_distinctAscending, messageOf_distinctAscending]
    by_cases hsame : targetLayer = sourceLayer
    · rw [if_pos hsame, if_pos (.inl hsame)]
      exact ⟨rfl, hnext⟩
    · by_cases hmem : targetLayer ∈ allowance layers sourceLayer
      · rw [if_neg hsame, if_pos hmem, if_pos (.inr hmem)]
        exact ⟨rfl, hnext⟩
      · rw [if_neg hsame, if_neg hmem, if_neg (not_or.mpr ⟨hsame, hmem⟩)]
        exact ⟨rfl, hnext⟩

theorem ofNode_eq (g : DependencyGraph α) (h : Remembers (ofUsable layers) s) (n : FileNode α) :
    (ofNode g s n).1 = (n.imports.filter g.isFile).filterMap (between? layers n.path) ∧
      Remembers (ofUsable layers) (ofNode g s n).2 := by
  obtain ⟨hanswer, hnext⟩ := h.ask n.path
  rw [ofNode]
  rw [firstFit_ofUsable] at hanswer
  generalize s.ask n.path = asked at hanswer hnext ⊢
  obtain ⟨answer, s'⟩ := asked
  cases answer with
  | none =>
    refine ⟨?_, hnext⟩
    show [] = _
    rw [eq_comm, List.filterMap_eq_nil_iff]
    exact fun t _ => between?_of_unassigned hanswer.symm
  | some sourceLayer =>
    rw [List.filterMap_eq_flatMap_toList]
    exact Remembers.collect (fun s hs t => ofImport_eq hs hanswer.symm t) hnext _

/-- Whatever the resolver remembers on the way, it reports the violations of each file. -/
theorem inGraph_eq (g : DependencyGraph α) (layers : List LayerDefinition) : inGraph g layers =
    match fault? layers with
    | some e => .error e
    | none => .ok (report g layers) := by
  rw [inGraph, ofLayers_eq]
  cases fault? layers with
  | some e => rfl
  | none =>
    have hstart : Remembers (ofUsable layers) (ofUsable layers) := .of_unasked rfl
    have hall := hstart.collect (fun s hs n => ofNode_eq g hs n) (ascendingNodes g)
    show Except.ok ((ofUsable layers).collect (ofNode g) (ascendingNodes g)).1 = Except.ok (report g layers)
    rw [hall.1, report]

end Report

/-! ### Which edges are reported -/

section Edges

variable {α : Type} {layers : List LayerDefinition} {g : DependencyGraph α}

theorem isSome_between? {source target : String} : (between? layers source target).isSome = true ↔
    ∃ sourceLayer targetLayer, Forbidden layers source target sourceLayer targetLayer := by
  rw [Option.isSome_iff_exists]
  constructor
  · rintro ⟨v, hv⟩
    exact ⟨v.sourceLayer, v.targetLayer, (between?_eq_some.mp hv).1⟩
  · rintro ⟨sourceLayer, targetLayer, hforbidden⟩
    exact ⟨between layers source target sourceLayer targetLayer, between?_eq_some.mpr ⟨hforbidden, rfl⟩⟩

/-- The targets of a file that the report names. -/
def reportedTargets (g : DependencyGraph α) (layers : List LayerDefinition) (n : FileNode α) : List String :=
  n.imports.filter fun t => g.isFile t && (between? layers n.path t).isSome

theorem mem_reportedTargets {n : FileNode α} {t : String} : t ∈ reportedTargets g layers n ↔
    t ∈ n.imports ∧ g.isFile t = true ∧
      ∃ sourceLayer targetLayer, Forbidden layers n.path t sourceLayer targetLayer := by
  rw [reportedTargets, List.mem_filter, Bool.and_eq_true, isSome_between?]

theorem map_edge_filterMap (source : String) (targets : List String) :
    (targets.filterMap (between? layers source)).map edge =
      (targets.filter fun t => (between? layers source t).isSome).map (source, ·) := by
  induction targets with
  | nil => rfl
  | cons t rest ih =>
    rw [List.filterMap_cons, List.filter_cons]
    cases h : between? layers source t with
    | none => exact ih
    | some v => rw [List.map_cons, ih, edge_of_between? h, Option.isSome_some, if_pos rfl, List.map_cons]

/-- The edges of a report are the reported targets of each file, file by file. -/
theorem map_edge_report : (report g layers).map edge =
    (ascendingNodes g).flatMap fun n => (reportedTargets g layers n).map (n.path, ·) := by
  rw [report, List.map_flatMap]
  refine List.flatMap_congr fun n _ => ?_
  rw [map_edge_filterMap, List.filter_filter, reportedTargets]
  simp only [Bool.and_comm]

theorem mem_ascendingNodes {n : FileNode α} : n ∈ ascendingNodes g ↔ n ∈ g.nodes :=
  (List.mergeSort_perm _ _).mem_iff

theorem nodup_ascendingNodes (h : g.paths.Nodup) : ((ascendingNodes g).map (·.path)).Nodup :=
  ((List.mergeSort_perm _ _).map _).nodup_iff.mpr h

theorem mem_report_edge {p t : String} : (p, t) ∈ (report g layers).map edge ↔
    ∃ n ∈ g.nodes, n.path = p ∧ t ∈ reportedTargets g layers n := by
  rw [map_edge_report, List.mem_flatMap]
  constructor
  · rintro ⟨n, hn, he⟩
    obtain ⟨u, hu, heq⟩ := List.mem_map.mp he
    obtain ⟨rfl, rfl⟩ := Prod.mk.inj heq
    exact ⟨n, mem_ascendingNodes.mp hn, rfl, hu⟩
  · rintro ⟨n, hn, rfl, ht⟩
    exact ⟨n, mem_ascendingNodes.mpr hn, List.mem_map.mpr ⟨t, ht, rfl⟩⟩

theorem between?_of_mem_report {v : Violation} (hv : v ∈ report g layers) :
    between? layers v.sourceFile v.targetFile = some v := by
  rw [report, List.mem_flatMap] at hv
  obtain ⟨n, -, hv⟩ := hv
  obtain ⟨t, -, ht⟩ := List.mem_filterMap.mp hv
  obtain ⟨hsource, htarget⟩ := Prod.mk.inj (edge_of_between? ht)
  rwa [hsource, htarget]

end Edges

/-! ### In which order -/

section Order

variable {α : Type} {layers : List LayerDefinition} {g : DependencyGraph α}

theorem filter_pairs (p q : String) (targets : List String) :
    ((targets.map (p, ·)).filter fun e => decide (e.1 = q)) = if p = q then targets.map (p, ·) else [] := by
  by_cases h : p = q
  · rw [if_pos h, List.filter_eq_self]
    intro e he
    obtain ⟨t, -, rfl⟩ := List.mem_map.mp he
    exact decide_eq_true h
  · rw [if_neg h, List.filter_eq_nil_iff]
    intro e he hpq
    obtain ⟨t, -, rfl⟩ := List.mem_map.mp he
    exact h (of_decide_eq_true hpq)

/-- Of pairs listed key by key, those of one key stand together. -/
theorem filter_flatMap_pairs {ν : Type} {key : ν → String} {values : ν → List String} {l : List ν} {n : ν}
    (hnodup : (l.map key).Nodup) (hn : n ∈ l) :
    ((l.flatMap fun m => (values m).map (key m, ·)).filter fun e => decide (e.1 = key n)) =
      (values n).map (key n, ·) := by
  rw [List.filter_flatMap]
  simp only [filter_pairs]
  induction l with
  | nil => exact absurd hn List.not_mem_nil
  | cons m rest ih =>
    rw [List.map_cons, List.nodup_cons] at hnodup
    rw [List.flatMap_cons]
    rcases List.mem_cons.mp hn with rfl | hn
    · have hothers : (rest.flatMap fun m => if key m = key n then (values m).map (key m, ·) else []) = [] := by
        rw [List.flatMap_eq_nil_iff]
        intro m hm
        exact if_neg fun hsame => hnodup.1 (List.mem_map.mpr ⟨m, hm, hsame⟩)
      rw [if_pos rfl, hothers, List.append_nil]
    · have hne : key m ≠ key n := fun hsame => hnodup.1 (List.mem_map.mpr ⟨n, hn, hsame.symm⟩)
      rw [if_neg hne, List.nil_append, ih hnodup.2 hn]

/-- The targets reported for one file keep the order of its imports. -/
theorem targets_report_sublist (h : g.paths.Nodup) {n : FileNode α} (hn : n ∈ g.nodes) :
    (((report g layers).filter fun v => v.sourceFile = n.path).map (·.targetFile)).Sublist n.imports := by
  have hedges : (((report g layers).filter fun v => v.sourceFile = n.path).map (·.targetFile)) =
      (((report g layers).map edge).filter fun e => decide (e.1 = n.path)).map (·.2) := by
    rw [List.filter_map, List.map_map]
    rfl
  rw [hedges, map_edge_report, filter_flatMap_pairs (nodup_ascendingNodes h) (mem_ascendingNodes.mpr hn),
    List.map_map]
  show ((reportedTargets g layers n).map id).Sublist n.imports
  rw [List.map_id]
  exact List.filter_sublist

theorem nodup_report (h : g.paths.Nodup) (himports : ∀ n ∈ g.nodes, n.imports.Nodup) :
    ((report g layers).map edge).Nodup := by
  rw [map_edge_report, List.nodup_flatMap]
  constructor
  · intro n hn
    exact ((himports n (mem_ascendingNodes.mp hn)).filter _).map fun t u htu => (Prod.mk.inj htu).2
  · refine (List.pairwise_map.mp (nodup_ascendingNodes h)).imp fun {m n} hmn e hm hn => hmn ?_
    obtain ⟨t, -, rfl⟩ := List.mem_map.mp hm
    obtain ⟨u, -, hu⟩ := List.mem_map.mp hn
    exact (Prod.mk.inj hu).1.symm

theorem pairwise_report : ((report g layers).map (·.sourceFile)).Pairwise (· ≤ ·) := by
  have hsources : (report g layers).map (·.sourceFile) = ((report g layers).map edge).map (·.1) := by
    rw [List.map_map]
    rfl
  rw [hsources, map_edge_report, List.pairwise_map, List.pairwise_flatMap]
  constructor
  · intro n _
    rw [List.pairwise_map]
    exact List.pairwise_of_forall fun _ _ => String.le_refl n.path
  · refine (pairwise_mergeSort_key (·.path) g.nodes).imp ?_
    intro m n hmn e hm e' hn
    obtain ⟨t, -, rfl⟩ := List.mem_map.mp hm
    obtain ⟨u, -, rfl⟩ := List.mem_map.mp hn
    exact hmn

end Order

/-! ### Reports of a graph -/

section Reports

variable {α : Type}

/-- Some violations are the forbidden edges inside a graph. -/
structure IsReportOf (vs : List Violation) (g : DependencyGraph α) (layers : List LayerDefinition) : Prop where
  /-- An edge is reported if it is one inside the graph and forbidden, and only then. -/
  edges : ∀ p t, (p, t) ∈ vs.map edge ↔
    (p, t) ∈ g.internalEdges ∧ ∃ sourceLayer targetLayer, Forbidden layers p t sourceLayer targetLayer
  edges_nodup : (vs.map edge).Nodup
  /-- A violation names the layers of its files. -/
  forbidden : ∀ v ∈ vs, Forbidden layers v.sourceFile v.targetFile v.sourceLayer v.targetLayer
  importStatement : ∀ v ∈ vs, v.importStatement = v.targetFile
  message : ∀ v ∈ vs, v.message = messageOf v.sourceLayer v.targetLayer (allowance layers v.sourceLayer)
  level : ∀ v ∈ vs, v.level = .error
  /-- The importing files ascend. -/
  sources : (vs.map (·.sourceFile)).Pairwise (· ≤ ·)
  /-- The targets of one file stand in the order of its imports. -/
  targets : ∀ n ∈ g.nodes, ((vs.filter fun v => v.sourceFile = n.path).map (·.targetFile)).Sublist n.imports

variable [Scalar α] (formula : CouplingFormula) (files : List SourceFile) (layers : List LayerDefinition)

theorem report_isReportOf : IsReportOf (report (DependencyGraph.ofFiles formula files : DependencyGraph α) layers)
    (DependencyGraph.ofFiles formula files : DependencyGraph α) layers where
  edges := by
    intro p t
    rw [mem_report_edge, DependencyGraph.mem_internalEdges_ofFiles, DependencyGraph.nodes_ofFiles]
    simp only [mem_reportedTargets, DependencyGraph.isFile_ofFiles, decide_eq_true_eq]
    constructor
    · rintro ⟨n, hn, rfl, ht, hfile, hforbidden⟩
      obtain ⟨q, hq, rfl⟩ := List.mem_map.mp hn
      exact ⟨⟨hq, ht, hfile⟩, hforbidden⟩
    · rintro ⟨⟨hp, ht, hfile⟩, hforbidden⟩
      exact ⟨_, List.mem_map.mpr ⟨p, hp, rfl⟩, rfl, ht, hfile, hforbidden⟩
  edges_nodup := by
    refine nodup_report (DependencyGraph.nodup_paths_ofFiles formula files) ?_
    intro n hn
    rw [DependencyGraph.nodes_ofFiles] at hn
    obtain ⟨p, -, rfl⟩ := List.mem_map.mp hn
    exact DependencyGraph.nodup_importsOf files p
  forbidden := fun _ hv => (between?_eq_some.mp (between?_of_mem_report hv)).1
  importStatement := fun _ hv => congrArg importStatement (between?_eq_some.mp (between?_of_mem_report hv)).2
  message := fun _ hv => congrArg message (between?_eq_some.mp (between?_of_mem_report hv)).2
  level := fun _ hv => congrArg level (between?_eq_some.mp (between?_of_mem_report hv)).2
  sources := pairwise_report
  targets := fun _ hn => targets_report_sublist (DependencyGraph.nodup_paths_ofFiles formula files) hn

/-- **The reported violations are the forbidden imports**, unless a pattern has a number of rounds beyond the limit, which
stands against all of them. -/
theorem inGraph_isReportOf :
    match fault? layers with
    | some e => inGraph (DependencyGraph.ofFiles formula files : DependencyGraph α) layers = .error e
    | none => ∃ vs, inGraph (DependencyGraph.ofFiles formula files : DependencyGraph α) layers = .ok vs ∧
        IsReportOf vs (DependencyGraph.ofFiles formula files : DependencyGraph α) layers := by
  cases hfault : fault? layers with
  | some e =>
    show inGraph (DependencyGraph.ofFiles formula files : DependencyGraph α) layers = .error e
    rw [inGraph_eq, hfault]
  | none =>
    refine ⟨report (DependencyGraph.ofFiles formula files) layers, ?_, report_isReportOf formula files layers⟩
    rw [inGraph_eq, hfault]

end Reports

end Violation
end RepoSurvey
