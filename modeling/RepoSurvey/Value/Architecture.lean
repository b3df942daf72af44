import RepoSurvey.Layer.Violation
import RepoSurvey.Value.Enumeration

/-!
# Graphs and layers as values

The record of a graph has the numbers of its files and cycles besides its fields, and that of a node the numbers of
importers and imports.
-/

namespace RepoSurvey

/-- Texts in a list that can change. -/
def Value.texts (items : List String) : Value := .list (items.map .text)

instance : ToValue Language := ⟨fun l => .text l.name⟩

instance : Enumeration CouplingFormula where
  family := "CouplingFormula"
  all := CouplingFormula.all
  name := CouplingFormula.name

instance : ToValue SourceFile := ⟨fun f => .record "ParsedFile"
  [("path", value f.path), ("imports", value f.imports), ("language", value f.language),
    ("export_count", value f.exportCount), ("decorator_count", value f.decoratorCount),
    ("abstract_types", value f.abstractTypes), ("concrete_types", value f.concreteTypes)] []⟩

instance : ToValue (FileNode Float) := ⟨fun n => .record "FileNode"
  [("path", value n.path), ("imports", .texts n.imports), ("imported_by", .texts n.importedBy),
    ("coupling_score", value n.coupling)]
  [("fan_in", value n.fanIn), ("fan_out", value n.fanOut)]⟩

instance : ToValue Cycle := ⟨fun c => .record "CircularDependency"
  [("files", .set true (c.files.map .text)), ("cycle", value c.walk)] []⟩

instance : ToValue (CouplingMetrics Float) := ⟨fun m => .record "CouplingMetrics"
  [("afferent_coupling", value m.afferent), ("efferent_coupling", value m.efferent),
    ("instability", value m.instability), ("abstractness", value m.abstractness),
    ("distance_from_main_sequence", value m.distance)] []⟩

/-- Edges as pairs of paths. -/
def edgesValue (edges : List (String × String)) : Value := .list (edges.map fun (a, b) => value [a, b])

instance : ToValue (DependencyGraph Float) := ⟨fun g => .record "DependencyGraph"
  [("nodes", .table (g.nodes.map fun n => (n.path, n))), ("edges", edgesValue g.edges),
    ("external_imports", .table (g.external.map fun (k, v) => (k, Value.texts v))),
    ("cycles", .list (g.cycles.map value)), ("coupling_metrics", .table g.metrics),
    ("avg_coupling", value g.averageCoupling), ("avg_instability", value g.averageInstability),
    ("avg_distance", value g.averageDistance)]
  [("total_modules", value g.nodes.length), ("cycle_count", value g.cycles.length)]⟩

instance : ToValue LayerDefinition := ⟨fun l => .record "LayerDefinition"
  [("name", value l.name), ("patterns", value l.patterns),
    ("allowed_dependencies", .set true (l.allowed.eraseDups.map .text))] []⟩

instance : Enumeration ViolationLevel where
  family := "ViolationSeverity"
  all := ViolationLevel.all
  name := ViolationLevel.name

instance : ToValue Violation := ⟨fun v => .record "Violation"
  [("source_file", value v.sourceFile), ("target_file", value v.targetFile),
    ("source_layer", value v.sourceLayer), ("target_layer", value v.targetLayer),
    ("import_statement", value v.importStatement), ("message", value v.message), ("severity", value v.level)] []⟩

end RepoSurvey
