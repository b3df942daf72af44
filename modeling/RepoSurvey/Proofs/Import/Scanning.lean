import RepoSurvey.Import.SourceFile
import RepoSurvey.Proofs.Failing
import RepoSurvey.Proofs.Graph.ImportRelation
import RepoSurvey.Proofs.Import.KnownTargets
import RepoSurvey.Proofs.LookUp

/-!
# What a scan finds

* `SourceFile.IsScanOf`: the files of some sources with the targets of their specifiers, none lost and none invented.
* `SourceFile.scan_isScanOf`: a scan is one.
* `DependencyGraph.IsGraphOfScan`, `DependencyGraph.ofFiles_isGraphOfScan`: the graph of scanned files has the sources
  as its nodes, and leads inside or outside as the imports do.
* `SourceFile.scanSupplied_isScanOf`: the two together, for the sources and the options of a caller.
-/

namespace RepoSurvey

/-! ### The imports of a file -/

namespace SourceFile

section Imports

variable {repository : Repository} {path text t : String}

/-- The specifiers in the text of a file, none if its language is not known. -/
def specifiers (path text : String) : List String :=
  (Language.ofPath? path).elim [] (Statement.importSpecifiers · text)

/-- A specifier stands for the path that it resolves to, or else for itself. -/
def StandsFor (repository : Repository) (path specifier t : String) : Prop :=
  repository.resolve path specifier (Language.ofPath? path) = some t ∨
    repository.resolve path specifier (Language.ofPath? path) = none ∧ t = specifier

theorem target_eq_iff {specifier : String} :
    target repository path (Language.ofPath? path) specifier = t ↔ StandsFor repository path specifier t := by
  rw [target, StandsFor]
  cases repository.resolve path specifier (Language.ofPath? path) with
  | none => simp [eq_comm]
  | some found => simp

theorem targets_eq : targets repository path text =
    ((specifiers path text).map (target repository path (Language.ofPath? path))).eraseDups := by
  rw [targets, specifiers]
  cases Language.ofPath? path with
  | none => rfl
  | some language => rfl

/-- A file imports what the specifiers in its text stand for. -/
theorem mem_targets : t ∈ targets repository path text ↔
    ∃ specifier ∈ specifiers path text, StandsFor repository path specifier t := by
  rw [targets_eq, List.mem_eraseDups, List.mem_map]
  simp only [target_eq_iff]

theorem path_ofText (text : Option String) : (ofText repository path text).path = path := by
  cases text with
  | none => rw [ofText]
  | some text => rw [ofText]

theorem imports_ofText_none : (ofText repository path none).imports = [] := by rw [ofText]

theorem imports_ofText_some (text : String) :
    (ofText repository path (some text)).imports = targets repository path text := by rw [ofText]

theorem nodup_imports_ofText (text : Option String) : (ofText repository path text).imports.Nodup := by
  cases text with
  | none =>
    rw [imports_ofText_none]
    exact List.nodup_nil
  | some text =>
    rw [imports_ofText_some, targets_eq]
    exact nodup_eraseDups _

end Imports

/-! ### Scans -/

section Scans

variable {sources : List (String × Option String)} {aliases : List (String × List String)}
variable {packages : List (String × String)} {goModule : Option String}

/-- The files of some sources with the targets of their specifiers: none is lost and none is invented. -/
structure IsScanOf (files : List SourceFile) (sources : List (String × Option String)) (repository : Repository) :
    Prop where
  ascending : (files.map (·.path)).Pairwise (· < ·)
  mem_paths : ∀ p, p ∈ files.map (·.path) ↔ p ∈ sources.map (·.1)
  nodup_imports : ∀ f ∈ files, f.imports.Nodup
  unread : ∀ f ∈ files, (f.path, none) ∈ sources → f.imports = []
  mem_imports : ∀ f ∈ files, ∀ text, (f.path, some text) ∈ sources → ∀ t,
    t ∈ f.imports ↔ ∃ specifier ∈ specifiers f.path text, StandsFor repository f.path specifier t
  resolved : ∀ file specifier language t, repository.resolve file specifier language = some t →
    t ∈ sources.map (·.1)

theorem paths_scan : (scan sources aliases packages goModule).map (·.path) =
    (sources.mergeSort fun a b => decide (a.1 ≤ b.1)).map (·.1) := by
  rw [scan, List.map_map]
  exact List.map_congr_left fun source _ => path_ofText source.2

theorem mem_scan {f : SourceFile} : f ∈ scan sources aliases packages goModule ↔
    ∃ source ∈ sources, ofText ⟨sources.map (·.1), aliases, packages, goModule⟩ source.1 source.2 = f := by
  rw [scan, List.mem_map]
  simp only [(List.mergeSort_perm sources _).mem_iff]

/-- The text of a scanned file is the one of its path. -/
theorem text_unique (hdistinct : (sources.map (·.1)).Nodup) {p : String} {text text' : Option String}
    (h : (p, text) ∈ sources) (h' : (p, text') ∈ sources) : text = text' :=
  Option.some.inj (((Table.get?_eq_some hdistinct).mpr h).symm.trans ((Table.get?_eq_some hdistinct).mpr h'))

theorem scan_isScanOf (hdistinct : (sources.map (·.1)).Nodup) :
    IsScanOf (scan sources aliases packages goModule) sources
      ⟨sources.map (·.1), aliases, packages, goModule⟩ where
  ascending := by
    have hperm := (List.mergeSort_perm sources fun a b => decide (a.1 ≤ b.1)).map (·.1)
    rw [paths_scan]
    refine pairwise_lt_of_nodup ?_ (hperm.nodup_iff.mpr hdistinct)
    exact List.pairwise_map.mpr (pairwise_mergeSort_key (·.1) sources)
  mem_paths := by
    intro p
    rw [paths_scan]
    exact ((List.mergeSort_perm sources _).map _).mem_iff
  nodup_imports := by
    intro f hf
    obtain ⟨source, -, rfl⟩ := mem_scan.mp hf
    exact nodup_imports_ofText source.2
  unread := by
    intro f hf hnone
    obtain ⟨source, hsource, rfl⟩ := mem_scan.mp hf
    rw [path_ofText] at hnone
    rw [text_unique hdistinct hsource hnone, imports_ofText_none]
  mem_imports := by
    intro f hf text htext t
    obtain ⟨source, hsource, rfl⟩ := mem_scan.mp hf
    rw [path_ofText] at htext ⊢
    rw [text_unique hdistinct hsource htext, imports_ofText_some]
    exact mem_targets
  resolved := fun _ _ _ _ h => Repository.mem_known_of_resolve h

end Scans

end SourceFile

/-! ### The graph of a scan -/

namespace DependencyGraph

open Assembly

section GraphOfScan

variable {α : Type}

/-- The graph of scanned files: its nodes are the sources, and every import leads to another of them or outside. -/
structure IsGraphOfScan (g : DependencyGraph α) (files : List SourceFile) (keys : List String) : Prop where
  nodes : g.paths = files.map (·.path)
  mem_nodes : ∀ p, p ∈ g.paths ↔ p ∈ keys
  mem_internal : ∀ p t, (p, t) ∈ g.internalEdges ↔ ∃ f ∈ files, f.path = p ∧ t ∈ f.imports ∧ t ∈ keys ∧ t ≠ p
  /-- A file with imports that are no keys has them all in the table of outside imports. -/
  mem_external : ∀ p outside, (p, outside) ∈ g.external ↔
    ∃ f ∈ files, f.path = p ∧ outside = f.imports.filter (fun t => t ∉ keys) ∧ outside ≠ []
  nodup_external : (g.external.map (·.1)).Nodup
  nodup_edges : g.edges.Nodup

variable {files : List SourceFile} {keys : List String} {f : SourceFile}

/-- A file of its own path imports what it says, apart from itself. -/
theorem importsOf_of_mem (hdistinct : (files.map (·.path)).Nodup) (hf : f ∈ files) (himports : f.imports.Nodup) :
    importsOf files f.path = f.imports.filter (· ≠ f.path) := by
  have hfound : files.find? (·.path == f.path) = some f := (find?_key_eq_some hdistinct).mpr ⟨hf, rfl⟩
  rw [importsOf, hfound, Option.map_some, Option.getD_some, distinctTargets, eraseDups_of_nodup (himports.filter _)]

variable [Scalar α]

theorem ofFiles_isGraphOfScan (formula : CouplingFormula) (hdistinct : (files.map (·.path)).Nodup)
    (himports : ∀ f ∈ files, f.imports.Nodup) (hkeys : ∀ p, p ∈ files.map (·.path) ↔ p ∈ keys) :
    (ofFiles formula files : DependencyGraph α).IsGraphOfScan files keys := by
  have hpaths : ∀ p, p ∈ pathsOf files ↔ p ∈ keys := fun p => by rw [pathsOf, List.mem_eraseDups, hkeys]
  refine ⟨?_, fun p => ?_, fun p t => ?_, fun p outside => ?_, nodup_external_ofFiles formula files,
    nodup_edges_ofFiles formula files⟩
  · rw [paths_ofFiles, pathsOf, eraseDups_of_nodup hdistinct]
  · rw [paths_ofFiles, hpaths]
  · rw [mem_internalEdges_ofFiles, hpaths t, mem_pathsOf]
    constructor
    · rintro ⟨⟨f, hf, rfl⟩, ht, htkeys⟩
      rw [importsOf_of_mem hdistinct hf (himports f hf), List.mem_filter, decide_eq_true_eq] at ht
      exact ⟨f, hf, rfl, ht.1, htkeys, ht.2⟩
    · rintro ⟨f, hf, rfl, ht, htkeys, hne⟩
      refine ⟨⟨f, hf, rfl⟩, ?_, htkeys⟩
      rw [importsOf_of_mem hdistinct hf (himports f hf)]
      exact List.mem_filter.mpr ⟨ht, decide_eq_true hne⟩
  · -- A file does not import itself in the graph, and it is no outside import either: its path is a key.
    have houtside : ∀ f ∈ files, (importsOf files f.path).filter (fun t => t ∉ pathsOf files) =
        f.imports.filter fun t => t ∉ keys := by
      intro f hf
      rw [importsOf_of_mem hdistinct hf (himports f hf), List.filter_filter]
      refine List.filter_congr fun t _ => ?_
      have hself : t ∉ keys → t ≠ f.path := by
        rintro ht rfl
        exact ht ((hkeys _).mp (List.mem_map_of_mem hf))
      simp only [hpaths, ← Bool.decide_and]
      exact decide_eq_decide.mpr (and_iff_left_of_imp hself)
    rw [mem_external_ofFiles, mem_pathsOf]
    constructor
    · rintro ⟨⟨f, hf, rfl⟩, hout, hne⟩
      exact ⟨f, hf, rfl, hout.trans (houtside f hf), hne⟩
    · rintro ⟨f, hf, rfl, hout, hne⟩
      exact ⟨⟨f, hf, rfl⟩, hout.trans (houtside f hf).symm, hne⟩

theorem ofSupplied_records (formula : CouplingFormula) (files : List SourceFile) :
    ofSupplied formula (.list (files.map .record)) = .ok (ofFiles formula files : DependencyGraph α) := by
  have hrecords : Supplied.requireRecords "files" (files.map .record) = .ok files := by
    rw [Supplied.requireRecords, mapM_eq_ok, List.forall₂_map_left_iff, List.forall₂_same]
    exact fun f _ => rfl
  rw [ofSupplied, Supplied.require]
  exact congrArg (Except.map (ofFiles formula)) hrecords

end GraphOfScan

end DependencyGraph

/-! ### Scanning and assembling -/

namespace SourceFile

open DependencyGraph

variable {α : Type} [Scalar α] {sources : List (String × Option String)}

/-- **A scan loses no import and invents none.** For the sources and the options of a caller it succeeds, each file
holds the targets of the specifiers in its text, and the graph of the files leads inside and outside as these imports
do. -/
theorem scanSupplied_isScanOf (hdistinct : (sources.map (·.1)).Nodup) (aliases : List (String × List String))
    (packages : List (String × String)) (goModule : Option String) :
    ∃ files, scanSupplied (some sources) aliases packages goModule = .ok files ∧
      IsScanOf files sources ⟨sources.map (·.1), aliases, packages, goModule⟩ ∧
      ∀ formula, ∃ g : DependencyGraph α, ofSupplied formula (.list (files.map .record)) = .ok g ∧
        g.IsGraphOfScan files (sources.map (·.1)) := by
  have hscan : IsScanOf (scan sources aliases packages goModule) sources
      ⟨sources.map (·.1), aliases, packages, goModule⟩ := scan_isScanOf hdistinct
  have hpaths : ((scan sources aliases packages goModule).map (·.path)).Nodup :=
    hscan.ascending.imp fun h => Std.ne_of_lt h
  exact ⟨_, rfl, hscan, fun formula => ⟨_, ofSupplied_records formula _,
    ofFiles_isGraphOfScan formula hpaths hscan.nodup_imports hscan.mem_paths⟩⟩

/-- A file that imports another one and a module from elsewhere: the graph has the edge between the two. -/
theorem scanSupplied_of_two :
    let sources := [("b.py", some "import a, os"), ("a.py", none)]
    (sources.map (·.1)).Nodup ∧ ∃ files, scanSupplied (some sources) [] [] none = .ok files ∧
      IsScanOf files sources ⟨sources.map (·.1), [], [], none⟩ ∧
      ∃ g : DependencyGraph Float, ofSupplied .fanInRelative (.list (files.map .record)) = .ok g ∧
        g.IsGraphOfScan files (sources.map (·.1)) ∧ ("b.py", "a.py") ∈ g.internalEdges := by
  intro sources
  have hdistinct : (sources.map (·.1)).Nodup := by decide
  obtain ⟨files, hfiles, hscan, hgraph⟩ := scanSupplied_isScanOf (α := Float) hdistinct [] [] none
  obtain ⟨g, hg, hisGraph⟩ := hgraph .fanInRelative
  refine ⟨hdistinct, files, hfiles, hscan, g, hg, hisGraph, (hisGraph.mem_internal _ _).mpr ?_⟩
  obtain ⟨f, hf, hpath⟩ := List.mem_map.mp ((hscan.mem_paths "b.py").mpr (by decide))
  refine ⟨f, hf, hpath, (hscan.mem_imports f hf "import a, os" ?_ "a.py").mpr ⟨"a", ?_, .inl ?_⟩, by decide, by decide⟩
  · rw [hpath]
    exact List.mem_cons_self
  · rw [hpath]
    decide +kernel
  · rw [hpath]
    decide +kernel

end SourceFile

end RepoSurvey
