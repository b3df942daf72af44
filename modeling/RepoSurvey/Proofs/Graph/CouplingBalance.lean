import RepoSurvey.Proofs.Architecture.Inside
import RepoSurvey.Proofs.Number.DoubleRange
import RepoSurvey.Proofs.Number.ExactScalar
import RepoSurvey.Proofs.Number.Totals

/-!
# Coupling of a whole graph

Every import inside counts once for the file that imports and once for the file that is imported, so that both kinds of
coupling add up to the edges inside. All measures and scores of a file are shares of something.

* `DependencyGraph.IsBalanced`: what the couplings of all files add up to.
* `CouplingMetrics.IsMeasureOf`: the measures of a file are between zero and one, before they are rounded and after.
* `Scalar.KeepsOrder`: scalars that stand for rationals in their order, as doubles do.
* `DependencyGraph.HasRelativeScores`: scores that are relative to the most imported file.
* `DependencyGraph.ofFiles_coupling`: all of it for the graph of any files.
-/

namespace RepoSurvey

/-! ### Both kinds of coupling -/

namespace DependencyGraph

open Assembly

variable {α : Type}

/-- Every edge inside counts once for the file that imports and once for the one that is imported. -/
structure IsBalanced (g : DependencyGraph α) : Prop where
  /-- Every node has measures. -/
  paths : g.metrics.map (·.1) = g.paths
  afferent : total (g.metrics.map (·.2.afferent)) = g.internalEdges.length
  efferent : total (g.metrics.map (·.2.efferent)) = g.internalEdges.length

section Balance

variable (files : List SourceFile) [Scalar α] (formula : CouplingFormula)

/-- The edges inside, file by file. -/
theorem length_internalEdges_ofFiles : (ofFiles formula files : DependencyGraph α).internalEdges.length =
    total ((pathsOf files).map fun p => (insideOf files p).length) := by
  rw [internalEdges_ofFiles, List.length_flatMap]
  simp only [List.length_map]
  rfl

/-- The imports of a file inside are the files that it is an importer of. -/
theorem length_insideOf (p : String) :
    (insideOf files p).length = ((pathsOf files).filter fun t => t ∈ importsOf files p).length := by
  refine List.Perm.length_eq ((List.perm_ext_iff_of_nodup ?_ ?_).mpr fun t => ?_)
  · exact (nodup_importsOf files p).filter _
  · exact (nodup_pathsOf files).filter _
  · simp [insideOf, and_comm]

/-- The importers of all files are as many as their imports inside. -/
theorem total_importersOf : total ((pathsOf files).map fun p => (importersOf files p).length) =
    total ((pathsOf files).map fun p => (insideOf files p).length) := by
  simp only [length_insideOf]
  exact total_filter_comm (fun p q => decide (p ∈ importsOf files q)) (pathsOf files) (pathsOf files)

/-- What is measured of every file, path by path. -/
theorem map_metrics_ofFiles {β : Type} (view : String → CouplingMetrics α → β) (measure : String → β)
    (h : ∀ f, f.path ∈ pathsOf files → view f.path ((Imports.ofFiles files).metrics f) = measure f.path) :
    ((ofFiles formula files : DependencyGraph α).metrics.map fun e => view e.1 e.2) =
      (pathsOf files).map measure := by
  have hpaths : (Imports.firstOfEach files).map (·.path) = pathsOf files := Imports.paths_firstOfEach files
  have hopened : (ofFiles formula files : DependencyGraph α).metrics =
      (Imports.firstOfEach files).map fun f => (f.path, (Imports.ofFiles files).metrics f) := rfl
  rw [hopened, List.map_map, ← hpaths, List.map_map]
  refine List.map_congr_left fun f hf => h f ?_
  rw [← hpaths]
  exact List.mem_map_of_mem hf

theorem isBalanced_ofFiles : (ofFiles formula files : DependencyGraph α).IsBalanced where
  paths := by
    rw [map_metrics_ofFiles files formula (fun p _ => p) id fun _ _ => rfl, List.map_id, paths_ofFiles]
  afferent := by
    rw [map_metrics_ofFiles files formula (fun _ m => m.afferent) (fun p => (importersOf files p).length)
      fun f hf => fanIn_entries files hf, total_importersOf, length_internalEdges_ofFiles]
  efferent := by
    have hlength : ∀ f : SourceFile, f.path ∈ pathsOf files →
        ((Imports.ofFiles files).metrics f : CouplingMetrics α).efferent = (insideOf files f.path).length :=
      fun f hf => congrArg List.length (internal_entries files hf)
    rw [map_metrics_ofFiles files formula (fun _ m => m.efferent) (fun p => (insideOf files p).length) hlength,
      length_internalEdges_ofFiles]

end Balance

end DependencyGraph

/-! ### Measures in exact arithmetic -/

/-- A share in exact arithmetic and what is reported of it: both are between zero and one. -/
structure IsShare (exact reported : Rat) : Prop where
  nonneg : 0 ≤ exact
  le_one : exact ≤ 1
  rounded : reported = Rat.roundPlaces 3 exact
  reported_nonneg : 0 ≤ reported
  reported_le_one : reported ≤ 1

namespace CouplingMetrics

/-- The measures of a file are shares that come from its couplings and its types. -/
structure IsMeasureOf (m : CouplingMetrics Rat) (f : SourceFile) : Prop where
  instability : IsShare (Imports.instability m.afferent m.efferent) m.instability
  abstractness : IsShare (Imports.abstractness f) m.abstractness
  distance : IsShare |Imports.abstractness f + Imports.instability m.afferent m.efferent - 1| m.distance

end CouplingMetrics

namespace Imports

theorem isShare_of_mem {q : Rat} (h : q ∈ Set.Icc 0 1) : IsShare q (Scalar.roundPlaces 3 q) where
  nonneg := h.1
  le_one := h.2
  rounded := Scalar.roundPlaces_rat 3 q
  reported_nonneg := by
    rw [Scalar.roundPlaces_rat]
    exact (Rat.roundPlaces_mem_Icc 3 h).1
  reported_le_one := by
    rw [Scalar.roundPlaces_rat]
    exact (Rat.roundPlaces_mem_Icc 3 h).2

/-- A part of a whole is a share, also when nothing is there. -/
theorem share_mem (part whole : Int) (hpart : 0 ≤ part) (hwhole : part ≤ whole) :
    (if 0 < whole then Scalar.quot part whole else Scalar.zero : Rat) ∈ Set.Icc 0 1 := by
  split
  · next hpos =>
    have hpos' : (0 : Rat) < whole := by exact_mod_cast hpos
    have hle : (part : Rat) ≤ whole := by exact_mod_cast hwhole
    exact ⟨div_nonneg (by exact_mod_cast hpart) hpos'.le, (div_le_one hpos').mpr hle⟩
  · exact ⟨le_refl 0, zero_le_one⟩

theorem instability_mem (afferent efferent : Nat) : (instability afferent efferent : Rat) ∈ Set.Icc 0 1 := by
  have hshare := share_mem efferent (afferent + efferent : Nat) (by omega) (by omega)
  rw [instability]
  simpa only [Int.natCast_pos] using hshare

theorem abstractness_mem {f : SourceFile} (habstract : 0 ≤ f.abstractTypes) (hconcrete : 0 ≤ f.concreteTypes) :
    (abstractness f : Rat) ∈ Set.Icc 0 1 :=
  share_mem _ _ habstract (by omega)

/-- How far two shares are from adding up to one is a share. -/
theorem isShare_distance {a i : Rat} (ha : a ∈ Set.Icc 0 1) (hi : i ∈ Set.Icc 0 1) :
    IsShare |a + i - 1| (Scalar.roundPlaces 3 (Scalar.magnitude (a + i - Scalar.one))) := by
  rw [Scalar.magnitude_rat]
  refine isShare_of_mem ⟨abs_nonneg _, abs_le.mpr ⟨?_, ?_⟩⟩
  · linarith [ha.1, hi.1]
  · linarith [ha.2, hi.2]

/-- **The measures of a file** with no negative count of types. -/
theorem isMeasureOf_metrics (g : Imports) {f : SourceFile} (habstract : 0 ≤ f.abstractTypes)
    (hconcrete : 0 ≤ f.concreteTypes) : (g.metrics f : CouplingMetrics Rat).IsMeasureOf f := by
  have hinstability := instability_mem (g.fanIn f.path) (g.internal f.path).length
  have habstractness := abstractness_mem habstract hconcrete
  exact ⟨isShare_of_mem hinstability, isShare_of_mem habstractness, isShare_distance habstractness hinstability⟩

end Imports

namespace DependencyGraph

open Assembly

/-- The measures of a graph belong to the first file of each path. -/
theorem isMeasureOf_ofFiles {files : List SourceFile} (htypes : ∀ f ∈ files, 0 ≤ f.abstractTypes ∧ 0 ≤ f.concreteTypes)
    (formula : CouplingFormula) {e : String × CouplingMetrics Rat}
    (he : e ∈ (ofFiles formula files : DependencyGraph Rat).metrics) :
    ∃ f, files.find? (·.path == e.1) = some f ∧ e.2.IsMeasureOf f := by
  obtain ⟨f, hf, rfl⟩ := List.mem_map.mp he
  have hfind : files.find? (·.path == f.path) = some f := by
    rw [← Imports.find?_firstOfEach]
    exact (find?_key_eq_some (Imports.nodup_firstOfEach files)).mpr ⟨hf, rfl⟩
  obtain ⟨habstract, hconcrete⟩ := htypes f (List.mem_of_find?_eq_some hfind)
  exact ⟨f, hfind, Imports.isMeasureOf_metrics _ habstract hconcrete⟩

end DependencyGraph

/-! ### Scalars in the order of the rationals -/

namespace Scalar

/-- The scalars nearest to rationals are ordered as these are, and one of two is not greater than the other. -/
structure KeepsOrder (α : Type) [Scalar α] : Prop where
  mono : ∀ {q r : Rat}, q ≤ r → le (ofRat q : α) (ofRat r) = true
  total : ∀ {q r : Rat}, lt (ofRat r : α) (ofRat q) = false → le (ofRat q : α) (ofRat r) = true

theorem keepsOrder_rat : KeepsOrder Rat where
  mono h := decide_eq_true h
  total h := decide_eq_true (not_lt.mp (of_decide_eq_false h))

theorem keepsOrder_float : KeepsOrder Float where
  mono h := Double.le_eq_true.mpr (Double.ofRat_mono h)
  total {q r} h := by
    have hrank : ∀ q : Rat, (Double.rank? (Double.ofRat q)).isSome := fun q => by
      obtain ⟨p, -, hp⟩ := Double.rank?_ofRat q
      exact Option.isSome_of_eq_some hp
    exact Double.le_eq_true.mpr (Double.le_of_not_lt (hrank r) (hrank q) h)

end Scalar

/-! ### Scores -/

namespace DependencyGraph

open Assembly

variable {α : Type} [Scalar α]

/-- Every score is between zero and one. -/
structure HasBoundedScores (g : DependencyGraph α) : Prop where
  nonneg : ∀ n ∈ g.nodes, Scalar.le Scalar.zero n.coupling = true
  le_one : ∀ n ∈ g.nodes, Scalar.le n.coupling Scalar.one = true

/-- The scores follow the importers: the most imported file has the score one, unless nothing is imported. -/
structure HasRelativeScores (g : DependencyGraph α) : Prop extends HasBoundedScores g where
  ordered : ∀ n ∈ g.nodes, ∀ n' ∈ g.nodes, n.fanIn ≤ n'.fanIn → Scalar.le n.coupling n'.coupling = true
  largest : g.internalEdges ≠ [] → ∃ n ∈ g.nodes, n.coupling = Scalar.one
  absent : g.internalEdges = [] → ∀ n ∈ g.nodes, n.coupling = Scalar.zero

section Relative

variable (files : List SourceFile)

/-- The most importers of a file. -/
def peak : Nat := (Imports.ofFiles files).maxFanIn

/-- A file is imported where an edge inside leads to it. -/
theorem exists_edge_iff (p : String) (hp : p ∈ pathsOf files) :
    0 < (importersOf files p).length ↔
      ∃ q, (q, p) ∈ (ofFiles .fanInRelative files : DependencyGraph α).internalEdges := by
  simp only [List.length_pos_iff_exists_mem, importersOf, List.mem_filter, mem_internalEdges_ofFiles, hp, and_true,
    decide_eq_true_eq]

theorem le_peak {p : String} (hp : p ∈ pathsOf files) : (importersOf files p).length ≤ peak files := by
  have hmem := List.mem_map_of_mem (f := fun p => (importersOf files p).length) hp
  rw [peak, maxFanIn_entries, foldl_max_eq_max (List.ne_nil_of_mem hmem)]
  exact List.le_max_of_mem hmem

/-- Some file has the most importers. -/
theorem exists_peak (hne : pathsOf files ≠ []) : ∃ p ∈ pathsOf files, (importersOf files p).length = peak files := by
  have hcounts : (pathsOf files).map (fun p => (importersOf files p).length) ≠ [] := by simpa using hne
  rw [peak, maxFanIn_entries, foldl_max_eq_max hcounts]
  exact List.mem_map.mp (List.max_mem hcounts)

/-- The score of a file is its share in the most importers, also where nothing is imported. -/
theorem coupling_nodeOf {p : String} (hp : p ∈ pathsOf files) :
    (nodeOf files .fanInRelative p : FileNode α).coupling =
      Scalar.ofRat (((importersOf files p).length : Rat) / (peak files : Rat)) := by
  have hopened : (nodeOf files .fanInRelative p : FileNode α).coupling = if peak files = 0 then Scalar.zero else
      Scalar.ofRat ((((Imports.ofFiles files).fanIn p : Int) : Rat) / ((peak files : Int) : Rat)) := rfl
  rw [hopened, fanIn_entries files hp, Int.cast_natCast, Int.cast_natCast]
  split
  · next hzero =>
    rw [hzero, Nat.cast_zero, div_zero]
    rfl
  · rfl

/-- Every node stands for a file. -/
theorem exists_nodeOf {formula : CouplingFormula} {n : FileNode α}
    (hn : n ∈ (ofFiles formula files : DependencyGraph α).nodes) : ∃ p ∈ pathsOf files, nodeOf files formula p = n := by
  rw [nodes_eq_nodeOf] at hn
  exact List.mem_map.mp hn

theorem share_peak_le_one {p : String} (hp : p ∈ pathsOf files) :
    ((importersOf files p).length : Rat) / (peak files : Rat) ≤ 1 :=
  div_le_one_of_le₀ (by exact_mod_cast le_peak files hp) (Nat.cast_nonneg _)

variable (order : Scalar.KeepsOrder α)
include order

/-- **Scores relative to the most imported file.** -/
theorem hasRelativeScores_ofFiles : (ofFiles .fanInRelative files : DependencyGraph α).HasRelativeScores where
  nonneg n hn := by
    obtain ⟨p, hp, rfl⟩ := exists_nodeOf files hn
    rw [coupling_nodeOf files hp]
    exact order.mono (div_nonneg (Nat.cast_nonneg _) (Nat.cast_nonneg _))
  le_one n hn := by
    obtain ⟨p, hp, rfl⟩ := exists_nodeOf files hn
    rw [coupling_nodeOf files hp]
    exact order.mono (share_peak_le_one files hp)
  ordered n hn n' hn' hle := by
    obtain ⟨p, hp, rfl⟩ := exists_nodeOf files hn
    obtain ⟨p', hp', rfl⟩ := exists_nodeOf files hn'
    rw [coupling_nodeOf files hp, coupling_nodeOf files hp']
    exact order.mono (div_le_div_of_nonneg_right (Nat.cast_le.mpr hle) (Nat.cast_nonneg _))
  largest hne := by
    -- The end of an edge inside has an importer, so that the greatest number of importers is not zero.
    obtain ⟨⟨q, t⟩, hedge⟩ := List.exists_mem_of_ne_nil _ hne
    have ht := ((mem_internalEdges_ofFiles _ files).mp hedge).2.2
    have hpos := ((exists_edge_iff (α := α) files t ht).mpr ⟨q, hedge⟩).trans_le (le_peak files ht)
    obtain ⟨p, hp, hpeak⟩ := exists_peak files (List.ne_nil_of_mem ht)
    refine ⟨nodeOf files .fanInRelative p, ?_, ?_⟩
    · rw [nodes_eq_nodeOf]
      exact List.mem_map_of_mem hp
    · rw [coupling_nodeOf files hp, hpeak, div_self (Nat.cast_ne_zero.mpr hpos.ne')]
      rfl
  absent hnil n hn := by
    obtain ⟨p, hp, rfl⟩ := exists_nodeOf files hn
    have hzero : (importersOf files p).length = 0 := by
      by_contra hne
      obtain ⟨q, hedge⟩ := (exists_edge_iff (α := α) files p hp).mp (Nat.pos_of_ne_zero hne)
      rw [hnil] at hedge
      exact List.not_mem_nil hedge
    rw [coupling_nodeOf files hp, hzero, Nat.cast_zero, zero_div]
    rfl

/-- **Scores relative to the number of files** are capped. -/
theorem hasBoundedScores_ofFiles : (ofFiles .fanBlend files : DependencyGraph α).HasBoundedScores := by
  have hscore : ∀ n ∈ (ofFiles .fanBlend files : DependencyGraph α).nodes, ∃ part whole : Nat,
      n.coupling = Scalar.smaller (Scalar.ofRat ((part : Rat) / (whole : Rat))) Scalar.one := by
    intro n hn
    obtain ⟨p, -, rfl⟩ := exists_nodeOf files hn
    refine ⟨(Imports.ofFiles files).fanIn p + (importsOf files p).length, (Imports.ofFiles files).length, ?_⟩
    rw [← Int.cast_natCast, ← Int.cast_natCast (Imports.ofFiles files).length]
    rfl
  refine ⟨fun n hn => ?_, fun n hn => ?_⟩
  · obtain ⟨part, whole, hn⟩ := hscore n hn
    rw [hn, Scalar.smaller]
    split
    · exact order.mono zero_le_one
    · exact order.mono (div_nonneg (Nat.cast_nonneg _) (Nat.cast_nonneg _))
  · obtain ⟨part, whole, hn⟩ := hscore n hn
    rw [hn, Scalar.smaller]
    split
    · exact order.mono (le_refl 1)
    · next hless => exact order.total (Bool.not_eq_true _ ▸ hless)

omit order

/-- In exact arithmetic the scores tell the numbers of importers apart. -/
theorem coupling_le_iff {n n' : FileNode Rat} (hn : n ∈ (ofFiles .fanInRelative files : DependencyGraph Rat).nodes)
    (hn' : n' ∈ (ofFiles .fanInRelative files : DependencyGraph Rat).nodes) :
    n.coupling ≤ n'.coupling ↔ n.fanIn ≤ n'.fanIn := by
  obtain ⟨p, hp, rfl⟩ := exists_nodeOf files hn
  obtain ⟨p', hp', rfl⟩ := exists_nodeOf files hn'
  have hle := le_peak files hp
  rw [coupling_nodeOf files hp, coupling_nodeOf files hp']
  show ((importersOf files p).length : Rat) / peak files ≤ (importersOf files p').length / peak files ↔
    (importersOf files p).length ≤ (importersOf files p').length
  rcases Nat.eq_zero_or_pos (peak files) with hzero | hpos
  · simp only [hzero, Nat.cast_zero, div_zero, le_refl, true_iff]
    omega
  · rw [div_le_div_iff_of_pos_right (Nat.cast_pos.mpr hpos), Nat.cast_le]

end Relative

/-! ### The graph of any files -/

/-- **Coupling balances and stays in range**: of files with no negative count of types both kinds of coupling add up to
the edges inside, all measures are shares, and so are the scores, which follow the importers where they are relative to
the most imported file. -/
theorem ofFiles_coupling {files : List SourceFile}
    (htypes : ∀ f ∈ files, 0 ≤ f.abstractTypes ∧ 0 ≤ f.concreteTypes) :
    (∀ formula, (ofFiles formula files : DependencyGraph Rat).IsBalanced ∧
      (ofFiles formula files : DependencyGraph Float).IsBalanced ∧
      ∀ e ∈ (ofFiles formula files : DependencyGraph Rat).metrics,
        ∃ f, files.find? (·.path == e.1) = some f ∧ e.2.IsMeasureOf f) ∧
    ((ofFiles .fanInRelative files : DependencyGraph Rat).HasRelativeScores ∧
      (ofFiles .fanInRelative files : DependencyGraph Float).HasRelativeScores ∧
      ∀ n ∈ (ofFiles .fanInRelative files : DependencyGraph Rat).nodes,
      ∀ n' ∈ (ofFiles .fanInRelative files : DependencyGraph Rat).nodes,
        n.coupling ≤ n'.coupling ↔ n.fanIn ≤ n'.fanIn) ∧
    (ofFiles .fanBlend files : DependencyGraph Rat).HasBoundedScores ∧
    (ofFiles .fanBlend files : DependencyGraph Float).HasBoundedScores := by
  refine ⟨fun formula => ⟨isBalanced_ofFiles files formula, isBalanced_ofFiles files formula, fun e =>
    isMeasureOf_ofFiles htypes formula⟩, ⟨?_, ?_, fun n hn n' hn' => coupling_le_iff files hn hn'⟩, ?_, ?_⟩
  · exact hasRelativeScores_ofFiles files Scalar.keepsOrder_rat
  · exact hasRelativeScores_ofFiles files Scalar.keepsOrder_float
  · exact hasBoundedScores_ofFiles files Scalar.keepsOrder_rat
  · exact hasBoundedScores_ofFiles files Scalar.keepsOrder_float

/-- An interface that two classes import, one of which imports the other class and a package outside as well: three
edges inside, and scores of one, one half and nothing. -/
theorem ofFiles_coupling_of_three :
    let files : List SourceFile := [⟨"a.ts", ["b.ts", "c.ts", "react"], none, 0, 0, 0, 1⟩,
      ⟨"b.ts", ["c.ts"], none, 0, 0, 1, 2⟩, ⟨"c.ts", [], none, 0, 0, 1, 0⟩]
    let g : DependencyGraph Rat := ofFiles .fanInRelative files
    (∀ f ∈ files, 0 ≤ f.abstractTypes ∧ 0 ≤ f.concreteTypes) ∧ g.IsBalanced ∧ g.HasRelativeScores ∧
      g.internalEdges = [("a.ts", "b.ts"), ("a.ts", "c.ts"), ("b.ts", "c.ts")] ∧
      g.nodes.map (·.coupling) = [0, 1 / 2, 1] ∧
      g.metrics.map (fun e => (e.2.afferent, e.2.efferent, e.2.instability, e.2.abstractness, e.2.distance)) =
        [(0, 2, 1, 0, 0), (1, 1, 1 / 2, 333 / 1000, 167 / 1000), (2, 0, 0, 1, 0)] := by
  intro files g
  have htypes : ∀ f ∈ files, 0 ≤ f.abstractTypes ∧ 0 ≤ f.concreteTypes := by decide
  have hcoupling := ofFiles_coupling htypes
  exact ⟨htypes, (hcoupling.1 .fanInRelative).1, hcoupling.2.1.1, by decide, by decide +kernel, by decide +kernel⟩

end DependencyGraph
end RepoSurvey
