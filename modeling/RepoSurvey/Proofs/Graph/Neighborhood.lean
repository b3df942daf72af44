import Mathlib.Combinatorics.SimpleGraph.Metric
import RepoSurvey.Proofs.Architecture.Inside

/-!
# Neighbourhoods

The levels of a neighbourhood are the files at one distance each, in the graph of imports without their directions.

* `importGraph`: the imports between files, without their directions.
* `IsBand g target lo hi found`: a list holds the files whose distance lies between two numbers, each once, the nearest
  first.
* `Frontier.next`: the unseen neighbours of the files at one distance are those at the next one.
* `isBand_levels`: the levels of a search hold the files from one distance on.
-/

namespace RepoSurvey
namespace DependencyGraph

open Assembly

variable {α : Type}

/-- The imports between files, without their directions. -/
def importGraph (g : DependencyGraph α) : SimpleGraph String :=
  SimpleGraph.fromRel fun p q => (p, q) ∈ g.internalEdges

/-- How many imports lie between two files, in either direction. -/
noncomputable abbrev distance (g : DependencyGraph α) (p q : String) : ℕ∞ := g.importGraph.edist p q

/-- The paths of a graph tell its nodes apart, and a node has the files next to it as its neighbours. -/
structure IsIndexed (g : DependencyGraph α) : Prop where
  distinct : g.paths.Nodup
  neighbours : ∀ n ∈ g.nodes, ∀ p, p ∈ g.neighbours n ↔ g.importGraph.Adj n.path p
  files : ∀ p q, g.importGraph.Adj p q → p ∈ g.paths

/-! ### The graph of some files is indexed -/

section OfFiles

variable [Scalar α] (formula : CouplingFormula) (files : List SourceFile)

theorem adj_ofFiles {p q : String} : (ofFiles formula files : DependencyGraph α).importGraph.Adj p q ↔
    p ∈ pathsOf files ∧ q ∈ pathsOf files ∧ (q ∈ importsOf files p ∨ p ∈ importsOf files q) := by
  rw [importGraph, SimpleGraph.fromRel_adj, mem_internalEdges_ofFiles, mem_internalEdges_ofFiles]
  constructor
  · rintro ⟨-, ⟨hp, ht, hq⟩ | ⟨hq, ht, hp⟩⟩
    · exact ⟨hp, hq, .inl ht⟩
    · exact ⟨hp, hq, .inr ht⟩
  · rintro ⟨hp, hq, ht | ht⟩
    · exact ⟨(ne_of_mem_importsOf files ht).symm, .inl ⟨hp, ht, hq⟩⟩
    · exact ⟨ne_of_mem_importsOf files ht, .inr ⟨hq, ht, hp⟩⟩

theorem isIndexed_ofFiles : (ofFiles formula files : DependencyGraph α).IsIndexed where
  distinct := nodup_paths_ofFiles formula files
  neighbours := by
    intro n hn p
    rw [nodes_eq_nodeOf] at hn
    obtain ⟨q, hq, rfl⟩ := List.mem_map.mp hn
    rw [neighbours, List.mem_filter, List.mem_append, isFile_ofFiles, decide_eq_true_eq, adj_ofFiles]
    simp only [nodeOf, importersOf, List.mem_filter, decide_eq_true_eq]
    tauto
  files := by
    intro p q hpq
    rw [paths_ofFiles]
    exact ((adj_ofFiles formula files).mp hpq).1

end OfFiles

/-! ### Distances -/

section Distance

variable {V : Type} {G : SimpleGraph V} {u v : V} {k : ℕ}

/-- What is one step further away is next to something at the distance before, and is no nearer. -/
theorem edist_eq_succ_iff :
    G.edist u v = (k + 1 : ℕ) ↔ (∃ w, G.edist u w = k ∧ G.Adj w v) ∧ ¬G.edist u v ≤ k := by
  constructor
  · intro h
    obtain ⟨way, hway⟩ := SimpleGraph.exists_walk_of_edist_eq_coe h
    have hnil : ¬way.Nil := by
      rw [← SimpleGraph.Walk.length_eq_zero_iff]
      omega
    have hlast : G.Adj way.penultimate v := way.adj_penultimate hnil
    have hnear : G.edist u way.penultimate ≤ k := by
      refine way.dropLast.edist_le.trans ?_
      rw [SimpleGraph.Walk.length_dropLast, hway, Nat.add_sub_cancel]
    have hfar : (k + 1 : ℕ∞) ≤ G.edist u way.penultimate + 1 := by
      have htriangle : G.edist u v ≤ G.edist u way.penultimate + G.edist way.penultimate v :=
        SimpleGraph.edist_triangle
      rw [h, SimpleGraph.edist_eq_one_iff_adj.mpr hlast] at htriangle
      exact_mod_cast htriangle
    refine ⟨⟨way.penultimate, le_antisymm hnear ?_, hlast⟩, ?_⟩
    · exact (ENat.add_le_add_iff_right ENat.one_ne_top).mp hfar
    · rw [h]
      exact_mod_cast Nat.not_succ_le_self k
  · rintro ⟨⟨w, hw, hwv⟩, hfar⟩
    have htriangle : G.edist u v ≤ G.edist u w + G.edist w v := SimpleGraph.edist_triangle
    rw [hw, SimpleGraph.edist_eq_one_iff_adj.mpr hwv] at htriangle
    refine le_antisymm ?_ ?_
    · exact_mod_cast htriangle
    · exact_mod_cast Order.add_one_le_of_lt (not_le.mp hfar)

end Distance

/-! ### Level by level -/

section Levels

variable {g : DependencyGraph α} {target : String} {seen : List String} {level : List (FileNode α)} {k : ℕ}

theorem IsIndexed.node?_eq_some (hg : g.IsIndexed) {p : String} {n : FileNode α} :
    g.node? p = some n ↔ n ∈ g.nodes ∧ n.path = p := find?_key_eq_some hg.distinct

theorem mem_unseen {found : List String} {p : String} : p ∈ unseen seen found ↔ p ∈ found ∧ p ∉ seen := by
  rw [unseen, List.mem_eraseDups, List.mem_filter]
  simp

theorem nodup_unseen (seen found : List String) : (unseen seen found).Nodup := nodup_eraseDups _

/-- The nodes of some paths have distinct paths if these are distinct. -/
theorem paths_filterMap_node? (g : DependencyGraph α) (paths : List String) :
    ((paths.filterMap g.node?).map (·.path)).Sublist paths := by
  induction paths with
  | nil => exact List.Sublist.slnil
  | cons p rest ih =>
    cases hp : g.node? p with
    | none =>
      rw [List.filterMap_cons_none hp]
      exact ih.cons p
    | some n =>
      have hpath : n.path = p := by simpa using List.find?_some hp
      rw [List.filterMap_cons_some hp, List.map_cons, hpath]
      exact ih.cons_cons p

/-- A search has seen the files up to a distance, and the last level holds those at it. -/
structure Frontier (g : DependencyGraph α) (target : String) (k : ℕ) (seen : List String)
    (level : List (FileNode α)) : Prop where
  mem_seen : ∀ p, p ∈ seen ↔ g.distance target p ≤ k
  mem_level : ∀ n, n ∈ level ↔ n ∈ g.nodes ∧ g.distance target n.path = k
  distinct : (level.map (·.path)).Nodup

namespace Frontier

/-- The unseen neighbours of a level are the paths one step further away. -/
theorem mem_next (hg : g.IsIndexed) (h : Frontier g target k seen level) {p : String} :
    p ∈ unseen seen (level.flatMap g.neighbours) ↔ g.distance target p = (k + 1 : ℕ) := by
  rw [mem_unseen, List.mem_flatMap, h.mem_seen, edist_eq_succ_iff]
  refine and_congr_left fun _ => ?_
  constructor
  · rintro ⟨n, hn, hp⟩
    obtain ⟨hnode, hdistance⟩ := (h.mem_level n).mp hn
    exact ⟨n.path, hdistance, (hg.neighbours n hnode p).mp hp⟩
  · rintro ⟨w, hw, hwp⟩
    obtain ⟨n, hnode, rfl⟩ := List.mem_map.mp (hg.files w p hwp)
    exact ⟨n, (h.mem_level n).mpr ⟨hnode, hw⟩, (hg.neighbours n hnode p).mpr hwp⟩

theorem next (hg : g.IsIndexed) (h : Frontier g target k seen level) :
    Frontier g target (k + 1) (seen ++ unseen seen (level.flatMap g.neighbours))
      ((unseen seen (level.flatMap g.neighbours)).filterMap g.node?) where
  mem_seen := by
    intro p
    rw [List.mem_append, h.mem_seen, h.mem_next hg]
    constructor
    · rintro (hp | hp)
      · exact hp.trans (by exact_mod_cast Nat.le_succ k)
      · exact hp.le
    · intro hp
      rcases hp.lt_or_eq with hlt | heq
      · exact .inl (Order.le_of_lt_add_one (by exact_mod_cast hlt))
      · exact .inr heq
  mem_level := by
    intro n
    rw [List.mem_filterMap]
    constructor
    · rintro ⟨p, hp, hn⟩
      obtain ⟨hnode, rfl⟩ := hg.node?_eq_some.mp hn
      exact ⟨hnode, (h.mem_next hg).mp hp⟩
    · rintro ⟨hnode, hn⟩
      exact ⟨n.path, (h.mem_next hg).mpr hn, hg.node?_eq_some.mpr ⟨hnode, rfl⟩⟩
  distinct := (nodup_unseen _ _).sublist (paths_filterMap_node? g _)

/-- The search begins with its target alone. -/
theorem start (hg : g.IsIndexed) {n : FileNode α} (hn : n ∈ g.nodes) : Frontier g n.path 0 [n.path] [n] where
  mem_seen := by
    intro p
    rw [List.mem_singleton, Nat.cast_zero, nonpos_iff_eq_zero, SimpleGraph.edist_eq_zero_iff, eq_comm]
  mem_level := by
    intro m
    rw [List.mem_singleton, Nat.cast_zero, SimpleGraph.edist_eq_zero_iff]
    constructor
    · rintro rfl
      exact ⟨hn, rfl⟩
    · rintro ⟨hm, hpath⟩
      exact List.inj_on_of_nodup_map hg.distinct hm hn hpath.symm
  distinct := List.nodup_singleton _

end Frontier

/-! ### Bands of distances -/

/-- A list holds the files whose distance from a file lies between two numbers, each once and the nearest first. -/
structure IsBand (g : DependencyGraph α) (target : String) (lo hi : ℕ) (found : List (FileNode α)) : Prop where
  mem : ∀ n, n ∈ found ↔ n ∈ g.nodes ∧ lo ≤ g.distance target n.path ∧ g.distance target n.path ≤ hi
  distinct : (found.map (·.path)).Nodup
  order : found.Pairwise fun m n => g.distance target m.path ≤ g.distance target n.path

theorem Frontier.isBand (h : Frontier g target k seen level) : IsBand g target k k level where
  mem := by
    intro n
    rw [h.mem_level, le_antisymm_iff, and_comm (a := (k : ℕ∞) ≤ _)]
  distinct := h.distinct
  order := by
    refine List.pairwise_of_forall_mem_list fun m hm n hn => ?_
    rw [((h.mem_level m).mp hm).2, ((h.mem_level n).mp hn).2]

/-- Two bands, one right outside the other, are one. -/
theorem IsBand.append {lo mid hi : ℕ} {near far : List (FileNode α)} (hnear : IsBand g target lo mid near)
    (hfar : IsBand g target (mid + 1) hi far) (hlo : lo ≤ mid + 1) (hhi : mid ≤ hi) :
    IsBand g target lo hi (near ++ far) := by
  have hapart : ∀ m ∈ near, ∀ n ∈ far, g.distance target m.path < g.distance target n.path := by
    intro m hm n hn
    have hlt : (mid : ℕ∞) < (mid + 1 : ℕ) := by exact_mod_cast Nat.lt_succ_self mid
    exact (((hnear.mem m).mp hm).2.2.trans_lt hlt).trans_le ((hfar.mem n).mp hn).2.1
  constructor
  · intro n
    rw [List.mem_append, hnear.mem, hfar.mem, ← and_or_left]
    refine and_congr_right fun _ => ?_
    constructor
    · rintro (⟨h, h'⟩ | ⟨h, h'⟩)
      · exact ⟨h, h'.trans (by exact_mod_cast hhi)⟩
      · exact ⟨le_trans (by exact_mod_cast hlo) h, h'⟩
    · rintro ⟨h, h'⟩
      rcases le_or_gt (g.distance target n.path) mid with hle | hgt
      · exact .inl ⟨h, hle⟩
      · exact .inr ⟨by exact_mod_cast Order.add_one_le_of_lt hgt, h'⟩
  · rw [List.map_append, List.nodup_append]
    refine ⟨hnear.distinct, hfar.distinct, ?_⟩
    intro p hp q hq hpq
    obtain ⟨m, hm, rfl⟩ := List.mem_map.mp hp
    obtain ⟨n, hn, rfl⟩ := List.mem_map.mp hq
    exact absurd (hapart m hm n hn) (by rw [hpq]; exact lt_irrefl _)
  · rw [List.pairwise_append]
    exact ⟨hnear.order, hfar.order, fun m hm n hn => (hapart m hm n hn).le⟩

theorem levels_nil (g : DependencyGraph α) (depth : Nat) (seen : List String) : g.levels depth seen [] = [] := by
  cases depth <;> rfl

/-- A level is followed by the levels from the next one on, also where it is empty. -/
theorem levels_succ (g : DependencyGraph α) (depth : Nat) (seen : List String) (level : List (FileNode α)) :
    g.levels (depth + 1) seen level = level ++ g.levels depth
      (seen ++ unseen seen (level.flatMap g.neighbours))
      ((unseen seen (level.flatMap g.neighbours)).filterMap g.node?) := by
  cases level with
  | nil => exact (levels_nil g depth _).symm
  | cons n rest => rfl

/-- **The levels of a search** hold the files from the distance of the first one on. -/
theorem isBand_levels (hg : g.IsIndexed) (depth : ℕ) (h : Frontier g target k seen level) :
    IsBand g target k (k + depth) (g.levels depth seen level) := by
  induction depth generalizing k seen level with
  | zero => exact h.isBand
  | succ depth ih =>
    have hfar : IsBand g target (k + 1) (k + 1 + depth) _ := ih (h.next hg)
    rw [levels_succ, show k + (depth + 1) = k + 1 + depth by omega]
    exact h.isBand.append hfar (Nat.le_succ k) (by omega)

/-- A search that goes further begins with what a shorter one finds. -/
theorem levels_prefix (g : DependencyGraph α) (depth : ℕ) (seen : List String) (level : List (FileNode α)) :
    g.levels depth seen level <+: g.levels (depth + 1) seen level := by
  induction depth generalizing seen level with
  | zero =>
    rw [levels_succ]
    exact List.prefix_append _ _
  | succ depth ih =>
    rw [levels_succ, levels_succ g (depth + 1)]
    exact (List.prefix_append_right_inj level).mpr (ih _ _)

end Levels

end DependencyGraph
end RepoSurvey
