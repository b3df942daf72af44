import RepoSurvey.Proofs.Graph.ImportRelation
import RepoSurvey.Proofs.Graph.SearchRun

/-!
# Import cycles

* `Acyclic`: no file leads back to itself.
* `closing_edges_cut_cycles`: without the imports that close the reported cycles, a graph has none.
* `cycles_genuine`: every reported cycle is one, and no two are of the same files.
-/

namespace RepoSurvey

/-- No way leads back to where it began. -/
def Acyclic (r : String → String → Prop) : Prop := ∀ p, ¬Relation.TransGen r p p

/-- A way from file to file is a path of the relation. -/
theorem transGen_of_isChain {r : String → String → Prop} {p q : String} {between : List String}
    (h : List.IsChain r (p :: (between ++ [q]))) : Relation.TransGen r p q := by
  induction between generalizing p with
  | nil => exact .single (List.isChain_cons_cons.mp h).1
  | cons b between ih =>
    obtain ⟨hpb, hrest⟩ := List.isChain_cons_cons.mp h
    exact .head hpb (ih hrest)

theorem Acyclic.mono {r r' : String → String → Prop} (h : Acyclic r') (hsub : ∀ p q, r p q → r' p q) : Acyclic r :=
  fun p hloop => h p (Relation.TransGen.mono hsub p p hloop)

namespace Search

variable {targets? : String → Option (List String)} {found : List Cycle} {done : List String}

/-- What a finished file imports comes after it, unless the import closes a cycle. -/
theorem Settled.idxOf_lt (h : Settled targets? found done) (hnodup : done.Nodup) {p t : String} (hp : p ∈ done)
    (ht : Leads targets? p t) (hopen : ¬Closes found p t) : t ∈ done ∧ done.idxOf p < done.idxOf t := by
  induction done with
  | nil => exact absurd hp List.not_mem_nil
  | cons q rest ih =>
    obtain ⟨hq, hrest⟩ := List.nodup_cons.mp hnodup
    have hlater : ∀ {x}, x ∈ rest → (q :: rest).idxOf x = rest.idxOf x + 1 := by
      intro x hx
      exact List.idxOf_cons_ne rest fun hqx => hq (hqx ▸ hx)
    rcases List.mem_cons.mp hp with rfl | hp
    · have htrest : t ∈ rest := (h.1 t ht).resolve_left hopen
      rw [List.idxOf_cons_self, hlater htrest]
      exact ⟨List.mem_cons_of_mem p htrest, Nat.succ_pos _⟩
    · obtain ⟨htrest, hlt⟩ := ih h.2 hrest hp
      rw [hlater hp, hlater htrest]
      exact ⟨List.mem_cons_of_mem q htrest, Nat.succ_lt_succ hlt⟩

theorem acyclic_of_settled (h : Settled targets? found done) (hnodup : done.Nodup)
    (hall : ∀ p t, Leads targets? p t → p ∈ done) :
    Acyclic fun p t => Leads targets? p t ∧ ¬Closes found p t := by
  intro p hloop
  have hlater : ∀ {q}, Relation.TransGen (fun p t => Leads targets? p t ∧ ¬Closes found p t) p q →
      done.idxOf p < done.idxOf q := by
    intro q hway
    induction hway with
    | single hedge => exact (h.idxOf_lt hnodup (hall _ _ hedge.1) hedge.1 hedge.2).2
    | tail _ hedge ih => exact ih.trans (h.idxOf_lt hnodup (hall _ _ hedge.1) hedge.1 hedge.2).2
  exact absurd (hlater hloop) (Nat.lt_irrefl _)

end Search

/-- A cycle goes around in a relation between files and is named by them. -/
structure Cycle.IsIn (edge : String → String → Prop) (c : Cycle) : Prop where
  length : 3 ≤ c.walk.length
  ends : c.walk.head? = c.walk.getLast?
  distinct : c.walk.dropLast.Nodup
  chain : List.IsChain edge c.walk
  files : ∀ p, p ∈ c.files ↔ p ∈ c.walk
  files_nodup : c.files.Nodup

/-- The way around a cycle leads back to where it began. -/
theorem Cycle.IsIn.not_acyclic {edge : String → String → Prop} {c : Cycle} (h : c.IsIn edge) : ¬Acyclic edge := by
  obtain ⟨files, walk⟩ := c
  obtain ⟨hlength, hends, -, hchain, -⟩ := h
  match walk with
  | p :: rest =>
    have hne : rest ≠ [] := by
      rintro rfl
      exact absurd hlength (by simp)
    rw [← List.dropLast_concat_getLast hne] at hends hchain
    have hlast : p = rest.getLast hne := by
      rw [← List.cons_append, List.getLast?_concat] at hends
      exact Option.some.inj hends
    intro hacyclic
    have hloop := transGen_of_isChain hchain
    rw [← hlast] at hloop
    exact hacyclic p hloop

theorem Search.Genuine.isIn {targets? : String → Option (List String)} {trail : List String} {c : Cycle}
    (h : Search.Genuine targets? trail c) (hnodup : trail.Nodup) (hself : ∀ p, ¬Search.Leads targets? p p) :
    c.IsIn (Search.Leads targets?) := by
  obtain ⟨start, rest, rfl, hsub, hchain⟩ := h
  have hrest : rest ≠ [] := by
    rintro rfl
    exact hself start (List.isChain_cons_cons.mp hchain).1
  have hlength := List.length_pos_iff.mpr hrest
  refine ⟨?_, ?_, ?_, hchain, fun p => ?_, Text.nodup_distinctAscending _⟩
  · show 3 ≤ (start :: rest ++ [start]).length
    rw [List.length_append, List.length_cons, List.length_singleton]
    omega
  · show (start :: rest ++ [start]).head? = (start :: rest ++ [start]).getLast?
    rw [List.getLast?_concat]
    rfl
  · show (start :: rest ++ [start]).dropLast.Nodup
    rw [List.dropLast_concat]
    exact hnodup.sublist hsub
  · show p ∈ Text.distinctAscending (start :: rest) ↔ p ∈ start :: rest ++ [start]
    rw [Text.mem_distinctAscending, List.mem_append, List.mem_singleton]
    exact (or_iff_left_of_imp fun hp => hp ▸ List.mem_cons_self).symm

namespace DependencyGraph

open Assembly Search

variable {α : Type}

/-- An edge inside a graph. -/
def Edge (g : DependencyGraph α) (p t : String) : Prop := (p, t) ∈ g.internalEdges

/-- An edge inside a graph that closes none of the reported cycles. -/
def OpenEdge (g : DependencyGraph α) (p t : String) : Prop :=
  g.Edge p t ∧ ∀ c ∈ g.cycles, c.closing? ≠ some (p, t)

section OfFiles

variable [Scalar α] (formula : CouplingFormula) (files : List SourceFile)

theorem leads_iff {p t : String} : Leads (Imports.ofFiles files).internal? p t ↔
    p ∈ pathsOf files ∧ t ∈ importsOf files p ∧ t ∈ pathsOf files := by
  rw [Leads]
  by_cases hp : p ∈ pathsOf files
  · rw [internal?_entries files hp]
    simp [hp]
  · rw [internal?_entries_none files hp]
    simp [hp]

theorem edge_ofFiles {p t : String} :
    (ofFiles formula files : DependencyGraph α).Edge p t ↔ Leads (Imports.ofFiles files).internal? p t := by
  rw [Edge, mem_internalEdges_ofFiles, leads_iff]

theorem openEdge_ofFiles {p t : String} : (ofFiles formula files : DependencyGraph α).OpenEdge p t ↔
    Leads (Imports.ofFiles files).internal? p t ∧ ¬Closes (Imports.ofFiles files).cycles p t := by
  rw [OpenEdge, edge_ofFiles, Closes]
  simp only [not_exists, not_and]
  rfl

/-- The search over the imports of some files ends with all of them finished. -/
theorem exists_sound : ∃ done, Sound (Imports.ofFiles files).internal? (pathsOf files)
    ⟨[], done, (Imports.ofFiles files).cycles⟩ ∧ ∀ p ∈ pathsOf files, p ∈ done := by
  have hnodup : (Imports.ofFiles files).paths.Nodup := by
    rw [paths_entries]
    exact nodup_pathsOf files
  obtain ⟨s, done, hsearch, hsound, hall⟩ := Imports.search_ok hnodup
  rw [paths_entries] at hsound hall
  exact ⟨done, by rw [Imports.cycles_eq hsearch]; exact hsound, hall⟩

theorem isIn_of_mem_cycles {c : Cycle} (hc : c ∈ (Imports.ofFiles files).cycles) :
    c.IsIn (Leads (Imports.ofFiles files).internal?) := by
  obtain ⟨done, hsound, -⟩ := exists_sound files
  refine (hsound.genuine c hc).isIn hsound.nodup fun p hp => ?_
  exact ne_of_mem_importsOf files ((leads_iff files).mp hp).2.1 rfl

theorem acyclic_openEdge : Acyclic (ofFiles formula files : DependencyGraph α).OpenEdge := by
  obtain ⟨done, hsound, hall⟩ := exists_sound files
  have hacyclic := acyclic_of_settled hsound.settled hsound.nodup fun p t hpt => hall p ((leads_iff files).mp hpt).1
  exact hacyclic.mono fun p t hpt => (openEdge_ofFiles formula files).mp hpt

/-- **The closing imports cut every cycle**: without them a graph has none, each cycle of the graph holds one of them,
and a graph without reported cycles has none. -/
theorem closing_edges_cut_cycles :
    Acyclic (ofFiles formula files : DependencyGraph α).OpenEdge ∧
      (∀ p between, List.IsChain (ofFiles formula files : DependencyGraph α).Edge (p :: (between ++ [p])) →
        ∃ c ∈ (ofFiles formula files : DependencyGraph α).cycles, ∃ s t,
          c.closing? = some (s, t) ∧ [s, t] <:+: p :: (between ++ [p])) ∧
      ((ofFiles formula files : DependencyGraph α).cycles = [] ↔
        Acyclic (ofFiles formula files : DependencyGraph α).Edge) := by
  refine ⟨acyclic_openEdge formula files, fun p between hchain => ?_, fun hnone => ?_, fun hacyclic => ?_⟩
  · by_contra hcut
    have hopen : List.IsChain (ofFiles formula files : DependencyGraph α).OpenEdge (p :: (between ++ [p])) := by
      rw [List.isChain_iff_forall_rel_of_append_cons_cons] at hchain ⊢
      intro s t front back hsplit
      refine ⟨hchain hsplit, fun c hc hclosing => hcut ⟨c, hc, s, t, hclosing, front, back, ?_⟩⟩
      rw [hsplit, List.append_assoc]
      rfl
    exact acyclic_openEdge formula files p (transGen_of_isChain hopen)
  · refine (acyclic_openEdge formula files).mono fun p t hpt => ⟨hpt, fun c hc => ?_⟩
    rw [hnone] at hc
    exact absurd hc List.not_mem_nil
  · rw [List.eq_nil_iff_forall_not_mem]
    intro c hc
    refine (isIn_of_mem_cycles files hc).not_acyclic (hacyclic.mono fun p t hpt => ?_)
    exact (edge_ofFiles formula files).mpr hpt

/-- **Every reported cycle is one**, and no two are of the same files. -/
theorem cycles_genuine :
    (∀ c ∈ (ofFiles formula files : DependencyGraph α).cycles,
      c.IsIn (ofFiles formula files : DependencyGraph α).Edge) ∧
    (ofFiles formula files : DependencyGraph α).cycles.Pairwise fun c d => ¬∀ p, p ∈ c.files ↔ p ∈ d.files := by
  have hedge : (ofFiles formula files : DependencyGraph α).Edge = Leads (Imports.ofFiles files).internal? :=
    funext fun p => funext fun t => propext (edge_ofFiles formula files)
  obtain ⟨done, hsound, -⟩ := exists_sound files
  refine ⟨fun c hc => ?_, hsound.distinct.imp_of_mem fun {c d} hc hd hne hfiles => hne ?_⟩
  · rw [hedge]
    exact isIn_of_mem_cycles files hc
  · rw [(hsound.genuine c hc).eq_of_files hsound.nodup (hsound.genuine d hd) hfiles]

end OfFiles

end DependencyGraph
end RepoSurvey
