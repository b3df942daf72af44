import Mathlib.Logic.Function.Basic
import RepoSurvey.Graph.DependencyGraph
import RepoSurvey.Proofs.LookUp
import RepoSurvey.Proofs.Text.Distinct

/-!
# The assembled relation

The assembly of some files, as it stands after any number of imports, is the one that a relation between paths gives
outright.

* `Assembly.ofRelation paths imports`: entries, edges and outside imports read off a relation, and `addImport_ofRelation`:
  one import more is one pair more in the relation.
* `importsOf files p`: the import list of the first file of a path, without the path itself and without repeats.
* `ofFiles_eq_ofRelation`: the assembly of some files is the one of their import lists.
-/

namespace RepoSurvey

namespace Assembly

/-- What a path imports outside, if anything, under its name. -/
def outside? (paths : List String) (imports : String → List String) (p : String) : Option (String × List String) :=
  let outside := (imports p).filter fun t => t ∉ paths
  if outside = [] then none else some (p, outside)

/-- The assembly that a relation between some paths amounts to. -/
def ofRelation (paths : List String) (imports : String → List String) : Assembly where
  entries := paths.map fun p => ⟨p, imports p, paths.filter fun q => p ∈ imports q⟩
  edges := paths.flatMap fun p => (imports p).map (p, ·)
  external := paths.filterMap (outside? paths imports)

section Relation

variable {paths : List String} {imports : String → List String} {p t : String}

theorem paths_ofRelation : (ofRelation paths imports).entries.paths = paths := by
  simp [ofRelation, Imports.paths, Function.comp_def]

theorem isFile_ofRelation : (ofRelation paths imports).entries.isFile p = decide (p ∈ paths) := by
  rw [Bool.eq_iff_iff]
  simp [ofRelation, Imports.isFile]

theorem entry?_ofRelation (hp : p ∈ paths) :
    (ofRelation paths imports).entries.entry? p = some ⟨p, imports p, paths.filter fun q => p ∈ imports q⟩ := by
  rw [Imports.entry?, ofRelation, List.find?_map]
  simp only [Function.comp_def]
  rw [find?_beq, if_pos hp, Option.map_some]

theorem entry?_ofRelation_none (hp : p ∉ paths) : (ofRelation paths imports).entries.entry? p = none := by
  rw [Imports.entry?, List.find?_eq_none]
  intro e he hep
  simp only [ofRelation, List.mem_map] at he
  obtain ⟨q, hq, rfl⟩ := he
  exact hp (eq_of_beq hep ▸ hq)

theorem targets_ofRelation (hp : p ∈ paths) : (ofRelation paths imports).entries.targets p = imports p := by
  rw [Imports.targets, entry?_ofRelation hp, Option.map_some, Option.getD_some]

end Relation

/-! ### One import more -/

section Step

variable {before after : List String} {imports : String → List String} {p t : String}

/-- The relation with one pair more. -/
def extended (imports : String → List String) (p t : String) : String → List String :=
  Function.update imports p (imports p ++ [t])

theorem extended_self : extended imports p t p = imports p ++ [t] := Function.update_self ..

theorem extended_of_ne {q : String} (h : q ≠ p) : extended imports p t q = imports q := Function.update_of_ne h ..

theorem mem_extended_of_ne {q x : String} (h : q ≠ t) : q ∈ extended imports p t x ↔ q ∈ imports x := by
  by_cases hx : x = p
  · rw [hx, extended_self, List.mem_append, List.mem_singleton, or_iff_left h]
  · rw [extended_of_ne hx]

/-- Files other than the target keep their importers. -/
theorem filter_extended_of_ne {q : String} (h : q ≠ t) (paths : List String) :
    paths.filter (fun x => q ∈ extended imports p t x) = paths.filter fun x => q ∈ imports x := by
  exact List.filter_congr fun x _ => decide_eq_decide.mpr (mem_extended_of_ne h)

/-- While `p` is read, the files before it have all their imports and the files after it none. -/
structure Reading (before after : List String) (imports : String → List String) (p : String) : Prop where
  nodup : (before ++ p :: after).Nodup
  later : ∀ q ∈ after, imports q = []

namespace Reading

theorem ne_of_mem_before (h : Reading before after imports p) {q : String} (hq : q ∈ before) : q ≠ p := by
  rintro rfl
  exact (List.nodup_append.mp h.nodup).2.2 q hq q List.mem_cons_self rfl

theorem ne_of_mem_after (h : Reading before after imports p) {q : String} (hq : q ∈ after) : q ≠ p := by
  rintro rfl
  exact (List.nodup_cons.mp (List.nodup_append.mp h.nodup).2.1).1 hq

theorem extend (h : Reading before after imports p) (t : String) : Reading before after (extended imports p t) p := by
  refine ⟨h.nodup, fun q hq => ?_⟩
  rw [extended_of_ne (h.ne_of_mem_after hq)]
  exact h.later q hq

/-- The reader of a new target joins its importers as the last one. -/
theorem importers_target (h : Reading before after imports p) (ht : t ∉ imports p) :
    (before ++ p :: after).filter (fun x => t ∈ extended imports p t x) =
      ((before ++ p :: after).filter fun x => t ∈ imports x) ++ [p] := by
  have hbefore : before.filter (fun x => t ∈ extended imports p t x) =
      before.filter fun x => t ∈ imports x :=
    List.filter_congr fun x hx => by rw [extended_of_ne (h.ne_of_mem_before hx)]
  have hafter : after.filter (fun x => t ∈ imports x) = [] :=
    List.filter_eq_nil_iff.mpr fun x hx => by simp [h.later x hx]
  have hafter' : after.filter (fun x => t ∈ extended imports p t x) = [] :=
    List.filter_eq_nil_iff.mpr fun x hx => by simp [(h.extend t).later x hx]
  rw [List.filter_append, List.filter_append, hbefore, List.filter_cons_of_pos (by simp [extended_self]),
    List.filter_cons_of_neg (by simpa using ht), hafter, hafter', List.append_nil]

theorem edges_extended (h : Reading before after imports p) :
    (ofRelation (before ++ p :: after) (extended imports p t)).edges =
      (ofRelation (before ++ p :: after) imports).edges ++ [(p, t)] := by
  have hbefore : (before.flatMap fun x => (extended imports p t x).map (x, ·)) =
      before.flatMap fun x => (imports x).map (x, ·) :=
    List.flatMap_congr fun x hx => by rw [extended_of_ne (h.ne_of_mem_before hx)]
  have hafter : (after.flatMap fun x => (imports x).map (x, ·)) = [] :=
    List.flatMap_eq_nil_iff.mpr fun x hx => by rw [h.later x hx, List.map_nil]
  have hafter' : (after.flatMap fun x => (extended imports p t x).map (x, ·)) = [] :=
    List.flatMap_eq_nil_iff.mpr fun x hx => by rw [(h.extend t).later x hx, List.map_nil]
  simp only [ofRelation, List.flatMap_append, List.flatMap_cons]
  rw [hbefore, hafter, hafter', extended_self, List.map_append, List.append_nil, List.append_nil]
  simp only [List.map_cons, List.map_nil, List.append_assoc]

theorem external_inside {t : String} (ht : t ∈ before ++ p :: after) :
    (ofRelation (before ++ p :: after) (extended imports p t)).external =
      (ofRelation (before ++ p :: after) imports).external := by
  refine List.filterMap_congr fun x _ => ?_
  by_cases hx : x = p
  · have hnone : [t].filter (fun t => t ∉ before ++ p :: after) = [] :=
      List.filter_eq_nil_iff.mpr fun y hy => by
        rw [List.mem_singleton.mp hy, decide_eq_true_eq]
        exact fun hn => hn ht
    rw [outside?, outside?, hx, extended_self, List.filter_append, hnone, List.append_nil]
  · rw [outside?, outside?, extended_of_ne hx]

/-- The outside imports of the file that is being read are the last ones of the table, or not in it yet. -/
theorem external_eq (h : Reading before after imports p) :
    (ofRelation (before ++ p :: after) imports).external =
      before.filterMap (outside? (before ++ p :: after) imports) ++
        (outside? (before ++ p :: after) imports p).toList := by
  have hafter : after.filterMap (outside? (before ++ p :: after) imports) = [] := by
    rw [List.filterMap_eq_nil_iff]
    intro x hx
    rw [outside?, h.later x hx, List.filter_nil, if_pos rfl]
  rw [ofRelation, List.filterMap_append, List.filterMap_cons, hafter]
  cases outside? (before ++ p :: after) imports p <;> rfl

theorem external_outside (h : Reading before after imports p) {t : String} (ht : t ∉ before ++ p :: after) :
    (ofRelation (before ++ p :: after) (extended imports p t)).external =
      (ofRelation (before ++ p :: after) imports).external.put p
        (((ofRelation (before ++ p :: after) imports).external.get? p).getD [] ++ [t]) := by
  have hbefore : before.filterMap (outside? (before ++ p :: after) (extended imports p t)) =
      before.filterMap (outside? (before ++ p :: after) imports) :=
    List.filterMap_congr fun x hx => by rw [outside?, outside?, extended_of_ne (h.ne_of_mem_before hx)]
  have hkey : p ∉ (before.filterMap (outside? (before ++ p :: after) imports)).map (·.1) := by
    intro hp
    obtain ⟨e, he, hep⟩ := List.mem_map.mp hp
    obtain ⟨x, hx, hxe⟩ := List.mem_filterMap.mp he
    refine h.ne_of_mem_before hx ?_
    rw [outside?] at hxe
    split_ifs at hxe
    rw [← hep, ← Option.some.inj hxe]
  have hnew : outside? (before ++ p :: after) (extended imports p t) p =
      some (p, ((imports p).filter fun t => t ∉ before ++ p :: after) ++ [t]) := by
    have hkeep : [t].filter (fun t => t ∉ before ++ p :: after) = [t] :=
      List.filter_eq_self.mpr fun y hy => by simpa [List.mem_singleton.mp hy] using ht
    rw [outside?, extended_self, List.filter_append, hkeep, if_neg (by simp)]
  rw [(h.extend t).external_eq, h.external_eq, hbefore, hnew, outside?]
  by_cases hempty : ((imports p).filter fun t => t ∉ before ++ p :: after) = []
  · rw [if_pos hempty, hempty, Option.toList_none, List.append_nil, Table.get?_of_not_mem hkey,
      Table.put_of_not_mem hkey]
    rfl
  · rw [if_neg hempty, Option.toList_some, Option.toList_some, Table.get?_concat hkey, Table.put_concat hkey]
    rfl

theorem entries_inside (h : Reading before after imports p) (htp : t ≠ p) (ht : t ∉ imports p) :
    ((ofRelation (before ++ p :: after) imports).entries.update p
        fun e => { e with targets := e.targets ++ [t] }).update t
        (fun e => { e with importers := e.importers ++ [p] }) =
      (ofRelation (before ++ p :: after) (extended imports p t)).entries := by
  simp only [ofRelation, Imports.update, List.map_map]
  refine List.map_congr_left fun q _ => ?_
  by_cases hqp : q = p
  · simp [hqp, htp.symm, extended_self, filter_extended_of_ne htp.symm]
  · by_cases hqt : q = t
    · simp [hqt, htp, extended_of_ne htp, h.importers_target ht]
    · simp [hqp, hqt, extended_of_ne hqp, filter_extended_of_ne hqt]

theorem entries_outside {t : String} (ht : t ∉ before ++ p :: after) :
    (ofRelation (before ++ p :: after) imports).entries.update p (fun e => { e with targets := e.targets ++ [t] }) =
      (ofRelation (before ++ p :: after) (extended imports p t)).entries := by
  simp only [ofRelation, Imports.update, List.map_map]
  refine List.map_congr_left fun q hq => ?_
  have hqt : q ≠ t := by
    rintro rfl
    exact ht hq
  by_cases hqp : q = p
  · subst hqp
    simp [extended_self, filter_extended_of_ne hqt]
  · simp [hqp, extended_of_ne hqp, filter_extended_of_ne hqt]

end Reading

/-- **One import more** is one pair more in the relation, unless the pair is one of a file with itself or there. -/
theorem addImport_ofRelation (h : Reading before after imports p) :
    (ofRelation (before ++ p :: after) imports).addImport p t =
      ofRelation (before ++ p :: after) (if t = p ∨ t ∈ imports p then imports else extended imports p t) := by
  rw [addImport, targets_ofRelation (by simp)]
  by_cases hskip : t = p ∨ t ∈ imports p
  · rw [if_pos hskip, if_pos hskip]
  · rw [if_neg hskip, if_neg hskip]
    rw [not_or] at hskip
    by_cases ht : t ∈ before ++ p :: after
    · rw [isFile_ofRelation, if_pos (decide_eq_true ht), h.entries_inside hskip.1 hskip.2, ← h.edges_extended,
        ← Reading.external_inside ht]
    · rw [isFile_ofRelation, if_neg (by simpa using ht), Reading.entries_outside ht, ← h.edges_extended,
        ← h.external_outside ht]

end Step

/-! ### All imports of a file -/

section File

variable {before after : List String} {imports : String → List String} {p : String}

/-- The distinct imports of a path, itself excluded. -/
def distinctTargets (p : String) (imports : List String) : List String := (imports.filter (· ≠ p)).eraseDups

theorem distinctTargets_concat (p t : String) (l : List String) :
    distinctTargets p (l ++ [t]) =
      if t = p ∨ t ∈ distinctTargets p l then distinctTargets p l else distinctTargets p l ++ [t] := by
  unfold distinctTargets
  rw [List.filter_append]
  by_cases htp : t = p
  · rw [List.filter_cons_of_neg (by simp [htp]), List.filter_nil, List.append_nil, if_pos (Or.inl htp)]
  · rw [List.filter_cons_of_pos (by simp [htp]), List.filter_nil, eraseDups_concat]
    simp only [htp, false_or, List.mem_eraseDups]

theorem foldl_addImport_ofRelation (h : Reading before after imports p) (hp : imports p = []) (l : List String) :
    l.foldl (addImport p) (ofRelation (before ++ p :: after) imports) =
      ofRelation (before ++ p :: after) (Function.update imports p (distinctTargets p l)) := by
  induction l using List.reverseRecOn with
  | nil =>
    have hsame : Function.update imports p (distinctTargets p []) = imports :=
      Function.update_eq_self_iff.mpr hp.symm
    rw [hsame, List.foldl_nil]
  | append_singleton l t ih =>
    have hreading : Reading before after (Function.update imports p (distinctTargets p l)) p := by
      refine ⟨h.nodup, fun q hq => ?_⟩
      rw [Function.update_of_ne (h.ne_of_mem_after hq), h.later q hq]
    rw [List.foldl_append, ih, List.foldl_cons, List.foldl_nil, addImport_ofRelation hreading,
      Function.update_self, distinctTargets_concat]
    by_cases ht : t = p ∨ t ∈ distinctTargets p l
    · rw [if_pos ht, if_pos ht]
    · rw [if_neg ht, if_neg ht, extended, Function.update_self, Function.update_idem]

end File

/-! ### All files -/

section Files

/-- The distinct imports of the first file of a path. -/
def importsOf (files : List SourceFile) (p : String) : List String :=
  ((files.find? (·.path == p)).map fun f => distinctTargets p f.imports).getD []

theorem importsOf_of_not_mem {files : List SourceFile} {p : String} (h : p ∉ files.map (·.path)) :
    importsOf files p = [] := by
  have hnone : files.find? (·.path == p) = none := by
    rw [List.find?_eq_none]
    intro f hf hfp
    exact h (List.mem_map.mpr ⟨f, hf, eq_of_beq hfp⟩)
  rw [importsOf, hnone, Option.map_none, Option.getD_none]

/-- A file of a new path adds its own imports. -/
theorem importsOf_concat {files : List SourceFile} {f : SourceFile} (h : f.path ∉ files.map (·.path)) :
    importsOf (files ++ [f]) =
      Function.update (importsOf files) f.path (distinctTargets f.path f.imports) := by
  funext p
  by_cases hp : p = f.path
  · have hnone : files.find? (·.path == f.path) = none := by
      rw [List.find?_eq_none]
      intro e he hef
      exact h (List.mem_map.mpr ⟨e, he, eq_of_beq hef⟩)
    rw [hp, Function.update_self, importsOf, List.find?_append, hnone, Option.none_or,
      List.find?_cons_of_pos (by simp), Option.map_some, Option.getD_some]
  · rw [Function.update_of_ne hp, importsOf, importsOf, List.find?_append,
      List.find?_cons_of_neg (by simpa using fun hfp => hp hfp.symm), List.find?_nil, Option.or_none]

theorem foldl_addFile (files rest : List SourceFile) (h : ((files ++ rest).map (·.path)).Nodup) :
    files.foldl addFile (ofRelation ((files ++ rest).map (·.path)) fun _ => []) =
      ofRelation ((files ++ rest).map (·.path)) (importsOf files) := by
  induction files using List.reverseRecOn generalizing rest with
  | nil => rfl
  | append_singleton files f ih =>
    have hsplit : (files ++ [f] ++ rest).map (·.path) = files.map (·.path) ++ f.path :: rest.map (·.path) := by simp
    have hih := ih (f :: rest) (by simpa using h)
    rw [hsplit] at h ⊢
    rw [List.map_append, List.map_cons] at hih
    have hnew : f.path ∉ files.map (·.path) := fun hf =>
      (List.nodup_append.mp h).2.2 f.path hf f.path List.mem_cons_self rfl
    have hreading : Reading (files.map (·.path)) (rest.map (·.path)) (importsOf files) f.path := by
      refine ⟨h, fun q hq => importsOf_of_not_mem fun hqf => ?_⟩
      exact (List.nodup_append.mp h).2.2 q hqf q (List.mem_cons_of_mem _ hq) rfl
    rw [List.foldl_append, hih, List.foldl_cons, List.foldl_nil, addFile,
      foldl_addImport_ofRelation hreading (importsOf_of_not_mem hnew), importsOf_concat hnew]

end Files

end Assembly

/-! ### The first file of each path -/

namespace Imports

theorem paths_firstOfEach (files : List SourceFile) :
    (firstOfEach files).map (·.path) = (files.map (·.path)).eraseDups := by
  induction files with
  | nil => rfl
  | cons f rest ih =>
    have hpaths : ((firstOfEach rest).filter (·.path != f.path)).map (·.path) =
        ((firstOfEach rest).map (·.path)).filter (· != f.path) := by
      rw [List.filter_map]
      rfl
    rw [firstOfEach, List.map_cons, hpaths, ih, filter_eraseDups, List.map_cons, List.eraseDups_cons]
    rfl

theorem find?_firstOfEach (files : List SourceFile) (p : String) :
    (firstOfEach files).find? (·.path == p) = files.find? (·.path == p) := by
  induction files with
  | nil => rfl
  | cons f rest ih =>
    rw [firstOfEach]
    by_cases hf : f.path = p
    · rw [List.find?_cons_of_pos (by simpa using hf), List.find?_cons_of_pos (by simpa using hf)]
    · have hkeep : (fun e : SourceFile => decide ((e.path != f.path) = true ∧ (e.path == p) = true)) =
          fun e => e.path == p := by
        funext e
        by_cases he : e.path = p
        · simp [he, Ne.symm hf]
        · simp [he]
      rw [List.find?_cons_of_neg (by simpa using hf), List.find?_cons_of_neg (by simpa using hf),
        List.find?_filter, hkeep, ih]

theorem nodup_firstOfEach (files : List SourceFile) : ((firstOfEach files).map (·.path)).Nodup := by
  rw [paths_firstOfEach]
  exact nodup_eraseDups _

end Imports

namespace Assembly

theorem ofRelation_nil (paths : List String) :
    ofRelation paths (fun _ => []) = { entries := paths.map fun p => { path := p } } := by
  have hentries : (ofRelation paths fun _ => []).entries = paths.map fun p => { path := p } :=
    List.map_congr_left fun p _ => by simp
  have hedges : (ofRelation paths fun _ => []).edges = [] := List.flatMap_eq_nil_iff.mpr fun p _ => rfl
  have hexternal : (ofRelation paths fun _ => []).external = [] :=
    List.filterMap_eq_nil_iff.mpr fun p _ => rfl
  rw [← hentries, ← hedges, ← hexternal]

/-- **The assembly of some files** is the one of the import lists of the first file of each path. -/
theorem ofFiles_eq_ofRelation (files : List SourceFile) :
    ofFiles files = ofRelation (files.map (·.path)).eraseDups (importsOf files) := by
  have hstart : ({ entries := (Imports.firstOfEach files).map fun f => { path := f.path } } : Assembly) =
      ofRelation ((Imports.firstOfEach files).map (·.path)) fun _ => [] := by
    rw [ofRelation_nil, List.map_map]
    rfl
  have hrun := foldl_addFile (Imports.firstOfEach files) [] (by
    rw [List.append_nil]
    exact Imports.nodup_firstOfEach files)
  have hfirst : importsOf (Imports.firstOfEach files) = importsOf files := by
    funext p
    rw [importsOf, importsOf, Imports.find?_firstOfEach]
  rw [List.append_nil, hfirst] at hrun
  rw [ofFiles, hstart, hrun, Imports.paths_firstOfEach]

end Assembly
end RepoSurvey
