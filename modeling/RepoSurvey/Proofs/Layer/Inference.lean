import Mathlib.Data.List.Find
import Mathlib.Data.List.TakeWhile
import RepoSurvey.Layer.Inference
import RepoSurvey.Proofs.Layer.Assignment
import RepoSurvey.Proofs.Layer.Splitting
import RepoSurvey.Proofs.Path.Segments
import RepoSurvey.Proofs.Text.Distinct

/-!
# The layers inferred from directories

A directory is written into a pattern as it stands. If it has neither a wildcard nor a closed bracket, the pattern covers
what lies below it, and a path gets the first canonical layer that one of its own directories belongs to.

* `LayerDefinition.mem_directoriesOf_of_below`: a path below another path's directory has it among its own.
* `Glob.fitsBelow_of_isPlain`: the pattern of a plain directory fits what lies below it on one line.
* `LayerDefinition.assigned_infer`: the layer that the inferred definitions assign, whatever the directories contain.
* `LayerDefinition.ask_infer`: what their resolver answers; plain directories count for their own paths only.
-/

namespace RepoSurvey

/-! ### Paths below a directory -/

namespace LayerDefinition

open RepoSurvey.Path

variable {d p q : String} {rest : List Char}

theorem mem_directoriesOf : d ∈ directoriesOf p ↔ ∃ depth < inferenceDepth, depth + 1 < (segments p.toList).length ∧
    d.toList = ofSegments ((segments p.toList).take (depth + 1)) := by
  have htext : ∀ s : List Char, String.ofList s = d ↔ d.toList = s := by
    intro s
    constructor
    · rintro rfl
      exact String.toList_ofList
    · rintro rfl
      exact String.ofList_toList
  simp only [directoriesOf, List.mem_map, List.mem_range, htext]
  refine exists_congr fun depth => ?_
  rw [← and_assoc]
  exact and_congr_left fun _ => by omega

/-- What follows a directory and its slash in a path. -/
def restBelow (d p : String) : List Char := p.toList.drop (d.toList.length + 1)

theorem restBelow_eq (h : p.toList = d.toList ++ '/' :: rest) : restBelow d p = rest := by
  rw [restBelow, h]
  simp

theorem eq_of_mem_directoriesOf (h : d ∈ directoriesOf p) : p.toList = d.toList ++ '/' :: restBelow d p := by
  obtain ⟨depth, -, hlength, hd⟩ := mem_directoriesOf.mp h
  have hwhole : ofSegments (segments p.toList) = p.toList := List.intercalate_splitOn '/'
  have htake : (segments p.toList).take (depth + 1) ≠ [] := by
    rw [ne_eq, List.take_eq_nil_iff]
    rintro (hdepth | hnil)
    · omega
    · simp [hnil] at hlength
  have hdrop : (segments p.toList).drop (depth + 1) ≠ [] := by
    rw [ne_eq, List.drop_eq_nil_iff]
    omega
  have hcut : p.toList = d.toList ++ '/' :: ofSegments ((segments p.toList).drop (depth + 1)) := by
    rw [hd, ← ofSegments_append htake hdrop, List.take_append_drop, hwhole]
  rwa [restBelow_eq hcut]

/-- A path below another path's directory has it among its own. -/
theorem mem_directoriesOf_of_below (h : d ∈ directoriesOf q) (hp : p.toList = d.toList ++ '/' :: rest) :
    d ∈ directoriesOf p := by
  obtain ⟨depth, hdepth, hlength, hd⟩ := mem_directoriesOf.mp h
  have hslash : ∀ part ∈ (segments q.toList).take (depth + 1), '/' ∉ part :=
    fun part hpart => not_mem_of_mem_segments (List.mem_of_mem_take hpart)
  have htake : ((segments q.toList).take (depth + 1)).length = depth + 1 := by
    rw [List.length_take]
    omega
  have hsegments : segments p.toList = (segments q.toList).take (depth + 1) ++ segments rest := by
    rw [hp, hd]
    exact segments_below (fun hnil => by simp [hnil] at htake) hslash
  have hrest : 0 < (segments rest).length := List.length_pos_iff.mpr (List.splitOn_ne_nil '/' rest)
  refine mem_directoriesOf.mpr ⟨depth, hdepth, ?_, ?_⟩
  · rw [hsegments, List.length_append, htake]
    omega
  · rw [hsegments, List.take_left' htake]
    exact hd

end LayerDefinition

/-! ### The pattern of a directory -/

namespace Glob

variable {s rest : List Char}

/-- A text that a pattern takes as it stands: it has neither a wildcard nor a bracket that is closed. -/
def IsPlain (s : List Char) : Prop := pieces s = s.map Piece.literal

instance : Decidable (IsPlain s) := inferInstanceAs (Decidable (_ = _))

/-- The pattern of what lies below a directory. -/
def below (d : String) : String := d ++ "/**"

/-- Whether a path fits the pattern of what lies below a directory. -/
def fitsBelow (d p : String) : Bool := (usable? (below d)).any fun g => g.admits p

/-- A bracket stands for itself unless it is closed after its first character. -/
theorem bracket?_eq_none : bracket? s = none ↔ ']' ∉ s.tail := by
  cases s with
  | nil => simp [bracket?]
  | cons c s =>
    have hwhole : s.drop (s.takeWhile (· != ']')).length = [] ↔ ']' ∉ s := by
      rw [List.drop_eq_nil_iff]
      constructor
      · intro hlength hmem
        have heq := (List.takeWhile_prefix (· != ']')).eq_of_length_le hlength
        simpa using List.takeWhile_eq_self_iff.mp heq _ hmem
      · intro hmem
        have heq : s.takeWhile (· != ']') = s :=
          List.takeWhile_eq_self_iff.mpr fun x hx => bne_iff_ne.mpr fun heq => hmem (heq ▸ hx)
        rw [heq]
    rw [bracket?, List.tail_cons, ← hwhole]
    split <;> simp_all

theorem pieces_cons {c : Char} (hstar : c ≠ '*') (hmark : c ≠ '?') (hopen : c = '[' → bracket? s = none) :
    pieces (c :: s) = .literal c :: pieces s := by
  rw [pieces]
  · split_ifs with hc
    · split
      · next hsome =>
        rw [hopen hc] at hsome
        cases hsome
      · rfl
    · rfl
  all_goals simp [hstar, hmark]

theorem pieces_below (h : IsPlain s) :
    pieces (s ++ "/**".toList) = s.map Piece.literal ++ [.literal '/', .anything] := by
  rw [IsPlain] at h
  fun_induction pieces s with
  | case1 => cbv
  | case2 | case3 | case4 | case5 | case6 => simp at h
  | case7 rest hnone _ _ hstar hmark ih =>
    have hopen : bracket? (rest ++ "/**".toList) = none := by
      rw [bracket?_eq_none] at hnone ⊢
      cases rest with
      | nil => decide
      | cons c rest => simpa using hnone
    rw [List.cons_append, pieces_cons hstar hmark fun _ => hopen, ih (List.cons.inj h).2]
    rfl
  | case8 c rest _ _ hstar hmark hopen ih =>
    rw [List.cons_append, pieces_cons hstar hmark fun hc => absurd hc hopen, ih (List.cons.inj h).2]
    rfl

variable {d p : String}

/-- The pattern of a plain directory is the directory itself and anything on one line below it. -/
theorem ofText?_below (h : IsPlain d.toList) :
    ofText? (below d) = .ok (some (.tokens (d.toList.map Token.literal ++ [.literal '/', .anything]))) := by
  refine ofText?_of_isToken ?_
  rw [below, String.toList_append, pieces_below h]
  refine List.rel_append ?_ (.cons (.literal '/') (.cons .anything .nil))
  exact List.forall₂_map_left_iff.mpr (List.forall₂_map_right_iff.mpr (List.forall₂_same.mpr fun c _ => .literal c))

theorem splits_literals {ts : List Token} {text : List Char} :
    Splits (s.map Token.literal ++ ts) text ↔ ∃ rest, Splits ts rest ∧ text = s ++ rest := by
  induction s generalizing text with
  | nil => simp
  | cons c s ih =>
    rw [List.map_cons, List.cons_append, splits_cons]
    constructor
    · rintro ⟨part, after, rfl, hafter, rfl⟩
      obtain ⟨rest, hrest, rfl⟩ := ih.mp hafter
      exact ⟨rest, hrest, rfl⟩
    · rintro ⟨rest, hrest, rfl⟩
      exact ⟨[c], s ++ rest, rfl, ih.mpr ⟨rest, hrest, rfl⟩, rfl⟩

/-- **The pattern of a plain directory fits what lies below it on one line.** -/
theorem fitsBelow_of_isPlain (h : IsPlain d.toList) :
    fitsBelow d p = true ↔ ∃ rest, '\n' ∉ rest ∧ p.toList = d.toList ++ '/' :: rest := by
  have husable : usable? (below d) = some (.tokens (d.toList.map Token.literal ++ [.literal '/', .anything])) := by
    rw [usable?, ofText?_below h]
    rfl
  have hslash : ∀ after, Splits [.literal '/', .anything] after ↔ ∃ rest, '\n' ∉ rest ∧ after = '/' :: rest := by
    intro after
    rw [splits_cons]
    constructor
    · rintro ⟨_, _, rfl, hrest, rfl⟩
      obtain ⟨rest, _, hline, hend, rfl⟩ := splits_cons.mp hrest
      obtain rfl := splits_nil.mp hend
      exact ⟨rest, hline, by rw [List.append_nil]; rfl⟩
    · rintro ⟨rest, hline, rfl⟩
      exact ⟨['/'], rest, rfl, splits_cons.mpr ⟨rest, [], hline, splits_nil.mpr rfl, (List.append_nil _).symm⟩, rfl⟩
  rw [fitsBelow, husable, Option.any_some, admits, fits_iff_splits, splits_literals]
  constructor
  · rintro ⟨after, hafter, hp⟩
    obtain ⟨rest, hrest, rfl⟩ := (hslash after).mp hafter
    exact ⟨rest, hrest, hp⟩
  · rintro ⟨rest, hrest, hp⟩
    exact ⟨'/' :: rest, (hslash _).mpr ⟨rest, hrest, rfl⟩, hp⟩

end Glob

/-! ### The first canonical layer -/

namespace CanonicalLayer

variable {directories directories' : List String}

/-- Whether a directory belongs to any canonical layer. -/
def isClaimed (d : String) : Bool := all.any fun l => l.claims d.toList

/-- The first canonical layer that one of some directories belongs to. -/
def first? (directories : List String) : Option String :=
  (all.find? fun l => directories.any fun d => l.claims d.toList).map (·.name)

/-- Only directories that belong to a canonical layer count. -/
theorem first?_congr (h : ∀ d, isClaimed d = true → (d ∈ directories ↔ d ∈ directories')) :
    first? directories = first? directories' := by
  rw [first?, first?]
  refine congrArg _ (List.find?_congr fun l hl => ?_)
  rw [Bool.eq_iff_iff, List.any_eq_true, List.any_eq_true]
  refine exists_congr fun d => and_congr_left fun hd => h d ?_
  exact List.any_eq_true.mpr ⟨l, hl, hd⟩

end CanonicalLayer

namespace LayerDefinition

open CanonicalLayer LayerResolver

variable (paths : List String) (p : String)

theorem mem_patterns_infer {paths : List String} {l : LayerDefinition} (hl : l ∈ infer paths) {pattern : String}
    (hpattern : pattern ∈ l.patterns) :
    ∃ d ∈ paths.flatMap directoriesOf, isClaimed d = true ∧ pattern = Glob.below d := by
  obtain ⟨canonical, hcanonical, hinfer⟩ := List.mem_filterMap.mp hl
  rw [infer?] at hinfer
  split_ifs at hinfer
  obtain rfl := Option.some.inj hinfer
  obtain ⟨d, hd, rfl⟩ := List.mem_map.mp hpattern
  obtain ⟨hmem, hclaims⟩ := List.mem_filter.mp hd
  exact ⟨d, (Text.mem_distinctAscending _).mp hmem, List.any_eq_true.mpr ⟨canonical, hcanonical, hclaims⟩, rfl⟩

/-- The definition of a canonical layer covers the paths below the directories that belong to it. -/
theorem any_covers_infer? (directories : List String) (l : CanonicalLayer) :
    ((infer? directories l).any fun definition => definition.covers p) =
      (directories.filter fun d => Glob.fitsBelow d p).any fun d => l.claims d.toList := by
  have hcovers : ∀ own : List String, covers ⟨l.name, own.map (· ++ "/**"), l.allowed⟩ p =
      own.any fun d => Glob.fitsBelow d p := by
    intro own
    rw [covers, List.any_filterMap, List.any_map]
    rfl
  have hswap : ((directories.filter fun d => Glob.fitsBelow d p).any fun d => l.claims d.toList) =
      (directories.filter (l.claims ·.toList)).any fun d => Glob.fitsBelow d p := by
    rw [List.any_filter, List.any_filter]
    simp only [Bool.and_comm]
  rw [hswap, infer?]
  split_ifs with hempty
  · rw [List.isEmpty_iff.mp hempty]
    rfl
  · rw [Option.any_some, hcovers]

/-- The definitions over some directories assign the first canonical layer with a directory whose pattern fits. -/
theorem assigned_filterMap_infer? (directories : List String) :
    assigned (CanonicalLayer.all.filterMap (infer? directories)) p =
      first? (directories.filter fun d => Glob.fitsBelow d p) := by
  rw [assigned, List.find?_filterMap, first?]
  simp only [any_covers_infer?]
  cases hfind : CanonicalLayer.all.find? fun l =>
      (directories.filter fun d => Glob.fitsBelow d p).any fun d => l.claims d.toList with
  | none => rfl
  | some l =>
    have hcovers := List.find?_some hfind
    rw [← any_covers_infer?, infer?] at hcovers
    rw [Option.bind_some, infer?]
    split_ifs at hcovers ⊢ with hempty
    · cases hcovers
    · rfl

theorem assigned_infer :
    assigned (infer paths) p = first? ((paths.flatMap directoriesOf).filter fun d => Glob.fitsBelow d p) := by
  rw [infer, assigned_filterMap_infer?]
  refine first?_congr fun d _ => ?_
  rw [List.mem_filter, List.mem_filter, Text.mem_distinctAscending]

variable {paths p}

theorem fault?_infer (hplain : ∀ d ∈ paths.flatMap directoriesOf, isClaimed d = true → Glob.IsPlain d.toList) :
    fault? (infer paths) = none := by
  refine List.findSome?_eq_none_iff.mpr fun l hl => List.findSome?_eq_none_iff.mpr fun pattern hpattern => ?_
  obtain ⟨d, hd, hclaimed, rfl⟩ := mem_patterns_infer hl hpattern
  rw [Glob.ofText?_below (hplain d hd hclaimed)]
  rfl

/-- Among the directories of all paths, plain ones count for a path if they are its own. -/
theorem first?_fitsBelow_of_isPlain (hp : p ∈ paths)
    (hplain : ∀ d ∈ paths.flatMap directoriesOf, isClaimed d = true → Glob.IsPlain d.toList) :
    first? ((paths.flatMap directoriesOf).filter fun d => Glob.fitsBelow d p) =
      first? ((directoriesOf p).filter fun d => '\n' ∉ restBelow d p) := by
  -- a directory that belongs to no layer may have wildcards, since no pattern is made of it
  refine first?_congr fun d hclaimed => ?_
  rw [List.mem_filter, List.mem_filter, decide_eq_true_eq]
  constructor
  · rintro ⟨hd, hfits⟩
    obtain ⟨rest, hline, hrest⟩ := (Glob.fitsBelow_of_isPlain (hplain d hd hclaimed)).mp hfits
    obtain ⟨q, -, hq⟩ := List.mem_flatMap.mp hd
    exact ⟨mem_directoriesOf_of_below hq hrest, by rwa [restBelow_eq hrest]⟩
  · rintro ⟨hd, hline⟩
    have hmem : d ∈ paths.flatMap directoriesOf := List.mem_flatMap.mpr ⟨p, hp, hd⟩
    exact ⟨hmem, (Glob.fitsBelow_of_isPlain (hplain d hmem hclaimed)).mpr ⟨_, hline, eq_of_mem_directoriesOf hd⟩⟩

theorem filter_restBelow (h : '\n' ∉ p.toList) :
    ((directoriesOf p).filter fun d => '\n' ∉ restBelow d p) = directoriesOf p :=
  List.filter_eq_self.mpr fun _ _ => decide_eq_true fun hmem => h (List.mem_of_mem_drop hmem)

/-- **The layer of a path, told from directories.** It is the first canonical layer that a directory belongs to whose
pattern fits the path, unless a directory's name writes a number of rounds beyond the limit. If the directories that
belong to canonical layers are plain, all patterns can be used and only the path's own directories count, those with the
rest of the path on one line. -/
theorem ask_infer (hp : p ∈ paths) :
    (match fault? (infer paths) with
      | some e => ofLayers (infer paths) = .error e
      | none => ∃ r, ofLayers (infer paths) = .ok r ∧ ∀ asked : List String,
          ((r.askAll asked).2.ask p).1 = first? ((paths.flatMap directoriesOf).filter fun d => Glob.fitsBelow d p)) ∧
    ((∀ d ∈ paths.flatMap directoriesOf, isClaimed d = true → Glob.IsPlain d.toList) →
      ∃ r, ofLayers (infer paths) = .ok r ∧ ∀ asked : List String,
        ((r.askAll asked).2.ask p).1 = first? ((directoriesOf p).filter fun d => '\n' ∉ restBelow d p) ∧
        ('\n' ∉ p.toList → ((r.askAll asked).2.ask p).1 = first? (directoriesOf p))) := by
  constructor
  · cases hfault : fault? (infer paths) with
    | some e => exact ofLayers_error hfault
    | none =>
      have hstands := ofLayers_ok hfault
      exact ⟨_, hstands, fun asked => (ask_askAll hstands asked p).trans (assigned_infer paths p)⟩
  · intro hplain
    have hstands := ofLayers_ok (fault?_infer hplain)
    refine ⟨_, hstands, fun asked => ?_⟩
    rw [ask_askAll hstands, assigned_infer, first?_fitsBelow_of_isPlain hp hplain]
    exact ⟨rfl, fun hline => congrArg first? (filter_restBelow hline)⟩

/-- A bracket that is not closed stands for itself in the pattern of its directory. -/
theorem ask_infer_of_open_bracket :
    ∃ r, ofLayers (infer ["src/ui/page.tsx", "src/UserServices/[draft/core.ts"]) = .ok r ∧
      ∀ asked, ((r.askAll asked).2.ask "src/UserServices/[draft/core.ts").1 = some "application" := by
  have hplain : ∀ d ∈ ["src/ui/page.tsx", "src/UserServices/[draft/core.ts"].flatMap directoriesOf,
      isClaimed d = true → Glob.IsPlain d.toList := by decide +kernel
  have hline : '\n' ∉ "src/UserServices/[draft/core.ts".toList := by decide
  obtain ⟨r, hr, hask⟩ := (ask_infer (p := "src/UserServices/[draft/core.ts") (by decide)).2 hplain
  have hfirst : first? (directoriesOf "src/UserServices/[draft/core.ts") = some "application" := by decide +kernel
  exact ⟨r, hr, fun asked => ((hask asked).2 hline).trans hfirst⟩

/-- A bracket that is closed stands for one of the characters in it, and not for itself. -/
example : directoriesOf "app/[slug]/components/list.tsx" = ["app", "app/[slug]", "app/[slug]/components"] ∧
    Glob.fitsBelow "app/[slug]/components" "app/[slug]/components/list.tsx" = false := by
  constructor
  · cbv
  · cbv

end LayerDefinition
end RepoSurvey
