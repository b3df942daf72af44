import Mathlib.Data.List.Infix
import RepoSurvey.Import.Resolution
import RepoSurvey.Proofs.Path.Segments
import RepoSurvey.Proofs.Text.Blank

/-!
# Relative specifiers

A specifier with a leading dot climbs from the directory of a file and goes down again. In normal form every step up
takes one directory away, so that the specifier stands for what both paths share and the way down.

* `Repository.findSome?_known?`, `probe_eq`: the first known one of some paths.
* `Repository.stepsUp`, `relativeSpecifier`: steps up as a specifier writes them, and the way down behind them.
* `Repository.resolve_of_dot`: what is looked up for a specifier with a leading dot.
* `Repository.resolve_relativeSpecifier`: the steps up cancel the directories of the file.
* `Repository.resolve_relative_path`: a specifier made from two paths leads from the one to the other, with or without
  its suffix.
* `Repository.resolve_surplus`: more steps up than there are directories lead nowhere.
-/

namespace RepoSurvey
namespace Repository

open RepoSurvey.Path (IsName IsPlain segments ofSegments)

variable {r : Repository} {file : String} {language : Option Language}

/-! ### The first known path -/

section FirstKnown

theorem findSome?_known? {α : Type} (path : α → List Char) (items : List α) :
    items.findSome? (fun a => r.known? (path a)) =
      (items.map fun a => String.ofList (path a)).find? (· ∈ r.known) := by
  induction items with
  | nil => rfl
  | cons a items ih =>
    rw [List.findSome?_cons, List.map_cons, List.find?_cons, ih, known?]
    by_cases h : String.ofList (path a) ∈ r.known
    · simp [h]
    · simp [h]

theorem probe_eq (base : List Char) : r.probe base =
    (suffixes.find? fun suffix => String.ofList (base ++ suffix.toList) ∈ r.known).map
      fun suffix => String.ofList (base ++ suffix.toList) := by
  rw [probe, findSome?_known?, List.find?_map]
  rfl

/-- A known path is found as it stands, whatever else is known. -/
theorem probe_of_mem {path : List Char} (h : String.ofList path ∈ r.known) :
    r.probe path = some (String.ofList path) := by
  simp [probe_eq, suffixes, h]

end FirstKnown

/-! ### Steps up and a way down -/

section Written

/-- Steps up as a specifier writes them. -/
def stepsUp (n : Nat) : List Char := (List.replicate n "../".toList).flatten

/-- A relative specifier: steps up, or the directory itself where there are none, and the way down. -/
def relativeSpecifier (up : Nat) (way : List Char) : List Char :=
  (if up = 0 then "./".toList else stepsUp up) ++ way

theorem stepsUp_succ (n : Nat) : stepsUp (n + 1) = "../".toList ++ stepsUp n := by
  rw [stepsUp, List.replicate_succ, List.flatten_cons, stepsUp]

theorem getLast?_stepsUp_succ (n : Nat) : (stepsUp (n + 1)).getLast? = some '/' := by
  rw [stepsUp, List.replicate_succ', List.flatten_append, List.getLast?_append_of_ne_nil _ (by simp)]
  rfl

theorem strip_stepsUp {n : Nat} (hn : n ≠ 0) (rest : List Char) :
    Text.strip (stepsUp n ++ rest) = stepsUp n ++ rest.rdropWhile Text.isBlank := by
  obtain ⟨n, rfl⟩ := Nat.exists_eq_succ_of_ne_zero hn
  have hlast := getLast?_stepsUp_succ n
  refine Text.strip_append ?_ (by rw [stepsUp_succ]; rfl) (by rw [hlast]; rfl) rest
  intro hnil
  rw [hnil] at hlast
  cases hlast

theorem segments_stepsUp (n : Nat) (way : List Char) :
    segments (stepsUp n ++ way) = List.replicate n ['.', '.'] ++ segments way := by
  induction n with
  | zero => rfl
  | succ n ih =>
    have hstep : "../".toList ++ (stepsUp n ++ way) = ['.', '.'] ++ '/' :: (stepsUp n ++ way) := rfl
    rw [stepsUp_succ, List.append_assoc, hstep, Path.segments_append_slash, ih, List.replicate_succ]
    rfl

theorem segments_relativeSpecifier (up : Nat) (way : List Char) :
    segments (relativeSpecifier up way) =
      (if up = 0 then [['.']] else List.replicate up ['.', '.']) ++ segments way := by
  rw [relativeSpecifier]
  split_ifs with hup
  · exact Path.segments_append_slash ['.'] way
  · exact segments_stepsUp up way

theorem head?_stepsUp {n : Nat} (hn : n ≠ 0) (way : List Char) : (stepsUp n ++ way).head? = some '.' := by
  obtain ⟨n, rfl⟩ := Nat.exists_eq_succ_of_ne_zero hn
  rw [Nat.succ_eq_add_one, stepsUp_succ]
  rfl

theorem head?_relativeSpecifier (up : Nat) (way : List Char) : (relativeSpecifier up way).head? = some '.' := by
  rw [relativeSpecifier]
  split_ifs with hup
  · rfl
  · exact head?_stepsUp hup way

end Written

/-! ### What is looked up -/

section LookedUp

variable {spec : List Char}

theorem startsWithSlash_of_dot (h : spec.head? = some '.') : Path.startsWithSlash spec = false := by
  rw [Path.startsWithSlash, h]
  rfl

/-- A specifier with a leading dot is looked up below the directory of its file. -/
theorem resolve_of_dot {specifier : String} (hlanguage : language ≠ some .python)
    (hspec : Text.strip specifier.toList = spec) (hdot : spec.head? = some '.') :
    r.resolve file specifier language = r.probe (Path.normal (Path.join (Path.directory file.toList) spec)) := by
  cases spec with
  | nil => cases hdot
  | cons c rest =>
    have hc : c = '.' := by simpa using hdot
    subst hc
    have hslash : ('.' :: rest).dropWhile (· == '/') = '.' :: rest := List.dropWhile_cons_of_neg (by decide)
    rw [resolve, hspec]
    simp [hlanguage, relativePath, hslash]

end LookedUp

/-! ### Between two paths -/

section Between

variable {shared left rest : List (List Char)} {name way : List Char}

/-- The steps up cancel the directories that a file does not share. -/
theorem resolve_relativeSpecifier (hlanguage : language ≠ some .python)
    (hfile : segments file.toList = shared ++ left ++ [name]) (hdirs : ∀ d ∈ shared ++ left, IsName d)
    (hway : IsPlain way) (hend : way.getLast?.any Text.isBlank = false) :
    r.resolve file (String.ofList (relativeSpecifier left.length way)) language =
      r.probe (ofSegments (shared ++ segments way)) := by
  have hdot := head?_relativeSpecifier left.length way
  have hslash := startsWithSlash_of_dot hdot
  have hwayNe : way ≠ [] := by
    rintro rfl
    exact (hway [] (List.mem_singleton_self [])).ne_nil rfl
  have hstrip : Text.strip (String.ofList (relativeSpecifier left.length way)).toList =
      relativeSpecifier left.length way := by
    rw [String.toList_ofList]
    refine Text.strip_eq_self (by rw [hdot]; rfl) ?_
    rwa [relativeSpecifier, List.getLast?_append_of_ne_nil _ hwayNe]
  have hdirectory : Path.directory file.toList = ofSegments (shared ++ left) := Path.directory_of_segments hfile hdirs
  have hback : (if left.length = 0 then [['.']] else List.replicate left.length ['.', '.']).foldl
      (Path.pushSegment false) (left.reverse ++ shared.reverse) = shared.reverse := by
    split_ifs with hleft
    · rw [List.length_eq_zero_iff.mp hleft]
      rfl
    · rw [← List.length_reverse]
      exact Path.foldl_pushSegment_back fun x hx => hdirs x (List.mem_append_right _ (List.mem_reverse.mp hx))
  have hfold : (segments (Path.join (ofSegments (shared ++ left)) (relativeSpecifier left.length way))).foldl
      (Path.pushSegment false) [] = (shared ++ segments way).reverse := by
    rw [Path.segments_join hdirs hslash, segments_relativeSpecifier, List.foldl_append, List.foldl_append,
      Path.foldl_pushSegment_names hdirs, List.append_nil, List.reverse_append, hback,
      Path.foldl_pushSegment_names hway, List.reverse_append]
  have hnames : ∀ x ∈ shared ++ segments way, IsName x := by
    intro x hx
    rcases List.mem_append.mp hx with hx | hx
    · exact hdirs x (List.mem_append_left _ hx)
    · exact hway x hx
  have hne : shared ++ segments way ≠ [] := by simp [Path.segments_ne_nil]
  rw [resolve_of_dot hlanguage hstrip hdot, hdirectory,
    Path.normal_eq (Path.startsWithSlash_join hdirs hslash) hfold (Path.ofSegments_ne_nil hne hnames)]

/-- A text whose last segment is a name goes beyond the steps up that it begins with. -/
theorem exists_way {up : Nat} {bare suffix : List Char} (hbase : IsName (Path.base bare))
    (h : relativeSpecifier up way = bare ++ suffix) :
    ∃ front, bare = relativeSpecifier up front ∧ way = front ++ suffix := by
  rw [relativeSpecifier] at h
  obtain ⟨front, hbare, hway⟩ | ⟨others, hsteps, -⟩ := List.append_eq_append_iff.mp h
  · exact ⟨front, by rw [relativeSpecifier, hbare], hway⟩
  · -- the text ends within the steps up, and so does its last segment
    have hsegments : ∀ part ∈ segments (if up = 0 then "./".toList else stepsUp up),
        part ∈ [[], ['.'], ['.', '.']] := by
      have hcut := segments_relativeSpecifier up []
      rw [relativeSpecifier, List.append_nil] at hcut
      intro part hpart
      rw [hcut] at hpart
      rcases List.mem_append.mp hpart with hpart | hpart
      · split_ifs at hpart
        · simp_all
        · rw [List.eq_of_mem_replicate hpart]
          decide
      · rw [List.mem_singleton.mp hpart]
        decide
    obtain ⟨part, hpart, hprefix⟩ := Path.exists_segment_of_append bare others
    rw [← hsteps] at hpart
    have hshort : ∀ part ∈ ([[], ['.'], ['.', '.']] : List (List Char)), ∀ start ∈ part.inits,
        start ∈ ([[], ['.'], ['.', '.']] : List (List Char)) := by decide
    exact absurd (hshort part (hsegments part hpart) _ ((List.mem_inits _ _).mpr hprefix)) hbase.2

/-- **A relative specifier leads to the path it names.** From a file, a known path is written as the steps up to a
directory that both share and the way down from there, and this is what is found, whatever else is known. Without one
of the suffixes the specifier leads to the first suffix of the rest of the path that makes it known. -/
theorem resolve_relative_path {target : String} (hfile : IsPlain file.toList) (htarget : IsPlain target.toList)
    (hfileParts : segments file.toList = shared ++ left ++ [name])
    (htargetParts : segments target.toList = shared ++ rest) (hrest : rest ≠ [])
    (hend : target.toList.getLast?.any Text.isBlank = false) (hknown : target ∈ r.known)
    (hlanguage : language ≠ some .python) :
    r.resolve file (String.ofList (relativeSpecifier left.length (ofSegments rest))) language = some target ∧
      ∀ suffix ∈ suffixes, ∀ bare : List Char,
        relativeSpecifier left.length (ofSegments rest) = bare ++ suffix.toList → IsName (Path.base bare) →
        bare.getLast?.any Text.isBlank = false →
        ∃ path first, target.toList = path ++ suffix.toList ∧
          suffixes.find? (fun s => String.ofList (path ++ s.toList) ∈ r.known) = some first ∧
          r.resolve file (String.ofList bare) language = some (String.ofList (path ++ first.toList)) := by
  have hdirs : ∀ d ∈ shared ++ left, IsName d := fun d hd => hfile d (hfileParts ▸ List.mem_append_left _ hd)
  have hrestNames : ∀ x ∈ rest, IsName x := fun x hx => htarget x (htargetParts ▸ List.mem_append_right _ hx)
  have hway : segments (ofSegments rest) = rest :=
    Path.segments_ofSegments hrest fun x hx => (hrestNames x hx).not_mem
  have hwhole : ofSegments (shared ++ segments (ofSegments rest)) = target.toList := by
    rw [hway, ← htargetParts, Path.ofSegments_segments]
  constructor
  · have hwayEnd : (ofSegments rest).getLast?.any Text.isBlank = false := by
      have hcut := Path.ofSegments_append_segments shared [] (ofSegments rest)
      rw [List.nil_append, hwhole] at hcut
      rwa [hcut, List.getLast?_append_of_ne_nil _ (Path.ofSegments_ne_nil hrest hrestNames)] at hend
    rw [resolve_relativeSpecifier hlanguage hfileParts hdirs (by rwa [IsPlain, hway]) hwayEnd, hwhole,
      probe_of_mem (by rwa [String.ofList_toList]), String.ofList_toList]
  · intro suffix hsuffix bare hbare hbase hbareEnd
    obtain ⟨front, rfl, hfront⟩ := exists_way hbase hbare
    have hpath : target.toList = ofSegments (shared ++ segments front) ++ suffix.toList := by
      rw [← hwhole, hfront, Path.ofSegments_append_segments]
    rw [Path.base_of_segments (segments_relativeSpecifier left.length front)] at hbase
    have hplain : IsPlain front := by
      refine Path.isPlain_of_append (q := suffix.toList) ?_ hbase
      rwa [← hfront, IsPlain, hway]
    have hfrontNe : front ≠ [] := by
      rintro rfl
      exact hbase.ne_nil rfl
    rw [relativeSpecifier, List.getLast?_append_of_ne_nil _ hfrontNe] at hbareEnd
    have hfound : (suffixes.find? fun s =>
        String.ofList (ofSegments (shared ++ segments front) ++ s.toList) ∈ r.known).isSome := by
      rw [List.find?_isSome]
      exact ⟨suffix, hsuffix, decide_eq_true (by rwa [← hpath, String.ofList_toList])⟩
    obtain ⟨first, hfirst⟩ := Option.isSome_iff_exists.mp hfound
    refine ⟨ofSegments (shared ++ segments front), first, hpath, hfirst, ?_⟩
    rw [resolve_relativeSpecifier hlanguage hfileParts hdirs hplain hbareEnd, probe_eq, hfirst, Option.map_some]

/-- A repository in which the same name has two suffixes. -/
def twoSuffixes : Repository := { known := ["app/lib/io.py", "app/lib/io.ts"] }

/-- A page finds the file that it names; without the suffix it finds the one whose suffix is tried first. -/
theorem resolve_relative_path_of_two_suffixes :
    twoSuffixes.resolve "app/ui/page.ts" "../lib/io.py" (some .typescript) = some "app/lib/io.py" ∧
      twoSuffixes.resolve "app/ui/page.ts" "../lib/io" (some .typescript) = some "app/lib/io.ts" := by
  obtain ⟨hwhole, hbare⟩ := @resolve_relative_path twoSuffixes "app/ui/page.ts" (some .typescript) ["app".toList]
    ["ui".toList] ["lib".toList, "io.py".toList] "page.ts".toList "app/lib/io.py" (by decide) (by decide) (by decide)
    (by decide) (by decide) (by decide) (by decide) (by decide)
  refine ⟨hwhole, ?_⟩
  obtain ⟨path, first, hpath, hfirst, hfound⟩ := hbare ".py" (by decide) "../lib/io".toList (by decide) (by decide)
    (by decide)
  have hcut : "app/lib/io.py".toList = "app/lib/io".toList ++ ".py".toList := by decide
  rw [hcut] at hpath
  obtain rfl := List.append_cancel_right hpath
  have hts : first = ".ts" := Option.some.inj (hfirst.symm.trans (by decide))
  rw [hts] at hfound
  exact hfound

end Between

/-! ### Above the top -/

section AboveTop

/-- Nothing is found for a path that begins with a step up, if no known path does. -/
theorem probe_of_up {path : List Char} (hup : ['.', '.'] <+: path) (hknown : ∀ t ∈ r.known, ¬['.', '.'] <+: t.toList) :
    r.probe path = none := by
  rw [probe_eq, Option.map_eq_none_iff, List.find?_eq_none]
  intro suffix _ hmem
  refine hknown _ (of_decide_eq_true hmem) ?_
  rw [String.toList_ofList]
  exact hup.trans (List.prefix_append path suffix.toList)

/-- More steps up than a file has directories lead to no known path. -/
theorem resolve_surplus {dirs : List (List Char)} {name : List Char} {up : Nat} (hlanguage : language ≠ some .python)
    (hfile : segments file.toList = dirs ++ [name]) (hdirs : ∀ d ∈ dirs, IsName d) (hup : dirs.length < up)
    (hknown : ∀ t ∈ r.known, ¬['.', '.'] <+: t.toList) (rest : List Char) :
    r.resolve file (String.ofList (stepsUp up ++ rest)) language = none := by
  obtain ⟨n, rfl⟩ := Nat.exists_eq_add_of_lt hup
  have hne : dirs.length + n + 1 ≠ 0 := by omega
  have hdot := head?_stepsUp hne (rest.rdropWhile Text.isBlank)
  have hslash := startsWithSlash_of_dot hdot
  have hstrip := strip_stepsUp hne rest
  rw [← String.toList_ofList (l := stepsUp _ ++ rest)] at hstrip
  have hsegments :
      segments (Path.join (ofSegments dirs) (stepsUp (dirs.length + n + 1) ++ rest.rdropWhile Text.isBlank)) =
        dirs ++ List.replicate (dirs.length + (n + 1)) ['.', '.'] ++ segments (rest.rdropWhile Text.isBlank) := by
    rw [Path.segments_join hdirs hslash, segments_stepsUp, List.append_assoc, Nat.add_assoc]
  rw [resolve_of_dot hlanguage hstrip hdot, Path.directory_of_segments hfile hdirs]
  exact probe_of_up (Path.prefix_normal (Path.startsWithSlash_join hdirs hslash) hdirs hsegments) hknown

end AboveTop

end Repository
end RepoSurvey
