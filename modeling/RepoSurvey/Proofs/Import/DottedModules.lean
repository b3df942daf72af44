import RepoSurvey.Proofs.Import.RelativePaths

/-!
# Dotted modules

A module is named by its path with dots for slashes, either from the top or, behind leading dots, from a package around
the file that imports it: one dot for the file's own package and one more for each package above.

* `Repository.dottedName`, `moduleFiles`: the name of a module, and the files that it may be, first the one that counts.
* `Repository.above_ofSegments`: packages above a directory; above the top stays the top.
* `Repository.relativeModule_dottedName`, `dotted_dottedName`: both ways lead to the files of the same module.
* `Repository.resolve_dotted_relative`: a module found from a package is found from the top.
* `Repository.resolve_above_top`: what steps up and dots above the top lead to.
-/

namespace RepoSurvey
namespace Repository

open RepoSurvey.Path (IsName IsPlain segments ofSegments)
open Text (isIdentifier)

variable {r : Repository} {file : String} {dirs package module : List (List Char)} {name rest : List Char} {dots : Nat}

/-! ### Names of modules -/

section Names

/-- A module by its names, with dots between them. -/
def dottedName (module : List (List Char)) : List Char := ['.'].intercalate module

theorem dottedName_singleton (m : List Char) : dottedName [m] = m := List.intercalate_singleton

theorem dottedName_cons (m : List Char) (hmodule : module ≠ []) :
    dottedName (m :: module) = m ++ '.' :: dottedName module := by
  rw [dottedName, List.intercalate_cons_of_ne_nil hmodule, List.append_assoc, dottedName]
  rfl

theorem dottedName_ne_nil (hne : module ≠ []) (h : ∀ m ∈ module, isIdentifier m = true) : dottedName module ≠ [] := by
  obtain ⟨m, others, rfl⟩ := List.exists_cons_of_ne_nil hne
  by_cases hothers : others = []
  · rw [hothers, dottedName_singleton]
    exact Text.ne_nil_of_isIdentifier (h m List.mem_cons_self)
  · simp [dottedName_cons m hothers]

theorem isName_of_isIdentifier {s : List Char} (h : isIdentifier s = true) : IsName s := by
  have hdot : '.' ∉ s := Text.not_mem_of_isIdentifier h (by decide)
  refine ⟨Text.not_mem_of_isIdentifier h (by decide), fun hmem => ?_⟩
  simp only [List.mem_cons, List.not_mem_nil, or_false] at hmem
  rcases hmem with rfl | rfl | rfl
  · exact Text.ne_nil_of_isIdentifier h rfl
  · exact hdot (by decide)
  · exact hdot (by decide)

theorem slashed_of_not_mem {s : List Char} (h : '.' ∉ s) : slashed s = s := by
  induction s with
  | nil => rfl
  | cons c s ih =>
    rw [List.mem_cons, not_or] at h
    rw [slashed, List.map_cons, if_neg (Ne.symm h.1)]
    exact congrArg (c :: ·) (ih h.2)

/-- Dots become slashes between the names. -/
theorem slashed_dottedName (h : ∀ m ∈ module, isIdentifier m = true) :
    slashed (dottedName module) = ofSegments module := by
  induction module with
  | nil => rfl
  | cons m module ih =>
    have hm : slashed m = m :=
      slashed_of_not_mem (Text.not_mem_of_isIdentifier (h m List.mem_cons_self) (by decide))
    by_cases hmodule : module = []
    · rw [hmodule, dottedName_singleton, hm]
      exact List.intercalate_singleton.symm
    · have hrest := ih fun x hx => h x (List.mem_cons_of_mem m hx)
      have hcut : ofSegments (m :: module) = m ++ '/' :: ofSegments module := by
        rw [ofSegments, List.intercalate_cons_of_ne_nil hmodule, List.append_assoc, ofSegments]
        rfl
      rw [dottedName_cons m hmodule, hcut, ← hrest, slashed, List.map_append, List.map_cons]
      exact congrArg (· ++ '/' :: slashed (dottedName module)) hm

/-- The characters of a dotted name are dots and those of its parts. -/
theorem of_mem_dottedName {c : Char} (hc : c ∈ dottedName module) : c = '.' ∨ ∃ m ∈ module, c ∈ m := by
  induction module with
  | nil => cases hc
  | cons m module ih =>
    by_cases hmodule : module = []
    · rw [hmodule, dottedName_singleton] at hc
      exact .inr ⟨m, List.mem_cons_self, hc⟩
    · rw [dottedName_cons m hmodule, List.mem_append, List.mem_cons] at hc
      rcases hc with hc | hc | hc
      · exact .inr ⟨m, List.mem_cons_self, hc⟩
      · exact .inl hc
      · rcases ih hc with hdot | ⟨x, hx, hcx⟩
        · exact .inl hdot
        · exact .inr ⟨x, List.mem_cons_of_mem m hx, hcx⟩

/-- A name of identifiers is kept as it is. -/
theorem isBlank_of_mem_dottedName (h : ∀ m ∈ module, isIdentifier m = true) {c : Char} (hc : c ∈ dottedName module) :
    Text.isBlank c = false := by
  rcases of_mem_dottedName hc with rfl | ⟨m, hm, hcm⟩
  · decide
  · exact Text.isBlank_of_isIdentifier (h m hm) c hcm

theorem slash_not_mem_dottedName (h : ∀ m ∈ module, isIdentifier m = true) : '/' ∉ dottedName module := by
  intro hc
  rcases of_mem_dottedName hc with hdot | ⟨m, hm, hcm⟩
  · cases hdot
  · exact (isName_of_isIdentifier (h m hm)).not_mem hcm

/-- A dotted name begins as its first part does. -/
theorem head?_dottedName (h : ∀ m ∈ module, isIdentifier m = true) : (dottedName module).head? ≠ some '.' := by
  cases module with
  | nil => nofun
  | cons m module =>
    have hm := h m List.mem_cons_self
    intro hhead
    have hfirst : m.head? = some '.' := by
      by_cases hmodule : module = []
      · rwa [hmodule, dottedName_singleton] at hhead
      · rwa [dottedName_cons m hmodule, List.head?_append_of_ne_nil _ (Text.ne_nil_of_isIdentifier hm)] at hhead
    exact Text.not_mem_of_isIdentifier hm (by decide) (List.mem_of_head? hfirst)

end Names

/-! ### Files of modules -/

section Files

/-- The files that a module below a package may be, the first one before the second; without a name it is the package
itself. -/
def moduleFiles (package module : List (List Char)) : List String :=
  if module = [] then [String.ofList (ofSegments (package ++ ["__init__.py".toList]))]
  else
    [ String.ofList (ofSegments (package ++ module) ++ ".py".toList),
      String.ofList (ofSegments (package ++ module) ++ "/__init__.py".toList) ]

theorem ofSegments_init {parts : List (List Char)} (h : parts ≠ []) :
    ofSegments (parts ++ ["__init__.py".toList]) = ofSegments parts ++ "/__init__.py".toList := by
  rw [Path.ofSegments_append h (List.cons_ne_nil _ _)]
  rfl

/-- Packages above a directory; above the top there is nothing but the top. -/
theorem above_ofSegments (h : ∀ d ∈ dirs, IsName d) (n : Nat) :
    above n (ofSegments dirs) = ofSegments (dirs.take (dirs.length - n)) := by
  induction n generalizing dirs with
  | zero => rw [above, Nat.sub_zero, List.take_length]
  | succ n ih =>
    have hdropLast : dirs.dropLast.take (dirs.dropLast.length - n) = dirs.take (dirs.length - (n + 1)) := by
      rw [List.length_dropLast, List.dropLast_eq_take, List.take_take]
      congr 1
      omega
    rw [above, Path.directory_ofSegments h, ih fun d hd => h d (List.dropLast_subset _ hd), hdropLast]

/-- The paths that are tried for a name below a directory. -/
def moduleCandidates (directory rest : List Char) : List (List Char) :=
  if rest.isEmpty then [Path.join directory "__init__.py".toList]
  else
    [ Path.join directory (slashed rest) ++ ".py".toList,
      Path.join (Path.join directory (slashed rest)) "__init__.py".toList ]

/-- Only the directory above a file depends on the dots. -/
theorem relativeModule_dots (hrest : rest.head? ≠ some '.') (dots : Nat) (path : List Char) :
    r.relativeModule path (List.replicate dots '.' ++ rest) =
      (moduleCandidates (above (dots - 1) (Path.directory path)) rest).findSome? fun c => r.known? (Path.normal c) := by
  have hstop : rest.head?.any (· == '.') = false := by
    cases hc : rest.head? with
    | none => rfl
    | some c => simpa [hc] using hrest
  have hletters : ∀ c ∈ List.replicate dots '.', (c == '.') = true := by simp
  have htake : (List.replicate dots '.' ++ rest).takeWhile (· == '.') = List.replicate dots '.' :=
    Pattern.takeWhile_append_edge hletters hstop
  have hdrop : (List.replicate dots '.' ++ rest).dropWhile (· == '.') = rest :=
    Pattern.dropWhile_append_edge hletters hstop
  rw [relativeModule]
  simp only [htake, hdrop, List.length_replicate]
  rfl

/-- The paths that are tried for a module below a package are those of its files. -/
theorem map_moduleCandidates (hpackage : ∀ d ∈ package, IsName d) (hmodule : ∀ m ∈ module, isIdentifier m = true) :
    ((moduleCandidates (ofSegments package) (dottedName module)).map fun path => String.ofList (Path.normal path)) =
      moduleFiles package module := by
  have hinit : segments "__init__.py".toList = ["__init__.py".toList] := by decide
  have hstart : Path.startsWithSlash "__init__.py".toList = false := by decide
  have hlast : ∀ x ∈ ["__init__.py".toList], IsName x := List.forall_mem_singleton.mpr (by decide)
  by_cases hne : module = []
  · have hplain : IsPlain (ofSegments (package ++ ["__init__.py".toList])) :=
      Path.isPlain_ofSegments (by simp) (List.forall_mem_append.mpr ⟨hpackage, hlast⟩)
    have hempty : (dottedName []).isEmpty = true := rfl
    rw [hne, moduleFiles, moduleCandidates, if_pos rfl, if_pos hempty, Path.join_eq hpackage hstart, hinit,
      List.map_singleton, Path.normal_of_isPlain hplain]
  · have hmoduleNames : ∀ m ∈ module, IsName m := fun m hm => isName_of_isIdentifier (hmodule m hm)
    have hnames : ∀ x ∈ package ++ module, IsName x := List.forall_mem_append.mpr ⟨hpackage, hmoduleNames⟩
    have hbelow : package ++ module ≠ [] := by simp [hne]
    have hplain := Path.isPlain_ofSegments hbelow hnames
    have hjoined : Path.join (ofSegments package) (ofSegments module) = ofSegments (package ++ module) := by
      rw [Path.join_eq hpackage (Path.isPlain_ofSegments hne hmoduleNames).startsWithSlash,
        Path.segments_ofSegments hne fun m hm => (hmoduleNames m hm).not_mem]
    have hfile : IsPlain (ofSegments (package ++ module) ++ ".py".toList) :=
      hplain.append_suffix (by decide) (by decide)
    have hpackageFile : IsPlain (ofSegments (package ++ module ++ ["__init__.py".toList])) :=
      Path.isPlain_ofSegments (by simp) (List.forall_mem_append.mpr ⟨hnames, hlast⟩)
    rw [moduleFiles, moduleCandidates, if_neg hne, List.isEmpty_eq_false_iff.mpr (dottedName_ne_nil hne hmodule),
      slashed_dottedName hmodule, hjoined, Path.join_eq hnames hstart, hinit]
    simp only [Bool.false_eq_true, if_false, List.map_cons, List.map_nil, Path.normal_of_isPlain hfile,
      Path.normal_of_isPlain hpackageFile]
    rw [ofSegments_init hbelow]

/-- A module below a package is looked up in its files. -/
theorem relativeModule_dottedName (hfile : segments file.toList = dirs ++ [name]) (hdirs : ∀ d ∈ dirs, IsName d)
    (hmodule : ∀ m ∈ module, isIdentifier m = true) (hdots : dots ≠ 0) :
    r.relativeModule file.toList (List.replicate dots '.' ++ dottedName module) =
      (moduleFiles (dirs.take (dirs.length + 1 - dots)) module).find? (· ∈ r.known) := by
  have hpackage : above (dots - 1) (Path.directory file.toList) =
      ofSegments (dirs.take (dirs.length + 1 - dots)) := by
    have hcount : dirs.length - (dots - 1) = dirs.length + 1 - dots := by omega
    rw [Path.directory_of_segments hfile hdirs, above_ofSegments hdirs, hcount]
  have hnames : ∀ d ∈ dirs.take (dirs.length + 1 - dots), IsName d := fun d hd => hdirs d (List.mem_of_mem_take hd)
  rw [relativeModule_dots (head?_dottedName hmodule), hpackage, findSome?_known?, map_moduleCandidates hnames hmodule]

end Files

/-! ### Relative names -/

section RelativeNames

theorem strip_dots (hdots : dots ≠ 0) (rest : List Char) :
    Text.strip (List.replicate dots '.' ++ rest) = List.replicate dots '.' ++ rest.rdropWhile Text.isBlank := by
  obtain ⟨n, rfl⟩ := Nat.exists_eq_succ_of_ne_zero hdots
  refine Text.strip_append (by simp) ?_ ?_ rest
  · rw [List.replicate_succ]
    rfl
  · rw [List.replicate_succ', List.getLast?_concat]
    rfl

/-- In a file with dotted modules, leading dots name a package around it. -/
theorem resolve_dots (hdots : dots ≠ 0) (rest : List Char) :
    r.resolve file (String.ofList (List.replicate dots '.' ++ rest)) (some .python) =
      r.relativeModule file.toList (List.replicate dots '.' ++ rest.rdropWhile Text.isBlank) := by
  rw [resolve, String.toList_ofList, strip_dots hdots]
  obtain ⟨n, rfl⟩ := Nat.exists_eq_succ_of_ne_zero hdots
  rw [List.replicate_succ, List.cons_append]
  simp

theorem resolve_dots_dottedName (hfile : segments file.toList = dirs ++ [name]) (hdirs : ∀ d ∈ dirs, IsName d)
    (hmodule : ∀ m ∈ module, isIdentifier m = true) (hdots : dots ≠ 0) :
    r.resolve file (String.ofList (List.replicate dots '.' ++ dottedName module)) (some .python) =
      (moduleFiles (dirs.take (dirs.length + 1 - dots)) module).find? (· ∈ r.known) := by
  have hkept : (dottedName module).rdropWhile Text.isBlank = dottedName module := by
    rw [List.rdropWhile_eq_self_iff]
    intro hne
    rw [isBlank_of_mem_dottedName hmodule (List.getLast_mem hne)]
    nofun
  rw [resolve_dots hdots, hkept, relativeModule_dottedName hfile hdirs hmodule hdots]

end RelativeNames

/-! ### Names from the top -/

section NamesFromTop

/-- A name from the top is looked up in the files of its module before those below `src`. -/
theorem dotted_dottedName {t : String} (hne : module ≠ []) (hmodule : ∀ m ∈ module, isIdentifier m = true)
    (h : (moduleFiles [] module).find? (· ∈ r.known) = some t) : r.dotted (dottedName module) ".py" = some t := by
  have hfirst : ([".py", "/__init__.py"].findSome? fun ending =>
      r.known? ("".toList ++ ofSegments module ++ ending.toList)) = some t := by
    rw [findSome?_known?, ← h, moduleFiles, if_neg hne]
    rfl
  rw [dotted]
  simp only [slashed_dottedName hmodule]
  rw [List.findSome?_cons, hfirst]

/-- Without aliases and packages, a dotted name is a name from the top. -/
theorem resolve_dottedName (hne : module ≠ []) (hmodule : ∀ m ∈ module, isIdentifier m = true)
    (haliases : r.aliases = []) (hpackages : r.packages = []) :
    r.resolve file (String.ofList (dottedName module)) (some .python) = r.dotted (dottedName module) ".py" := by
  have hhead := head?_dottedName hmodule
  have hslash := slash_not_mem_dottedName hmodule
  have hstrip := Text.strip_of_not_blank fun c => isBlank_of_mem_dottedName hmodule (c := c)
  obtain ⟨c, rest, hname⟩ := List.exists_cons_of_ne_nil (dottedName_ne_nil hne hmodule)
  rw [hname] at hhead hslash hstrip ⊢
  have hdot : c ≠ '.' := fun hc => hhead (hc ▸ rfl)
  have hfirst : c ≠ '/' := fun hc => hslash (hc ▸ List.mem_cons_self)
  have haliased : r.aliased (c :: rest) = none := by rw [aliased, haliases]; rfl
  have hpackaged : r.packaged (c :: rest) = none := by rw [packaged, hpackages]; rfl
  have hscope : "@/".toList.isPrefixOf (c :: rest) = false := by
    refine Bool.eq_false_iff.mpr fun hscope => hslash ?_
    exact (List.isPrefixOf_iff_prefix.mp hscope).subset (by decide)
  rw [resolve, String.toList_ofList, hstrip]
  simp only [hdot, hfirst, and_false, false_and, or_self, if_false, reduceCtorEq, Option.some.injEq]
  rw [absolute, haliased, hpackaged, hscope, Bool.and_false]
  rfl

end NamesFromTop

/-! ### Both together -/

section Together

/-- **A module found from a package is found from the top.** Dots and a name of identifiers lead to the first known file
of the module below the package, one package above the file's own for each dot after the first, or to none. Where they
lead to one, the name of the package and of the module from the top leads to the same, from any file, if there are no
aliases and no packages of other names. -/
theorem resolve_dotted_relative (hfile : segments file.toList = dirs ++ [name])
    (hdirs : ∀ d ∈ dirs, isIdentifier d = true) (hmodule : ∀ m ∈ module, isIdentifier m = true) (hne : module ≠ [])
    (hdots : 1 ≤ dots) (hpackage : package = dirs.take (dirs.length + 1 - dots)) :
    r.resolve file (String.ofList (List.replicate dots '.' ++ dottedName module)) (some .python) =
        [ String.ofList (ofSegments (package ++ module) ++ ".py".toList),
          String.ofList (ofSegments (package ++ module) ++ "/__init__.py".toList) ].find? (· ∈ r.known) ∧
      ∀ t, r.resolve file (String.ofList (List.replicate dots '.' ++ dottedName module)) (some .python) = some t →
        ∀ other, { r with aliases := [], packages := [] }.resolve other
          (String.ofList (dottedName (package ++ module))) (some .python) = some t := by
  have hnames : ∀ d ∈ dirs, IsName d := fun d hd => isName_of_isIdentifier (hdirs d hd)
  have hfound := resolve_dots_dottedName (r := r) hfile hnames hmodule (Nat.one_le_iff_ne_zero.mp hdots)
  rw [← hpackage, moduleFiles, if_neg hne] at hfound
  refine ⟨hfound, fun t ht other => ?_⟩
  have hwhole : ∀ x ∈ package ++ module, isIdentifier x = true := by
    refine List.forall_mem_append.mpr ⟨fun d hd => hdirs d ?_, hmodule⟩
    exact List.mem_of_mem_take (hpackage ▸ hd)
  have hwholeNe : package ++ module ≠ [] := by simp [hne]
  rw [resolve_dottedName hwholeNe hwhole rfl rfl]
  refine dotted_dottedName hwholeNe hwhole ?_
  rw [moduleFiles, if_neg hwholeNe, List.nil_append, ← ht, hfound]

/-- A repository in which a package and a file have the name of one module. -/
def moduleTwice : Repository := { known := ["pkg/core/base/__init__.py", "pkg/core/base.py", "src/pkg/core/base.py"] }

theorem resolve_dotted_relative_of_module_twice :
    moduleTwice.resolve "pkg/sub/mod.py" "..core.base" (some .python) = some "pkg/core/base.py" ∧
      moduleTwice.resolve "tool.py" "pkg.core.base" (some .python) = some "pkg/core/base.py" := by
  obtain ⟨hfound, hsame⟩ := @resolve_dotted_relative moduleTwice "pkg/sub/mod.py" ["pkg".toList, "sub".toList]
    ["pkg".toList] ["core".toList, "base".toList] "mod.py".toList 2 (by decide) (by decide +kernel) (by decide +kernel)
    (by decide) (by decide) (by decide)
  have hrelative : moduleTwice.resolve "pkg/sub/mod.py" "..core.base" (some .python) = some "pkg/core/base.py" :=
    hfound.trans (by decide)
  exact ⟨hrelative, hsame _ hrelative "tool.py"⟩

/-- **Above the top of the repository.** Where no known path begins with two dots, more steps up than a file has
directories lead nowhere. More leading dots than there are packages around the file name the top itself: they lead
where as many dots as there are packages lead, and so to the module's files at the top if one of them is known. -/
theorem resolve_above_top (hfile : segments file.toList = dirs ++ [name]) (hplain : IsPlain file.toList)
    (hknown : ∀ t ∈ r.known, ¬['.', '.'] <+: t.toList) :
    (∀ language ≠ some Language.python, ∀ up > dirs.length, ∀ rest : List Char,
        r.resolve file (String.ofList (stepsUp up ++ rest)) language = none) ∧
      ∀ dots > dirs.length + 1,
        (∀ rest : List Char, rest.head? ≠ some '.' →
          r.resolve file (String.ofList (List.replicate dots '.' ++ rest)) (some .python) =
            r.resolve file (String.ofList (List.replicate (dirs.length + 1) '.' ++ rest)) (some .python)) ∧
        ∀ module : List (List Char), (∀ m ∈ module, isIdentifier m = true) →
          (r.resolve file (String.ofList (List.replicate dots '.' ++ dottedName module)) (some .python) = none ↔
            ∀ t ∈ moduleFiles [] module, t ∉ r.known) := by
  have hdirs : ∀ d ∈ dirs, IsName d := fun d hd => hplain d (hfile ▸ List.mem_append_left _ hd)
  refine ⟨fun language hlanguage up hup => resolve_surplus hlanguage hfile hdirs hup hknown, fun dots hdots => ⟨?_, ?_⟩⟩
  · intro rest hrest
    have hkept : (rest.rdropWhile Text.isBlank).head? ≠ some '.' := by
      intro hhead
      obtain ⟨others, hothers⟩ := List.head?_eq_some_iff.mp hhead
      obtain ⟨blanks, hblanks⟩ := List.rdropWhile_prefix Text.isBlank (l := rest)
      exact hrest (by rw [← hblanks, hothers]; rfl)
    have htop : dirs.length - (dots - 1) = dirs.length - (dirs.length + 1 - 1) := by omega
    rw [resolve_dots (by omega), resolve_dots (by omega), relativeModule_dots hkept, relativeModule_dots hkept,
      Path.directory_of_segments hfile hdirs, above_ofSegments hdirs, above_ofSegments hdirs, htop]
  · intro module hmodule
    have htop : dirs.length + 1 - dots = 0 := by omega
    rw [resolve_dots_dottedName hfile hdirs hmodule (by omega), htop, List.take_zero, List.find?_eq_none]
    simp

/-- A repository with a file in a package and one at the top. -/
def packageAndTop : Repository := { known := ["pkg/a.py", "b.py"] }

/-- One step up too many leads nowhere, and one dot too many to the top. -/
theorem resolve_above_top_of_package :
    packageAndTop.resolve "pkg/a.py" "../../b.py" (some .typescript) = none ∧
      packageAndTop.resolve "pkg/a.py" "...b" (some .python) = packageAndTop.resolve "pkg/a.py" "..b" (some .python) ∧
      packageAndTop.resolve "pkg/a.py" "...b" (some .python) ≠ none := by
  obtain ⟨hup, hdots⟩ := @resolve_above_top packageAndTop "pkg/a.py" ["pkg".toList] "a.py".toList (by decide)
    (by decide) (by decide)
  obtain ⟨hsame, hnone⟩ := hdots 3 (by decide)
  have hb : ∀ m ∈ ["b".toList], isIdentifier m = true := List.forall_mem_singleton.mpr (by decide +kernel)
  refine ⟨hup (some .typescript) (by decide) 2 (by decide) "b.py".toList, hsame "b".toList (by decide), ?_⟩
  exact fun hfound => (hnone ["b".toList] hb).mp hfound "b.py" (by decide) (by decide)

end Together

end Repository
end RepoSurvey
