import RepoSurvey.Import.Resolution
import RepoSurvey.Proofs.Path.Segments
import RepoSurvey.Proofs.Text.Distinct

/-!
# Imports of Go packages

A package is named by its path below a module, or by an ending that its directory has in common with the path. What
is found is the first file of the first directory with such a name, whatever kind of file that is.

* `Repository.IsPackageDirectory`: the directories that a path can name.
* `Repository.packageTests`, `goPackage_eq`: the tests for a directory in the order in which they are tried.
* `Repository.exists_mem_packageTests`, `goPackage_eq_none`: they let through what a path can name, and nothing else.
* `Repository.firstIn_eq_some`: a test finds the least path that passes it, so that the order of the paths is of no
  account.
* `Repository.goFiles`, `findSome?_firstIn_goFiles`: what is found without the files of other kinds.
* `Repository.resolve_go_package`: what an import of a package leads to, and when that is a Go file.
-/

namespace RepoSurvey
namespace Repository

open RepoSurvey.Path (segments ofSegments directory)

variable {r r' : Repository} {file specifier t : String} {spec dir : List Char} {test : List Char → Bool}

/-! ### Directories of packages -/

section Directories

/-- A directory that a path names: it is what is left of the path below the module, or its last segments are the last
segments of the path. -/
def IsPackageDirectory (goModule : Option String) (spec dir : List Char) : Prop :=
  (∃ m, goModule = some m ∧ m ≠ "" ∧ spec = m.toList ++ '/' :: dir) ∨
    ∃ parts, parts ≠ [] ∧ parts <:+ segments spec ∧ parts <:+ segments dir

/-- Whether a directory ends with some segments. -/
def endsWith (parts : List (List Char)) (dir : List Char) : Bool :=
  dir == ofSegments parts || ('/' :: ofSegments parts).isSuffixOf dir

/-- The test for the directory below the module, if the path begins with the module. -/
def moduleTest? (goModule : Option String) (spec : List Char) : Option (List Char → Bool) :=
  goModule.bind fun m =>
    if m.isEmpty || !(m.toList ++ ['/']).isPrefixOf spec then none
    else some (· == spec.drop (m.toList ++ ['/']).length)

/-- The tests for a directory, in the order in which they are tried. -/
def packageTests (goModule : Option String) (spec : List Char) : List (List Char → Bool) :=
  (moduleTest? goModule spec).toList ++ (tails (segments spec)).map endsWith

theorem goPackage_eq (r : Repository) (spec : List Char) :
    r.goPackage spec = (packageTests r.goModule spec).findSome? r.firstIn := by
  have hendings : ((tails (segments spec)).map endsWith).findSome? r.firstIn = (tails (segments spec)).findSome?
      fun parts => r.firstIn fun dir => dir == ofSegments parts || ('/' :: ofSegments parts).isSuffixOf dir := by
    rw [List.findSome?_map]
    rfl
  rw [packageTests, List.findSome?_append, hendings, goPackage, moduleTest?]
  cases r.goModule with
  | none => rfl
  | some m =>
    simp only [Option.bind_some]
    split_ifs with hcond
    · rfl
    · rw [Option.toList_some, List.findSome?_singleton]
      cases r.firstIn (· == spec.drop (m.toList ++ ['/']).length) with
      | none => rfl
      | some t => rfl

theorem mem_tails {α : Type} {parts items : List α} : parts ∈ tails items ↔ parts ≠ [] ∧ parts <:+ items := by
  induction items with
  | nil =>
    constructor
    · nofun
    · rintro ⟨hne, hsuffix⟩
      exact absurd (List.suffix_nil.mp hsuffix) hne
  | cons a rest ih =>
    rw [tails, List.mem_cons, ih, List.suffix_cons_iff]
    constructor
    · rintro (rfl | ⟨hne, hsuffix⟩)
      · exact ⟨List.cons_ne_nil a rest, .inl rfl⟩
      · exact ⟨hne, .inr hsuffix⟩
    · rintro ⟨hne, hwhole | hsuffix⟩
      · exact .inl hwhole
      · exact .inr ⟨hne, hsuffix⟩

theorem endsWith_eq_true {parts : List (List Char)} (hne : parts ≠ []) (hslash : ∀ x ∈ parts, '/' ∉ x) :
    endsWith parts dir = true ↔ parts <:+ segments dir := by
  rw [endsWith, Bool.or_eq_true, beq_iff_eq, List.isSuffixOf_iff_suffix]
  constructor
  · rintro (rfl | ⟨front, rfl⟩)
    · simp [Path.segments_ofSegments hne hslash]
    · rw [Path.segments_append_slash, Path.segments_ofSegments hne hslash]
      exact List.suffix_append _ _
  · rintro ⟨front, hfront⟩
    by_cases hempty : front = []
    · left
      rw [hempty, List.nil_append] at hfront
      rw [hfront, Path.ofSegments_segments]
    · right
      refine ⟨ofSegments front, ?_⟩
      rw [← Path.ofSegments_append hempty hne, hfront, Path.ofSegments_segments]

/-- A path below the module is tested for what is left of it. -/
theorem moduleTest?_below {m : String} (hne : m ≠ "") (dir : List Char) :
    moduleTest? (some m) (m.toList ++ '/' :: dir) = some (· == dir) := by
  have hcut : m.toList ++ '/' :: dir = (m.toList ++ ['/']) ++ dir := List.append_cons m.toList '/' dir
  have hprefix : (m.toList ++ ['/']).isPrefixOf ((m.toList ++ ['/']) ++ dir) = true :=
    List.isPrefixOf_iff_prefix.mpr (List.prefix_append _ _)
  have hempty : m.isEmpty = false := by simpa using hne
  rw [moduleTest?, Option.bind_some, hcut, hprefix, hempty, List.drop_left]
  rfl

theorem exists_moduleTest {goModule : Option String} :
    (∃ test ∈ moduleTest? goModule spec, test dir = true) ↔
      ∃ m, goModule = some m ∧ m ≠ "" ∧ spec = m.toList ++ '/' :: dir := by
  constructor
  · rintro ⟨test, htest, h⟩
    obtain ⟨m, hm, hcond⟩ := Option.bind_eq_some_iff.mp htest
    split_ifs at hcond with hskip
    obtain rfl := Option.some.inj hcond
    rw [Bool.or_eq_true, not_or, Bool.not_eq_true, Bool.not_eq_true, Bool.not_eq_false',
      List.isPrefixOf_iff_prefix] at hskip
    obtain ⟨hempty, rest, rfl⟩ := hskip
    rw [List.drop_left, beq_iff_eq] at h
    refine ⟨m, hm, ?_, ?_⟩
    · rintro rfl
      cases hempty
    · rw [h, List.append_assoc, List.singleton_append]
  · rintro ⟨m, rfl, hne, rfl⟩
    exact ⟨_, moduleTest?_below hne dir, beq_self_eq_true dir⟩

/-- The directories that pass a test are those that the path names. -/
theorem exists_mem_packageTests {goModule : Option String} :
    (∃ test ∈ packageTests goModule spec, test dir = true) ↔ IsPackageDirectory goModule spec dir := by
  simp only [packageTests, List.mem_append, Option.mem_toList, List.mem_map, or_and_right, exists_or]
  refine or_congr exists_moduleTest ?_
  have hends {parts : List (List Char)} (hparts : parts ≠ [] ∧ parts <:+ segments spec) :
      endsWith parts dir = true ↔ parts <:+ segments dir :=
    endsWith_eq_true hparts.1 fun x hx => Path.not_mem_of_mem_segments (hparts.2.subset hx)
  constructor
  · rintro ⟨_, ⟨parts, hmem, rfl⟩, h⟩
    have hparts := mem_tails.mp hmem
    exact ⟨parts, hparts.1, hparts.2, (hends hparts).mp h⟩
  · rintro ⟨parts, hne, hsuffix, h⟩
    have hparts := And.intro hne hsuffix
    exact ⟨endsWith parts, ⟨parts, mem_tails.mpr hparts, rfl⟩, (hends hparts).mpr h⟩

end Directories

/-! ### The first path -/

section FirstPath

/-- A test finds the least path whose directory passes it. -/
theorem firstIn_eq_some : r.firstIn test = some t ↔
    t ∈ r.known ∧ test (directory t.toList) = true ∧ ∀ p ∈ r.known, test (directory p.toList) = true → t ≤ p :=
  Text.find?_ascending_eq_some

theorem firstIn_eq_none : r.firstIn test = none ↔ ∀ p ∈ r.known, test (directory p.toList) = false := by
  rw [firstIn, List.find?_eq_none]
  simp only [ordered, Text.mem_ascending, Bool.not_eq_true]

theorem firstIn_congr (h : ∀ p, p ∈ r'.known ↔ p ∈ r.known) (test : List Char → Bool) :
    r'.firstIn test = r.firstIn test := by
  ext t
  rw [firstIn_eq_some, firstIn_eq_some, h t]
  simp only [h]

theorem goPackage_congr (h : ∀ p, p ∈ r'.known ↔ p ∈ r.known) (hmodule : r'.goModule = r.goModule) (spec : List Char) :
    r'.goPackage spec = r.goPackage spec := by
  have hfirst : r'.firstIn = r.firstIn := funext (firstIn_congr h)
  rw [goPackage_eq, goPackage_eq, hmodule, hfirst]

/-- A path of a package: its directory is one that the package's path names, and no known path of the same directory
comes before it. -/
structure IsFirstInPackage (r : Repository) (spec : List Char) (t : String) : Prop where
  known : t ∈ r.known
  isPackageDirectory : IsPackageDirectory r.goModule spec (directory t.toList)
  le : ∀ p ∈ r.known, directory p.toList = directory t.toList → t ≤ p

theorem isFirstInPackage_of_goPackage (h : r.goPackage spec = some t) : r.IsFirstInPackage spec t := by
  rw [goPackage_eq] at h
  obtain ⟨test, htest, hfound⟩ := List.exists_of_findSome?_eq_some h
  obtain ⟨hmem, hpasses, hle⟩ := firstIn_eq_some.mp hfound
  refine ⟨hmem, exists_mem_packageTests.mp ⟨test, htest, hpasses⟩, fun p hp hdir => hle p hp ?_⟩
  rw [hdir]
  exact hpasses

/-- Nothing is found only if there is no path in a directory that the package's path names. -/
theorem goPackage_eq_none :
    r.goPackage spec = none ↔ ∀ p ∈ r.known, ¬IsPackageDirectory r.goModule spec (directory p.toList) := by
  rw [goPackage_eq, List.findSome?_eq_none_iff]
  constructor
  · intro h p hp hdir
    obtain ⟨test, htest, hpasses⟩ := exists_mem_packageTests.mpr hdir
    rw [firstIn_eq_none.mp (h test htest) p hp] at hpasses
    cases hpasses
  · intro h test htest
    refine firstIn_eq_none.mpr fun p hp => Bool.eq_false_iff.mpr fun hpasses => h p hp ?_
    exact exists_mem_packageTests.mp ⟨test, htest, hpasses⟩

end FirstPath

/-! ### Files of other kinds -/

section OtherKinds

def isGoFile (path : String) : Bool := ".go".toList.isSuffixOf path.toList

/-- The repository without the files of other kinds. -/
def goFiles (r : Repository) : Repository := { r with known := r.known.filter isGoFile }

theorem mem_known_goFiles {p : String} : p ∈ r.goFiles.known ↔ p ∈ r.known ∧ isGoFile p = true := List.mem_filter

/-- A test finds the same among the Go files, unless it finds a file of another kind. -/
theorem firstIn_goFiles (h : ∀ t, r.firstIn test = some t → isGoFile t = true) :
    r.goFiles.firstIn test = r.firstIn test := by
  cases hfound : r.firstIn test with
  | none =>
    rw [firstIn_eq_none] at hfound ⊢
    exact fun p hp => hfound p (mem_known_goFiles.mp hp).1
  | some t =>
    have hgo := h t hfound
    rw [firstIn_eq_some] at hfound ⊢
    obtain ⟨hmem, hpasses, hle⟩ := hfound
    exact ⟨mem_known_goFiles.mpr ⟨hmem, hgo⟩, hpasses, fun p hp => hle p (mem_known_goFiles.mp hp).1⟩

/-- So does a row of tests: the first that finds a path is the same. -/
theorem findSome?_firstIn_goFiles {tests : List (List Char → Bool)}
    (h : ∀ t, tests.findSome? r.firstIn = some t → isGoFile t = true) :
    tests.findSome? r.goFiles.firstIn = tests.findSome? r.firstIn := by
  induction tests with
  | nil => rfl
  | cons test tests ih =>
    rw [List.findSome?_cons] at h
    rw [List.findSome?_cons, List.findSome?_cons]
    cases hfound : r.firstIn test with
    | none =>
      rw [hfound] at h
      have hnone : r.goFiles.firstIn test = none := by
        rw [firstIn_goFiles (by simp [hfound]), hfound]
      rw [hnone]
      exact ih h
    | some t =>
      rw [hfound] at h
      have hsome : r.goFiles.firstIn test = some t := by
        rw [firstIn_goFiles (by simpa [hfound] using h), hfound]
      rw [hsome]

theorem goPackage_goFiles : r.goFiles.goPackage spec = r.goPackage spec ↔
    ∀ t, r.goPackage spec = some t → isGoFile t = true := by
  constructor
  · intro hsame t ht
    exact (mem_known_goFiles.mp (isFirstInPackage_of_goPackage (hsame.trans ht)).known).2
  · intro h
    rw [goPackage_eq] at h
    rw [goPackage_eq, goPackage_eq]
    exact findSome?_firstIn_goFiles h

end OtherKinds

/-! ### What an import leads to -/

section Imports

/-- An import with a slash and no leading dot names a package. -/
theorem resolve_eq_goPackage (hspec : Text.strip specifier.toList = spec) (hslash : '/' ∈ spec)
    (hdot : spec.head? ≠ some '.') : r.resolve file specifier (some .go) = r.goPackage spec := by
  rw [resolve, hspec]
  cases spec with
  | nil => cases hslash
  | cons first rest =>
    have hfirst : first ≠ '.' := by simpa using hdot
    simp [hslash, hfirst]

/-- **An import of a Go package.** What it leads to is a known path in a directory that the import names, and no known
path of that directory comes before it; it leads nowhere only if there is none. Neither the file nor the order of the
known paths is of any account. It is a Go file if and only if the import leads to the same without the files of other
kinds; and among Go files alone it always is. -/
theorem resolve_go_package (hspec : Text.strip specifier.toList = spec) (hslash : '/' ∈ spec)
    (hdot : spec.head? ≠ some '.') :
    (∀ t, r.resolve file specifier (some .go) = some t → r.IsFirstInPackage spec t) ∧
      (r.resolve file specifier (some .go) = none ↔
        ∀ p ∈ r.known, ¬IsPackageDirectory r.goModule spec (directory p.toList)) ∧
      (r.goFiles.resolve file specifier (some .go) = r.resolve file specifier (some .go) ↔
        ∀ t, r.resolve file specifier (some .go) = some t → isGoFile t = true) ∧
      (∀ t, r.goFiles.resolve file specifier (some .go) = some t →
        isGoFile t = true ∧ r.goFiles.IsFirstInPackage spec t) ∧
      ∀ r' : Repository, (∀ p, p ∈ r'.known ↔ p ∈ r.known) → r'.goModule = r.goModule →
        ∀ other, r'.resolve other specifier (some .go) = r.resolve file specifier (some .go) := by
  have hresolve (r : Repository) (file : String) : r.resolve file specifier (some .go) = r.goPackage spec :=
    resolve_eq_goPackage hspec hslash hdot
  simp only [hresolve]
  refine ⟨fun t => isFirstInPackage_of_goPackage, goPackage_eq_none, goPackage_goFiles, fun t ht => ?_,
    fun r' hknown hmodule _ => ?_⟩
  · have hfirst := isFirstInPackage_of_goPackage ht
    exact ⟨(mem_known_goFiles.mp hfirst.known).2, hfirst⟩
  · exact goPackage_congr hknown hmodule spec

/-- A package with a file that is not written in Go and comes first. -/
def documented : Repository :=
  { known := ["main.go", "store/db.go", "store/README.md"], goModule := some "example.com/app" }

/-- The import leads to the file that is not written in Go, though there is another one. -/
theorem resolve_go_package_of_documented :
    documented.resolve "main.go" "example.com/app/store" (some .go) = some "store/README.md" ∧
      documented.IsFirstInPackage "example.com/app/store".toList "store/README.md" ∧
      documented.goFiles.resolve "main.go" "example.com/app/store" (some .go) ≠ some "store/README.md" := by
  have hspec : Text.strip "example.com/app/store".toList = "example.com/app/store".toList := by decide
  have hfirst : documented.firstIn (· == "store".toList) = some "store/README.md" :=
    firstIn_eq_some.mpr (by decide)
  have hfound : documented.resolve "main.go" "example.com/app/store" (some .go) = some "store/README.md" := by
    have htests : packageTests documented.goModule "example.com/app/store".toList =
        (· == "store".toList) :: (tails (segments "example.com/app/store".toList)).map endsWith := rfl
    rw [resolve_eq_goPackage hspec (by decide) (by decide), goPackage_eq, htests, List.findSome?_cons, hfirst]
  obtain ⟨hpackage, -, hsame, -⟩ :=
    @resolve_go_package documented "main.go" "example.com/app/store" _ hspec (by decide) (by decide)
  refine ⟨hfound, hpackage _ hfound, fun hgo => ?_⟩
  exact absurd (hsame.mp (hgo.trans hfound.symm) _ hfound) (by decide)

end Imports

end Repository
end RepoSurvey
