import RepoSurvey.Import.Resolution

/-!
# Specifiers lead to known paths

* `Repository.FindsKnown`: what a rule finds is a known path.
* `Repository.mem_known_of_resolve`: no rule of resolution finds anything else.
-/

namespace RepoSurvey
namespace Repository

variable {r : Repository}

/-- What was found, if anything, is a known path. -/
def FindsKnown (r : Repository) (found : Option String) : Prop := ∀ t, found = some t → t ∈ r.known

/-! ### Searches -/

section Searches

theorem findsKnown_none : r.FindsKnown none := nofun

theorem findsKnown_known? (path : List Char) : r.FindsKnown (r.known? path) := by
  intro t ht
  rw [known?] at ht
  by_cases hknown : r.known.contains (String.ofList path) = true
  · rw [if_pos hknown] at ht
    rw [← Option.some.inj ht]
    exact List.contains_iff_mem.mp hknown
  · rw [if_neg hknown] at ht
    cases ht

theorem FindsKnown.findSome? {β : Type} {f : β → Option String} (h : ∀ b, r.FindsKnown (f b)) (items : List β) :
    r.FindsKnown (items.findSome? f) := by
  intro t ht
  obtain ⟨b, -, hb⟩ := List.exists_of_findSome?_eq_some ht
  exact h b t hb

theorem FindsKnown.orElse {first : Option String} {second : Unit → Option String} (hfirst : r.FindsKnown first)
    (hsecond : r.FindsKnown (second ())) : r.FindsKnown (first.orElse second) := by
  cases first with
  | none => exact hsecond
  | some t => exact hfirst

theorem FindsKnown.ite {condition : Prop} [Decidable condition] {first second : Option String}
    (hfirst : r.FindsKnown first) (hsecond : r.FindsKnown second) :
    r.FindsKnown (if condition then first else second) := by
  by_cases h : condition
  · rw [if_pos h]
    exact hfirst
  · rw [if_neg h]
    exact hsecond

theorem findsKnown_probe (base : List Char) : r.FindsKnown (r.probe base) :=
  .findSome? (fun _ => findsKnown_known? _) suffixes

end Searches

/-! ### The rules -/

section Rules

theorem findsKnown_relativeModule (file spec : List Char) : r.FindsKnown (r.relativeModule file spec) :=
  .findSome? (fun _ => findsKnown_known? _) _

theorem findsKnown_firstIn (condition : List Char → Bool) : r.FindsKnown (r.firstIn condition) :=
  fun _ ht => Text.mem_ascending.mp (List.mem_of_find?_eq_some ht)

theorem findsKnown_goPackage (spec : List Char) : r.FindsKnown (r.goPackage spec) := by
  refine .orElse ?_ (.findSome? (fun parts => findsKnown_firstIn _) _)
  cases r.goModule with
  | none => exact findsKnown_none
  | some m => exact .ite findsKnown_none (findsKnown_firstIn _)

theorem findsKnown_aliased (spec : List Char) : r.FindsKnown (r.aliased spec) :=
  .findSome? (fun _ => .ite (.ite (.findSome? (fun _ => findsKnown_probe _) _) findsKnown_none)
    (.ite (.findSome? (fun _ => findsKnown_probe _) _) findsKnown_none)) _

theorem findsKnown_packaged (spec : List Char) : r.FindsKnown (r.packaged spec) :=
  .findSome? (fun _ => .ite (.findSome? (fun _ => findsKnown_probe _) _) findsKnown_none) _

theorem findsKnown_dotted (spec : List Char) (extension : String) : r.FindsKnown (r.dotted spec extension) :=
  .findSome? (fun _ => .findSome? (fun _ => findsKnown_known? _) _) _

theorem findsKnown_absolute (language : Option Language) (spec : List Char) :
    r.FindsKnown (r.absolute language spec) := by
  refine .orElse (findsKnown_aliased spec) (.orElse (findsKnown_packaged spec) (.ite (findsKnown_probe _) ?_))
  split
  · exact findsKnown_dotted spec ".py"
  · exact findsKnown_dotted spec ".java"
  · exact findsKnown_none

/-- A specifier is resolved to a known path or not at all. -/
theorem mem_known_of_resolve {file specifier : String} {language : Option Language} {t : String}
    (h : r.resolve file specifier language = some t) : t ∈ r.known := by
  have hfinds : r.FindsKnown (r.resolve file specifier language) := by
    rw [resolve]
    cases Text.strip specifier.toList with
    | nil => exact findsKnown_none
    | cons first rest =>
      exact .ite (findsKnown_relativeModule _ _) (.ite (findsKnown_goPackage _)
        (.ite (findsKnown_probe _) (findsKnown_absolute _ _)))
  exact hfinds t h

end Rules

end Repository
end RepoSurvey
