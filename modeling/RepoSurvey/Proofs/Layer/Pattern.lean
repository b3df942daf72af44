import RepoSurvey.Proofs.Expression.Fitting
import RepoSurvey.Proofs.Layer.Assignment

/-!
# A layer with a single pattern

Main statement: a pattern without brackets covers exactly the paths that can be cut along its tokens, and so does the
regular expression that its pieces write.
-/

namespace RepoSurvey
namespace LayerDefinition

open Glob LayerResolver

section SinglePattern

variable {name pattern : String} {allowed : List String} {g : Glob}

theorem fault?_single (h : Glob.ofText? pattern = .ok (some g)) : fault? [⟨name, [pattern], allowed⟩] = none := by
  rw [fault?, List.findSome?_singleton, List.findSome?_singleton, h]
  rfl

theorem assigned_single (h : Glob.ofText? pattern = .ok (some g)) (path : String) :
    assigned [⟨name, [pattern], allowed⟩] path = if g.admits path then some name else none := by
  have husable : Glob.usable? pattern = some g := by
    rw [Glob.usable?, h]
    rfl
  have hcovers : covers ⟨name, [pattern], allowed⟩ path = g.admits path := by
    simp [covers, husable]
  rw [assigned, List.find?_singleton, hcovers]
  cases g.admits path <;> rfl

variable (name allowed) in
/-- **A pattern without brackets covers exactly the paths that can be cut along its tokens.** Its tokens are unique, its
resolver always stands, and earlier questions do not change an answer. -/
theorem single_pattern_splits (hopen : '[' ∉ pattern.toList) :
    ∃ ts r e, (TokensOf pattern.toList ts ∧ ∀ ts', TokensOf pattern.toList ts' → ts' = ts) ∧
      ofLayers [⟨name, [pattern], allowed⟩] = .ok r ∧
      Expression.read (written (pieces pattern.toList)) = .ok (some e) ∧
      ∀ path : String, (e.fitsStart path = true ↔ Splits ts path.toList) ∧
        ∀ asked : List String, (((r.askAll asked).2.ask path).1 = some name ↔ Splits ts path.toList) ∧
          (((r.askAll asked).2.ask path).1 = none ↔ ¬Splits ts path.toList) := by
  obtain ⟨ts, hts, hpieces⟩ := exists_tokensOf hopen
  have hread := ofText?_of_tokensOf hopen hts
  have hstands : ofLayers [⟨name, [pattern], allowed⟩] = .ok (ofUsable [⟨name, [pattern], allowed⟩]) :=
    ofLayers_ok (fault?_single hread)
  refine ⟨ts, _, _, ⟨hts, fun ts' hts' => hts'.unique hts⟩, hstands, Expression.read_written hpieces, fun path => ?_⟩
  refine ⟨Expression.fitsStart_tokens ts path, fun asked => ?_⟩
  rw [ask_askAll hstands, assigned_single hread, ← fits_iff_splits, admits]
  by_cases hfits : fits ts path.toList = true <;> simp [hfits]

/-- Whole directories, a run inside a segment and a single character in one pattern. -/
theorem single_pattern_splits_of_tests : '[' ∉ "src/**/*_test.t?".toList ∧
    ∃ ts r e, (TokensOf "src/**/*_test.t?".toList ts ∧ ∀ ts', TokensOf "src/**/*_test.t?".toList ts' → ts' = ts) ∧
      ofLayers [⟨"tests", ["src/**/*_test.t?"], ["core"]⟩] = .ok r ∧
      Expression.read (written (pieces "src/**/*_test.t?".toList)) = .ok (some e) ∧
      ∀ path : String, (e.fitsStart path = true ↔ Splits ts path.toList) ∧
        ∀ asked : List String, (((r.askAll asked).2.ask path).1 = some "tests" ↔ Splits ts path.toList) ∧
          (((r.askAll asked).2.ask path).1 = none ↔ ¬Splits ts path.toList) :=
  ⟨by decide, single_pattern_splits "tests" ["core"] (by decide)⟩

end SinglePattern

end LayerDefinition
end RepoSurvey
