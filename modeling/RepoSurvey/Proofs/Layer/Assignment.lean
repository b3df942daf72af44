import RepoSurvey.Layer.Definition
import RepoSurvey.Proofs.Failing

/-!
# The layer of a path

* `LayerDefinition.assigned`: the first layer in declared order that covers a path, read off the definitions.
* `LayerDefinition.fault?`: the first pattern that stands against a resolver as a whole.
* `LayerResolver.Remembers r s`: `s` answers like `r` and remembers only answers that `r` gives.
* `firstFit_ofUsable`: the first pattern that fits belongs to the assigned layer.
* `Remembers.ask`, `Remembers.collect`: whatever was asked before, an answer is the first fit.
-/

namespace RepoSurvey

namespace Glob

/-- The pattern as it is compared with paths, if it can be used. -/
def usable? (pattern : String) : Option Glob := (ofText? pattern).toOption.join

end Glob

namespace LayerDefinition

/-- A layer covers a path if one of its usable patterns fits it. -/
def covers (l : LayerDefinition) (path : String) : Bool :=
  (l.patterns.filterMap Glob.usable?).any fun g => g.admits path

variable (layers : List LayerDefinition)

/-- The first layer in declared order that covers a path. -/
def assigned (path : String) : Option String := (layers.find? fun l => l.covers path).map (·.name)

/-- The layers that the last definition of a name allows. -/
def allowance (name : String) : List String :=
  ((layers.reverse.find? fun l => l.name = name).map (·.allowed)).getD []

/-- The first number of rounds beyond the limit among the patterns, in declared order. -/
def fault? : Option RepetitionError :=
  layers.findSome? fun l => l.patterns.findSome? fun p => errorOf? (Glob.ofText? p)

end LayerDefinition

namespace LayerResolver

open LayerDefinition

/-! ### Building a resolver -/

section OfLayers

/-- The resolver that tries the usable patterns of some layers. -/
def ofUsable (layers : List LayerDefinition) : LayerResolver where
  patterns := layers.flatMap fun l => (l.patterns.filterMap Glob.usable?).map (l.name, ·)
  allowances := Table.ofPairs (layers.map fun l => (l.name, Text.distinctAscending l.allowed))

variable {layers : List LayerDefinition}

/-- The patterns of one layer, read one after the other. -/
def readPatterns (l : LayerDefinition) : Except RepetitionError (String × List (Option Glob)) := do
  return (l.name, ← l.patterns.mapM Glob.ofText?)

theorem readPatterns_eq (l : LayerDefinition) : readPatterns l =
    match l.patterns.findSome? fun p => errorOf? (Glob.ofText? p) with
    | some e => .error e
    | none => .ok (l.name, l.patterns.filterMap fun p => (Glob.ofText? p).toOption) := by
  rw [readPatterns]
  cases hfault : l.patterns.findSome? fun p => errorOf? (Glob.ofText? p) with
  | some e =>
    rw [mapM_error hfault]
    rfl
  | none =>
    rw [mapM_ok hfault]
    rfl

theorem errorOf?_readPatterns (l : LayerDefinition) :
    errorOf? (readPatterns l) = l.patterns.findSome? fun p => errorOf? (Glob.ofText? p) := by
  rw [readPatterns_eq]
  cases l.patterns.findSome? fun p => errorOf? (Glob.ofText? p) <;> rfl

variable (layers) in
theorem findSome?_readPatterns : (layers.findSome? fun l => errorOf? (readPatterns l)) = fault? layers := by
  rw [fault?, funext errorOf?_readPatterns]

theorem ofLayers_error {e : RepetitionError} (h : fault? layers = some e) : ofLayers layers = .error e := by
  show (layers.mapM readPatterns >>= _) = _
  rw [mapM_error ((findSome?_readPatterns layers).trans h)]
  rfl

theorem ofLayers_ok (h : fault? layers = none) : ofLayers layers = .ok (ofUsable layers) := by
  have hread : (layers.filterMap fun l => (readPatterns l).toOption) =
      layers.map fun l => (l.name, l.patterns.filterMap fun p => (Glob.ofText? p).toOption) := by
    rw [← List.filterMap_eq_map]
    refine List.filterMap_congr fun l hl => ?_
    have hnone := List.findSome?_eq_none_iff.mp h l hl
    rw [readPatterns_eq, hnone]
    rfl
  show (layers.mapM readPatterns >>= _) = _
  rw [mapM_ok ((findSome?_readPatterns layers).trans h), hread]
  show Except.ok _ = Except.ok _
  rw [ofUsable, List.flatMap_map]
  simp only [List.filterMap_filterMap]
  rfl

/-- A resolver stands unless a number of rounds is beyond the limit. -/
theorem ofLayers_eq : ofLayers layers = match fault? layers with
    | some e => .error e
    | none => .ok (ofUsable layers) := by
  cases h : fault? layers with
  | some e => exact ofLayers_error h
  | none => exact ofLayers_ok h

/-- The first bracket does not close its own set, so that the braces of the second one are a number of rounds. -/
example : ofLayers [⟨"odd", ["[a\\][]\x7b4294967295\x7d]"], []⟩] = .error .tooLarge := by
  have hpieces : Glob.pieces "[a\\][]\x7b4294967295\x7d]".toList =
      [.bracket ['a', '\\'], .bracket "]\x7b4294967295\x7d".toList] := by cbv
  have hread : Glob.ofText? "[a\\][]\x7b4294967295\x7d]" = .error .tooLarge := by
    rw [Glob.ofText?, hpieces]
    decide +kernel
  rw [ofLayers_eq, fault?, List.findSome?_singleton, List.findSome?_singleton, hread]
  rfl

/-- Among the patterns of one layer one fits if the layer covers the path. -/
theorem find?_patterns (l : LayerDefinition) (path : String) :
    (((l.patterns.filterMap Glob.usable?).map (l.name, ·)).find? fun p => Glob.admits p.2 path).map (·.1) =
      if l.covers path then some l.name else none := by
  rw [List.find?_map, Option.map_map, covers, ← List.isSome_find?]
  show ((l.patterns.filterMap Glob.usable?).find? fun g => Glob.admits g path).map (fun _ => l.name) = _
  cases (l.patterns.filterMap Glob.usable?).find? fun g => Glob.admits g path <;> rfl

/-- The first pattern that fits belongs to the first layer that covers. -/
theorem firstFit_ofUsable (path : String) : (ofUsable layers).firstFit path = assigned layers path := by
  rw [firstFit, ofUsable, assigned]
  induction layers with
  | nil => rfl
  | cons l rest ih =>
    rw [List.flatMap_cons, List.find?_append, Option.map_or, find?_patterns, ih, List.find?_cons]
    by_cases h : l.covers path
    · rw [if_pos h, h]
      rfl
    · rw [if_neg h, eq_false_of_ne_true h, Option.none_or]

/-- Of two layers that cover a path, the one declared first has it. -/
example : assigned [⟨"ui", ["src/*/view.ts"], []⟩, ⟨"core", ["src/**"], []⟩] "src/a/view.ts" = some "ui" := by cbv

theorem allowed_ofUsable (name : String) :
    (ofUsable layers).allowed name = Text.distinctAscending (allowance layers name) := by
  rw [allowed, ofUsable, Table.get?_ofPairs, ← List.map_reverse, List.find?_map, allowance]
  show (((layers.reverse.find? fun l => decide (l.name = name)).map _).map _).getD [] = _
  cases layers.reverse.find? fun l => decide (l.name = name) with
  | some l => rfl
  | none => simp [Text.distinctAscending, Text.ascending]

end OfLayers

/-! ### Asking a resolver -/

section Asking

/-- The second resolver answers like the first and remembers only answers of the first. -/
structure Remembers (r s : LayerResolver) : Prop where
  patterns : s.patterns = r.patterns
  allowances : s.allowances = r.allowances
  answered : ∀ path answer, s.answered.get? path = some answer → answer = r.firstFit path

variable {r s : LayerResolver}

theorem Remembers.of_unasked (h : r.answered = []) : Remembers r r where
  patterns := rfl
  allowances := rfl
  answered := by
    intro path answer hanswer
    rw [h] at hanswer
    exact absurd hanswer (by simp [Table.get?])

theorem Remembers.firstFit_eq (h : Remembers r s) (path : String) : s.firstFit path = r.firstFit path := by
  rw [firstFit, firstFit, h.patterns]

theorem Remembers.allowed_eq (h : Remembers r s) (layer : String) : s.allowed layer = r.allowed layer := by
  rw [allowed, allowed, h.allowances]

/-- An answer is the first fit, whether or not it was remembered. -/
theorem Remembers.ask (h : Remembers r s) (path : String) :
    (s.ask path).1 = r.firstFit path ∧ Remembers r (s.ask path).2 := by
  rw [LayerResolver.ask]
  cases hold : s.answered.get? path with
  | some answer => exact ⟨h.answered path answer hold, h⟩
  | none =>
    refine ⟨h.firstFit_eq path, ⟨h.patterns, h.allowances, fun other answer hanswer => ?_⟩⟩
    rw [Table.get?_put] at hanswer
    split_ifs at hanswer with heq
    · obtain rfl := Option.some.inj hanswer
      rw [← heq]
      exact h.firstFit_eq path
    · exact h.answered other answer hanswer

/-- What is collected item by item, where each item yields a value that does not depend on what was asked before. -/
theorem Remembers.collect {β γ : Type} {f : LayerResolver → β → List γ × LayerResolver} {value : β → List γ}
    (hf : ∀ s, Remembers r s → ∀ item, (f s item).1 = value item ∧ Remembers r (f s item).2)
    (h : Remembers r s) (items : List β) :
    (s.collect f items).1 = items.flatMap value ∧ Remembers r (s.collect f items).2 := by
  induction items generalizing s with
  | nil => exact ⟨rfl, h⟩
  | cons item rest ih =>
    obtain ⟨hfirst, hnext⟩ := hf s h item
    obtain ⟨hothers, hlast⟩ := ih hnext
    refine ⟨?_, hlast⟩
    rw [List.flatMap_cons, ← hfirst, ← hothers]
    rfl

/-- A resolver that stands answers with the assigned layer, whatever paths it was asked for before. -/
theorem ask_askAll {layers : List LayerDefinition} (h : ofLayers layers = .ok r) (asked : List String) (path : String) :
    ((r.askAll asked).2.ask path).1 = assigned layers path := by
  have hr : r = ofUsable layers := by
    rw [ofLayers_eq] at h
    cases hfault : fault? layers <;> rw [hfault] at h <;> cases h
    rfl
  subst hr
  have hasked : Remembers (ofUsable layers) ((ofUsable layers).askAll asked).2 := by
    rw [askAll]
    exact (Remembers.collect (fun s hs item => ⟨congrArg (fun answer => [answer]) (hs.ask item).1, (hs.ask item).2⟩)
      (.of_unasked rfl) asked).2
  rw [(hasked.ask path).1, firstFit_ofUsable]

end Asking

end LayerResolver
end RepoSurvey
