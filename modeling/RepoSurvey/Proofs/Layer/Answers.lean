import RepoSurvey.Proofs.Layer.Assignment

/-!
# The answers of one resolver

* `LayerDefinition.answers`: what the resolver for some layers answers to some paths, asked one after the other.
* `LayerDefinition.IsWithoutPattern l' l p`: a layer is another one without one of its patterns.
* `answers_eq_assigned`: each answer is the first layer that covers the path, whatever was asked before; and a pattern
  that is read but cannot be used might as well not be there.
-/

namespace RepoSurvey
namespace LayerResolver

open LayerDefinition

/-- What a resolver that remembers only first fits answers to some paths. -/
theorem Remembers.askAll {r s : LayerResolver} (h : Remembers r s) (paths : List String) :
    (s.askAll paths).1 = paths.map r.firstFit := by
  have hstep : ∀ s, Remembers r s → ∀ path,
      [(s.ask path).1] = [r.firstFit path] ∧ Remembers r (s.ask path).2 := by
    intro s hs path
    exact ⟨congrArg (fun answer => [answer]) (hs.ask path).1, (hs.ask path).2⟩
  rw [List.map_eq_flatMap]
  exact (h.collect hstep paths).1

end LayerResolver

namespace LayerDefinition

open LayerResolver

/-- What the resolver for some layers answers to some paths, asked one after the other. -/
def answers (layers : List LayerDefinition) (paths : List String) : Except RepetitionError (List (Option String)) :=
  (ofLayers layers).map fun r => (r.askAll paths).1

variable {layers before after : List LayerDefinition} {l l' : LayerDefinition}

theorem answers_eq (layers : List LayerDefinition) (paths : List String) : answers layers paths =
    match fault? layers with
    | some e => .error e
    | none => .ok (paths.map (assigned layers)) := by
  rw [answers, ofLayers_eq]
  cases fault? layers with
  | some e => rfl
  | none =>
    have hstart : Remembers (ofUsable layers) (ofUsable layers) := .of_unasked rfl
    show Except.ok ((ofUsable layers).askAll paths).1 = _
    rw [hstart.askAll, funext firstFit_ofUsable]

/-! ### Another layer in the place of one -/

section Replaced

/-- A layer of the same name that covers the same paths changes no path's layer. -/
theorem assigned_replaced {path : String} (hname : l'.name = l.name) (hcovers : l'.covers path = l.covers path) :
    assigned (before ++ l' :: after) path = assigned (before ++ l :: after) path := by
  simp only [assigned, List.find?_append, List.find?_cons, hcovers]
  cases before.find? fun m => m.covers path with
  | some m => rfl
  | none =>
    cases l.covers path with
    | true => exact congrArg some hname
    | false => rfl

theorem fault?_replaced (h : fault? [l'] = fault? [l]) :
    fault? (before ++ l' :: after) = fault? (before ++ l :: after) := by
  rw [fault?, fault?, List.findSome?_singleton, List.findSome?_singleton] at h
  simp only [fault?, List.findSome?_append, List.findSome?_cons, h]

/-- A layer that takes the patterns of another one, but for one of them. -/
structure IsWithoutPattern (l' l : LayerDefinition) (p : String) : Prop where
  name : l'.name = l.name
  allowed : l'.allowed = l.allowed
  patterns : ∃ earlier later, l.patterns = earlier ++ p :: later ∧ l'.patterns = earlier ++ later

variable {p : String}

theorem IsWithoutPattern.covers (h : IsWithoutPattern l' l p) (hp : Glob.ofText? p = .ok none) (path : String) :
    l'.covers path = l.covers path := by
  obtain ⟨earlier, later, hl, hl'⟩ := h.patterns
  have husable : Glob.usable? p = none := by
    rw [Glob.usable?, hp]
    rfl
  rw [LayerDefinition.covers, LayerDefinition.covers, hl, hl', List.filterMap_append, List.filterMap_append,
    List.filterMap_cons_none husable]

theorem IsWithoutPattern.fault? (h : IsWithoutPattern l' l p) (hp : Glob.ofText? p = .ok none) :
    fault? [l'] = fault? [l] := by
  obtain ⟨earlier, later, hl, hl'⟩ := h.patterns
  have hread : errorOf? (Glob.ofText? p) = none := by
    rw [hp]
    rfl
  simp only [LayerDefinition.fault?, hl, hl', List.findSome?_append, List.findSome?_cons,
    hread]

end Replaced

/-- **The answers of one resolver are the first layers that cover the paths**, in the order of the questions and whatever
was asked before, unless a pattern has a number of rounds beyond the limit, which stands against the resolver as a whole.
A pattern that is read but cannot be used may be left out of its layer. -/
theorem answers_eq_assigned (layers : List LayerDefinition) (paths : List String) :
    answers layers paths = (match fault? layers with
      | some e => .error e
      | none => .ok (paths.map (assigned layers))) ∧
    ∀ before l l' after p, layers = before ++ l :: after → IsWithoutPattern l' l p → Glob.ofText? p = .ok none →
      answers (before ++ l' :: after) paths = answers layers paths := by
  refine ⟨answers_eq layers paths, ?_⟩
  rintro before l l' after p rfl hwithout hp
  have hassigned : assigned (before ++ l' :: after) = assigned (before ++ l :: after) :=
    funext fun path => assigned_replaced hwithout.name (hwithout.covers hp path)
  rw [answers_eq, answers_eq, fault?_replaced (hwithout.fault? hp), hassigned]

/-- A set that runs backwards, in front of a pattern of the same layer. -/
theorem answers_eq_assigned_of_backward_set :
    Glob.ofText? "[z-a]" = .ok none ∧
    answers [⟨"ui", ["ui/**"], []⟩, ⟨"core", ["core/**"], []⟩] ["ui/a.ts", "core/b.ts", "c.ts", "ui/a.ts"] =
      answers [⟨"ui", ["[z-a]", "ui/**"], []⟩, ⟨"core", ["core/**"], []⟩] ["ui/a.ts", "core/b.ts", "c.ts", "ui/a.ts"] := by
  have hunusable : Glob.ofText? "[z-a]" = .ok none := by
    have hpieces : Glob.pieces "[z-a]".toList = [.bracket "z-a".toList] := by cbv
    rw [Glob.ofText?, hpieces]
    decide +kernel
  refine ⟨hunusable, ?_⟩
  exact (answers_eq_assigned [⟨"ui", ["[z-a]", "ui/**"], []⟩, ⟨"core", ["core/**"], []⟩] _).2 []
    ⟨"ui", ["[z-a]", "ui/**"], []⟩ ⟨"ui", ["ui/**"], []⟩ _ "[z-a]" rfl
    ⟨rfl, rfl, [], ["ui/**"], rfl, rfl⟩ hunusable

end LayerDefinition
end RepoSurvey
