import RepoSurvey.Drift.Detection
import RepoSurvey.Proofs.Drift.StructureFindings
import RepoSurvey.Proofs.Drift.Thresholds
import RepoSurvey.Proofs.Number.DoubleArithmetic

/-!
# Comparisons in both directions

* `Finding.structural?_both`: no structural finding comes up in both directions.
* `Finding.not_isWeakening_both`: no decision is weakened in both directions.
* `DriftResult.findings_mirrored`: what is lost and what emerges, and what two opposite comparisons share.
-/

namespace RepoSurvey

namespace Finding

/-! ### Both directions -/

section Both

variable {t : DriftThresholds Int Float}

/-- No structural finding comes up in both directions. -/
theorem structural?_both {a b : Snapshot Float} {kind : DriftEventType} (ht : t.check = .ok ())
    (hcoupling : Scalar.le Scalar.zero t.couplingIncrease)
    (hinstability : Scalar.le Scalar.zero t.instabilityIncrease) :
    structural? t a b.stats b.violations kind = none ∨ structural? t b a.stats a.violations kind = none := by
  cases hforth : structural? t a b.stats b.violations kind with
  | none => exact .inl rfl
  | some f =>
    cases hback : structural? t b a.stats a.violations kind with
    | none => exact .inr rfl
    | some g =>
      exfalso
      cases kind with
      | circularDependency =>
        have hf := (newCycles?_eq_some hforth).2
        have hg := (newCycles?_eq_some hback).2
        omega
      | couplingRegression =>
        exact Double.not_lt_sub_both hcoupling (risen?_eq_some hforth).2 (risen?_eq_some hback).2
      | instabilityRegression =>
        exact Double.not_lt_sub_both hinstability (risen?_eq_some hforth).2 (risen?_eq_some hback).2
      | violationSpike =>
        have hmin := ((t.check_eq_ok).mp ht).spikeMinIncrease
        have hf := (moreViolations?_eq_some hforth).2
        have hg := (moreViolations?_eq_some hback).2
        omega
      | decisionLost => exact absurd hforth nofun
      | decisionEmerged => exact absurd hforth nofun
      | decisionWeakened => exact absurd hforth nofun

/-- No decision is weakened in both directions. -/
theorem not_isWeakening_both {a b : List (Decision Float)} {title : String} {f g : Finding}
    (hdrop : Scalar.le Scalar.zero t.weakenedDrop) (hf : IsWeakening t a b title f) : ¬ IsWeakening t b a title g := by
  rintro ⟨d, e, hd, he, hback, -⟩
  obtain ⟨e', d', he', hd', hforth, -⟩ := hf
  obtain rfl := Option.some.inj (hd.symm.trans hd')
  obtain rfl := Option.some.inj (he.symm.trans he')
  exact Double.not_lt_sub_both hdrop hforth hback

end Both

end Finding

/-! ### Comparisons of snapshots -/

namespace DriftResult

open Finding

variable {t : DriftThresholds Int Float}

/-- The comparison of a later snapshot with an earlier one. -/
def comparison (before now : Snapshot Float) : DriftRequest Float where
  repository := now.repository
  commit := now.commit
  stats := now.stats
  violations := now.violations
  decisions := now.decisions
  previous := some before
  now := now.createdAt

/-- What an event says about its finding. -/
def findingOf (e : DriftEvent) : Finding := ⟨e.type, e.severity, e.description, e.decision⟩

theorem findings_comparison (before now : Snapshot Float) : findings (comparison before now) t =
    ofDecisions t before.decisions now.decisions ++ ofStructure t before now.stats now.violations :=
  rfl

/-- The findings of a comparison that are of one structural kind. -/
theorem filter_findings {before now : Snapshot Float} {kind : DriftEventType} (h : kind ∈ structuralTypes) :
    (findings (comparison before now) t).filter (·.type = kind) =
      (structural? t before now.stats now.violations kind).toList := by
  have hnone : (ofDecisions t before.decisions now.decisions).filter (·.type = kind) = [] := by
    rw [List.filter_eq_nil_iff]
    intro f hf htype
    have hkind := of_decide_eq_true htype
    rcases type_of_mem_ofDecisions hf with hlost | hemerged | hweakened
    · rw [← hkind, hlost] at h
      exact absurd h (by decide)
    · rw [← hkind, hemerged] at h
      exact absurd h (by decide)
    · rw [← hkind, hweakened] at h
      exact absurd h (by decide)
  rw [findings_comparison, List.filter_append, hnone, List.nil_append, filter_ofStructure]

theorem filter_findings_decisions {before now : Snapshot Float} {kind : DriftEventType} (h : kind ∉ structuralTypes) :
    (findings (comparison before now) t).filter (·.type = kind) =
      (ofDecisions t before.decisions now.decisions).filter (·.type = kind) := by
  have hnone : structural? t before now.stats now.violations kind = none := by
    cases kind <;> first | rfl | exact absurd (by decide) h
  rw [findings_comparison, List.filter_append, filter_ofStructure, hnone]
  exact List.append_nil _

theorem mem_findings_of_decision {before now : Snapshot Float} {f : Finding} (h : f.type ∉ structuralTypes) :
    f ∈ findings (comparison before now) t ↔ f ∈ ofDecisions t before.decisions now.decisions := by
  have hkept : ∀ fs : List Finding, f ∈ fs ↔ f ∈ fs.filter (·.type = f.type) :=
    fun fs => ⟨fun hf => List.mem_filter.mpr ⟨hf, decide_eq_true rfl⟩, List.mem_of_mem_filter⟩
  rw [hkept, filter_findings_decisions h, ← hkept]

/-- The events of a comparison are its findings, in their order. -/
theorem map_findingOf_events {names : Nat → String} {r : DriftRequest Float} {result : DriftResult Float}
    (h : detect names r t = .ok result) : result.events.map findingOf = findings r t := by
  cases hscore : scoreOf r t with
  | error e =>
    rw [detect, hscore] at h
    exact absurd h nofun
  | ok score =>
    rw [detect, hscore] at h
    have hresult := Except.ok.inj h
    rw [← hresult]
    exact List.ext_getElem (by simp) fun i _ _ => by simp [findingOf, event]

/-- Every title that is gone is reported as lost once and every new one as emerged once, in the order of the titles; the
decisions reported as weakened are the common ones that fell by more than is allowed; and what is lost in one direction
emerges in the other. A comparison has at most one finding of each structural kind. With limits that are not negative no
title is weakened, and no structural kind is found, in both directions. -/
theorem findings_mirrored (t : DriftThresholds Int Float) :
    (∀ before now : Snapshot Float,
      List.Forall₂ (fun title f => ∃ d, lastWith before.decisions title = some d ∧ f = lost t d)
        (titlesOnlyIn before.decisions now.decisions)
        ((findings (comparison before now) t).filter (·.type = .decisionLost)) ∧
      (findings (comparison before now) t).filter (·.type = .decisionEmerged) =
        (titlesOnlyIn now.decisions before.decisions).map emerged ∧
      (∀ f, f ∈ findings (comparison before now) t ∧ f.type = .decisionWeakened ↔
        ∃ title, IsWeakening t before.decisions now.decisions title f) ∧
      (∀ title, (∃ d, d.title = title ∧ lost t d ∈ findings (comparison before now) t) ↔
        emerged title ∈ findings (comparison now before) t) ∧
      (∀ kind ∈ structuralTypes, ((findings (comparison before now) t).filter (·.type = kind)).length ≤ 1) ∧
      (∀ names result, detect names (comparison before now) t = .ok result →
        result.events.map findingOf = findings (comparison before now) t)) ∧
    (t.check = .ok () → Scalar.le Scalar.zero t.weakenedDrop → Scalar.le Scalar.zero t.couplingIncrease →
      Scalar.le Scalar.zero t.instabilityIncrease → ∀ before now : Snapshot Float,
        (∀ title f g, IsWeakening t before.decisions now.decisions title f →
          ¬ IsWeakening t now.decisions before.decisions title g) ∧
        ∀ kind ∈ structuralTypes, (∀ f ∈ findings (comparison before now) t, f.type ≠ kind) ∨
          ∀ f ∈ findings (comparison now before) t, f.type ≠ kind) := by
  constructor
  · intro before now
    refine ⟨?_, ?_, ?_, ?_, ?_, fun names result => map_findingOf_events⟩
    · rw [filter_findings_decisions (by decide)]
      exact lost_ofDecisions
    · rw [filter_findings_decisions (by decide)]
      exact emerged_ofDecisions
    · intro f
      constructor
      · rintro ⟨hf, htype⟩
        have hdecision : f.type ∉ structuralTypes := by
          rw [htype]
          decide
        exact weakened_ofDecisions ((mem_findings_of_decision hdecision).mp hf) htype
      · rintro ⟨title, hweak⟩
        have hdecision : f.type ∉ structuralTypes := by
          rw [hweak.type]
          decide
        exact ⟨(mem_findings_of_decision hdecision).mpr hweak.mem, hweak.type⟩
    · intro title
      have hlost : ∀ d, lost t d ∈ findings (comparison before now) t ↔
          lost t d ∈ ofDecisions t before.decisions now.decisions :=
        fun d => mem_findings_of_decision (by change DriftEventType.decisionLost ∉ structuralTypes; decide)
      rw [mem_findings_of_decision (by change DriftEventType.decisionEmerged ∉ structuralTypes; decide)]
      simp only [hlost]
      exact lost_iff_emerged
    · intro kind hkind
      rw [filter_findings hkind]
      cases structural? t before now.stats now.violations kind with
      | none => exact Nat.zero_le 1
      | some f => exact Nat.le_refl 1
  · intro ht hdrop hcoupling hinstability before now
    refine ⟨fun title f g hf hg => not_isWeakening_both hdrop hf hg, ?_⟩
    have habsent : ∀ {a b : Snapshot Float} {kind}, kind ∈ structuralTypes →
        structural? t a b.stats b.violations kind = none → ∀ f ∈ findings (comparison a b) t, f.type ≠ kind := by
      intro a b kind hkind hnone f hf htype
      have hkept : f ∈ (findings (comparison a b) t).filter (·.type = kind) :=
        List.mem_filter.mpr ⟨hf, decide_eq_true htype⟩
      rw [filter_findings hkind, hnone] at hkept
      exact absurd hkept List.not_mem_nil
    intro kind hkind
    have hone : structural? t before now.stats now.violations kind = none ∨
        structural? t now before.stats before.violations kind = none :=
      structural?_both ht hcoupling hinstability
    rcases hone with hforth | hback
    · exact .inl (habsent hkind hforth)
    · exact .inr (habsent hkind hback)

/-- A decision with two entries is lost, a common one is weakened, and a cycle and violations come up. -/
theorem findings_mirrored_of_usual :
    let t : DriftThresholds Int Float := .usual
    let before : Snapshot Float := ⟨"s1", "web", "a1", Scalar.zero,
      [⟨"d1", "Layers", Scalar.ofRat 0.9⟩, ⟨"d2", "Caching", Scalar.ofRat 0.8⟩, ⟨"d3", "Layers", Scalar.ofRat 0.5⟩], 1,
      ⟨4, 0, Scalar.ofRat 0.5, Scalar.ofRat 0.5, Scalar.ofRat 0.5⟩, ⟨⟨2024, 6, 1⟩, 0, none⟩⟩
    let now : Snapshot Float := ⟨"s2", "web", "b2", Scalar.zero,
      [⟨"d4", "Caching", Scalar.ofRat 0.4⟩, ⟨"d5", "Events", Scalar.ofRat 0.7⟩], 4,
      ⟨4, 1, Scalar.ofRat 0.5, Scalar.ofRat 0.5, Scalar.ofRat 0.5⟩, ⟨⟨2024, 6, 7⟩, 0, none⟩⟩
    t.check = .ok () ∧ Scalar.le Scalar.zero t.weakenedDrop = true ∧ Scalar.le Scalar.zero t.couplingIncrease = true ∧
      Scalar.le Scalar.zero t.instabilityIncrease = true ∧
      (findings (comparison before now) t).map (·.type) =
        [.decisionLost, .decisionEmerged, .decisionWeakened, .circularDependency, .violationSpike] ∧
      (∀ title f g, IsWeakening t before.decisions now.decisions title f →
        ¬ IsWeakening t now.decisions before.decisions title g) ∧
      ∀ kind ∈ structuralTypes, (∀ f ∈ findings (comparison before now) t, f.type ≠ kind) ∨
        ∀ f ∈ findings (comparison now before) t, f.type ≠ kind := by
  intro t before now
  have ht : t.check = .ok () := by decide +kernel
  have hdrop : Scalar.le Scalar.zero t.weakenedDrop = true := by decide +kernel
  have hcoupling : Scalar.le Scalar.zero t.couplingIncrease = true := by decide +kernel
  have hinstability : Scalar.le Scalar.zero t.instabilityIncrease = true := by decide +kernel
  have htypes : (findings (comparison before now) t).map (·.type) =
      [.decisionLost, .decisionEmerged, .decisionWeakened, .circularDependency, .violationSpike] := by
    decide +kernel
  exact ⟨ht, hdrop, hcoupling, hinstability, htypes,
    (findings_mirrored t).2 ht hdrop hcoupling hinstability before now⟩

end DriftResult
end RepoSurvey
