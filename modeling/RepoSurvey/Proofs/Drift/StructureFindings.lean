import RepoSurvey.Drift.Finding
import RepoSurvey.Proofs.Drift.DecisionFindings

/-!
# Findings on the structure

* `structural?`: the finding of one kind, if there is one.
* `newCycles?_eq_some`, `risen?_eq_some`, `moreViolations?_eq_some`: what a finding tells of the two states.
* `filter_ofStructure`, `type_of_mem_ofStructure`: each kind comes up at most once, and there are no other kinds.
-/

namespace RepoSurvey
namespace Finding

variable {α : Type} {t : DriftThresholds Int α} {before : Snapshot α} {stats : DependencyStats α} {violations : Int}
  {kind : DriftEventType} {f : Finding}

theorem newCycles?_eq_some {a b : DependencyStats α} (h : newCycles? t a b = some f) :
    f.type = .circularDependency ∧ a.cycles < b.cycles := by
  simp only [newCycles?] at h
  split at h
  · next hincrease =>
    rw [← Option.some.inj h]
    exact ⟨rfl, by omega⟩
  · exact absurd h nofun

variable [Scalar α]

/-- The kinds of findings that come from the structure. -/
def structuralTypes : List DriftEventType :=
  [.circularDependency, .couplingRegression, .instabilityRegression, .violationSpike]

/-- The structural finding of one kind. -/
def structural? (t : DriftThresholds Int α) (before : Snapshot α) (stats : DependencyStats α) (violations : Int) :
    DriftEventType → Option Finding
  | .circularDependency => newCycles? t before.stats stats
  | .couplingRegression =>
    risen? .couplingRegression "coupling" "" t.couplingIncrease t.couplingIncreaseHigh before.stats.coupling
      stats.coupling
  | .instabilityRegression =>
    risen? .instabilityRegression "instability" " Modules are becoming less stable." t.instabilityIncrease
      t.instabilityIncreaseHigh before.stats.instability stats.instability
  | .violationSpike => moreViolations? t before.violations violations
  | _ => none

theorem ofStructure_eq : ofStructure t before stats violations =
    (structural? t before stats violations .circularDependency).toList ++
      (structural? t before stats violations .couplingRegression).toList ++
      (structural? t before stats violations .instabilityRegression).toList ++
      (structural? t before stats violations .violationSpike).toList :=
  rfl

theorem risen?_eq_some {measure rest : String} {limit high a b : α}
    (h : risen? kind measure rest limit high a b = some f) : f.type = kind ∧ Scalar.lt limit (b - a) := by
  simp only [risen?] at h
  split at h
  · next hrise =>
    rw [← Option.some.inj h]
    exact ⟨rfl, hrise⟩
  · exact absurd h nofun

theorem moreViolations?_eq_some {a b : Int} (h : moreViolations? t a b = some f) :
    f.type = .violationSpike ∧ t.spikeMinIncrease ≤ b - a := by
  simp only [moreViolations?] at h
  split at h
  · next hincrease =>
    rw [← Option.some.inj h]
    exact ⟨rfl, hincrease.1⟩
  · exact absurd h nofun

theorem type_of_structural? (h : structural? t before stats violations kind = some f) : f.type = kind := by
  cases kind with
  | circularDependency => exact (newCycles?_eq_some h).1
  | couplingRegression => exact (risen?_eq_some h).1
  | instabilityRegression => exact (risen?_eq_some h).1
  | violationSpike => exact (moreViolations?_eq_some h).1
  | decisionLost => exact absurd h nofun
  | decisionEmerged => exact absurd h nofun
  | decisionWeakened => exact absurd h nofun

/-- The structural findings of one kind are at most one. -/
theorem filter_ofStructure (kind : DriftEventType) : (ofStructure t before stats violations).filter (·.type = kind) =
    (structural? t before stats violations kind).toList := by
  have htype : ∀ other, ∀ f ∈ (structural? t before stats violations other).toList, f.type = other :=
    fun other f hf => type_of_structural? (Option.mem_toList.mp hf)
  rw [ofStructure_eq, List.filter_append, List.filter_append, List.filter_append, filter_type (htype _),
    filter_type (htype _), filter_type (htype _), filter_type (htype _)]
  cases kind <;> simp [structural?]

theorem type_of_mem_ofStructure (hf : f ∈ ofStructure t before stats violations) : f.type ∈ structuralTypes := by
  have hkept : f ∈ (ofStructure t before stats violations).filter (·.type = f.type) :=
    List.mem_filter.mpr ⟨hf, decide_eq_true rfl⟩
  rw [filter_ofStructure, Option.mem_toList] at hkept
  by_contra hother
  have hnone : structural? t before stats violations f.type = none := by
    cases hkind : f.type <;> first | rfl | exact absurd (by rw [hkind]; decide) hother
  rw [hnone] at hkept
  exact absurd hkept nofun

end Finding
end RepoSurvey
