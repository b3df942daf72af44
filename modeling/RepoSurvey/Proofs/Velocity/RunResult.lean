import RepoSurvey.Proofs.Failing
import RepoSurvey.Velocity.Run

/-!
# The result of a run

* `VelocityRun.resultUnder`: what a run yields under weights that add up to one.
* `VelocityRun.performSupplied_eq_map`, `VelocityRun.performSupplied_eq_ok`: a run is refused for its lists or for its
  weights, and else yields that.
-/

namespace RepoSurvey

/-- Weights that add up to one are not scaled. -/
theorem VelocityWeights.normalized_of_isNormal {α : Type} [Scalar α] {w : VelocityWeights α} (h : w.isNormal = true) :
    w.normalized = .ok w := by
  rw [normalized, if_pos h]
  rfl

namespace VelocityRun

variable {α layer : Type} [Scalar α] {activities : List Activity} {r : VelocityRequest α}
variable {c : AnalysisConfig layer Int α} {result : VelocityResult α}

/-- What a run yields under weights that add up to one. -/
def resultUnder (w : VelocityWeights α) (activities : List Activity) (r : VelocityRequest α)
    (c : AnalysisConfig layer Int α) : VelocityResult α :=
  let d := inputOf activities r c.scoring c.blockers
  let scores := (VelocityScore.developers d).map (VelocityScore.ofDeveloper d w c.scoring)
  ⟨scores, TeamVelocity.ofScores scores r.team d.blockers r.health r.span, d.blockers⟩

theorem perform_eq_map : perform activities r c = c.velocity.normalized.map (resultUnder · activities r c) := by
  rw [perform, VelocityScore.ofInput]
  cases c.velocity.normalized with
  | error e => rfl
  | ok w => rfl

/-- A run is refused for one of its lists, or else for its weights. -/
theorem performSupplied_eq_map (activities : Supplied Activity) (deltas : Supplied (ComplexityDelta α))
    (requests : Supplied PullRequest) (r : VelocityRequest α) (c : AnalysisConfig layer Int α) :
    performSupplied activities deltas requests r c = (do
      let as ← (activities.require "git_metrics").mapError .input
      let ds ← (deltas.require "complexity_deltas").mapError .input
      let rs ← (requests.require "prs").mapError .input
      (c.velocity.normalized.map (resultUnder · as { r with deltas := ds, requests := rs } c)).mapError .setting) := by
  simp only [performSupplied, perform_eq_map]

/-- A run on lists has a result exactly if the weights can be scaled, and it is the one under these weights. -/
theorem performSupplied_eq_ok {deltas : List (ComplexityDelta α)} {requests : List PullRequest} :
    performSupplied (.list activities) (.list deltas) (.list requests) r c = .ok result ↔
      ∃ w, c.velocity.normalized = .ok w ∧ result = resultUnder w activities { r with deltas, requests } c := by
  have hopened : performSupplied (.list activities) (.list deltas) (.list requests) r c =
      (c.velocity.normalized.map (resultUnder · activities { r with deltas, requests } c)).mapError .setting :=
    performSupplied_eq_map _ _ _ r c
  rw [hopened, mapError_eq_ok]
  cases c.velocity.normalized with
  | error e => exact ⟨nofun, fun ⟨_, h, _⟩ => absurd h nofun⟩
  | ok w =>
    constructor
    · exact fun h => ⟨w, rfl, (Except.ok.inj h).symm⟩
    · rintro ⟨w', hw, rfl⟩
      rw [Except.ok.inj hw]
      rfl

end VelocityRun
end RepoSurvey
