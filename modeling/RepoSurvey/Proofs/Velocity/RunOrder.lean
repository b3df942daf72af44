import RepoSurvey.Proofs.Failing
import RepoSurvey.Proofs.LookUp
import RepoSurvey.Proofs.Velocity.CohortOrder
import RepoSurvey.Velocity.Run

/-!
# The order of the developers of a run

* `VelocityScore.lastOf_of_perm`: records of distinct developers are looked up alike in every order.
* `EffortScore.ofActivities_of_perm`, `ImpactScore.ofActivities_of_perm`: efforts and impacts follow the activities.
* `VelocityInput.IsReordering`, `VelocityScore.ofInput_of_isReordering`: inputs that differ in the order of their
  records have the same scores.
* `VelocityRun.performSupplied_of_perm`: a run does not depend on the order of its activities.
-/

namespace RepoSurvey

variable {activities activities' : List Activity}

/-! ### Efforts, impacts and ratios -/

section Parts

/-- Efforts are those of a cohort by its weighted lines. -/
theorem EffortScore.ofActivities_eq (activities : List Activity) (deltas : List (ComplexityDelta Float))
    (scoring : ScoringConfig Int Float) :
    ofActivities activities deltas scoring = Cohort.scored (activities.map (raw (complexities deltas))) (·.weighted)
      (fun s score => { s with score }) scoring.effortReference scoring.effortReferenceScore :=
  rfl

theorem EffortScore.ofActivities_of_perm (hperm : activities.Perm activities')
    (deltas : List (ComplexityDelta Float)) (scoring : ScoringConfig Int Float) :
    (ofActivities activities deltas scoring).Perm (ofActivities activities' deltas scoring) := by
  rw [ofActivities_eq, ofActivities_eq]
  exact Cohort.scored_of_perm (hperm.map _)

theorem EffortScore.developers_ofActivities (activities : List Activity) (deltas : List (ComplexityDelta Float))
    (scoring : ScoringConfig Int Float) :
    (ofActivities activities deltas scoring).map (·.developer) = activities.map (·.developer) := by
  rw [ofActivities_eq, Cohort.map_scored]
  · rw [List.map_map]
    rfl
  · exact fun _ _ => rfl

/-- Impacts are those of a cohort by its raw impacts. -/
theorem ImpactScore.ofActivities_eq (activities : List Activity) (g : Option (DependencyGraph Float))
    (violations : List Violation) (reviews : List ReviewViolation) (scoring : ScoringConfig Int Float) :
    ofActivities activities g violations reviews scoring =
      Cohort.scored (activities.map (ofActivity g violations reviews scoring)) (·.raw)
        (fun s score => { s with score }) scoring.impactReference scoring.impactReferenceScore :=
  rfl

theorem ImpactScore.ofActivities_of_perm (hperm : activities.Perm activities') (g : Option (DependencyGraph Float))
    (violations : List Violation) (reviews : List ReviewViolation) (scoring : ScoringConfig Int Float) :
    (ofActivities activities g violations reviews scoring).Perm
      (ofActivities activities' g violations reviews scoring) := by
  rw [ofActivities_eq, ofActivities_eq]
  exact Cohort.scored_of_perm (hperm.map _)

theorem ImpactScore.developers_ofActivities (activities : List Activity) (g : Option (DependencyGraph Float))
    (violations : List Violation) (reviews : List ReviewViolation) (scoring : ScoringConfig Int Float) :
    (ofActivities activities g violations reviews scoring).map (·.developer) = activities.map (·.developer) := by
  rw [ofActivities_eq, Cohort.map_scored]
  · rw [List.map_map]
    rfl
  · exact fun _ _ => rfl

end Parts

/-! ### Scores of an input -/

namespace VelocityInput

/-- Two inputs that differ in the order of their records only, where every developer has one record of a kind. -/
structure IsReordering (d d' : VelocityInput Float) : Prop where
  activities : d.activities.Perm d'.activities
  efforts : d.efforts.Perm d'.efforts
  impacts : d.impacts.Perm d'.impacts
  refactoring : d.refactoring.Perm d'.refactoring
  distinctActivities : (d.activities.map (·.developer)).Nodup
  distinctEfforts : (d.efforts.map (·.developer)).Nodup
  distinctImpacts : (d.impacts.map (·.developer)).Nodup
  distinctRefactoring : (d.refactoring.map (·.1)).Nodup
  requests : d.requests = d'.requests
  blockers : d.blockers = d'.blockers
  span : d.span = d'.span
  previous : d.previous = d'.previous

end VelocityInput

namespace VelocityScore

variable {d d' : VelocityInput Float}

/-- Records of distinct developers are looked up alike in every order. -/
theorem lastOf_of_perm {β : Type} {developerOf : β → String} {records records' : List β}
    (hdistinct : (records.map developerOf).Nodup) (hperm : records.Perm records') (developer : String) :
    lastOf developerOf records developer = lastOf developerOf records' developer := by
  have hreversed : records.reverse.Perm records'.reverse :=
    records.reverse_perm.trans (hperm.trans records'.reverse_perm.symm)
  have hkeys : (records.reverse.map developerOf).Nodup := by
    rw [List.map_reverse]
    exact List.nodup_reverse.mpr hdistinct
  exact find?_key_of_perm hkeys hreversed

theorem developers_of_isReordering (h : d.IsReordering d') : developers d = developers d' := by
  refine Text.distinctAscending_congr fun developer => ?_
  refine ((((h.activities.map _).append (h.efforts.map _)).append (h.impacts.map _)).append ?_).mem_iff
  rw [h.requests]

theorem ofDeveloper_of_isReordering (h : d.IsReordering d') (w : VelocityWeights Float)
    (scoring : ScoringConfig Int Float) (developer : String) :
    ofDeveloper d w scoring developer = ofDeveloper d' w scoring developer := by
  -- A score reads the records of one developer only, each found by a look-up.
  rw [ofDeveloper, ofDeveloper, lastOf_of_perm h.distinctActivities h.activities,
    lastOf_of_perm h.distinctEfforts h.efforts, lastOf_of_perm h.distinctImpacts h.impacts,
    lastOf_of_perm h.distinctRefactoring h.refactoring, h.requests, h.blockers, h.span, h.previous]

/-- Inputs that differ in the order of their records have the same scores in the same order. -/
theorem ofInput_of_isReordering (h : d.IsReordering d') (w : VelocityWeights Float)
    (scoring : ScoringConfig Int Float) : ofInput d w scoring = ofInput d' w scoring := by
  have hscores : ∀ w,
      (developers d).map (ofDeveloper d w scoring) = (developers d').map (ofDeveloper d' w scoring) := by
    intro w
    rw [developers_of_isReordering h, funext (ofDeveloper_of_isReordering h w scoring)]
  simp only [ofInput, hscores]

end VelocityScore

/-! ### Runs -/

theorem Supplied.require_eq_ok {β : Type} {argument : String} {s : Supplied β} {items : List β} :
    s.require argument = .ok items ↔ s = .list items := by
  cases s with
  | missing => exact ⟨nofun, nofun⟩
  | text kind => exact ⟨nofun, nofun⟩
  | list own => exact ⟨fun h => congrArg Supplied.list (Except.ok.inj h), fun h => congrArg Except.ok (list.inj h)⟩

namespace VelocityRun

variable {layer : Type} {r : VelocityRequest Float} {c : AnalysisConfig layer Int Float}

/-- The ratio of a developer. -/
def ratioOf (deltas : List (ComplexityDelta Float)) (a : Activity) : Float :=
  let own := a.filesTouched.filterMap (Table.get? (Table.ofPairs (deltas.map fun d => (d.filePath, d))))
  ComplexityDelta.refactoringRatio (if own.isEmpty then deltas else own)

/-- Distinct developers have one ratio each, in the order of the activities. -/
theorem refactoringRatios_eq (hdistinct : (activities.map (·.developer)).Nodup)
    (deltas : List (ComplexityDelta Float)) :
    refactoringRatios activities deltas = activities.map fun a => (a.developer, ratioOf deltas a) := by
  refine Table.ofPairs_of_nodup ?_
  rw [List.map_map]
  exact hdistinct

theorem inputOf_of_perm (hdistinct : (activities.map (·.developer)).Nodup) (hperm : activities.Perm activities')
    (r : VelocityRequest Float) (scoring : ScoringConfig Int Float) (thresholds : BlockerThresholds Int Float) :
    (inputOf activities r scoring thresholds).IsReordering (inputOf activities' r scoring thresholds) where
  activities := hperm
  efforts := EffortScore.ofActivities_of_perm hperm r.deltas scoring
  impacts := ImpactScore.ofActivities_of_perm hperm r.graph r.violations r.reviews scoring
  refactoring := by
    have hdistinct' : (activities'.map (·.developer)).Nodup := (hperm.map _).nodup_iff.mp hdistinct
    show (refactoringRatios activities r.deltas).Perm (refactoringRatios activities' r.deltas)
    rw [refactoringRatios_eq hdistinct, refactoringRatios_eq hdistinct']
    exact hperm.map _
  distinctActivities := hdistinct
  distinctEfforts := by
    show ((EffortScore.ofActivities activities r.deltas scoring).map (·.developer)).Nodup
    rw [EffortScore.developers_ofActivities]
    exact hdistinct
  distinctImpacts := by
    show ((ImpactScore.ofActivities activities r.graph r.violations r.reviews scoring).map (·.developer)).Nodup
    rw [ImpactScore.developers_ofActivities]
    exact hdistinct
  distinctRefactoring := by
    show ((refactoringRatios activities r.deltas).map (·.1)).Nodup
    rw [refactoringRatios_eq hdistinct, List.map_map]
    exact hdistinct
  requests := rfl
  blockers := rfl
  span := rfl
  previous := rfl

theorem perform_of_perm (hdistinct : (activities.map (·.developer)).Nodup) (hperm : activities.Perm activities') :
    perform activities r c = perform activities' r c := by
  have hinput := inputOf_of_perm hdistinct hperm r c.scoring c.blockers
  simp only [perform, VelocityScore.ofInput_of_isReordering hinput, hinput.blockers]

/-- A run on activities is refused for its lists, or else for its weights. -/
theorem performSupplied_eq (activities : List Activity) (deltas : Supplied (ComplexityDelta Float))
    (requests : Supplied PullRequest) (r : VelocityRequest Float) (c : AnalysisConfig layer Int Float) :
    performSupplied (.list activities) deltas requests r c = (do
      let ds ← (deltas.require "complexity_deltas").mapError .input
      let rs ← (requests.require "prs").mapError .input
      (perform activities { r with deltas := ds, requests := rs } c).mapError .setting) :=
  rfl

/-- A run has a result exactly if the weights can be scaled. -/
theorem exists_perform : (∃ result, perform activities r c = .ok result) ↔ ∃ w, c.velocity.normalized = .ok w := by
  constructor
  · rintro ⟨result, h⟩
    obtain ⟨scores, hscores, -⟩ := bind_eq_ok.mp h
    obtain ⟨w, hw, -⟩ := bind_eq_ok.mp hscores
    exact ⟨w, hw⟩
  · rintro ⟨w, hw⟩
    exact ⟨_, bind_eq_ok.mpr ⟨_, bind_eq_ok.mpr ⟨w, hw, rfl⟩, rfl⟩⟩

theorem exists_performSupplied {deltas : Supplied (ComplexityDelta Float)} {requests : Supplied PullRequest} :
    (∃ result, performSupplied (.list activities) deltas requests r c = .ok result) ↔
      ∃ ds rs w, deltas = .list ds ∧ requests = .list rs ∧ c.velocity.normalized = .ok w := by
  rw [performSupplied_eq]
  constructor
  · rintro ⟨result, h⟩
    obtain ⟨ds, hds, h⟩ := bind_eq_ok.mp h
    obtain ⟨rs, hrs, h⟩ := bind_eq_ok.mp h
    obtain ⟨w, hw⟩ := exists_perform.mp ⟨result, mapError_eq_ok.mp h⟩
    exact ⟨ds, rs, w, Supplied.require_eq_ok.mp (mapError_eq_ok.mp hds),
      Supplied.require_eq_ok.mp (mapError_eq_ok.mp hrs), hw⟩
  · rintro ⟨ds, rs, w, rfl, rfl, hw⟩
    obtain ⟨result, hresult⟩ := exists_perform.mpr ⟨w, hw⟩
    exact ⟨result, bind_eq_ok.mpr ⟨ds, rfl, bind_eq_ok.mpr ⟨rs, rfl, mapError_eq_ok.mpr hresult⟩⟩⟩

/-- Activities of distinct developers have the same run in every order: the same scores, team and blockers, or the same
fault. The run has a result exactly if the deltas and the requests are lists and the weights can be scaled. -/
theorem performSupplied_of_perm (hdistinct : (activities.map (·.developer)).Nodup)
    (hperm : activities.Perm activities') (deltas : Supplied (ComplexityDelta Float))
    (requests : Supplied PullRequest) (r : VelocityRequest Float) (c : AnalysisConfig layer Int Float) :
    performSupplied (.list activities) deltas requests r c = performSupplied (.list activities') deltas requests r c ∧
      ((∃ result, performSupplied (.list activities) deltas requests r c = .ok result) ↔
        ∃ ds rs w, deltas = .list ds ∧ requests = .list rs ∧ c.velocity.normalized = .ok w) := by
  refine ⟨?_, exists_performSupplied⟩
  rw [performSupplied_eq, performSupplied_eq]
  simp only [perform_of_perm hdistinct hperm]

/-- Three developers in the opposite order, the effort of one beyond the scale. -/
theorem performSupplied_of_perm_of_three :
    let activities : List Activity := [⟨"cy", 9, 4, 90000, 1200, [(".ts", 4)], none, none, ["src/core.ts"]⟩,
      ⟨"ann", 2, 1, 300, 40, [(".py", 1)], none, none, ["src/a.py"]⟩, ⟨"bo", 1, 1, 5, 0, [(".md", 1)], none, none, []⟩]
    let deltas : List (ComplexityDelta Float) := [⟨"src/core.ts", Scalar.ofInt 12, Scalar.ofInt 9, Scalar.ofInt (-3),
      Scalar.ofInt 3, Scalar.zero⟩]
    let r : VelocityRequest Float := ⟨"team", {}, [], [], none, [], [], [], none, ⟨⟨2024, 6, 7⟩, 0, none⟩⟩
    let c : AnalysisConfig LayerDefinition Int Float := .usual
    (activities.map (·.developer)).Nodup ∧ activities.Perm activities.reverse ∧
      ∃ result, performSupplied (.list activities) (.list deltas) (.list []) r c = .ok result ∧
        performSupplied (.list activities.reverse) (.list deltas) (.list []) r c = .ok result := by
  intro activities deltas r c
  have hdistinct : (activities.map (·.developer)).Nodup := by decide
  have hperm : activities.Perm activities.reverse := activities.reverse_perm.symm
  have hweights : c.velocity.normalized = .ok c.velocity := by
    rw [VelocityWeights.normalized, if_pos (by decide +kernel)]
    rfl
  obtain ⟨hsame, hruns⟩ := performSupplied_of_perm hdistinct hperm (.list deltas) (.list []) r c
  obtain ⟨result, hresult⟩ := hruns.mpr ⟨deltas, [], c.velocity, rfl, rfl, hweights⟩
  exact ⟨hdistinct, hperm, result, hresult, hsame.symm.trans hresult⟩

end VelocityRun
end RepoSurvey
