import RepoSurvey.Proofs.Velocity.RunOrder
import RepoSurvey.Proofs.Velocity.RunResult

/-!
# Where blockers are reported

Blockers are detected among all requests of a run, scores are given to the developers of its activities and to the
authors and reviewers of the requests that were created in its period.

* `PullRequest.Involves`: the author and the reviewers of a request.
* `VelocityScore.mem_developers_inputOf`: who has a score.
* `VelocityResult.Places`: a blocker is in the score of the developer it is about, as often as it was detected, and in
  no other score.
* `VelocityRun.places_iff`: a detected blocker is placed exactly if its developer has a score.
* `VelocityRun.performSupplied_places`: the same for a whole run, and what becomes of the other blockers.
-/

namespace RepoSurvey

/-! ### Who has a score -/

section Developers

/-- The developer wrote the request or is to review it. -/
def PullRequest.Involves (q : PullRequest) (developer : String) : Prop :=
  q.author = developer ∨ developer ∈ q.reviewers

instance (q : PullRequest) (developer : String) : Decidable (q.Involves developer) :=
  inferInstanceAs (Decidable (q.author = developer ∨ developer ∈ q.reviewers))

theorem PullRequest.mem_people {requests : List PullRequest} {developer : String} :
    developer ∈ people requests ↔ ∃ q ∈ requests, q.Involves developer := by
  rw [people, Text.mem_distinctAscending, List.mem_append, List.mem_map, List.mem_flatMap]
  constructor
  · rintro (⟨q, hq, hauthor⟩ | ⟨q, hq, hreviewer⟩)
    · exact ⟨q, hq, .inl hauthor⟩
    · exact ⟨q, hq, .inr hreviewer⟩
  · rintro ⟨q, hq, hauthor | hreviewer⟩
    · exact .inl ⟨q, hq, hauthor⟩
    · exact .inr ⟨q, hq, hreviewer⟩

theorem RequestMetrics.developers_ofRequests {α : Type} [Scalar α] (requests : List PullRequest)
    (start finish : Option Moment) :
    (ofRequests requests start finish : List (RequestMetrics α)).map (·.developer) =
      PullRequest.people (requests.filter (·.inPeriod start finish)) := by
  rw [ofRequests, List.map_map]
  exact List.map_id _

/-- Metrics are those of the authors and reviewers of the period's requests. -/
theorem RequestMetrics.mem_developers_ofRequests {α : Type} [Scalar α] {requests : List PullRequest}
    {start finish : Option Moment} {developer : String} :
    developer ∈ (ofRequests requests start finish : List (RequestMetrics α)).map (·.developer) ↔
      ∃ q ∈ requests, q.inPeriod start finish ∧ q.Involves developer := by
  rw [developers_ofRequests, PullRequest.mem_people]
  constructor
  · rintro ⟨q, hq, hinvolved⟩
    obtain ⟨hmem, hperiod⟩ := List.mem_filter.mp hq
    exact ⟨q, hmem, hperiod, hinvolved⟩
  · rintro ⟨q, hq, hperiod, hinvolved⟩
    exact ⟨q, List.mem_filter.mpr ⟨hq, hperiod⟩, hinvolved⟩

variable {activities : List Activity} {r : VelocityRequest Float} {scoring : ScoringConfig Int Float}
variable {thresholds : BlockerThresholds Int Float}

/-- Scores go to the developers of the activities and to the authors and reviewers of the period's requests. -/
theorem VelocityScore.mem_developers_inputOf {developer : String} :
    developer ∈ developers (VelocityRun.inputOf activities r scoring thresholds) ↔
      developer ∈ activities.map (·.developer) ∨
        ∃ q ∈ r.requests, q.inPeriod r.span.start r.span.finish ∧ q.Involves developer := by
  have hefforts := EffortScore.developers_ofActivities activities r.deltas scoring
  have himpacts := ImpactScore.developers_ofActivities activities r.graph r.violations r.reviews scoring
  rw [developers, Text.mem_distinctAscending, List.mem_append, List.mem_append, List.mem_append,
    ← RequestMetrics.mem_developers_ofRequests (α := Float)]
  simp only [VelocityRun.inputOf, hefforts, himpacts, or_self]

end Developers

/-! ### Placed blockers -/

/-- A blocker is in the score of the developer it is about, as often as it was detected, and in no other score. -/
def VelocityResult.Places (result : VelocityResult Float) (b : Blocker) : Prop :=
  ∃ before s after, result.scores = before ++ s :: after ∧ s.developer = b.entity ∧
    s.blockers.count b = result.blockers.count b ∧ ∀ other ∈ before ++ after, b ∉ other.blockers

namespace VelocityRun

variable {layer : Type} {activities : List Activity} {r : VelocityRequest Float} {c : AnalysisConfig layer Int Float}
variable {w : VelocityWeights Float} {b : Blocker} {s : VelocityScore Float}

/-- A score holds the blockers of its developer. -/
theorem blockers_of_mem_scores (hs : s ∈ (resultUnder w activities r c).scores) :
    s.blockers = (resultUnder w activities r c).blockers.filter (·.entity == s.developer) := by
  obtain ⟨developer, -, rfl⟩ := List.mem_map.mp hs
  rfl

theorem entity_of_mem_scores (hs : s ∈ (resultUnder w activities r c).scores) (hb : b ∈ s.blockers) :
    s.developer = b.entity := by
  rw [blockers_of_mem_scores hs] at hb
  exact (eq_of_beq (List.mem_filter.mp hb).2).symm

theorem developers_scores : (resultUnder w activities r c).scores.map (·.developer) =
    VelocityScore.developers (inputOf activities r c.scoring c.blockers) := by
  rw [resultUnder, List.map_map]
  exact List.map_id _

/-- A blocker is placed exactly if the developer it is about has a score. -/
theorem places_iff : (resultUnder w activities r c).Places b ↔
    b.entity ∈ (resultUnder w activities r c).scores.map (·.developer) := by
  rw [List.mem_map]
  constructor
  · rintro ⟨before, s, after, hscores, hdeveloper, -, -⟩
    exact ⟨s, hscores ▸ List.mem_append_right before List.mem_cons_self, hdeveloper⟩
  · rintro ⟨s, hs, hdeveloper⟩
    have hnodup : ((resultUnder w activities r c).scores.map (·.developer)).Nodup := by
      rw [developers_scores]
      exact Text.nodup_distinctAscending _
    obtain ⟨before, after, hscores⟩ := List.append_of_mem hs
    refine ⟨before, s, after, hscores, hdeveloper, ?_, fun other hother hb => ?_⟩
    · rw [blockers_of_mem_scores hs, hdeveloper]
      exact List.count_filter (beq_self_eq_true b.entity)
    · -- A second score with the blocker would be one of the same developer.
      have hmem : other ∈ (resultUnder w activities r c).scores := by
        rw [hscores]
        exact (List.perm_middle.mem_iff).mpr (List.mem_cons_of_mem s hother)
      have hsame : other.developer = s.developer := (entity_of_mem_scores hmem hb).trans hdeveloper.symm
      rw [hscores, (List.perm_middle.map _).nodup_iff, List.map_cons, List.nodup_cons] at hnodup
      exact hnodup.1 (List.mem_map.mpr ⟨other, hother, hsame⟩)

/-- A detected blocker of a run is placed exactly if the developer it is about has activities, or wrote or is to review
a request of the period; any other one is in no score. So without a period every blocker of an author or a reviewer is
placed. -/
theorem performSupplied_places {deltas : List (ComplexityDelta Float)} {requests : List PullRequest}
    {result : VelocityResult Float}
    (hresult : performSupplied (.list activities) (.list deltas) (.list requests) r c = .ok result) :
    ∀ b ∈ result.blockers,
      (result.Places b ↔ b.entity ∈ activities.map (·.developer) ∨
        ∃ q ∈ requests, q.inPeriod r.span.start r.span.finish ∧ q.Involves b.entity) ∧
      (¬ result.Places b → ∀ s ∈ result.scores, b ∉ s.blockers) ∧
      (r.span.start = none → r.span.finish = none → (∃ q ∈ requests, q.Involves b.entity) → result.Places b) := by
  intro b _
  obtain ⟨w, -, rfl⟩ := performSupplied_eq_ok.mp hresult
  have hplaces : (resultUnder w activities { r with deltas, requests } c).Places b ↔
      b.entity ∈ activities.map (·.developer) ∨
        ∃ q ∈ requests, q.inPeriod r.span.start r.span.finish ∧ q.Involves b.entity := by
    rw [places_iff, developers_scores]
    exact VelocityScore.mem_developers_inputOf
  refine ⟨hplaces, fun hlost s hs hmem => hlost ?_, ?_⟩
  · exact places_iff.mpr (List.mem_map.mpr ⟨s, hs, entity_of_mem_scores hs hmem⟩)
  rintro hstart hfinish ⟨q, hq, hinvolved⟩
  refine hplaces.mpr (.inr ⟨q, hq, ?_, hinvolved⟩)
  rw [hstart, hfinish]
  rfl

/-- A request of ann's that was created before the period is stalled, and only bob has a score. -/
theorem performSupplied_places_of_earlier_request :
    let activities : List Activity := [⟨"bob", 1, 1, 50, 0, [], none, none, []⟩]
    let created : Moment := ⟨⟨2024, 5, 24⟩, 0, none⟩
    let request : PullRequest := { id := "pr-9", number := 9, title := "Refactor cache", author := "ann"
                                   state := .opened, createdAt := created, updatedAt := created }
    let span : Span := { start := some ⟨⟨2024, 5, 27⟩, 0, none⟩, finish := some ⟨⟨2024, 6, 3⟩, 0, none⟩ }
    let r : VelocityRequest Float := ⟨"core", span, [], [], none, [], [], [], none, ⟨⟨2024, 6, 3⟩, 0, none⟩⟩
    let c : AnalysisConfig LayerDefinition Int Float := .usual
    ∃ result b, performSupplied (.list activities) (.list []) (.list [request]) r c = .ok result ∧
      b ∈ result.blockers ∧ b.type = .stalledRequest ∧ request.Involves b.entity ∧
      ¬ result.Places b ∧ ∀ s ∈ result.scores, b ∉ s.blockers := by
  intro activities created request span r c
  have hweights : c.velocity.normalized = .ok c.velocity :=
    VelocityWeights.normalized_of_isNormal (by decide +kernel)
  let result := resultUnder c.velocity activities { r with requests := [request] } c
  have hresult : performSupplied (.list activities) (.list []) (.list [request]) r c = .ok result :=
    performSupplied_eq_ok.mpr ⟨c.velocity, hweights, rfl⟩
  have hstalled : (result.blockers.head?.map fun b => (b.type, b.entity)) = some (.stalledRequest, "ann") := by
    decide +kernel
  obtain ⟨b, hhead, hb⟩ := Option.map_eq_some_iff.mp hstalled
  obtain ⟨htype, hentity⟩ := Prod.mk.inj hb
  have hmem : b ∈ result.blockers := List.mem_of_mem_head? hhead
  obtain ⟨hplaces, hlost, -⟩ := performSupplied_places hresult b hmem
  have hnowhere : ¬ result.Places b := by
    rw [hplaces, hentity]
    decide +kernel
  exact ⟨result, b, hresult, hmem, htype, .inl hentity.symm, hnowhere, hlost hnowhere⟩

end VelocityRun
end RepoSurvey
