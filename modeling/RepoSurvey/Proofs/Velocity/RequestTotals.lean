import RepoSurvey.Proofs.Number.Totals
import RepoSurvey.Proofs.Velocity.BlockerPlacement

/-!
# Totals of requests

The requests of a period are divided among their authors, and the reviews among the reviewers: nothing is lost and
nothing is counted twice.

* `PullRequest.IsWithin`: a request that was created in a period, the ends of which belong to it.
* `RequestMetrics.signedTotal_own`: a measure of requests is the sum of its measures for the authors.
* `RequestMetrics.Conserves`: what the metrics of some requests add up to.
* `RequestMetrics.Counts`: metrics without their averages, which do not depend on the order of the requests.
* `RequestMetrics.ofSupplied_conserves`: both for every list that a caller can hand over.
-/

namespace RepoSurvey

/-! ### Periods -/

namespace PullRequest

/-- The request was created between two moments or at one of them; a missing one bounds nothing. -/
def IsWithin (start finish : Option Moment) (r : PullRequest) : Prop :=
  (∀ s ∈ start, s.instant ≤ r.createdAt.instant) ∧ ∀ f ∈ finish, r.createdAt.instant ≤ f.instant

instance (start finish : Option Moment) (r : PullRequest) : Decidable (r.IsWithin start finish) :=
  inferInstanceAs (Decidable (_ ∧ _))

theorem inPeriod_eq (start finish : Option Moment) :
    inPeriod start finish = fun r => decide (r.IsWithin start finish) := by
  funext r
  cases start <;> cases finish <;> simp [inPeriod, IsWithin, Moment.notAfter]

end PullRequest

namespace RequestMetrics

variable {α : Type} [Scalar α] {rs rs' : List PullRequest}

/-! ### Sums over developers -/

section Sums

/-- A measure that adds up over requests is the sum of its measures for the authors. -/
theorem signedTotal_own (rs : List PullRequest) (measure : List PullRequest → Nat)
    (hadd : ∀ xs ys, measure (xs ++ ys) = measure xs + measure ys) :
    signedTotal ((PullRequest.people rs).map fun developer =>
      (measure (rs.filter fun r => r.author == developer) : Int)) = measure rs := by
  have hcover : ∀ r ∈ rs, r.author ∈ PullRequest.people rs := fun r hr =>
    PullRequest.mem_people.mpr ⟨r, hr, .inl rfl⟩
  rw [signedTotal_natCast]
  exact congrArg Nat.cast (total_filter_key (Text.nodup_distinctAscending _) hcover measure hadd)

/-- Every entry of a reviewer is a review of the reviewer that it names. -/
theorem signedTotal_reviews (rs : List PullRequest) :
    signedTotal ((PullRequest.people rs).map fun developer =>
      (((rs.flatMap (·.reviewers)).count developer : Nat) : Int)) = total (rs.map (·.reviewers.length)) := by
  have hcover : ∀ reviewer ∈ rs.flatMap (·.reviewers), id reviewer ∈ PullRequest.people rs := by
    intro reviewer hreviewer
    obtain ⟨r, hr, hin⟩ := List.mem_flatMap.mp hreviewer
    exact PullRequest.mem_people.mpr ⟨r, hr, .inr hin⟩
  have hsum := total_filter_key (Text.nodup_distinctAscending _) hcover List.length fun _ _ => List.length_append
  simp only [← List.countP_eq_length_filter] at hsum
  rw [signedTotal_natCast]
  exact congrArg Nat.cast (hsum.trans List.length_flatMap)

end Sums

/-! ### What metrics add up to -/

section Conserved

/-- The metrics name the authors and the reviewers of some requests in order, and share out the requests among the
authors and the reviews among the reviewers. -/
structure Conserves (rs : List PullRequest) (ms : List (RequestMetrics α)) : Prop where
  ascending : (ms.map (·.developer)).Pairwise (· < ·)
  developers : ∀ developer, developer ∈ ms.map (·.developer) ↔ ∃ r ∈ rs, r.Involves developer
  opened : signedTotal (ms.map (·.opened)) = rs.length
  reviews : signedTotal (ms.map (·.reviews)) = total (rs.map (·.reviewers.length))
  merged : signedTotal (ms.map (·.merged)) = rs.countP (·.state = .merged)
  withViolations : signedTotal (ms.map (·.withViolations)) = rs.countP (·.hasViolations)
  merged_add_closed_le : ∀ m ∈ ms, m.merged + m.closed ≤ m.opened
  withViolations_le : ∀ m ∈ ms, m.withViolations ≤ m.opened

/-- No request counts both as merged and as closed without a merge. -/
theorem merged_add_closed_le_opened (rs : List PullRequest) (developer : String) :
    (ofDeveloper rs developer : RequestMetrics α).merged + (ofDeveloper rs developer : RequestMetrics α).closed ≤
      (ofDeveloper rs developer : RequestMetrics α).opened := by
  have hcounts (own : List PullRequest) : (own.filter (·.state == .merged)).length +
      (own.filter fun r => r.state == .closed && r.mergedAt.isNone).length ≤ own.length := by
    induction own with
    | nil => exact Nat.le_refl 0
    | cons r rest ih =>
      cases hstate : r.state <;> simp only [List.filter_cons, hstate] <;> grind
  exact Int.ofNat_le.mpr (hcounts (rs.filter (·.author == developer)))

theorem conserves_ofRequests (rs : List PullRequest) (start finish : Option Moment) :
    Conserves (rs.filter (·.IsWithin start finish)) (ofRequests rs start finish : List (RequestMetrics α)) := by
  have hdevelopers := developers_ofRequests (α := α) rs start finish
  rw [ofRequests, PullRequest.inPeriod_eq] at *
  generalize rs.filter (fun r => decide (r.IsWithin start finish)) = rs at *
  constructor
  case ascending =>
    rw [hdevelopers]
    exact Text.pairwise_lt_distinctAscending _
  case developers =>
    intro developer
    rw [hdevelopers, PullRequest.mem_people]
  case opened =>
    rw [List.map_map]
    exact signedTotal_own rs List.length fun _ _ => List.length_append
  case reviews =>
    rw [List.map_map]
    exact signedTotal_reviews rs
  case merged =>
    rw [List.map_map]
    have hsum := signedTotal_own rs (List.countP (·.state = .merged)) fun _ _ => List.countP_append
    simp only [List.countP_eq_length_filter] at hsum ⊢
    exact hsum
  case withViolations =>
    rw [List.map_map]
    have hsum := signedTotal_own rs (List.countP (·.hasViolations)) fun _ _ => List.countP_append
    simp only [List.countP_eq_length_filter] at hsum ⊢
    exact hsum
  case merged_add_closed_le =>
    rw [List.forall_mem_map]
    intro developer _
    exact merged_add_closed_le_opened rs developer
  case withViolations_le =>
    rw [List.forall_mem_map]
    intro developer _
    exact Int.ofNat_le.mpr (List.length_filter_le _ _)

end Conserved

/-! ### The order of requests -/

section Order

/-- The counts of a developer's metrics. -/
structure Counts where
  developer : String
  opened : Int
  merged : Int
  closed : Int
  withViolations : Int
  reviews : Int
  deriving Repr, DecidableEq

def counts (m : RequestMetrics α) : Counts :=
  ⟨m.developer, m.opened, m.merged, m.closed, m.withViolations, m.reviews⟩

theorem counts_ofDeveloper_of_perm (h : rs.Perm rs') (developer : String) :
    counts (ofDeveloper rs developer : RequestMetrics α) = counts (ofDeveloper rs' developer : RequestMetrics α) := by
  have hown := h.filter (·.author == developer)
  have hmerged := (hown.filter (·.state == .merged)).length_eq
  have hclosed := (hown.filter fun r => r.state == .closed && r.mergedAt.isNone).length_eq
  have hflagged := (hown.filter (·.hasViolations)).length_eq
  have hreviews := (h.flatMap_right (·.reviewers)).count_eq developer
  simp only [counts, ofDeveloper, hown.length_eq, hmerged, hclosed, hflagged, hreviews]

/-- Requests in another order have the same people with the same counts. -/
theorem counts_ofRequests_of_perm (h : rs.Perm rs') (start finish : Option Moment) :
    (ofRequests rs start finish : List (RequestMetrics α)).map counts =
      (ofRequests rs' start finish : List (RequestMetrics α)).map counts := by
  have hperiod := h.filter (·.inPeriod start finish)
  have hpeople : PullRequest.people (rs.filter (·.inPeriod start finish)) =
      PullRequest.people (rs'.filter (·.inPeriod start finish)) :=
    Text.distinctAscending_congr fun _ => ((hperiod.map _).append (hperiod.flatMap_right _)).mem_iff
  rw [ofRequests, ofRequests, List.map_map, List.map_map, hpeople]
  exact List.map_congr_left fun developer _ => counts_ofDeveloper_of_perm hperiod developer

end Order

variable (α) in
/-- **Metrics conserve the counts of the requests** of a period, and the counts of every developer are the same in every
order of the requests. -/
theorem ofSupplied_conserves (rs : List PullRequest) (start finish : Option Moment) :
    ∃ ms : List (RequestMetrics α), ofSupplied (.list rs) start finish = .ok ms ∧
      Conserves (rs.filter (·.IsWithin start finish)) ms ∧
      ∀ rs' : List PullRequest, rs.Perm rs' → ∃ ms' : List (RequestMetrics α),
        ofSupplied (.list rs') start finish = .ok ms' ∧ ms'.map counts = ms.map counts := by
  refine ⟨ofRequests rs start finish, rfl, conserves_ofRequests rs start finish, ?_⟩
  intro rs' h
  exact ⟨ofRequests rs' start finish, rfl, (counts_ofRequests_of_perm h start finish).symm⟩

/-- Two reviews of one request by one reviewer and a third one by its author, requests at both ends of the period, and
one from before it. -/
theorem ofSupplied_conserves_of_own_review :
    let start : Moment := ⟨⟨2024, 6, 1⟩, 0, none⟩
    let finish : Moment := ⟨⟨2024, 6, 7⟩, 0, some 0⟩
    let request (number : Int) (author : String) (state : RequestState) (createdAt : Moment) : PullRequest :=
      { id := "", number, title := "", author, state, createdAt, updatedAt := finish }
    let rs : List PullRequest := [{ request 1 "bo" .merged finish with reviewers := ["ann", "ann", "bo"] },
      { request 2 "cy" .closed start with hasViolations := true }, request 3 "dee" .opened ⟨⟨2024, 5, 31⟩, 0, none⟩]
    rs.Perm rs.reverse ∧ ∃ ms ms' : List (RequestMetrics Float),
      ofSupplied (.list rs) (some start) (some finish) = .ok ms ∧
      ofSupplied (.list rs.reverse) (some start) (some finish) = .ok ms' ∧ ms'.map counts = ms.map counts ∧
      signedTotal (ms.map (·.opened)) = 2 ∧ signedTotal (ms.map (·.reviews)) = 3 ∧
      signedTotal (ms.map (·.merged)) = 1 ∧ signedTotal (ms.map (·.withViolations)) = 1 := by
  intro start finish request rs
  have hperm : rs.Perm rs.reverse := rs.reverse_perm.symm
  obtain ⟨ms, hms, hconserves, hothers⟩ := ofSupplied_conserves Float rs (some start) (some finish)
  obtain ⟨ms', hms', hcounts⟩ := hothers rs.reverse hperm
  exact ⟨hperm, ms, ms', hms, hms', hcounts, hconserves.opened.trans (by decide +kernel),
    hconserves.reviews.trans (by decide +kernel), hconserves.merged.trans (by decide +kernel),
    hconserves.withViolations.trans (by decide +kernel)⟩

end RequestMetrics
end RepoSurvey
