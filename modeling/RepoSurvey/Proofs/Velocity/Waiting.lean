import RepoSurvey.Proofs.Number.DoubleRange
import RepoSurvey.Proofs.Number.DoubleWhole
import RepoSurvey.Proofs.Time.CalendarBounds
import RepoSurvey.Velocity.Blocker

/-!
# Requests that go on waiting

The seconds for which a request has waited are a double. It does not fall as time goes by, but what is not more than half
way to the next double gets lost, so a limit of many years has to be exceeded by more than nothing.

* `Moment.secondsSince_mono`, `Moment.wholeDays_mono`: seconds and whole days do not fall.
* `Blocker.exceedsDays_iff`, `Blocker.exceedsDays_eq`: which exact times exceed a number of days as doubles; up to 544
  years all that exceed it.
* `Blocker.Wait`: the two ways in which a request waits, `Blocker.Wait.notice`: the blocker that tells of it.
* `Blocker.reports_iff`: which open requests are reported, and how severely.
* `Blocker.detectSupplied_later`: the blockers at two times.
-/

namespace RepoSurvey

/-! ### Elapsed seconds -/

namespace Moment

section

variable {now later m : Moment}

/-- The elapsed seconds are the exact ones, converted. -/
theorem secondsSince_float (now m : Moment) :
    (now.secondsSince m : Float) = Double.ofRat (now.secondsSince m : Rat) := rfl

theorem secondsSince_rat (now m : Moment) :
    (now.secondsSince m : Rat) = ((now.instant - m.instant : Int) : Rat) / 1000000 := by
  show ((now.instant - m.instant : Int) : Rat) / ((1000000 : Int) : Rat) = _
  norm_num

theorem secondsSince_mono (h : now.instant ≤ later.instant) (m : Moment) :
    (now.secondsSince m : Rat) ≤ later.secondsSince m := by
  have hmicros : ((now.instant - m.instant : Int) : Rat) ≤ ((later.instant - m.instant : Int) : Rat) := by
    exact_mod_cast Int.sub_le_sub_right h _
  rw [secondsSince_rat, secondsSince_rat]
  linarith

/-- Elapsed seconds have fewer than 52 bits. -/
theorem abs_secondsSince_lt (hnow : now.IsInCalendar) (hm : m.IsInCalendar) :
    |(now.secondsSince m : Rat)| < ((2 ^ 51 : Nat) : Rat) := by
  have hmicros : |now.instant - m.instant| < (2 ^ 51 * 1000000 : Int) :=
    (hnow.abs_sub_lt hm).trans_le (by decide)
  have hcast : |((now.instant - m.instant : Int) : Rat)| < ((2 ^ 51 * 1000000 : Int) : Rat) := by
    exact_mod_cast hmicros
  have hbound : ((2 ^ 51 * 1000000 : Int) : Rat) = ((2 ^ 51 : Nat) : Rat) * 1000000 := by norm_num
  have hpos : (0 : Rat) < 1000000 := by norm_num
  rwa [secondsSince_rat, abs_div, abs_of_pos hpos, div_lt_iff₀ hpos, ← hbound]

theorem exists_toRat?_secondsSince (hnow : now.IsInCalendar) (hm : m.IsInCalendar) :
    ∃ v, Scalar.toRat? (now.secondsSince m : Float) = some v := by
  have hbound := abs_secondsSince_lt hnow hm
  rw [secondsSince_float]
  refine Option.isSome_iff_exists.mp ((Double.rounded_ofRat _).isSome_of_le
    (Double.toRat?_ofRat_natCast (n := 2 ^ 51) (by decide)) ?_)
  rw [abs_of_nonneg (Nat.cast_nonneg (2 ^ 51) : (0 : Rat) ≤ _)]
  exact hbound.le

/-- **The whole days do not fall.** -/
theorem wholeDays_mono (hnow : now.IsInCalendar) (hlater : later.IsInCalendar) (hm : m.IsInCalendar)
    (h : now.instant ≤ later.instant) :
    wholeDays (now.secondsSince m : Float) ≤ wholeDays (later.secondsSince m : Float) := by
  obtain ⟨v, hv⟩ := exists_toRat?_secondsSince hnow hm
  obtain ⟨w, hw⟩ := exists_toRat?_secondsSince hlater hm
  have hvw : v ≤ w := (Double.le_iff_of_toRat? hv hw).mp (Double.ofRat_mono (secondsSince_mono h m))
  have hpos : (0 : Rat) ≤ daySeconds := Nat.cast_nonneg _
  rw [wholeDays, wholeDays, hv, hw, Option.getD_some, Option.getD_some]
  exact Rat.floor_monotone (div_le_div_of_nonneg_right hvw hpos)

end

end Moment

/-! ### Limits in days -/

namespace Blocker

section

variable {now later m : Moment} {limit : Int}

theorem exceedsDays_mono (h : now.instant ≤ later.instant)
    (hexceeds : exceedsDays (now.secondsSince m : Float) limit = true) :
    exceedsDays (later.secondsSince m : Float) limit = true := by
  rw [exceedsDays, Bool.not_eq_true', Bool.eq_false_iff, Ne, Double.le_eq_true, Moment.secondsSince_float]
    at hexceeds ⊢
  intro hle
  exact hexceeds (Double.le_trans (Double.ofRat_mono (Moment.secondsSince_mono h m)) hle)

theorem exceedsDays_rat (q : Rat) (limit : Int) :
    exceedsDays q limit = true ↔ ((limit * Moment.daySeconds : Int) : Rat) < q := by
  show (!decide (q ≤ ((limit * Moment.daySeconds : Int) : Rat))) = true ↔ _
  simp

/-- **Which times exceed a number of days:** those that are more than half way to the double after it. -/
theorem exceedsDays_iff (hnow : now.IsInCalendar) (hm : m.IsInCalendar) (hlimit : 1 ≤ limit) :
    exceedsDays (now.secondsSince m : Float) limit = true ↔
      ((limit * Moment.daySeconds : Int) : Rat) + Double.halfGap (limit * Moment.daySeconds).toNat <
        now.secondsSince m := by
  have hday : (Moment.daySeconds : Int) = 86400 := rfl
  obtain ⟨n, hn⟩ : ∃ n : Nat, limit * Moment.daySeconds = n :=
    ⟨(limit * 86400).toNat, by rw [hday, Int.toNat_of_nonneg (by omega)]⟩
  have hpos : 0 < n := by
    rw [hday] at hn
    omega
  have hle : exceedsDays (now.secondsSince m : Float) limit = true ↔
      ¬ Double.ofRat (now.secondsSince m : Rat) ≤ Double.ofRat (n : Rat) := by
    rw [exceedsDays, Bool.not_eq_true', Bool.eq_false_iff, Ne, Double.le_eq_true, Moment.secondsSince_float, hn]
    rfl
  rw [hle, hn, Int.toNat_natCast, Int.cast_natCast]
  by_cases hbits : n < 2 ^ 52
  · rw [Double.ofRat_le_ofRat_natCast hpos hbits, not_le]
  · -- No two moments of the calendar are so far apart.
    have hfar : ((2 ^ 51 : Nat) : Rat) ≤ n := by exact_mod_cast (by omega : 2 ^ 51 ≤ n)
    have hbelow := (abs_lt.mp (Moment.abs_secondsSince_lt hnow hm)).2
    have hgap := Double.halfGap_pos n
    exact iff_of_false (not_not.mpr (Double.ofRat_mono (by linarith))) (by linarith)

/-- **Up to 544 years** the times that exceed a number of days are just the greater ones. -/
theorem exceedsDays_eq (hnow : now.IsInCalendar) (hm : m.IsInCalendar) (hlimit : 1 ≤ limit)
    (hbits : limit * Moment.daySeconds < 2 ^ 34) :
    exceedsDays (now.secondsSince m : Float) limit = exceedsDays (now.secondsSince m : Rat) limit := by
  have hday : (Moment.daySeconds : Int) = 86400 := rfl
  have hgap := Double.halfGap_pos (limit * Moment.daySeconds).toNat
  rw [Bool.eq_iff_iff, exceedsDays_iff hnow hm hlimit, exceedsDays_rat]
  constructor
  · intro hexceeds
    linarith
  · intro hexceeds
    -- The time is a whole number of microseconds, and what gets lost is less than one.
    have hlost : Double.halfGap (limit * Moment.daySeconds).toNat < 1 / 1000000 := by
      have hlog : (limit * Moment.daySeconds).toNat.log2 < 34 := by
        rw [hday] at hbits ⊢
        exact (Nat.log2_lt (by omega)).mpr (by omega)
      have hpowers : Double.halfGap (limit * Moment.daySeconds).toNat ≤ 2 ^ (-20 : Int) :=
        Double.two_zpow_mono (by omega)
      exact hpowers.trans_lt (by norm_num)
    have hmicros : limit * Moment.daySeconds * 1000000 + 1 ≤ now.instant - m.instant := by
      rw [Moment.secondsSince_rat, lt_div_iff₀ (by norm_num)] at hexceeds
      exact_mod_cast hexceeds
    have hcast : ((limit * Moment.daySeconds : Int) : Rat) * 1000000 + 1 ≤ ((now.instant - m.instant : Int) : Rat) := by
      exact_mod_cast hmicros
    rw [Moment.secondsSince_rat]
    linarith

end

/-! ### Reported requests -/

/-- The two ways in which a request waits. -/
inductive Wait where
  | stalled
  | longLived
  deriving DecidableEq

namespace Wait

def type : Wait → BlockerType
  | stalled => .stalledRequest
  | longLived => .longLivedBranch

/-- Since when a request has waited. -/
def since : Wait → PullRequest → Moment
  | stalled, r => r.updatedAt
  | longLived, r => r.createdAt

/-- How many days it may wait. -/
def limit {α : Type} (t : BlockerThresholds Int α) : Wait → Int
  | stalled => t.staleDays
  | longLived => t.longBranchDays

/-- The blocker that tells of a request. -/
def notice (w : Wait) (r : PullRequest) (days : Int) (severity : Severity) : Blocker where
  type := w.type
  description := match w with
    | stalled => "PR #" ++ toString r.number ++ " \"" ++ r.title ++ "\" has had no activity for " ++ toString days ++
      " days (author: " ++ r.author ++ ")"
    | longLived => "Branch \"" ++ r.branch ++ "\" has been open for " ++ toString days ++ " days via PR #" ++
      toString r.number ++ " (author: " ++ r.author ++ ")"
  severity
  entity := r.author
  since := some (w.since r)

theorem type_injective : Function.Injective type := by
  intro w w' h
  cases w <;> cases w' <;> first | rfl | cases h

/-- Some blockers tell of a request, with a severity. -/
def Reports (w : Wait) (bs : List Blocker) (r : PullRequest) (severity : Severity) : Prop :=
  ∃ days, w.notice r days severity ∈ bs

end Wait

section

variable {α : Type} [Scalar α] {rs : List PullRequest} {metrics : List (RequestMetrics α)}
variable {t : BlockerThresholds Int α} {now : Moment} {b : Blocker} {w : Wait}

theorem mem_waiting {since : PullRequest → Moment} {limit : Int} {r : PullRequest} {days : Int} :
    (r, days) ∈ waiting α since limit now rs ↔ (r ∈ rs ∧ r.isOpen = true) ∧
      exceedsDays (now.secondsSince (since r) : α) limit = true ∧
      days = Moment.wholeDays (now.secondsSince (since r) : α) := by
  rw [waiting, List.mem_filterMap]
  constructor
  · rintro ⟨r', hr', hfound⟩
    dsimp only at hfound
    split_ifs at hfound with hexceeds
    obtain ⟨rfl, rfl⟩ := Prod.mk.inj (Option.some.inj hfound)
    exact ⟨List.mem_filter.mp hr', hexceeds, rfl⟩
  · rintro ⟨hr, hexceeds, rfl⟩
    exact ⟨r, List.mem_filter.mpr hr, if_pos hexceeds⟩

/-- The blockers of the two ways together. -/
theorem mem_waits : b ∈ stalled α rs t.staleDays now ++ longLived α rs t.longBranchDays now ↔
    ∃ w : Wait, ∃ r days, (r, days) ∈ waiting α w.since (w.limit t) now rs ∧
      b = w.notice r days (severityOver days (w.limit t)) := by
  rw [List.mem_append, stalled, longLived, List.mem_map, List.mem_map]
  constructor
  · rintro (⟨⟨r, days⟩, hr, rfl⟩ | ⟨⟨r, days⟩, hr, rfl⟩)
    · exact ⟨.stalled, r, days, hr, rfl⟩
    · exact ⟨.longLived, r, days, hr, rfl⟩
  · rintro ⟨_ | _, r, days, hr, rfl⟩
    · exact .inl ⟨(r, days), hr, rfl⟩
    · exact .inr ⟨(r, days), hr, rfl⟩

theorem type_of_mem_bottlenecks {limit : Int} (hb : b ∈ bottlenecks rs limit) : b.type = .reviewBottleneck := by
  obtain ⟨reviewer, -, hfound⟩ := List.mem_filterMap.mp hb
  dsimp only at hfound
  split_ifs at hfound
  rw [← Option.some.inj hfound]

theorem type_of_mem_rates {limit : α} (hb : b ∈ rates metrics rs limit) : b.type = .highViolationRate := by
  rcases List.mem_append.mp hb with hdeveloper | hteam
  · obtain ⟨m, -, hfound⟩ := List.mem_filterMap.mp hdeveloper
    rw [developerRate] at hfound
    dsimp only at hfound
    split_ifs at hfound
    rw [← Option.some.inj hfound]
  · have hfound := Option.mem_toList.mp hteam
    rw [teamRate] at hfound
    split_ifs at hfound
    rw [← Option.some.inj hfound]

theorem type_ne_of_mem_others {limit : Int} {limit' : α} (hb : b ∈ bottlenecks rs limit ++ rates metrics rs limit')
    (w : Wait) : b.type ≠ w.type := by
  rcases List.mem_append.mp hb with hbottleneck | hrate
  · rw [type_of_mem_bottlenecks hbottleneck]
    cases w <;> decide
  · rw [type_of_mem_rates hrate]
    cases w <;> decide

theorem detect_eq : detect rs metrics t now = (stalled α rs t.staleDays now ++ longLived α rs t.longBranchDays now) ++
    (bottlenecks rs t.reviewBottleneck ++ rates metrics rs t.violationRate) := by
  rw [detect, List.append_assoc _ (bottlenecks _ _)]

/-- **Which requests are reported:** the open ones that have waited for too long. -/
theorem reports_iff {r : PullRequest} {severity : Severity} (hr : r ∈ rs) (hopen : r.isOpen = true) :
    w.Reports (detect rs metrics t now) r severity ↔
      exceedsDays (now.secondsSince (w.since r) : α) (w.limit t) = true ∧
        severity = severityOver (Moment.wholeDays (now.secondsSince (w.since r) : α)) (w.limit t) := by
  rw [Wait.Reports, detect_eq]
  constructor
  · rintro ⟨days, hmem⟩
    rcases List.mem_append.mp hmem with hwaits | hothers
    · -- The blocker may tell of another request as well, but then one that has waited since the same moment.
      obtain ⟨w', r', days', hwaiting, hsame⟩ := mem_waits.mp hwaits
      obtain rfl : w = w' := Wait.type_injective (congrArg Blocker.type hsame)
      have hsince : w.since r = w.since r' := Option.some.inj (congrArg Blocker.since hsame)
      obtain ⟨-, hexceeds, rfl⟩ := mem_waiting.mp hwaiting
      rw [hsince]
      exact ⟨hexceeds, congrArg Blocker.severity hsame⟩
    · exact absurd rfl (type_ne_of_mem_others hothers w)
  · rintro ⟨hexceeds, rfl⟩
    exact ⟨_, List.mem_append_left _ (mem_waits.mpr ⟨w, r, _, mem_waiting.mpr ⟨⟨hr, hopen⟩, hexceeds, rfl⟩, rfl⟩)⟩

/-- The blockers of the other types do not depend on the time. -/
theorem filter_detect {type : BlockerType} (htype : ∀ w : Wait, type ≠ w.type) :
    (detect rs metrics t now).filter (·.type == type) =
      (bottlenecks rs t.reviewBottleneck ++ rates metrics rs t.violationRate).filter (·.type == type) := by
  have hnone : (stalled α rs t.staleDays now ++ longLived α rs t.longBranchDays now).filter (·.type == type) = [] := by
    rw [List.filter_eq_nil_iff]
    rintro b hb hsame
    obtain ⟨w, r, days, -, rfl⟩ := mem_waits.mp hb
    exact htype w (eq_of_beq hsame).symm
  rw [detect_eq, List.filter_append, hnone, List.nil_append]

end

/-! ### Two times -/

section

variable {rs : List PullRequest} {metrics : List (RequestMetrics Float)} {t : BlockerThresholds Int Float}
variable {now later : Moment}

/-- More whole days are not less severe. -/
theorem severityOver_mono {days days' limit : Int} (h : days ≤ days') (hhigh : severityOver days limit = .high) :
    severityOver days' limit = .high := by
  rw [severityOver] at hhigh ⊢
  split_ifs at hhigh with hmore
  rw [if_pos (by omega)]

end

end Blocker
end RepoSurvey
