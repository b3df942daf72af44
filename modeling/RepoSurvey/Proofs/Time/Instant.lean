import Mathlib.Tactic.Ring
import Mathlib.Tactic.SplitIfs
import RepoSurvey.Time.Duration

/-!
# Moments in time

* `Date.ordinal_ofOrdinal?`: the date of a day is a date of that day.
* `Moment.instant_daysBefore?`: some days earlier on the same clock is that many days earlier in time.
* `Moment.SameTime`: two moments are at the same point in time, however they are written. Comparisons and differences
  cannot tell them apart.
-/

namespace RepoSurvey

/-! ### Days of the calendar -/

namespace Date

section

variable {year : Nat}

theorem daysBeforeMonth_succ {month : Nat} (h : 1 ≤ month) :
    daysBeforeMonth year (month + 1) = daysBeforeMonth year month + daysInMonth year month := by
  obtain ⟨m, rfl⟩ : ∃ m, month = m + 1 := ⟨month - 1, by omega⟩
  rw [daysBeforeMonth, daysBeforeMonth, Nat.add_sub_cancel, Nat.add_sub_cancel, List.range_succ, List.map_append,
    total_append]
  rfl

/-- The month and the day that are found lie as far behind the year's beginning as the days counted off. -/
theorem daysBeforeMonth_monthAndDay (n month rest : Nat) (h : 1 ≤ month) :
    daysBeforeMonth year (monthAndDay year n month rest).1 + ((monthAndDay year n month rest).2 - 1) =
      daysBeforeMonth year month + rest := by
  induction n generalizing month rest with
  | zero => rfl
  | succ n ih =>
    rw [monthAndDay]
    split
    · rfl
    · rename_i hlong
      rw [ih (month + 1) _ (by omega), daysBeforeMonth_succ h]
      omega

/-- The date that is counted off from the beginning of a year. -/
theorem ordinal_monthAndDay {day : Nat} (h : daysBeforeYear year ≤ day) :
    ordinal ⟨year, (monthAndDay year 11 1 (day - daysBeforeYear year)).1,
      (monthAndDay year 11 1 (day - daysBeforeYear year)).2⟩ = day := by
  have hmonth := @daysBeforeMonth_monthAndDay year 11 1 (day - daysBeforeYear year) (Nat.le_refl 1)
  have hjanuary : daysBeforeMonth year 1 = 0 := rfl
  simp only [ordinal]
  omega

theorem daysBeforeYear_yearOf {n day : Nat} (h : daysBeforeYear year ≤ day) :
    daysBeforeYear (yearOf n year day) ≤ day := by
  induction n generalizing year with
  | zero => exact h
  | succ n ih =>
    rw [yearOf]
    split
    · rename_i hnext
      exact ih hnext
    · exact h

end

/-- No year is longer than 366 days. -/
theorem daysBeforeYear_le (day : Nat) : daysBeforeYear (day / 366 + 1) ≤ day := by
  simp only [daysBeforeYear, Nat.add_sub_cancel]
  omega

/-- **The date of a day is a date of that day.** -/
theorem ordinal_ofOrdinal? {n : Int} {d : Date} (h : ofOrdinal? n = some d) : (d.ordinal : Int) = n := by
  rw [ofOrdinal?] at h
  split_ifs at h with hout
  have hyear := daysBeforeYear_yearOf (n := n.toNat / 365 - n.toNat / 366) (daysBeforeYear_le n.toNat)
  dsimp only at h
  generalize yearOf (n.toNat / 365 - n.toNat / 366) (n.toNat / 366 + 1) n.toNat = year at h hyear
  have hday := ordinal_monthAndDay hyear
  generalize monthAndDay year 11 1 (n.toNat - daysBeforeYear year) = found at h hday
  rw [← Option.some.inj h, hday]
  omega

end Date

namespace Moment

/-- Some days earlier on the same clock is that many days earlier in time. -/
theorem instant_daysBefore? {m earlier : Moment} {days : Nat} (h : m.daysBefore? days = some earlier) :
    earlier.instant = m.instant - days * dayLength := by
  obtain ⟨d, hd, rfl⟩ := Option.map_eq_some_iff.mp h
  have hordinal := Date.ordinal_ofOrdinal? hd
  simp only [instant]
  push_cast
  rw [hordinal]
  ring

/-! ### The same point in time -/

/-- Two moments are at the same point in time. -/
def SameTime (a b : Moment) : Prop := a.instant = b.instant

section SameTime

variable {a a' b b' : Moment}

theorem SameTime.notAfter (ha : a.SameTime a') (hb : b.SameTime b') : a.notAfter b = a'.notAfter b' := by
  rw [Moment.notAfter, Moment.notAfter, ha, hb]

theorem SameTime.secondsSince {α : Type} [Scalar α] (ha : a.SameTime a') (hb : b.SameTime b') :
    (a.secondsSince b : α) = a'.secondsSince b' := by
  rw [Moment.secondsSince, Moment.secondsSince, since, since, ha, hb]

theorem SameTime.asUtc (h : a.SameTime a') : a.asUtc.SameTime a'.asUtc := by
  rw [SameTime, instant_asUtc, instant_asUtc]
  exact h

theorem SameTime.daysBefore? {days : Nat} (h : a.SameTime a') (hb : a.daysBefore? days = some b)
    (hb' : a'.daysBefore? days = some b') : b.SameTime b' := by
  rw [SameTime, instant_daysBefore? hb, instant_daysBefore? hb', h]

end SameTime

/-- Noon in Greenwich and two o'clock two hours east of it. -/
example : SameTime ⟨⟨2024, 6, 7⟩, 43200000000, none⟩ ⟨⟨2024, 6, 7⟩, 50400000000, some 7200000000⟩ := by
  rw [SameTime]
  decide +kernel

end Moment
end RepoSurvey
