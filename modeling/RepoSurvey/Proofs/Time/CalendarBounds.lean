import Mathlib.Tactic.Linarith
import Mathlib.Order.Interval.Set.Defs
import RepoSurvey.Proofs.Time.Instant

/-!
# The bounds of the calendar

* `Date.ordinal_lt`: the days of the calendar end with the year 9999.
* `Date.isSome_ofOrdinal?`: every day between them has a date.
* `Moment.IsInCalendar`: the date, the time of day and the offset are in their ranges, as those of every moment that is
  read from a text.
* `Moment.IsInCalendar.abs_sub_lt`: how far two such moments can be apart.
-/

namespace RepoSurvey

/-! ### The last day -/

namespace Date

section

variable {year : Nat}

/-- A year is as long as its months together. -/
theorem daysBeforeMonth_thirteen (year : Nat) : daysBeforeMonth year 13 = 365 + (if isLeap year then 1 else 0) := by
  have hopened : daysBeforeMonth year 13 =
      total [31, if isLeap year then 29 else 28, 31, 30, 31, 30, 31, 31, 30, 31, 30, 31] := rfl
  rw [hopened]
  split <;> rfl

theorem isLeap_iff : isLeap year ↔ 4 ∣ year ∧ (100 ∣ year → 400 ∣ year) := by
  simp only [isLeap, Bool.and_eq_true, Bool.or_eq_true, beq_iff_eq, bne_iff_ne, Nat.dvd_iff_mod_eq_zero]
  rw [or_iff_not_imp_left, not_not]

theorem daysBeforeYear_succ (h : 1 ≤ year) :
    daysBeforeYear (year + 1) = daysBeforeYear year + daysBeforeMonth year 13 := by
  obtain ⟨y, rfl⟩ : ∃ y, year = y + 1 := ⟨year - 1, by omega⟩
  have hcenturies : y / 100 ≤ y := Nat.div_le_self y 100
  simp only [daysBeforeMonth_thirteen, isLeap_iff, daysBeforeYear, Nat.add_sub_cancel, Nat.succ_div]
  by_cases hfour : 4 ∣ y + 1
  · by_cases hhundred : 100 ∣ y + 1
    · by_cases hfourhundred : 400 ∣ y + 1
      · simp only [hfour, hhundred, hfourhundred, if_true, true_and, true_imp_iff]
        omega
      · simp only [hfour, hhundred, hfourhundred, if_true, if_false, true_and, true_imp_iff]
        omega
    · have hfourhundred : ¬ 400 ∣ y + 1 := fun hall => hhundred (Nat.dvd_trans (by decide) hall)
      simp only [hfour, hhundred, hfourhundred, if_true, if_false, true_and, false_imp_iff]
      omega
  · have hhundred : ¬ 100 ∣ y + 1 := fun hall => hfour (Nat.dvd_trans (by decide) hall)
    have hfourhundred : ¬ 400 ∣ y + 1 := fun hall => hfour (Nat.dvd_trans (by decide) hall)
    simp only [hfour, hhundred, hfourhundred, if_false, false_and]
    omega

theorem daysBeforeMonth_mono {month month' : Nat} (h : 1 ≤ month) (hle : month ≤ month') :
    daysBeforeMonth year month ≤ daysBeforeMonth year month' := by
  induction month', hle using Nat.le_induction with
  | base => exact le_rfl
  | succ month' hle ih =>
    rw [daysBeforeMonth_succ (h.trans hle)]
    exact ih.trans (Nat.le_add_right _ _)

theorem daysBeforeYear_mono {year' : Nat} (h : 1 ≤ year) (hle : year ≤ year') :
    daysBeforeYear year ≤ daysBeforeYear year' := by
  induction year', hle using Nat.le_induction with
  | base => exact le_rfl
  | succ year' hle ih =>
    rw [daysBeforeYear_succ (h.trans hle)]
    exact ih.trans (Nat.le_add_right _ _)

end

/-- **The days of the calendar** end with the year 9999. -/
theorem ordinal_lt {d : Date} (h : d.isValid) : d.ordinal < daysBeforeYear 10000 := by
  simp only [isValid, Bool.and_eq_true, decide_eq_true_eq] at h
  obtain ⟨⟨⟨⟨⟨hyear, hlast⟩, hmonth⟩, hdecember⟩, hday⟩, hend⟩ := h
  have hmonths : daysBeforeMonth d.year (d.month + 1) ≤ daysBeforeMonth d.year 13 :=
    daysBeforeMonth_mono (by omega) (by omega)
  have hyears : daysBeforeYear (d.year + 1) ≤ daysBeforeYear 10000 := daysBeforeYear_mono (by omega) (by omega)
  rw [daysBeforeMonth_succ hmonth] at hmonths
  rw [daysBeforeYear_succ hyear] at hyears
  rw [ordinal]
  omega

theorem isSome_ofOrdinal? {n : Int} (hn : 0 ≤ n) (h : n < daysBeforeYear 10000) : (ofOrdinal? n).isSome := by
  rw [ofOrdinal?, if_neg (by omega)]
  rfl

end Date

/-! ### Moments in the calendar -/

namespace Moment

/-- The date, the time of day and the offset are in their ranges. -/
structure IsInCalendar (m : Moment) : Prop where
  date : m.date.isValid = true
  clock : m.clock < dayLength
  offset : ∀ o ∈ m.offset, |o| < dayLength

section

variable {m m' : Moment}

theorem IsInCalendar.abs_offset (h : m.IsInCalendar) : |m.offset.getD 0| < dayLength := by
  cases ho : m.offset with
  | none =>
    have hday : (0 : Int) < dayLength := by decide
    rwa [Option.getD_none, abs_zero]
  | some o => exact h.offset o ho

/-- Two moments are less than three days longer apart than the calendar is. -/
theorem IsInCalendar.abs_sub_lt (h : m.IsInCalendar) (h' : m'.IsInCalendar) :
    |m.instant - m'.instant| < ((Date.daysBeforeYear 10000 + 2) * dayLength : Nat) := by
  have hdate := Date.ordinal_lt h.date
  have hdate' := Date.ordinal_lt h'.date
  have hclock := h.clock
  have hclock' := h'.clock
  obtain ⟨hback, hahead⟩ := abs_lt.mp h.abs_offset
  obtain ⟨hback', hahead'⟩ := abs_lt.mp h'.abs_offset
  have hday : dayLength = 86400000000 := rfl
  simp only [instant, hday] at *
  rw [abs_lt]
  omega

end

/-! ### Moments that are read -/

section

variable {s rest : List Char}

theorem digits?_lt {n read v : Nat} (h : digits? n read s = some (v, rest)) : v < (read + 1) * 10 ^ n := by
  induction n generalizing read s with
  | zero =>
    obtain ⟨rfl, -⟩ := Prod.mk.inj (Option.some.inj h)
    omega
  | succ n ih =>
    cases s with
    | nil => cases h
    | cons c s =>
      rw [digits?] at h
      split_ifs at h with hdigit
      have hlast : c.toNat - '0'.toNat ≤ 9 := by
        have hrange : 48 ≤ c.toNat ∧ c.toNat ≤ 57 := Char.isDigit_iff_toNat.mp hdigit
        have hzero : '0'.toNat = 48 := rfl
        omega
      calc v < (10 * read + (c.toNat - '0'.toNat) + 1) * 10 ^ n := ih h
        _ ≤ (10 * (read + 1)) * 10 ^ n := Nat.mul_le_mul_right _ (by omega)
        _ = (read + 1) * 10 ^ (n + 1) := by ring

theorem fraction?_lt {f : Nat} (h : fraction? s = some (f, rest)) : f < second := by
  unfold fraction? at h
  split at h
  · dsimp only at h
    split_ifs at h
    obtain ⟨⟨n, left⟩, hdigits, hread⟩ := Option.map_eq_some_iff.mp h
    obtain ⟨rfl, -⟩ := Prod.mk.inj hread
    exact digits?_lt hdigits
  · obtain ⟨rfl, -⟩ := Prod.mk.inj (Option.some.inj h)
    decide

theorem clock?_lt {t : Nat} (h : clock? s = some (t, rest)) : t < dayLength := by
  simp only [clock?, Option.bind_eq_bind, Option.bind_eq_some_iff] at h
  obtain ⟨⟨hours, s₁⟩, -, ⟨minutes, s₂⟩, -, ⟨seconds, s₃⟩, -, ⟨f, s₄⟩, hfraction, hclock⟩ := h
  dsimp only at hclock
  split_ifs at hclock with hranges
  obtain ⟨rfl, -⟩ := Prod.mk.inj (Option.some.inj hclock)
  have hf := fraction?_lt hfraction
  have hsecond : second = 1000000 := rfl
  have hday : dayLength = 86400000000 := rfl
  rw [hsecond] at hf ⊢
  omega

theorem abs_lt_of_offset? {o : Int} (h : offset? s = some (some o)) : |o| < dayLength := by
  have hday : (0 : Int) < dayLength := by decide
  unfold offset? at h
  split at h
  · cases h
  · obtain rfl := Option.some.inj (Option.some.inj h)
    exact hday
  · split at h
    · next t hclock =>
      obtain rfl := Option.some.inj (Option.some.inj h)
      have ht := clock?_lt hclock
      rw [abs_lt]
      omega
    · cases h
  · split at h
    · next t hclock =>
      obtain rfl := Option.some.inj (Option.some.inj h)
      have ht := clock?_lt hclock
      rw [abs_lt]
      omega
    · cases h
  · cases h

theorem isValid_of_date? {d : Date} (h : date? s = some (d, rest)) : d.isValid = true := by
  simp only [date?, Option.bind_eq_bind, Option.bind_eq_some_iff] at h
  obtain ⟨⟨year, s₁⟩, -, h⟩ := h
  split at h
  · obtain ⟨⟨month, s₂⟩, -, h⟩ := Option.bind_eq_some_iff.mp h
    split at h
    · obtain ⟨⟨day, s₃⟩, -, h⟩ := Option.bind_eq_some_iff.mp h
      dsimp only at h
      split_ifs at h with hvalid
      obtain ⟨rfl, -⟩ := Prod.mk.inj (Option.some.inj h)
      exact hvalid
    · cases h
  · cases h

/-- **Every moment that is read** lies in the calendar. -/
theorem isInCalendar_of_ofText? {text : String} {m : Moment} (h : ofText? text = some m) : m.IsInCalendar := by
  rw [ofText?, ofChars?] at h
  obtain ⟨⟨d, s⟩, hdate, h⟩ := Option.bind_eq_some_iff.mp h
  have hvalid := isValid_of_date? hdate
  cases s with
  | nil =>
    obtain rfl := Option.some.inj h
    have hmidnight : 0 < dayLength := by decide
    exact ⟨hvalid, hmidnight, nofun⟩
  | cons between s =>
    obtain ⟨⟨clock, s'⟩, hclock, h⟩ := Option.bind_eq_some_iff.mp h
    obtain ⟨offset, hoffset, h⟩ := Option.bind_eq_some_iff.mp h
    obtain rfl := Option.some.inj h
    refine ⟨hvalid, clock?_lt hclock, fun o ho => ?_⟩
    obtain rfl : offset = some o := ho
    exact abs_lt_of_offset? hoffset

end

end Moment
end RepoSurvey
