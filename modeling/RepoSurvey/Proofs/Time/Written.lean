import Mathlib.Logic.Function.Defs
import RepoSurvey.Proofs.Text.PatternReading
import RepoSurvey.Time.Moment

/-!
# Written moments

The text of a moment tells the moment: its numbers end where no digit follows, a fraction stands only where there is
one, and an offset begins with a sign.

* `Date.padded_append_inj`: a padded number in front of a text.
* `Moment.clockChars_append_inj`: a time of day in front of a text.
* `Moment.text_injective`: different moments have different texts, whether they are on the same clock or not.
-/

namespace RepoSurvey

/-! ### Padded numbers -/

namespace Date

open Pattern

variable {width n n' : Nat} {rest rest' : List Char}

theorem isDigit_of_mem_padded {c : Char} (h : c ∈ padded width n) : c.isDigit = true := by
  rw [padded, List.mem_append] at h
  rcases h with hzero | hdigit
  · rw [List.eq_of_mem_replicate hzero]
    rfl
  · exact Nat.isDigit_of_mem_toDigits (by decide) (by decide) hdigit

/-- Leading zeros do not count. -/
theorem ofDigitChars_padded (width n : Nat) : Nat.ofDigitChars 10 (padded width n) 0 = n := by
  have hzeros : ∀ k, Nat.ofDigitChars 10 (List.replicate k '0' ++ Nat.toDigits 10 n) 0 = n := by
    intro k
    induction k with
    | zero => exact Nat.ofDigitChars_toDigits (by decide) (by decide)
    | succ k ih =>
      rw [List.replicate_succ, List.cons_append, Nat.ofDigitChars_cons]
      exact ih
  exact hzeros _

/-- **A padded number** ends where no digit follows. -/
theorem padded_append_inj (hrest : rest.head?.any Char.isDigit = false) (hrest' : rest'.head?.any Char.isDigit = false)
    (h : padded width n ++ rest = padded width n' ++ rest') : n = n' ∧ rest = rest' := by
  have hdigits : ∀ n, ∀ c ∈ padded width n, c.isDigit = true := fun n c => isDigit_of_mem_padded
  have htaken := congrArg (List.takeWhile Char.isDigit) h
  have hdropped := congrArg (List.dropWhile Char.isDigit) h
  rw [takeWhile_append_edge (hdigits n) hrest, takeWhile_append_edge (hdigits n') hrest'] at htaken
  rw [dropWhile_append_edge (hdigits n) hrest, dropWhile_append_edge (hdigits n') hrest'] at hdropped
  refine ⟨?_, hdropped⟩
  rw [← ofDigitChars_padded width n, htaken, ofDigitChars_padded]

theorem chars_append_inj {d d' : Date} (hrest : rest.head?.any Char.isDigit = false)
    (hrest' : rest'.head?.any Char.isDigit = false) (h : d.chars ++ rest = d'.chars ++ rest') :
    d = d' ∧ rest = rest' := by
  obtain ⟨year, month, day⟩ := d
  obtain ⟨year', month', day'⟩ := d'
  simp only [chars, List.append_assoc, List.cons_append] at h
  obtain ⟨rfl, hmonth⟩ := padded_append_inj rfl rfl h
  obtain ⟨rfl, hday⟩ := padded_append_inj rfl rfl (List.cons.inj hmonth).2
  obtain ⟨rfl, rfl⟩ := padded_append_inj hrest hrest' (List.cons.inj hday).2
  exact ⟨rfl, rfl⟩

end Date

namespace Moment

open Date

variable {rest rest' : List Char}

/-! ### Times of day -/

section Clock

/-- Nothing of a time of day follows. -/
def EndsClock (rest : List Char) : Prop := ∀ c ∈ rest.head?, c.isDigit = false ∧ c ≠ ':' ∧ c ≠ '.'

theorem EndsClock.noDigit (h : EndsClock rest) : rest.head?.any Char.isDigit = false := by
  cases hhead : rest.head? with
  | none => rfl
  | some c => exact (h c hhead).1

/-- The fraction of a second, where there is one. -/
def fractionChars (part : Nat) : List Char := if part = 0 then [] else '.' :: padded 6 part

/-- Seconds with their fraction, where they are written. -/
def secondChars (seconds : Bool) (whole part : Nat) : List Char :=
  if seconds || whole % 60 != 0 || part != 0 then ':' :: (padded 2 (whole % 60) ++ fractionChars part) else []

theorem clockChars_eq (seconds : Bool) (t : Nat) : clockChars seconds t = padded 2 (t / second / 3600) ++
    ':' :: (padded 2 (t / second / 60 % 60) ++ secondChars seconds (t / second) (t % second)) := by
  rw [clockChars, List.append_assoc]
  rfl

variable {part part' whole whole' : Nat} {seconds : Bool}

theorem noDigit_fraction (hrest : EndsClock rest) : (fractionChars part ++ rest).head?.any Char.isDigit = false := by
  rw [fractionChars]
  split
  · exact hrest.noDigit
  · rfl

theorem noDigit_seconds (hrest : EndsClock rest) :
    (secondChars seconds whole part ++ rest).head?.any Char.isDigit = false := by
  rw [secondChars]
  split
  · rfl
  · exact hrest.noDigit

theorem not_cons_of_endsClock {c : Char} {s : List Char} (hrest : EndsClock rest) (hc : c = ':' ∨ c = '.') :
    c :: s ≠ rest := by
  rintro rfl
  obtain ⟨-, hcolon, hpoint⟩ := hrest c rfl
  exact hc.elim hcolon hpoint

theorem fractionChars_append_inj (hrest : EndsClock rest) (hrest' : EndsClock rest')
    (h : fractionChars part ++ rest = fractionChars part' ++ rest') : part = part' ∧ rest = rest' := by
  rw [fractionChars, fractionChars] at h
  split at h <;> split at h
  · next hzero hzero' => exact ⟨hzero.trans hzero'.symm, h⟩
  · exact absurd h.symm (not_cons_of_endsClock hrest (.inr rfl))
  · exact absurd h (not_cons_of_endsClock hrest' (.inr rfl))
  · exact padded_append_inj hrest.noDigit hrest'.noDigit (List.cons.inj h).2

/-- Seconds that are left out are none. -/
theorem secondChars_append_inj (hrest : EndsClock rest) (hrest' : EndsClock rest')
    (h : secondChars seconds whole part ++ rest = secondChars seconds whole' part' ++ rest') :
    whole % 60 = whole' % 60 ∧ part = part' ∧ rest = rest' := by
  rw [secondChars, secondChars] at h
  split at h <;> split at h
  · rw [List.cons_append, List.cons_append, List.append_assoc, List.append_assoc] at h
    obtain ⟨hseconds, hfraction⟩ :=
      padded_append_inj (noDigit_fraction hrest) (noDigit_fraction hrest') (List.cons.inj h).2
    exact ⟨hseconds, fractionChars_append_inj hrest hrest' hfraction⟩
  · exact absurd h (not_cons_of_endsClock hrest' (.inl rfl))
  · exact absurd h.symm (not_cons_of_endsClock hrest (.inl rfl))
  · next hnone hnone' =>
    simp only [Bool.or_eq_true, bne_iff_ne, ne_eq, not_or, not_not] at hnone hnone'
    exact ⟨hnone.1.2.trans hnone'.1.2.symm, hnone.2.trans hnone'.2.symm, h⟩

/-- **A time of day** is told by its hours, minutes, seconds and microseconds. -/
theorem clockChars_append_inj {t t' : Nat} (hrest : EndsClock rest) (hrest' : EndsClock rest')
    (h : clockChars seconds t ++ rest = clockChars seconds t' ++ rest') : t = t' ∧ rest = rest' := by
  simp only [clockChars_eq, List.append_assoc, List.cons_append] at h
  obtain ⟨hhours, hminutes⟩ := padded_append_inj rfl rfl h
  obtain ⟨hminutes, hseconds⟩ :=
    padded_append_inj (noDigit_seconds hrest) (noDigit_seconds hrest') (List.cons.inj hminutes).2
  obtain ⟨hseconds, hpart, hend⟩ := secondChars_append_inj hrest hrest' hseconds
  have hwhole : t / second = t' / second := by omega
  refine ⟨?_, hend⟩
  rw [← Nat.div_add_mod t second, hwhole, hpart, Nat.div_add_mod]

theorem clockChars_injective (seconds : Bool) : Function.Injective (clockChars seconds) := by
  intro t t' h
  have hend : EndsClock [] := nofun
  exact (clockChars_append_inj hend hend (congrArg (· ++ []) h)).1

end Clock

/-! ### Offsets -/

section Offset

theorem endsClock_offsetChars (offset : Option Int) : EndsClock (offsetChars offset) := by
  cases offset with
  | none => exact nofun
  | some o =>
    intro c hc
    have hsign : c = if o < 0 then '-' else '+' := (Option.some.inj hc).symm
    rw [hsign]
    split <;> decide

/-- An offset is told by its sign and its magnitude, and its absence by the text's end. -/
theorem offsetChars_injective : Function.Injective offsetChars := by
  intro a b h
  match a, b with
  | none, none => rfl
  | none, some _ => exact absurd h (List.cons_ne_nil _ _).symm
  | some _, none => exact absurd h (List.cons_ne_nil _ _)
  | some o, some o' =>
    obtain ⟨hsign, hclock⟩ := List.cons.inj h
    have hmagnitude : o.natAbs = o'.natAbs := clockChars_injective false hclock
    have hnegative : o < 0 ↔ o' < 0 := by
      by_cases ho : o < 0 <;> by_cases ho' : o' < 0 <;> simp [ho, ho'] at hsign ⊢
    rw [show o = o' by omega]

end Offset

/-- **The text of a moment** tells its date, its time of day to the microsecond and its offset, or that it has none. -/
theorem text_injective : Function.Injective text := by
  intro m m' h
  have hchars := String.ofList_injective h
  rw [List.append_assoc, List.append_assoc] at hchars
  obtain ⟨hdate, hclock⟩ := chars_append_inj rfl rfl hchars
  obtain ⟨hclock, hoffset⟩ := clockChars_append_inj (endsClock_offsetChars _) (endsClock_offsetChars _)
    (List.cons.inj hclock).2
  obtain ⟨date, clock, offset⟩ := m
  obtain ⟨date', clock', offset'⟩ := m'
  obtain rfl : date = date' := hdate
  obtain rfl : clock = clock' := hclock
  obtain rfl : offset = offset' := offsetChars_injective hoffset
  rfl

example :
    [⟨⟨2024, 1, 31⟩, 0, none⟩, ⟨⟨2024, 1, 31⟩, 0, some 0⟩, ⟨⟨2024, 1, 31⟩, 1, some (-1800000000)⟩].map text =
    ["2024-01-31T00:00:00", "2024-01-31T00:00:00+00:00", "2024-01-31T00:00:00.000001-00:30"] := by decide

end Moment
end RepoSurvey
