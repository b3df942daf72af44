import RepoSurvey.Number.Scalar
import RepoSurvey.Time.Moment

/-!
# Durations

Durations are whole numbers of microseconds.

* `Duration.seconds`: a duration in seconds.
* `Moment.secondsSince`, `Moment.daysSince`: the time between two moments, and the whole days in it.
-/

namespace RepoSurvey

/-- A whole number of microseconds. -/
structure Duration where
  micros : Int
  deriving Repr, DecidableEq

namespace Duration

section

variable {α : Type} [Scalar α]

def seconds (d : Duration) : α := Scalar.quot d.micros 1000000

end

/-- The duration nearest to a number of seconds: the whole seconds exactly, the fraction rounded to microseconds, a half
to the even one. -/
def ofSeconds (x : Float) : Duration :=
  match Scalar.toRat? x with
  | none => ⟨0⟩
  | some q =>
    let whole : Int := if q < 0 then -(-q).floor else q.floor
    let part : Float := (x - Scalar.ofInt whole) * Scalar.ofInt 1000000
    ⟨whole * 1000000 + Rat.nearest ((Scalar.toRat? part).getD 0)⟩

end Duration

namespace Moment

section

variable {α : Type} [Scalar α]

/-- The time from an earlier moment to a later one. -/
def since (later earlier : Moment) : Duration := ⟨later.instant - earlier.instant⟩

/-- The seconds from an earlier moment to a later one. -/
def secondsSince (later earlier : Moment) : α := (later.since earlier).seconds

/-- The length of a day in seconds. -/
def daySeconds : Nat := 24 * 60 * 60

/-- The whole days in a number of seconds, rounded down. -/
def wholeDays (seconds : α) : Int := (((Scalar.toRat? seconds).getD 0) / (daySeconds : Rat)).floor

end

end Moment
end RepoSurvey
