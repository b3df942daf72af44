import RepoSurvey.Number.Whole

/-!
# The calendar

Dates of the proleptic Gregorian calendar in the years 1 to 9999.

* `Date.ordinal`: the number of days since the first of January of the year 1, which is day 0.
* `Date.ofOrdinal?`: the date of a day, if it lies in the calendar.
-/

namespace RepoSurvey

structure Date where
  year : Nat
  month : Nat
  day : Nat
  deriving Repr, DecidableEq

namespace Date

def isLeap (year : Nat) : Bool := year % 4 == 0 && (year % 100 != 0 || year % 400 == 0)

def daysInMonth (year month : Nat) : Nat :=
  match month with
  | 2 => if isLeap year then 29 else 28
  | 4 | 6 | 9 | 11 => 30
  | _ => 31

/-- Whether the date stands in the calendar. -/
def isValid (d : Date) : Bool :=
  1 ≤ d.year && d.year ≤ 9999 && 1 ≤ d.month && d.month ≤ 12 && 1 ≤ d.day && d.day ≤ daysInMonth d.year d.month

/-- The days before a year. -/
def daysBeforeYear (year : Nat) : Nat :=
  let y := year - 1
  365 * y + y / 4 - y / 100 + y / 400

/-- The days of a year before a month. -/
def daysBeforeMonth (year month : Nat) : Nat :=
  total ((List.range (month - 1)).map fun i => daysInMonth year (i + 1))

def ordinal (d : Date) : Nat := daysBeforeYear d.year + daysBeforeMonth d.year d.month + (d.day - 1)

/-- The month and the day of a day of the year, counted from `month` on. -/
def monthAndDay (year : Nat) : Nat → Nat → Nat → Nat × Nat
  | 0, month, rest => (month, rest + 1)
  | n + 1, month, rest =>
    let days := daysInMonth year month
    if rest < days then (month, rest + 1) else monthAndDay year n (month + 1) (rest - days)

/-- The last year from `year` on, at most `n` years later, that begins on the given day or before. -/
def yearOf : Nat → Nat → Nat → Nat
  | 0, year, _ => year
  | n + 1, year, day => if daysBeforeYear (year + 1) ≤ day then yearOf n (year + 1) day else year

/-- The date of a day of the calendar. -/
def ofOrdinal? (n : Int) : Option Date :=
  if n < 0 ∨ (daysBeforeYear 10000 : Int) ≤ n then none else
  let day := n.toNat
  let year := yearOf (day / 365 - day / 366) (day / 366 + 1) day
  let (month, day) := monthAndDay year 11 1 (day - daysBeforeYear year)
  some ⟨year, month, day⟩

/-- A number with at least `width` digits. -/
def padded (width n : Nat) : List Char :=
  let digits := Nat.toDigits 10 n
  List.replicate (width - digits.length) '0' ++ digits

/-- The date as year, month and day with hyphens. -/
def chars (d : Date) : List Char := padded 4 d.year ++ '-' :: padded 2 d.month ++ '-' :: padded 2 d.day

def text (d : Date) : String := String.ofList d.chars

def monthNames : List String :=
  ["Jan", "Feb", "Mar", "Apr", "May", "Jun", "Jul", "Aug", "Sep", "Oct", "Nov", "Dec"]

/-- The date in words, such as `Feb 03, 2024`. -/
def inWords (d : Date) : String :=
  monthNames.getD (d.month - 1) "" ++ " " ++ String.ofList (padded 2 d.day) ++ ", " ++ toString d.year

end Date
end RepoSurvey
