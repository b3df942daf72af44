import RepoSurvey.Time.Calendar

/-!
# Moments

A moment is a date, a time of day and perhaps an offset from universal time; without one it counts as universal time.

* `Moment.instant`: the microsecond at which the moment is.
* `Moment.text`: the ISO 8601 text, with a fraction and an offset where the moment has them.
* `Moment.ofText?`: reads such a text.
-/

namespace RepoSurvey

structure Moment where
  date : Date
  /-- The microseconds since midnight. -/
  clock : Nat
  /-- The microseconds by which the clock is ahead of universal time. -/
  offset : Option Int
  deriving Repr, DecidableEq

namespace Moment

def second : Nat := 1000000

def dayLength : Nat := 24 * 60 * 60 * second

/-- The microseconds from the calendar's beginning to the moment, in universal time. -/
def instant (m : Moment) : Int := ((m.date.ordinal * dayLength + m.clock : Nat) : Int) - m.offset.getD 0

/-- The same moment with its offset written out. -/
def asUtc (m : Moment) : Moment := { m with offset := some (m.offset.getD 0) }

/-- The moment a number of days earlier on the same clock, if it lies in the calendar. -/
def daysBefore? (m : Moment) (days : Nat) : Option Moment :=
  (Date.ofOrdinal? ((m.date.ordinal : Int) - days)).map fun date => { m with date }

/-- The order of moments in time. -/
def notAfter (a b : Moment) : Bool := decide (a.instant ≤ b.instant)

theorem instant_asUtc (m : Moment) : m.asUtc.instant = m.instant := by
  simp [instant, asUtc]

/-! ### Writing -/

section

/-- Hours and minutes, then seconds and a fraction of six digits if `seconds` asks for them or they are not zero. -/
def clockChars (seconds : Bool) (t : Nat) : List Char :=
  let whole := t / second
  let part := t % second
  let fraction := if part = 0 then [] else '.' :: Date.padded 6 part
  Date.padded 2 (whole / 3600) ++ ':' :: Date.padded 2 (whole / 60 % 60) ++
    (if seconds || whole % 60 != 0 || part != 0 then ':' :: Date.padded 2 (whole % 60) ++ fraction else [])

def offsetChars : Option Int → List Char
  | none => []
  | some o => (if o < 0 then '-' else '+') :: clockChars false o.natAbs

/-- The ISO 8601 text. -/
def text (m : Moment) : String :=
  String.ofList (m.date.chars ++ 'T' :: clockChars true m.clock ++ offsetChars m.offset)

end

/-! ### Reading -/

section

/-- A number of exactly `n` digits, after the number read so far. -/
def digits? : Nat → Nat → List Char → Option (Nat × List Char)
  | 0, read, rest => some (read, rest)
  | n + 1, read, c :: rest => if c.isDigit then digits? n (10 * read + (c.toNat - '0'.toNat)) rest else none
  | _ + 1, _, [] => none

/-- A number of two digits after a colon; at the text's end, zero. -/
def colonPart? : List Char → Option (Nat × List Char)
  | ':' :: rest => digits? 2 0 rest
  | rest => some (0, rest)

/-- A fraction of a second in microseconds; digits after the sixth are dropped. -/
def fraction? : List Char → Option (Nat × List Char)
  | '.' :: rest =>
    let found := rest.takeWhile (·.isDigit)
    let six := found.take 6 ++ List.replicate (6 - found.length) '0'
    if found.isEmpty then none
    else (digits? 6 0 six).map fun (n, _) => (n, rest.drop found.length)
  | rest => some (0, rest)

/-- Hours, and minutes, seconds and a fraction where they stand. -/
def clock? (s : List Char) : Option (Nat × List Char) := do
  let (h, s) ← digits? 2 0 s
  let (m, s) ← colonPart? s
  let (sec, s) ← colonPart? s
  let (f, s) ← fraction? s
  if h < 24 ∧ m < 60 ∧ sec < 60 then some (((h * 60 + m) * 60 + sec) * second + f, s) else none

def offset? : List Char → Option (Option Int)
  | [] => some none
  | ['Z'] => some (some 0)
  | '+' :: rest => match clock? rest with
    | some (t, []) => some (some (t : Int))
    | _ => none
  | '-' :: rest => match clock? rest with
    | some (t, []) => some (some (-(t : Int)))
    | _ => none
  | _ => none

def date? (s : List Char) : Option (Date × List Char) := do
  let (year, s) ← digits? 4 0 s
  let '-' :: s := s | none
  let (month, s) ← digits? 2 0 s
  let '-' :: s := s | none
  let (day, s) ← digits? 2 0 s
  let d : Date := ⟨year, month, day⟩
  if d.isValid then some (d, s) else none

/-- Reads an ISO 8601 text; a date alone stands for its midnight. -/
def ofChars? (s : List Char) : Option Moment := do
  let (date, s) ← date? s
  match s with
  | [] => some ⟨date, 0, none⟩
  | _ :: s =>
    let (clock, s) ← clock? s
    let offset ← offset? s
    some ⟨date, clock, offset⟩

def ofText? (s : String) : Option Moment := ofChars? s.toList

end

end Moment
end RepoSurvey
