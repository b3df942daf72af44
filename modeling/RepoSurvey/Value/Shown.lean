import RepoSurvey.Number.Decimal
import RepoSurvey.Text.Quoted
import RepoSurvey.Value.Basic

/-!
# Texts of values

* `Value.shown`: the text of a value inside of another one, where texts are quoted.
* `Value.asText`: the text of a value that stands alone.
-/

namespace RepoSurvey

/-! ### Times -/

/-- Days, seconds and microseconds of a duration; only the days can be negative. -/
def Duration.parts (d : Duration) : Int × Nat × Nat :=
  let day : Int := 24 * 60 * 60 * 1000000
  let rest := (d.micros % day).toNat
  (d.micros / day, rest / 1000000, rest % 1000000)

/-- A duration by those of its parts that are not zero. -/
def Duration.shown (d : Duration) : String :=
  let (days, seconds, micros) := d.parts
  let part (name : String) (n : Int) : List String := if n = 0 then [] else [name ++ "=" ++ toString n]
  let all := part "days" days ++ part "seconds" seconds ++ part "microseconds" micros
  "datetime.timedelta(" ++ (if all.isEmpty then "0" else ", ".intercalate all) ++ ")"

/-- A duration as days and a clock. -/
def Duration.text (d : Duration) : String :=
  let (days, seconds, micros) := d.parts
  let clock := toString (seconds / 3600) ++ ":" ++ String.ofList (Date.padded 2 (seconds / 60 % 60)) ++ ":" ++
    String.ofList (Date.padded 2 (seconds % 60))
  let fraction := if micros = 0 then "" else "." ++ String.ofList (Date.padded 6 micros)
  let front := if days = 0 then "" else toString days ++ (if days.natAbs = 1 then " day, " else " days, ")
  front ++ clock ++ fraction

/-- A date by its parts. -/
def Date.shown (d : Date) : String := s!"datetime.date({d.year}, {d.month}, {d.day})"

/-- The offset of a moment by the duration that it is. -/
def Moment.shownOffset : Option Int → List String
  | none => []
  | some 0 => ["tzinfo=datetime.timezone.utc"]
  | some o => ["tzinfo=datetime.timezone(" ++ (Duration.mk o).shown ++ ")"]

/-- A moment by its parts, without seconds and microseconds where they are zero. -/
def Moment.shown (m : Moment) : String :=
  let second := m.clock / Moment.second % 60
  let micro := m.clock % Moment.second
  let late := if micro ≠ 0 then [second, micro] else if second ≠ 0 then [second] else []
  let numbers := [m.date.year, m.date.month, m.date.day, m.clock / Moment.second / 3600,
    m.clock / Moment.second / 60 % 60] ++ late
  "datetime.datetime(" ++ ", ".intercalate (numbers.map toString ++ Moment.shownOffset m.offset) ++ ")"

namespace Value

/-! ### Numbers and bytes -/

/-- The text of a double, without a trailing zero fraction. -/
def shortNumber (x : Float) : String :=
  let s := (Decimal.plain x).toList
  String.ofList (if ['0', '.'].isPrefixOf s.reverse then s.take (s.length - 2) else s)

def shownComplex (re im : Float) : String :=
  if re.toBits = 0 then shortNumber im ++ "j"
  else
    let imaginary := shortNumber im
    "(" ++ shortNumber re ++ (if imaginary.startsWith "-" then "" else "+") ++ imaginary ++ "j)"

/-- A byte as it stands between two quotes. -/
def shownByte (quote : Char) (b : UInt8) : List Char :=
  let c := Char.ofNat b.toNat
  if b.toNat < 127 then Text.quotedChar quote c else '\\' :: 'x' :: Text.hex 2 b.toNat

def shownBytes (s : String) : String :=
  let quote := Text.quoteFor s.toList
  String.ofList ('b' :: quote :: s.toUTF8.toList.flatMap (shownByte quote) ++ [quote])

/-! ### Composition -/

def bracketed (left right : String) (items : List String) : String := left ++ ", ".intercalate items ++ right

def shownTuple : List String → String
  | [item] => "(" ++ item ++ ",)"
  | items => bracketed "(" ")" items

def shownSet (frozen : Bool) (items : List String) : String :=
  match frozen, items with
  | false, [] => "set()"
  | false, items => bracketed "\x7b" "\x7d" items
  | true, [] => "frozenset()"
  | true, items => bracketed "frozenset(\x7b" "\x7d)" items

mutual

/-- The text of a value inside of another one. -/
def shown : Value → String
  | none => "None"
  | bool b => if b then "True" else "False"
  | int n => toString n
  | number x => Decimal.plain x
  | complex re im => shownComplex re im
  | text s => Text.quoted s
  | bytes s => shownBytes s
  | list items => bracketed "[" "]" (shownAll items)
  | tuple items => shownTuple (shownAll items)
  | set frozen items => shownSet frozen (shownAll items)
  | mapping entries => bracketed "\x7b" "\x7d" (shownEntries entries)
  | moment m => m.shown
  | date d => d.shown
  | duration d => d.shown
  | path p => "PosixPath(" ++ Text.quoted p ++ ")"
  | member type label name => "<" ++ type ++ "." ++ label ++ ": " ++ Text.quoted name ++ ">"
  | record type fields _ => bracketed (type ++ "(") ")" (shownFields fields)
  | family name => "<class '" ++ name ++ "'>"
  | object => "<object>"

def shownAll : List Value → List String
  | [] => []
  | v :: rest => shown v :: shownAll rest

def shownEntries : List (Value × Value) → List String
  | [] => []
  | (k, v) :: rest => (shown k ++ ": " ++ shown v) :: shownEntries rest

def shownFields : List (String × Value) → List String
  | [] => []
  | (k, v) :: rest => (k ++ "=" ++ shown v) :: shownFields rest

end

/-- The text of a value that stands alone. -/
def asText : Value → String
  | text s => s
  | moment m => String.ofList (m.text.toList.map fun c => if c = 'T' then ' ' else c)
  | date d => d.text
  | duration d => d.text
  | path p => p
  | member type label _ => type ++ "." ++ label
  | v => v.shown

end Value
end RepoSurvey
