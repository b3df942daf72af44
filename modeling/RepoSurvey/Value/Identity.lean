import RepoSurvey.Table
import RepoSurvey.Text.Cut
import RepoSurvey.Text.Quoted
import RepoSurvey.Value.Basic

/-!
# Equal values

Values count as equal across kinds: a truth value and a whole double are the whole number that they stand for, moments
are compared in time, and the order of a set or a table does not matter. Sets keep one of several equal items, tables
one of several equal keys.

* `Value.identity?`: a text that equal values share; a value without one equals no other value.
* `Value.distinct`: the items of a set.
* `Value.put`: sets a key of a table.
* `Value.unhashable?`: the kind that keeps a value out of sets and from being a key.
-/

namespace RepoSurvey
namespace Value

/-! ### Identity -/

def rationalIdentity (q : Rat) : String := s!"n{q.num}/{q.den}"

/-- The identity of a number; what is no number has none. -/
def numberIdentity? (x : Float) : Option String :=
  match Scalar.toRat? x with
  | some q => some (rationalIdentity q)
  | Option.none => if Scalar.isNumber x then some (if Scalar.negative x then "n-" else "n+") else Option.none

def complexIdentity? (re im : Float) : Option String := do
  let r ← numberIdentity? re
  let i ← numberIdentity? im
  some (if i = rationalIdentity 0 then r else r ++ i ++ "j")

def momentIdentity (m : Moment) : String :=
  match m.offset with
  | Option.none => "m" ++ m.text
  | some _ => s!"M{m.instant}"

def bundle (mark : String) (items : List String) : String := mark ++ "(" ++ ",".intercalate items ++ ")"

mutual

/-- A text that a value shares with its equals alone. -/
def identity? : Value → Option String
  | none => some "N"
  | bool b => some (rationalIdentity (if b then 1 else 0))
  | int n => some (rationalIdentity n)
  | number x => numberIdentity? x
  | complex re im => complexIdentity? re im
  | text s => some ("t" ++ Text.quoted s)
  | bytes s => some ("b" ++ Text.quoted s)
  | list items => (identities? items).map (bundle "l")
  | tuple items => (identities? items).map (bundle "u")
  | set _ items => (identities? items).map fun ids => bundle "s" (Text.ascending ids)
  | mapping entries => (entryIdentities? entries).map fun ids => bundle "d" (Text.ascending ids)
  | moment m => some (momentIdentity m)
  | date d => some ("D" ++ d.text)
  | duration d => some s!"T{d.micros}"
  | path p => some ("p" ++ Text.quoted p)
  | member type label _ => some ("e" ++ type ++ "." ++ label)
  | record type fields _ => (fieldIdentities? fields).map (bundle ("r" ++ type))
  | family name => some ("f" ++ name)
  | object => Option.none

def identities? : List Value → Option (List String)
  | [] => some []
  | v :: rest => do
    let id ← identity? v
    return id :: (← identities? rest)

def entryIdentities? : List (Value × Value) → Option (List String)
  | [] => some []
  | (k, v) :: rest => do
    let key ← identity? k
    let own ← identity? v
    return (key ++ ":" ++ own) :: (← entryIdentities? rest)

def fieldIdentities? : List (String × Value) → Option (List String)
  | [] => some []
  | (_, v) :: rest => do
    let id ← identity? v
    return id :: (← fieldIdentities? rest)

end

/-- Whether two values are equal. -/
def same (v w : Value) : Bool :=
  match v.identity?, w.identity? with
  | some a, some b => a == b
  | _, _ => false

/-! ### Sets and tables -/

/-- The values that equal none before them. -/
def distinct (vs : List Value) : List Value :=
  (vs.foldl (fun found v => if found.any (same v) then found else v :: found) []).reverse

/-- The table with a value for a key: an equal key keeps its place. -/
def put : List (Value × Value) → Value → Value → List (Value × Value)
  | [], key, v => [(key, v)]
  | (k, old) :: rest, key, v => if same k key then (k, v) :: rest else (k, old) :: put rest key v

/-- A table with the entries of another one put into it. -/
def putAll (lower upper : List (Value × Value)) : List (Value × Value) :=
  upper.foldl (fun t e => put t e.1 e.2) lower

def ofPairs (pairs : List (Value × Value)) : List (Value × Value) := putAll [] pairs

/-- The value of a key that is a text. -/
def get? (entries : List (Value × Value)) (key : String) : Option Value :=
  (entries.find? fun e => same e.1 (text key)).map (·.2)

/-- The structures whose fields can change. -/
def mutableTypes : List String := ["DependencyGraph", "FileNode"]

mutual

/-- The kind of the part of a value that can change, if there is one. -/
def unhashable? : Value → Option Kind
  | list _ => some .list
  | set frozen _ => if frozen then Option.none else some .set
  | mapping _ => some .mapping
  | tuple items => unhashableIn? items
  | record type fields _ => if mutableTypes.contains type then some (.named type) else unhashableField? fields
  | _ => Option.none

def unhashableIn? : List Value → Option Kind
  | [] => Option.none
  | v :: rest => (unhashable? v).or (unhashableIn? rest)

def unhashableField? : List (String × Value) → Option Kind
  | [] => Option.none
  | (_, v) :: rest => (unhashable? v).or (unhashableField? rest)

end

end Value
end RepoSurvey
