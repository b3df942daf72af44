import RepoSurvey.Expression.Basic
import RepoSurvey.Number.Numeral
import RepoSurvey.Text.Identifier

/-!
# Reading regular expressions

* `Expression.read`: the expression that a text writes; nothing if the text writes none.
* `RepetitionError`: a number of rounds that is too large to be dealt with, which is more than a malformed expression.

A reader keeps what is left of the text and what is known of the groups so far. Its functions call each other with a
bound on the depth, which the length of the text never exceeds more than eightfold.
-/

namespace RepoSurvey

/-- A number of rounds beyond every limit. -/
inductive RepetitionError where
  | tooLarge
  /-- A number of more digits than a whole number may have. -/
  | tooLong (digits : Nat)
  deriving Repr, DecidableEq

def RepetitionError.message : RepetitionError → String
  | tooLarge => "the repetition number is too large"
  | tooLong digits => Numeral.limitMessage digits

namespace Expression

/-- What has been read of an expression so far. -/
structure Draft where
  rest : List Char
  /-- How many groups have been opened; they are numbered from one. -/
  groups : Nat := 0
  names : List (List Char × Nat) := []
  /-- The widths of the groups that have been closed. -/
  widths : List (Nat × Width) := []
  /-- The number of the first group inside the look behind that is being read. -/
  behindFrom : Option Nat := none
  /-- Groups that conditions ask for by their numbers. -/
  asked : List Nat := []
  /-- Whether a look behind of no fixed width has been read. -/
  loose : Bool := false

/-- Reading fails with nothing where the text writes no expression. -/
abbrev Reader := StateT Draft (OptionT (Except RepetitionError))

/-- The expressions that a part of a sequence consists of, and whether the part can be repeated. -/
structure Part where
  expressions : List Expression
  repeatable : Bool := true

/-! ### Alternatives -/

section

/-- Whether equal beginnings of alternatives are recognized in an expression. -/
def isSimple : Expression → Bool
  | one _ _ | anchor _ | again _ _ => true
  | _ => false

/-- The common beginning of alternatives, and what is left of them. -/
def commonStart : List Expression → List (List Expression) →
    List Expression × List Expression × List (List Expression)
  | [], others => ([], [], others)
  | e :: first, others =>
    if isSimple e && others.all (·.head? == some e) then
      let (start, left) := commonStart first (others.map List.tail)
      (e :: start, left)
    else ([], e :: first, others)

/-- The items of an alternative that is nothing but a set without a complement. -/
def setItems? : List Expression → Option (Mode × List SetItem)
  | [one m ⟨false, items⟩] => some (m, items)
  | _ => none

/-- Alternatives put together: what they have in common comes first, and sets are united. -/
def united (first : List Expression) : List (List Expression) → List Expression
  | [] => first
  | others =>
    let (start, first, others) := commonStart first others
    let branches := first :: others
    start ++ match branches.mapM setItems? with
      | some ((m, items) :: more) => [one m ⟨false, (items ++ more.flatMap (·.2)).eraseDups⟩]
      | _ => [choice (branches.map sequence)]

end

/-! ### Steps of reading -/

section

/-- What is left of the text. -/
def left : Reader (List Char) := return (← get).rest

def goOn (rest : List Char) : Reader Unit := modify fun d => { d with rest }

/-- Whether the text goes on with a character, which is passed then. -/
def passes (c : Char) : Reader Bool := do
  match ← left with
  | d :: rest => if d = c then do goOn rest; return true else return false
  | [] => return false

/-- Passes a character that has to stand here. -/
def demand (c : Char) : Reader Unit := do
  unless ← passes c do failure

/-- A name up to a closing character. -/
def nameUntil (finish : Char) : Reader (List Char) := do
  let rest ← left
  let name := rest.takeWhile (· != finish)
  match rest.drop name.length with
  | [] => failure
  | _ :: rest =>
    goOn rest
    if name.isEmpty then failure else return name

/-- Refuses a group inside a look behind, unless it has been closed before the look behind began. -/
def checkBehind (n : Nat) : Reader Unit := do
  let d ← get
  if d.behindFrom.any fun first => first ≤ n || (d.widths.lookup n).isNone then failure

/-- The text of a closed group once more. -/
def reference (m : Mode) (n : Nat) : Reader Expression := do
  if ((← get).widths.lookup n).isNone then failure
  checkBehind n
  return again m n

/-- The text after a comment in brackets. -/
def afterComment? : List Char → Option (List Char)
  | [] => none
  | '\\' :: _ :: rest => afterComment? rest
  | ')' :: rest => some rest
  | _ :: rest => afterComment? rest

/-- The text after a comment up to the line's end. -/
def afterLine : List Char → List Char
  | [] => []
  | '\\' :: _ :: rest => afterLine rest
  | '\n' :: rest => rest
  | _ :: rest => afterLine rest

/-- White space that does not count where an expression is spaced. -/
def isSpacing (c : Char) : Bool := c == ' ' || (9 ≤ c.toNat && c.toNat ≤ 13)

end

/-! ### Escapes -/

section

/-- The value of a digit of ASCII. -/
def digit (c : Char) : Nat := c.toNat - '0'.toNat

/-- A reference to a group by one or two digits, or a code point by three octal ones. -/
def numbered (m : Mode) (c : Char) (rest : List Char) : Reader Expression := do
  match rest with
  | d :: rest =>
    if d.isDigit then
      match rest with
      | e :: after =>
        if [c, d, e].all CharacterSet.isOctal then
          let code := CharacterSet.octalValue [c, d, e]
          if 255 < code then failure
          goOn after
          return letter m code
        else goOn rest
      | [] => goOn rest
      reference m (10 * digit c + digit d)
    else
      goOn (d :: rest)
      reference m (digit c)
  | [] =>
    goOn []
    reference m (digit c)

/-- What a backslash and the characters after it stand for outside brackets. -/
def escape (m : Mode) : Reader Expression := do
  match ← left with
  | [] => failure
  | c :: rest =>
    match c with
    | 'A' => goOn rest; return anchor .textStart
    | 'Z' => goOn rest; return anchor .textEnd
    | 'b' => goOn rest; return anchor (.wordEdge m)
    | 'B' => goOn rest; return anchor (.noWordEdge m)
    | '0' =>
      let digits := (rest.take 2).takeWhile CharacterSet.isOctal
      goOn (rest.drop digits.length)
      return letter m (CharacterSet.octalValue digits)
    | _ =>
      if c.isDigit then numbered m c rest
      else match CharacterSet.class? c, CharacterSet.code? c rest with
        | some item, _ => goOn rest; return one m ⟨false, [item]⟩
        | none, some (code, rest) => goOn rest; return letter m code
        | none, none => failure

end

/-! ### Repetitions -/

section

/-- A number of rounds. -/
def count (digits : List Char) : Reader Nat := do
  if Numeral.digitLimit < digits.length then throwThe RepetitionError (.tooLong digits.length)
  let n := Text.numberOf digits
  if n < pow2 32 - 1 then return n else throwThe RepetitionError .tooLarge

/-- The bounds of a repetition in braces, after the opening one; nothing if the brace stands for itself. -/
def braces : Reader (Option (Nat × Option Nat)) := do
  let rest ← left
  let low := rest.takeWhile Char.isDigit
  let after := rest.drop low.length
  let (high, after) := match after with
    | ',' :: after => (after.takeWhile Char.isDigit, after.dropWhile Char.isDigit)
    | after => (low, after)
  match rest.head? == some '\x7d', after with
  | false, '\x7d' :: after =>
    goOn after
    let least ← if low.isEmpty then pure 0 else count low
    if high.isEmpty then return some (least, none)
    let most ← count high
    if most < least then failure else return some (least, some most)
  | _, _ => return none

/-- The bounds that a sign asks for. -/
def bounds (c : Char) : Reader (Option (Nat × Option Nat)) :=
  match c with
  | '?' => return some (0, some 1)
  | '*' => return some (0, none)
  | '+' => return some (1, none)
  | _ => braces

/-- How a repetition is to choose, by the sign after it. -/
def preference : Reader Preference := do
  if ← passes '?' then return .fewest
  if ← passes '+' then return .mostForGood
  return .most

/-- The parts with the last one repeated, the latest part first. -/
def repeatLast (least : Nat) (most : Option Nat) : List Part → Reader (List Part)
  | [] => failure
  | part :: before => do
    unless part.repeatable do failure
    return ⟨[rounds least most (← preference) (sequence part.expressions)], false⟩ :: before

/-- The parts after a sign of repetition, the latest part first. -/
def repetition (m : Mode) (c : Char) (before : List Part) : Reader (List Part) := do
  match ← bounds c with
  | some (least, most) => repeatLast least most before
  | none => return ⟨[letter m c.toNat], true⟩ :: before

end

/-! ### Modes -/

section

/-- The mode with what a letter stands for switched on or off. -/
def switched (on : Bool) (m : Mode) (c : Char) : Mode :=
  match c with
  | 'i' => { m with anyCase := on }
  | 'm' => { m with everyLine := on }
  | 's' => { m with acrossLines := on }
  | 'x' => { m with spaced := on }
  | 'a' => { m with asciiOnly := on }
  | 'u' => { m with asciiOnly := !on }
  | _ => m

/-- The mode of a group with letters before its colon. -/
def groupMode (m : Mode) : Reader Mode := do
  let rest ← left
  let on := rest.takeWhile "imsxau".toList.contains
  if on.contains 'a' && on.contains 'u' then failure
  match rest.drop on.length with
  | ':' :: rest =>
    goOn rest
    return on.foldl (switched true) m
  | '-' :: rest =>
    let off := rest.takeWhile "imsx".toList.contains
    if off.isEmpty || off.any on.contains then failure
    goOn (rest.drop off.length)
    demand ':'
    return off.foldl (switched false) (on.foldl (switched true) m)
  | _ => failure

end

/-! ### Groups -/

section

/-- The number of a new group. -/
def openGroup (name : Option (List Char)) : Reader Nat := do
  let d ← get
  let n := d.groups + 1
  match name with
  | none => set { d with groups := n }
  | some name =>
    if (d.names.lookup name).isSome then failure
    set { d with groups := n, names := (name, n) :: d.names }
  return n

/-- The expression of a group that has been read to its end. -/
def closeGroup (n : Nat) (inner : Expression) : Reader Expression := do
  modify fun d => { d with widths := (n, inner.width d.widths) :: d.widths }
  return group n inner

/-- The group that a condition asks for, by its name or its number. -/
def condition : Reader Nat := do
  let name ← nameUntil ')'
  let d ← get
  if Text.isIdentifier name then
    match d.names.lookup name with
    | some n => return n
    | none => failure
  else match Numeral.int? name with
    | some (n : Int) =>
      if n ≤ 0 ∨ 1073741823 ≤ n then failure
      set { d with asked := n.toNat :: d.asked }
      return n.toNat
    | none => failure

/-- An expression that is looked for behind a place, by its width. -/
def behind (wanted : Bool) (inner : Expression) : Reader Expression := do
  match (inner.width (← get).widths).fixed? with
  | some back => return look back wanted inner
  | none =>
    modify fun d => { d with loose := true }
    return nothing

mutual

/-- Alternatives up to a closing parenthesis or the text's end. -/
def alternatives : Nat → Mode → Reader (List Expression)
  | 0, _ => failure
  | n + 1, m => do
    let first ← branch n m []
    return united first (← furtherBranches n m)

/-- The alternatives that follow one. -/
def furtherBranches : Nat → Mode → Reader (List (List Expression))
  | 0, _ => failure
  | n + 1, m => do
    if ← passes '|' then
      let first ← branch n m []
      return first :: (← furtherBranches n m)
    else return []

/-- An alternative, after the parts read so far, the latest part first. -/
def branch : Nat → Mode → List Part → Reader (List Expression)
  | 0, _, _ => failure
  | n + 1, m, before => do
    match ← left with
    | [] | '|' :: _ | ')' :: _ => return before.reverse.flatMap (·.expressions)
    | c :: rest =>
      goOn rest
      if m.spaced && isSpacing c then branch n m before
      else if m.spaced && c == '#' then
        goOn (afterLine rest)
        branch n m before
      else match c with
        | '\\' =>
          match ← escape m with
          | anchor a => branch n m (⟨[anchor a], false⟩ :: before)
          | e => branch n m (⟨[e], true⟩ :: before)
        | '[' =>
          match CharacterSet.read? rest with
          | some (set, rest) =>
            goOn rest
            branch n m (⟨[one m set], true⟩ :: before)
          | none => failure
        | '.' => branch n m (⟨[wildcard m], true⟩ :: before)
        | '^' => branch n m (⟨[anchor (if m.everyLine then .lineStart else .textStart)], false⟩ :: before)
        | '$' => branch n m (⟨[anchor (if m.everyLine then .lineEnd else .lastLineEnd)], false⟩ :: before)
        | '(' =>
          match ← parenthesis n m with
          | some part => branch n m (part :: before)
          | none => branch n m before
        | _ =>
          if "*+?\x7b".toList.contains c then branch n m (← repetition m c before)
          else branch n m (⟨[letter m c.toNat], true⟩ :: before)

/-- What stands in parentheses, after the opening one; nothing if it is a comment. -/
def parenthesis : Nat → Mode → Reader (Option Part)
  | 0, _ => failure
  | n + 1, m => do
    match ← left with
    | '?' :: 'P' :: '<' :: rest =>
      goOn rest
      let name ← nameUntil '>'
      unless Text.isIdentifier name do failure
      captured n m (some name)
    | '?' :: 'P' :: '=' :: rest =>
      goOn rest
      let name ← nameUntil ')'
      match (← get).names.lookup name with
      | some number => return some ⟨[← reference m number], true⟩
      | none => failure
    | '?' :: ':' :: rest =>
      goOn rest
      return some ⟨← enclosed n m, true⟩
    | '?' :: '#' :: rest =>
      match afterComment? rest with
      | some rest =>
        goOn rest
        return none
      | none => failure
    | '?' :: '=' :: rest => ahead n m true rest
    | '?' :: '!' :: rest => ahead n m false rest
    | '?' :: '<' :: '=' :: rest => lookBehind n m true rest
    | '?' :: '<' :: '!' :: rest => lookBehind n m false rest
    | '?' :: '(' :: rest =>
      goOn rest
      let number ← condition
      checkBehind number
      let yes ← branch n m []
      let no ← if ← passes '|' then branch n m [] else pure []
      demand ')'
      return some ⟨[given number (sequence yes) (sequence no)], true⟩
    | '?' :: '>' :: rest =>
      goOn rest
      return some ⟨[forGood (sequence (← enclosed n m))], true⟩
    | '?' :: rest =>
      goOn rest
      let inner ← enclosed n (← groupMode m)
      return some ⟨[seq (sequence inner) nothing], true⟩
    | _ => captured n m none

/-- Alternatives and the parenthesis that closes them. -/
def enclosed : Nat → Mode → Reader (List Expression)
  | 0, _ => failure
  | n + 1, m => do
    let inner ← alternatives n m
    demand ')'
    return inner

/-- A group whose text is kept. -/
def captured : Nat → Mode → Option (List Char) → Reader (Option Part)
  | 0, _, _ => failure
  | n + 1, m, name => do
    let number ← openGroup name
    let inner ← enclosed n m
    return some ⟨[← closeGroup number (sequence inner)], true⟩

/-- An expression that is looked for at a place. -/
def ahead : Nat → Mode → Bool → List Char → Reader (Option Part)
  | 0, _, _, _ => failure
  | n + 1, m, wanted, rest => do
    goOn rest
    return some ⟨[look 0 wanted (sequence (← enclosed n m))], true⟩

/-- An expression that is looked for behind a place. -/
def lookBehind : Nat → Mode → Bool → List Char → Reader (Option Part)
  | 0, _, _, _ => failure
  | n + 1, m, wanted, rest => do
    goOn rest
    let outer := (← get).behindFrom
    modify fun d => { d with behindFrom := some (outer.getD (d.groups + 1)) }
    let inner ← enclosed n m
    modify fun d => { d with behindFrom := outer }
    return some ⟨[← behind wanted (sequence inner)], true⟩

end

end

/-- The expression that a text writes. -/
def read (s : List Char) : Except RepetitionError (Option Expression) := do
  match ← ((alternatives (8 * (s.length + 1)) {}).run { rest := s }).run with
  | some (parts, d) =>
    return if d.rest.isEmpty && d.asked.all (· ≤ d.groups) && !d.loose then some (sequence parts) else none
  | none => return none

end Expression
end RepoSurvey
