import RepoSurvey.Expression.Matching
import RepoSurvey.Expression.Reading

/-!
# Path patterns

* `Glob.pieces`: a pattern cut into wildcards, brackets and characters, from the left.
* `Glob.ofText?`: a pattern as tokens, or as a regular expression if a bracket in it does not close its own set.
* `Glob.admits`: whether a whole path fits the tokens, or a beginning of it the expression.
-/

namespace RepoSurvey
namespace Glob

/-- A piece of a pattern as it is written. -/
inductive Piece where
  /-- `**/`: any number of whole directories. -/
  | directories
  /-- `**`: anything on one line. -/
  | anything
  /-- `*`: anything inside a segment. -/
  | segment
  /-- `?`: one character inside a segment. -/
  | single
  | literal (c : Char)
  /-- The text between brackets. -/
  | bracket (body : List Char)
  deriving Repr, DecidableEq

/-- What a piece of a path has to fit. -/
inductive Token where
  | directories
  | anything
  | segment
  | single
  | literal (c : Char)
  | oneOf (set : CharacterSet)
  deriving Repr, DecidableEq

end Glob

/-- A pattern that can be compared with paths. -/
inductive Glob where
  | tokens (ts : List Glob.Token)
  | expression (e : Expression)
  deriving Repr, DecidableEq

namespace Glob

/-! ### Cutting a pattern -/

section

/-- The text of a bracket and what follows it; the first character of the text does not close it, and a leading `!`
is written `^`. -/
def bracket? : List Char → Option (List Char × List Char)
  | [] => none
  | c :: rest =>
    let body := rest.takeWhile (· != ']')
    match rest.drop body.length with
    | [] => none
    | _ :: after => some ((if c = '!' then '^' else c) :: body, after)

theorem bracket?_length {s body rest : List Char} (h : bracket? s = some (body, rest)) : rest.length < s.length := by
  cases s with
  | nil => simp [bracket?] at h
  | cons c s =>
    simp only [bracket?] at h
    split at h
    · simp at h
    · rename_i d after eq
      have len := congrArg List.length eq
      simp only [Option.some.injEq, Prod.mk.injEq] at h
      obtain ⟨-, rfl⟩ := h
      simp only [List.length_drop, List.length_cons] at len ⊢
      omega

/-- The pieces of a pattern. A bracket that is not closed stands for itself. -/
def pieces : List Char → List Piece
  | [] => []
  | '*' :: '*' :: '/' :: rest => .directories :: pieces rest
  | '*' :: '*' :: rest => .anything :: pieces rest
  | '*' :: rest => .segment :: pieces rest
  | '?' :: rest => .single :: pieces rest
  | c :: rest =>
    if c = '[' then
      match _found : bracket? rest with
      | some (body, after) => .bracket body :: pieces after
      | none => .literal c :: pieces rest
    else .literal c :: pieces rest
termination_by s => s.length
decreasing_by
  all_goals simp only [List.length_cons]
  all_goals first
    | omega
    | exact Nat.lt_succ_of_lt (bracket?_length _found)

end

/-! ### Reading the pieces -/

section

/-- The tokens of some pieces; nothing unless every bracket is a set that the bracket's own end closes. -/
def tokens? : List Piece → Option (List Token)
  | [] => some []
  | .directories :: rest => (tokens? rest).map (.directories :: ·)
  | .anything :: rest => (tokens? rest).map (.anything :: ·)
  | .segment :: rest => (tokens? rest).map (.segment :: ·)
  | .single :: rest => (tokens? rest).map (.single :: ·)
  | .literal c :: rest => (tokens? rest).map (.literal c :: ·)
  | .bracket body :: rest =>
    match CharacterSet.read? (body ++ [']']) with
    | some (set, []) => (tokens? rest).map (.oneOf set :: ·)
    | _ => none

/-- Characters that an expression writes with a backslash. -/
def isSpecial (c : Char) : Bool :=
  "\t\n\x0b\x0c\r #$&()*+-.?[\\]^\x7b|\x7d~".toList.contains c

/-- A piece written out as a regular expression. -/
def Piece.written : Piece → List Char
  | .directories => "(?:.*/)?".toList
  | .anything => ".*".toList
  | .segment => "[^/]*".toList
  | .single => "[^/]".toList
  | .literal c => if isSpecial c then ['\\', c] else [c]
  | .bracket body => '[' :: body ++ [']']

/-- Pieces written out, up to the mark of the text's end. -/
def written (ps : List Piece) : List Char := ps.flatMap Piece.written ++ ['\\', 'Z']

/-- A pattern as it is read; nothing if it cannot be used. A set that its own bracket does not close goes on in the
pieces after it, so that the whole pattern has to be read as the regular expression that the pieces write. -/
def ofText? (pattern : String) : Except RepetitionError (Option Glob) :=
  let ps := pieces pattern.toList
  match tokens? ps with
  | some ts => .ok (some (.tokens ts))
  | none => (Expression.read (written ps)).map (·.map .expression)

end

/-! ### Matching -/

section

/-- What is left after each beginning of a text whose characters are accepted, the shortest beginning first. -/
def leftAfterRun (accepts : Char → Bool) : List Char → List (List Char)
  | [] => [[]]
  | c :: rest => (c :: rest) :: if accepts c then leftAfterRun accepts rest else []

/-- What is left after an accepted character. -/
def leftAfterOne (accepts : Char → Bool) : List Char → List (List Char)
  | [] => []
  | c :: rest => if accepts c then [rest] else []

/-- What is left of a text after a beginning that fits a token. -/
def Token.left : Token → List Char → List (List Char)
  | .directories, s => s :: (leftAfterRun (· != '\n') s).filterMap fun
    | '/' :: rest => some rest
    | _ => none
  | .anything, s => leftAfterRun (· != '\n') s
  | .segment, s => leftAfterRun (· != '/') s
  | .single, s => leftAfterOne (· != '/') s
  | .literal c, s => leftAfterOne (· == c) s
  | .oneOf set, s => leftAfterOne (set.contains {}) s

/-- Whether a whole text can be cut into pieces that fit the tokens one after the other. -/
def fits : List Token → List Char → Bool
  | [], s => s.isEmpty
  | t :: rest, s => (t.left s).any (fits rest)

/-- Whether a path fits a pattern. -/
def admits (g : Glob) (path : String) : Bool :=
  match g with
  | tokens ts => fits ts path.toList
  | expression e => e.fitsStart path

end

end Glob
end RepoSurvey
