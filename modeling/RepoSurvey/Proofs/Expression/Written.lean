import RepoSurvey.Proofs.Layer.Splitting

/-!
# Patterns as regular expressions

The regular expression that the pieces of a pattern without brackets write.

* `Glob.Token.expression`: the expression that a token writes.
* `Expression.branch_piece`: a written piece is read as one part.
* `Expression.read_written`: the written pieces are read as the expressions of the tokens and the text's end.
-/

namespace RepoSurvey

namespace Glob

/-- Any number of characters of a set, as many as possible. -/
def runOf (set : CharacterSet) : Expression := .rounds 0 none .most (.one {} set)

/-- The characters that do not end a line. -/
def onLine : CharacterSet := ⟨true, [.single '\n'.toNat]⟩

/-- The characters inside a segment. -/
def inSegment : CharacterSet := ⟨true, [.single '/'.toNat]⟩

/-- The expression that a token writes. -/
def Token.expression : Token → Expression
  | .directories => .rounds 0 (some 1) .most (.seq (runOf onLine) (.letter {} '/'.toNat))
  | .anything => runOf onLine
  | .segment => runOf inSegment
  | .single => .one {} inSegment
  | .literal c => .letter {} c.toNat
  | .oneOf set => .one {} set

/-- Whether a sign of repetition can follow what a token writes. -/
def Token.repeatable : Token → Bool
  | .directories | .anything | .segment => false
  | _ => true

theorem written_cons (p : Piece) (ps : List Piece) : written (p :: ps) = p.written ++ written ps := by
  rw [written, written, List.flatMap_cons, List.append_assoc]

theorem written_special {c : Char} (hc : isSpecial c = true) : (Piece.literal c).written = ['\\', c] := if_pos hc

theorem written_plain {c : Char} (hc : ¬isSpecial c = true) : (Piece.literal c).written = [c] := if_neg hc

end Glob

namespace Expression

open Glob

/-! ### Reading what pieces write -/

section Reading

variable {c : Char} {n : Nat} {d : Draft} {before : List Part} {tail : List Char}

theorem passes_of_ne (h : d.rest.head? ≠ some c) : (passes c).run d = pure (false, d) := by
  obtain ⟨rest⟩ := d
  cases rest with
  | nil => rfl
  | cons x rest =>
    have hne : x ≠ c := fun heq => h (by rw [heq]; rfl)
    show StateT.run (if x = c then _ else _) _ = _
    rw [if_neg hne]
    rfl

/-- Without a sign after it a repetition takes as much as it can. -/
theorem preference_most (h : d.rest.head? ≠ some '?') (h' : d.rest.head? ≠ some '+') :
    preference.run d = pure (.most, d) := by
  show (StateT.run (passes '?') d >>= _) = _
  rw [passes_of_ne h]
  show (StateT.run (passes '+') d >>= _) = _
  rw [passes_of_ne h']
  rfl

-- the equations of one step
attribute [local simp] branch

theorem branch_repeated {least : Nat} {most : Option Nat} {part : Part} (hpart : part.repeatable = true)
    (hbounds : (bounds c).run { d with rest := tail } = pure (some (least, most), { d with rest := tail }))
    (hsign : c = '*' ∨ c = '?') (h : tail.head? ≠ some '?') (h' : tail.head? ≠ some '+') :
    (branch (n + 1) {} (part :: before)).run { d with rest := c :: tail } =
      (branch n {} (⟨[rounds least most .most (sequence part.expressions)], false⟩ :: before)).run
        { d with rest := tail } := by
  obtain ⟨expressions, repeatable⟩ := part
  obtain rfl : repeatable = true := hpart
  have hrepetition : (repetition {} c (⟨expressions, true⟩ :: before)).run { d with rest := tail } =
      pure (⟨[rounds least most .most (sequence expressions)], false⟩ :: before, { d with rest := tail }) := by
    show (StateT.run (bounds c) _ >>= _) = _
    rw [hbounds]
    show (StateT.run preference { d with rest := tail } >>= _) = _
    rw [preference_most h h']
    rfl
  rcases hsign with rfl | rfl
  all_goals
    rw [branch]
    show (StateT.run (repetition {} _ (⟨expressions, true⟩ :: before)) { d with rest := tail } >>= _) = _
    rw [hrepetition]
    rfl

theorem branch_special (hc : isSpecial c = true) :
    (branch (n + 1) {} before).run { d with rest := '\\' :: c :: tail } =
      (branch n {} (⟨[letter {} c.toNat], true⟩ :: before)).run { d with rest := tail } := by
  have hmem : c ∈ ['\t', '\n', '\x0b', '\x0c', '\r', ' ', '#', '$', '&', '(', ')', '*', '+', '-', '.', '?', '[', '\\',
      ']', '^', '\x7b', '|', '\x7d', '~'] := by
    have hcontains : "\t\n\x0b\x0c\r #$&()*+-.?[\\]^\x7b|\x7d~".toList.contains c = true := hc
    exact List.contains_iff_mem.mp hcontains
  simp only [List.mem_cons, List.not_mem_nil, or_false] at hmem
  rw [branch]
  rcases hmem with rfl | rfl | rfl | rfl | rfl | rfl | rfl | rfl | rfl | rfl | rfl | rfl | rfl | rfl | rfl | rfl |
    rfl | rfl | rfl | rfl | rfl | rfl | rfl | rfl <;> rfl

theorem branch_plain (hc : isSpecial c = false) :
    (branch (n + 1) {} before).run { d with rest := c :: tail } =
      (branch n {} (⟨[letter {} c.toNat], true⟩ :: before)).run { d with rest := tail } := by
  have hne : ∀ x, isSpecial x = true → c ≠ x := by
    rintro x hx rfl
    rw [hc] at hx
    cases hx
  simp [left, goOn, hne '|' rfl, hne ')' rfl, hne '\\' rfl, hne '[' rfl, hne '.' rfl, hne '^' rfl, hne '$' rfl,
    hne '(' rfl, hne '*' rfl, hne '+' rfl, hne '?' rfl, hne '\x7b' rfl]

theorem branch_onLine : (branch (n + 1) {} before).run { d with rest := '.' :: tail } =
    (branch n {} (⟨[one {} onLine], true⟩ :: before)).run { d with rest := tail } := by
  rw [branch]
  rfl

theorem branch_inSegment : (branch (n + 1) {} before).run { d with rest := "[^/]".toList ++ tail } =
    (branch n {} (⟨[one {} inSegment], true⟩ :: before)).run { d with rest := tail } := by
  rw [branch]
  rfl

theorem branch_textEnd : (branch (n + 1) {} before).run { d with rest := ['\\', 'Z'] } =
    (branch n {} (⟨[anchor .textEnd], false⟩ :: before)).run { d with rest := [] } := by
  rw [branch]
  rfl

theorem branch_end (h : d.rest = [] ∨ d.rest.head? = some ')') :
    (branch (n + 1) {} before).run d = pure (before.reverse.flatMap (·.expressions), d) := by
  obtain ⟨rest⟩ := d
  rw [branch]
  rcases h with rfl | h
  · rfl
  · obtain ⟨tail, rfl⟩ := List.head?_eq_some_iff.mp h
    rfl

/-- A single alternative is the whole. -/
theorem alternatives_single {es : List Expression} {d' : Draft}
    (hbranch : (branch (n + 1) {} []).run d = pure (es, d')) (h : d'.rest.head? ≠ some '|') :
    (alternatives (n + 2) {}).run d = pure (es, d') := by
  have hfurther : (furtherBranches (n + 1) {}).run d' = pure ([], d') := by
    rw [furtherBranches]
    show (StateT.run (passes '|') d' >>= _) = _
    rw [passes_of_ne h]
    rfl
  rw [alternatives]
  show (StateT.run (branch (n + 1) {} []) d >>= _) = _
  rw [hbranch]
  show (StateT.run (furtherBranches (n + 1) {}) d' >>= _) = _
  rw [hfurther]
  rfl

/-- What stands in plain parentheses is one part. -/
theorem branch_parenthesized {es : List Expression} {d' : Draft}
    (h : (enclosed n {}).run { d with rest := tail } = pure (es, d')) :
    (branch (n + 2) {} before).run { d with rest := '(' :: '?' :: ':' :: tail } =
      (branch (n + 1) {} (⟨es, true⟩ :: before)).run d' := by
  -- the functions below are kept closed, so that only the step at hand is computed
  have hparenthesis : (parenthesis (n + 1) {}).run { d with rest := '?' :: ':' :: tail } =
      pure (some ⟨es, true⟩, d') := by
    rw [parenthesis]
    revert h
    generalize enclosed n = inner
    generalize captured n = other
    intro h
    show (StateT.run (inner {}) _ >>= _) = _
    rw [h]
    rfl
  rw [branch]
  revert hparenthesis
  generalize branch (n + 1) = further
  generalize parenthesis (n + 1) = inner
  intro hparenthesis
  show (StateT.run (inner {}) _ >>= _) = _
  rw [hparenthesis]
  rfl

/-- What is written for whole directories, up to its sign of repetition. -/
theorem branch_directories : (branch (n + 9) {} before).run { d with rest := "(?:.*/)".toList ++ tail } =
    (branch (n + 8) {} (⟨[runOf onLine, letter {} '/'.toNat], true⟩ :: before)).run { d with rest := tail } := by
  have hinner : (branch (n + 5) {} []).run { d with rest := '.' :: '*' :: '/' :: ')' :: tail } =
      pure ([runOf onLine, letter {} '/'.toNat], { d with rest := ')' :: tail }) := by
    rw [branch_onLine, branch_repeated rfl rfl (.inl rfl) (by simp) (by simp), branch_plain rfl,
      branch_end (.inr rfl)]
    rfl
  have henclosed : (enclosed (n + 7) {}).run { d with rest := '.' :: '*' :: '/' :: ')' :: tail } =
      pure ([runOf onLine, letter {} '/'.toNat], { d with rest := tail }) := by
    rw [enclosed, StateT.run_bind, alternatives_single hinner (by simp)]
    rfl
  exact branch_parenthesized henclosed

/-- What pieces write does not begin with a sign that changes a repetition before it. -/
theorem exists_written_cons {ps : List Piece} {ts : List Token} (h : List.Forall₂ Piece.IsToken ps ts) :
    ∃ c rest, written ps = c :: rest ∧ c ≠ '?' ∧ c ≠ '+' := by
  cases h with
  | nil => exact ⟨'\\', _, rfl, by decide, by decide⟩
  | @cons p _ ps _ hp _ =>
    rw [written_cons]
    cases hp with
    | directories => exact ⟨'(', _, rfl, by decide, by decide⟩
    | anything => exact ⟨'.', _, rfl, by decide, by decide⟩
    | segment => exact ⟨'[', _, rfl, by decide, by decide⟩
    | single => exact ⟨'[', _, rfl, by decide, by decide⟩
    | literal c =>
      by_cases hc : isSpecial c = true
      · rw [written_special hc]
        exact ⟨'\\', _, rfl, by decide, by decide⟩
      · rw [written_plain hc]
        refine ⟨c, _, rfl, ?_, ?_⟩
        · rintro rfl
          exact hc rfl
        · rintro rfl
          exact hc rfl

/-- The part that a token is read as. -/
def partOf (t : Token) : Part := ⟨[t.expression], t.repeatable⟩

variable (d before) in
/-- What one piece writes is read as one part, in two steps at most. -/
theorem branch_piece {p : Piece} {t : Token} (h : Piece.IsToken p t) (hmark : tail.head? ≠ some '?')
    (hplus : tail.head? ≠ some '+') {bound : Nat} (hbound : 9 < bound) :
    ∃ left, bound ≤ left + 2 ∧ (branch bound {} before).run { d with rest := p.written ++ tail } =
      (branch left {} (partOf t :: before)).run { d with rest := tail } := by
  obtain ⟨n, rfl⟩ : ∃ n, bound = n + 10 := ⟨bound - 10, by omega⟩
  cases h with
  | directories =>
    refine ⟨n + 8, by omega, ?_⟩
    show (branch (n + 1 + 9) {} before).run { d with rest := "(?:.*/)".toList ++ '?' :: tail } = _
    rw [branch_directories, branch_repeated rfl rfl (.inr rfl) hmark hplus]
    rfl
  | anything =>
    refine ⟨n + 8, by omega, ?_⟩
    show (branch (n + 9 + 1) {} before).run { d with rest := '.' :: '*' :: tail } = _
    rw [branch_onLine, branch_repeated rfl rfl (.inl rfl) hmark hplus]
    rfl
  | segment =>
    refine ⟨n + 8, by omega, ?_⟩
    show (branch (n + 9 + 1) {} before).run { d with rest := "[^/]".toList ++ '*' :: tail } = _
    rw [branch_inSegment, branch_repeated rfl rfl (.inl rfl) hmark hplus]
    rfl
  | single => exact ⟨n + 9, by omega, branch_inSegment⟩
  | literal c =>
    refine ⟨n + 9, by omega, ?_⟩
    by_cases hc : isSpecial c = true
    · rw [written_special hc]
      exact branch_special hc
    · rw [written_plain hc]
      exact branch_plain (eq_false_of_ne_true hc)

/-- What pieces write is read as one part after the other. -/
theorem branch_pieces {ps : List Piece} {ts : List Token} (h : List.Forall₂ Piece.IsToken ps ts)
    (before : List Part) {bound : Nat} (hbound : 9 + 2 * ts.length < bound) :
    ∃ left, 9 < left ∧ (branch bound {} before).run { d with rest := written ps } =
      (branch left {} ((ts.map partOf).reverse ++ before)).run { d with rest := ['\\', 'Z'] } := by
  induction h generalizing before bound with
  | nil => exact ⟨bound, by simpa using hbound, rfl⟩
  | @cons p t ps ts hp hps ih =>
    rw [List.length_cons] at hbound
    obtain ⟨c, rest, hrest, hmark, hplus⟩ := exists_written_cons hps
    have hmark' : (written ps).head? ≠ some '?' := by simpa [hrest] using hmark
    have hplus' : (written ps).head? ≠ some '+' := by simpa [hrest] using hplus
    obtain ⟨left, hleft, hfirst⟩ := branch_piece d before hp hmark' hplus' (show 9 < bound by omega)
    obtain ⟨left', hleft', hothers⟩ := ih (partOf t :: before) (show 9 + 2 * ts.length < left by omega)
    refine ⟨left', hleft', ?_⟩
    rw [written_cons, hfirst, hothers, List.map_cons, List.reverse_cons, List.append_assoc, List.singleton_append]

theorem length_le_written {ps : List Piece} {ts : List Token} (h : List.Forall₂ Piece.IsToken ps ts) :
    ts.length + 2 ≤ (written ps).length := by
  induction h with
  | nil => exact Nat.le_refl _
  | @cons p t ps ts hp hps ih =>
    have hp : 1 ≤ p.written.length := by
      cases hp with
      | literal c =>
        by_cases hc : isSpecial c = true
        · rw [written_special hc]
          exact Nat.le_succ _
        · rw [written_plain hc]
          exact Nat.le_refl _
      | _ => decide
    rw [written_cons, List.length_append, List.length_cons]
    omega

/-- **The written pieces are read as the expressions of the tokens**, up to the text's end. -/
theorem read_written {ps : List Piece} {ts : List Token} (h : List.Forall₂ Piece.IsToken ps ts) :
    read (written ps) = .ok (some (sequence (ts.map Token.expression ++ [anchor .textEnd]))) := by
  have hlength := length_le_written h
  obtain ⟨bound, hbound⟩ : ∃ bound, 8 * ((written ps).length + 1) = bound + 2 :=
    ⟨8 * (written ps).length + 6, by omega⟩
  obtain ⟨left, hleft, hpieces⟩ :=
    branch_pieces (d := { rest := written ps }) h [] (show 9 + 2 * ts.length < bound + 1 by omega)
  obtain ⟨left, rfl⟩ : ∃ n, left = n + 2 := ⟨left - 2, by omega⟩
  have hparts : (⟨[anchor .textEnd], false⟩ :: ((ts.map partOf).reverse ++ [])).reverse.flatMap Part.expressions =
      ts.map Token.expression ++ [anchor .textEnd] := by
    rw [List.append_nil, List.reverse_cons, List.reverse_reverse, List.flatMap_append, List.flatMap_map,
      List.map_eq_flatMap]
    rfl
  have hbranch : (branch (bound + 1) {} []).run { rest := written ps } =
      pure (ts.map Token.expression ++ [anchor .textEnd], { rest := [] }) := by
    rw [← hparts]
    exact hpieces.trans (branch_textEnd.trans (branch_end (.inl rfl)))
  have halternatives := alternatives_single hbranch (by simp)
  rw [read, hbound, halternatives]
  rfl

end Reading

end Expression
end RepoSurvey
