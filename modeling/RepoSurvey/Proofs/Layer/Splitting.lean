import Mathlib.Data.List.Basic
import RepoSurvey.Layer.Glob

/-!
# Paths cut along a pattern

* `Glob.Token.Accepts`: the texts that a token stands for.
* `Glob.Splits ts s`: a text can be cut into consecutive parts that the tokens accept one after the other.
* `Glob.TokensOf s ts`: the tokens of a pattern without brackets, taken from the left, the longest wildcard first.
* `Glob.fits_iff_splits`: a text fits some tokens if it can be cut along them.
* `Glob.exists_tokensOf`, `Glob.TokensOf.unique`: a pattern has such tokens, in one way only.
* `Glob.ofText?_of_tokensOf`: a pattern without brackets is read as its tokens.
-/

namespace RepoSurvey
namespace Glob

/-- The texts that a token stands for. -/
def Token.Accepts : Token → List Char → Prop
  | .directories, part => part = [] ∨ ∃ line, '\n' ∉ line ∧ part = line ++ ['/']
  | .anything, part => '\n' ∉ part
  | .segment, part => '/' ∉ part
  | .single, part => ∃ c, c ≠ '/' ∧ part = [c]
  | .literal c, part => part = [c]
  | .oneOf set, part => ∃ c, set.contains {} c = true ∧ part = [c]

/-- A whole text can be cut into parts that the tokens accept one after the other. -/
def Splits (ts : List Token) (s : List Char) : Prop :=
  ∃ parts, List.Forall₂ Token.Accepts ts parts ∧ s = parts.flatten

/-- The tokens of a pattern without brackets, taken from the left: `**/` comes before `**`, and `**` before `*`. -/
inductive TokensOf : List Char → List Token → Prop
  | nil : TokensOf [] []
  | directories {rest : List Char} {ts : List Token} (h : TokensOf rest ts) :
      TokensOf ('*' :: '*' :: '/' :: rest) (.directories :: ts)
  | anything {rest : List Char} {ts : List Token} (hnext : rest.head? ≠ some '/') (h : TokensOf rest ts) :
      TokensOf ('*' :: '*' :: rest) (.anything :: ts)
  | segment {rest : List Char} {ts : List Token} (hnext : rest.head? ≠ some '*') (h : TokensOf rest ts) :
      TokensOf ('*' :: rest) (.segment :: ts)
  | single {rest : List Char} {ts : List Token} (h : TokensOf rest ts) : TokensOf ('?' :: rest) (.single :: ts)
  | literal {rest : List Char} {ts : List Token} (c : Char) (hstar : c ≠ '*') (hmark : c ≠ '?')
      (h : TokensOf rest ts) : TokensOf (c :: rest) (.literal c :: ts)

/-! ### What is left after a token -/

section Left

variable {accepts : Char → Bool} {s rest : List Char}

theorem mem_leftAfterRun :
    rest ∈ leftAfterRun accepts s ↔ ∃ run, (∀ c ∈ run, accepts c = true) ∧ s = run ++ rest := by
  induction s with
  | nil =>
    rw [leftAfterRun, List.mem_singleton]
    constructor
    · rintro rfl
      exact ⟨[], fun c hc => absurd hc List.not_mem_nil, rfl⟩
    · rintro ⟨run, -, hrun⟩
      exact (List.append_eq_nil_iff.mp hrun.symm).2
  | cons c s ih =>
    rw [leftAfterRun, List.mem_cons]
    constructor
    · rintro (rfl | hrest)
      · exact ⟨[], fun c hc => absurd hc List.not_mem_nil, rfl⟩
      · split_ifs at hrest with hc
        · obtain ⟨run, hrun, rfl⟩ := ih.mp hrest
          exact ⟨c :: run, List.forall_mem_cons.mpr ⟨hc, hrun⟩, rfl⟩
        · exact absurd hrest List.not_mem_nil
    · rintro ⟨run, hrun, heq⟩
      cases run with
      | nil => exact .inl heq.symm
      | cons d run =>
        obtain ⟨rfl, rfl⟩ := List.cons.inj heq
        obtain ⟨hc, hrun⟩ := List.forall_mem_cons.mp hrun
        rw [if_pos hc]
        exact .inr (ih.mpr ⟨run, hrun, rfl⟩)

theorem mem_leftAfterRun_ne {x : Char} :
    rest ∈ leftAfterRun (· != x) s ↔ ∃ run, x ∉ run ∧ s = run ++ rest := by
  have hrun : ∀ run : List Char, (∀ c ∈ run, (c != x) = true) ↔ x ∉ run := by
    intro run
    simp only [bne_iff_ne, ne_eq]
    exact ⟨fun h hx => h x hx rfl, fun h c hc hcx => h (hcx ▸ hc)⟩
  simp only [mem_leftAfterRun, hrun]

theorem mem_leftAfterOne : rest ∈ leftAfterOne accepts s ↔ ∃ c, accepts c = true ∧ s = c :: rest := by
  cases s with
  | nil => simp [leftAfterOne]
  | cons c s =>
    rw [leftAfterOne]
    by_cases hc : accepts c = true
    · rw [if_pos hc, List.mem_singleton]
      constructor
      · rintro rfl
        exact ⟨c, hc, rfl⟩
      · rintro ⟨d, -, heq⟩
        exact (List.cons.inj heq).2.symm
    · rw [if_neg hc]
      constructor
      · intro h
        exact absurd h List.not_mem_nil
      · rintro ⟨d, hd, heq⟩
        exact absurd ((List.cons.inj heq).1 ▸ hd) hc

/-- What is left after a token is what follows a part that it accepts. -/
theorem Token.mem_left {t : Token} : rest ∈ t.left s ↔ ∃ part, t.Accepts part ∧ s = part ++ rest := by
  cases t with
  | directories =>
    rw [Token.left, List.mem_cons, List.mem_filterMap]
    constructor
    · rintro (rfl | ⟨after, hafter, hslash⟩)
      · exact ⟨[], .inl rfl, rfl⟩
      · obtain ⟨line, hline, rfl⟩ := mem_leftAfterRun_ne.mp hafter
        split at hslash
        · obtain rfl := Option.some.inj hslash
          exact ⟨line ++ ['/'], .inr ⟨line, hline, rfl⟩, by rw [List.append_assoc]; rfl⟩
        · cases hslash
    · rintro ⟨part, rfl | ⟨line, hline, rfl⟩, rfl⟩
      · exact .inl rfl
      · refine .inr ⟨'/' :: rest, mem_leftAfterRun_ne.mpr ⟨line, hline, ?_⟩, rfl⟩
        rw [List.append_assoc]
        rfl
  | anything => exact mem_leftAfterRun_ne
  | segment => exact mem_leftAfterRun_ne
  | single =>
    rw [Token.left, mem_leftAfterOne]
    constructor
    · rintro ⟨c, hc, rfl⟩
      exact ⟨[c], ⟨c, bne_iff_ne.mp hc, rfl⟩, rfl⟩
    · rintro ⟨part, ⟨c, hc, rfl⟩, rfl⟩
      exact ⟨c, bne_iff_ne.mpr hc, rfl⟩
  | literal x =>
    rw [Token.left, mem_leftAfterOne]
    constructor
    · rintro ⟨c, hc, rfl⟩
      exact ⟨[c], congrArg (· :: []) (eq_of_beq hc), rfl⟩
    · rintro ⟨part, rfl, rfl⟩
      exact ⟨x, beq_self_eq_true x, rfl⟩
  | oneOf set =>
    rw [Token.left, mem_leftAfterOne]
    constructor
    · rintro ⟨c, hc, rfl⟩
      exact ⟨[c], ⟨c, hc, rfl⟩, rfl⟩
    · rintro ⟨part, ⟨c, hc, rfl⟩, rfl⟩
      exact ⟨c, hc, rfl⟩

end Left

/-! ### Fitting is splitting -/

section Splitting

theorem splits_nil {s : List Char} : Splits [] s ↔ s = [] := by
  constructor
  · rintro ⟨parts, hparts, rfl⟩
    cases hparts
    rfl
  · rintro rfl
    exact ⟨[], .nil, rfl⟩

/-- A text is cut along some tokens by a part for the first one and parts for the others. -/
theorem splits_cons {t : Token} {ts : List Token} {s : List Char} :
    Splits (t :: ts) s ↔ ∃ part rest, t.Accepts part ∧ Splits ts rest ∧ s = part ++ rest := by
  constructor
  · rintro ⟨parts, hparts, rfl⟩
    cases hparts with
    | @cons _ part _ parts hpart hrest => exact ⟨part, parts.flatten, hpart, ⟨parts, hrest, rfl⟩, rfl⟩
  · rintro ⟨part, rest, hpart, ⟨parts, hrest, rfl⟩, rfl⟩
    exact ⟨part :: parts, .cons hpart hrest, rfl⟩

theorem splits_cons_left {t : Token} {ts : List Token} {s : List Char} :
    Splits (t :: ts) s ↔ ∃ rest ∈ t.left s, Splits ts rest := by
  rw [splits_cons]
  constructor
  · rintro ⟨part, rest, hpart, hrest, hs⟩
    exact ⟨rest, Token.mem_left.mpr ⟨part, hpart, hs⟩, hrest⟩
  · rintro ⟨rest, hleft, hrest⟩
    obtain ⟨part, hpart, hs⟩ := Token.mem_left.mp hleft
    exact ⟨part, rest, hpart, hrest, hs⟩

/-- **A text fits some tokens exactly if it can be cut along them.** -/
theorem fits_iff_splits {ts : List Token} {s : List Char} : fits ts s = true ↔ Splits ts s := by
  induction ts generalizing s with
  | nil => rw [fits, List.isEmpty_iff, splits_nil]
  | cons t ts ih =>
    rw [fits, List.any_eq_true, splits_cons_left]
    exact exists_congr fun rest => and_congr_right fun _ => ih

end Splitting

/-! ### The tokens of a pattern -/

section Tokens

variable {s : List Char} {ts ts' : List Token}

/-- A pattern has its tokens in one way only. -/
theorem TokensOf.unique (h : TokensOf s ts) (h' : TokensOf s ts') : ts = ts' := by
  induction h generalizing ts' with
  | nil =>
    cases h'
    rfl
  | directories _ ih =>
    cases h' with
    | directories h' => rw [ih h']
    | anything hnext _ => exact absurd rfl hnext
    | segment hnext _ => exact absurd rfl hnext
    | literal _ hstar _ _ => exact absurd rfl hstar
  | anything hnext _ ih =>
    cases h' with
    | directories _ => exact absurd rfl hnext
    | anything _ h' => rw [ih h']
    | segment hnext _ => exact absurd rfl hnext
    | literal _ hstar _ _ => exact absurd rfl hstar
  | segment hnext _ ih =>
    cases h' with
    | directories _ => exact absurd rfl hnext
    | anything _ _ => exact absurd rfl hnext
    | segment _ h' => rw [ih h']
    | literal _ hstar _ _ => exact absurd rfl hstar
  | single _ ih =>
    cases h' with
    | single h' => rw [ih h']
    | literal _ _ hmark _ => exact absurd rfl hmark
  | literal c hstar hmark _ ih =>
    cases h' with
    | directories _ => exact absurd rfl hstar
    | anything _ _ => exact absurd rfl hstar
    | segment _ _ => exact absurd rfl hstar
    | single _ => exact absurd rfl hmark
    | literal _ _ _ h' => rw [ih h']

/-- A piece that is no bracket, and what a path has to fit there. -/
inductive Piece.IsToken : Piece → Token → Prop
  | directories : IsToken .directories .directories
  | anything : IsToken .anything .anything
  | segment : IsToken .segment .segment
  | single : IsToken .single .single
  | literal (c : Char) : IsToken (.literal c) (.literal c)

theorem tokens?_of_isToken {ps : List Piece} (h : List.Forall₂ Piece.IsToken ps ts) : tokens? ps = some ts := by
  induction h with
  | nil => rfl
  | cons hp _ ih =>
    cases hp <;>
      · rw [tokens?, ih]
        rfl

/-- The pieces of a pattern without brackets are its tokens. -/
theorem exists_tokensOf (hopen : '[' ∉ s) : ∃ ts, TokensOf s ts ∧ List.Forall₂ Piece.IsToken (pieces s) ts := by
  fun_induction pieces s with
  | case1 => exact ⟨[], .nil, .nil⟩
  | case2 rest ih =>
    obtain ⟨ts, hts, hpieces⟩ := ih fun h => hopen (by simp [h])
    exact ⟨_, .directories hts, .cons .directories hpieces⟩
  | case3 rest hslash ih =>
    obtain ⟨ts, hts, hpieces⟩ := ih fun h => hopen (by simp [h])
    have hnext : rest.head? ≠ some '/' := by
      intro hhead
      obtain ⟨after, rfl⟩ := List.head?_eq_some_iff.mp hhead
      exact hslash after rfl
    exact ⟨_, .anything hnext hts, .cons .anything hpieces⟩
  | case4 rest _ hstar ih =>
    obtain ⟨ts, hts, hpieces⟩ := ih fun h => hopen (by simp [h])
    have hnext : rest.head? ≠ some '*' := by
      intro hhead
      obtain ⟨after, rfl⟩ := List.head?_eq_some_iff.mp hhead
      exact hstar after rfl
    exact ⟨_, .segment hnext hts, .cons .segment hpieces⟩
  | case5 rest ih =>
    obtain ⟨ts, hts, hpieces⟩ := ih fun h => hopen (by simp [h])
    exact ⟨_, .single hts, .cons .single hpieces⟩
  | case6 | case7 => exact absurd List.mem_cons_self hopen
  | case8 c rest _ _ hstar hmark _ ih =>
    obtain ⟨ts, hts, hpieces⟩ := ih fun h => hopen (List.mem_cons_of_mem c h)
    exact ⟨_, .literal c hstar hmark hts, .cons (.literal c) hpieces⟩

theorem isToken_of_tokensOf (hopen : '[' ∉ s) (h : TokensOf s ts) : List.Forall₂ Piece.IsToken (pieces s) ts := by
  obtain ⟨ts', hts', hpieces⟩ := exists_tokensOf hopen
  rwa [h.unique hts']

theorem ofText?_of_isToken {pattern : String} (h : List.Forall₂ Piece.IsToken (pieces pattern.toList) ts) :
    ofText? pattern = .ok (some (.tokens ts)) := by
  rw [ofText?]
  simp only [tokens?_of_isToken h]

/-- **A pattern without brackets is read as its tokens.** -/
theorem ofText?_of_tokensOf {pattern : String} (hopen : '[' ∉ pattern.toList) (h : TokensOf pattern.toList ts) :
    ofText? pattern = .ok (some (.tokens ts)) := ofText?_of_isToken (isToken_of_tokensOf hopen h)

end Tokens

end Glob
end RepoSurvey
