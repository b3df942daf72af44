import RepoSurvey.Proofs.Expression.Written

/-!
# Paths that fit the expressions of a pattern

* `Expression.Judges text next accepts`: from each place of a text, what is still to be read is accepted by `next`
  exactly if it is one of the texts of `accepts`.
* `Expression.judges_token`: before such a continuation the expression of a token takes the token's parts.
* `Expression.fitsStart_tokens`: the expressions of tokens and the text's end fit the paths that can be cut along the
  tokens, and no others.
-/

namespace RepoSurvey

open Glob

namespace CharacterSet

variable {c x : Char}

theorem contains_ofCode : (ofCode c.toNat).contains {} x = true ↔ x = c := by
  have hcontains : (ofCode c.toNat).contains {} x = (x.toNat == c.toNat) := by simp [ofCode, contains, SetItem.contains]
  rw [hcontains, beq_iff_eq]
  exact ⟨fun h => Char.ext (UInt32.toNat_inj.mp h), fun h => h ▸ rfl⟩

theorem contains_other : (⟨true, [.single c.toNat]⟩ : CharacterSet).contains {} x = (x != c) := by
  have hcontains : (⟨true, [.single c.toNat]⟩ : CharacterSet).contains {} x = !(ofCode c.toNat).contains {} x := by
    simp [ofCode, contains, SetItem.contains]
  rw [hcontains, Bool.eq_iff_iff, Bool.not_eq_true', bne_iff_ne, ← Bool.not_eq_true, contains_ofCode]

end CharacterSet

namespace Expression

/-- What is still to be read is accepted by a continuation exactly if it is one of some texts. -/
def Judges (text : Array Char) (next : Continuation) (accepts : List Char → Prop) : Prop :=
  ∀ p : Progress, p.position ≤ text.size → ((next p).isSome = true ↔ accepts (text.toList.drop p.position))

namespace Judges

variable {text : Array Char} {next : Continuation} {accepts accepts' : List Char → Prop} {set : CharacterSet}

theorem of_iff (h : Judges text next accepts) (hiff : ∀ s, accepts s ↔ accepts' s) : Judges text next accepts' :=
  fun p hp => (h p hp).trans (hiff _)

/-- At the end of a text nothing is left, and before it there are a character and what follows it. -/
theorem drop_cases (text : Array Char) (n : Nat) :
    (text[n]? = none ∧ text.toList.drop n = []) ∨
      ∃ c, n < text.size ∧ text[n]? = some c ∧ text.toList.drop n = c :: text.toList.drop (n + 1) := by
  rcases Nat.lt_or_ge n text.size with hn | hsize
  · exact .inr ⟨text[n], hn, Array.getElem?_eq_getElem hn, List.drop_eq_getElem_cons hn⟩
  · exact .inl ⟨Array.getElem?_eq_none hsize, List.drop_eq_nil_of_le hsize⟩

theorem textEnd (h : Judges text next accepts) :
    Judges text ((anchor .textEnd).run text next) fun s => s = [] ∧ accepts s := by
  intro p hp
  have hend : p.position = text.size ↔ text.toList.drop p.position = [] := by
    rw [List.drop_eq_nil_iff, Array.length_toList]
    exact ⟨fun hposition => hposition ▸ Nat.le_refl _, Nat.le_antisymm hp⟩
  show ((anchor .textEnd).run text next p).isSome = true ↔
    text.toList.drop p.position = [] ∧ accepts (text.toList.drop p.position)
  rw [run, Anchor.holds, ← h p hp, ← hend]
  by_cases hposition : p.position = text.size <;> simp [hposition]

theorem one (h : Judges text next accepts) :
    Judges text ((one {} set).run text next) fun s => ∃ rest ∈ leftAfterOne (set.contains {}) s, accepts rest := by
  intro p hp
  rw [run]
  rcases drop_cases text p.position with ⟨hnone, hdrop⟩ | ⟨c, hlt, hsome, hdrop⟩
  · simp [hnone, hdrop, leftAfterOne]
  · have hnext : (next (p.advanced 1)).isSome = true ↔ accepts (text.toList.drop (p.position + 1)) :=
      h (p.advanced 1) hlt
    rw [hsome, Option.any_some, hdrop]
    by_cases hc : set.contains {} c = true
    · simpa [leftAfterOne, hc] using hnext
    · simp [leftAfterOne, hc]

/-- Rounds of one character each can stop after each of them. -/
theorem repeated_one (h : Judges text next accepts) (n : Nat) (last : Option Nat) (p : Progress)
    (hp : p.position ≤ text.size) (hn : text.size < p.position + n) (hlast : ∀ q ∈ last, q < p.position) :
    (repeated ((Expression.one {} set).run text) true next n 0 none last p).isSome = true ↔
      ∃ rest ∈ leftAfterRun (set.contains {}) (text.toList.drop p.position), accepts rest := by
  -- more rounds are left than characters, so that the bound never ends the repetition before the text does
  induction n generalizing last p with
  | zero => omega
  | succ n ih =>
    have hround : ¬(none = some 0 ∨ last = some p.position) := by
      rintro (hmore | rfl)
      · cases hmore
      · exact Nat.lt_irrefl _ (hlast _ rfl)
    rw [repeated, if_pos rfl, if_neg hround, Option.isSome_or, Bool.or_eq_true, h p hp, run]
    rcases drop_cases text p.position with ⟨hnone, hdrop⟩ | ⟨c, hlt, hsome, hdrop⟩
    · simp [hnone, hdrop, leftAfterRun]
    · have hlater : p.position + 1 ≤ text.size := hlt
      have hothers := ih (some p.position) (p.advanced 1) hlt (by simp [Progress.advanced]; omega)
        (by simp [Progress.advanced])
      rw [hsome, Option.any_some, hdrop, leftAfterRun]
      by_cases hc : set.contains {} c = true
      · rw [if_pos hc, if_pos hc, Option.map_none, hothers, ← hdrop]
        simp [or_comm, Progress.advanced]
      · simp [hc]

theorem runOf (h : Judges text next accepts) :
    Judges text ((runOf set).run text next) fun s => ∃ rest ∈ leftAfterRun (set.contains {}) s, accepts rest :=
  fun p hp => h.repeated_one _ none p hp (by omega) (by simp)

/-- What may be read once or not at all is tried and passed over. -/
theorem optional {e : Expression} (h : Judges text next accepts)
    (he : ∀ {next'}, Judges text next' accepts → Judges text (e.run text next') accepts') :
    Judges text ((rounds 0 (some 1) .most e).run text next) fun s => accepts s ∨ accepts' s := by
  intro p hp
  -- after the one round none is left, and what follows is all that counts
  have hlast : Judges text (repeated (e.run text) true next (text.size + 1) 0 (some 0) (some p.position)) accepts := by
    intro q hq
    rw [repeated, if_pos rfl, if_pos (.inl rfl), Option.none_or]
    exact h q hq
  have hlimit : 0 + text.size + 2 = text.size + 1 + 1 := by omega
  rw [run]
  show (repeated (e.run text) true next (0 + text.size + 2) 0 (some 1) none p).isSome = true ↔ _
  rw [hlimit, repeated, if_pos rfl, if_neg (by simp), Option.isSome_or, Bool.or_eq_true]
  show (e.run text (repeated (e.run text) true next (text.size + 1) 0 (some 0) (some p.position)) p).isSome = true ∨
    _ ↔ _
  rw [he hlast p hp, h p hp, or_comm]

theorem slash (h : Judges text next accepts) :
    Judges text ((letter {} '/'.toNat).run text next) fun s => ∃ rest, s = '/' :: rest ∧ accepts rest := by
  refine h.one.of_iff fun s => ?_
  constructor
  · rintro ⟨rest, hrest, haccepts⟩
    obtain ⟨c, hc, rfl⟩ := mem_leftAfterOne.mp hrest
    exact ⟨rest, by rw [CharacterSet.contains_ofCode.mp hc], haccepts⟩
  · rintro ⟨rest, rfl, haccepts⟩
    exact ⟨rest, mem_leftAfterOne.mpr ⟨'/', CharacterSet.contains_ofCode.mpr rfl, rfl⟩, haccepts⟩

/-- **The expression of a token takes one of the token's parts.** -/
theorem token {t : Token} (h : Judges text next accepts) :
    Judges text (t.expression.run text next) fun s => ∃ rest ∈ t.left s, accepts rest := by
  have hother : ∀ x : Char, (⟨true, [.single x.toNat]⟩ : CharacterSet).contains {} = (· != x) :=
    fun x => funext fun _ => CharacterSet.contains_other
  cases t with
  | directories =>
    refine (h.optional fun h' => h'.slash.runOf).of_iff fun s => ?_
    rw [onLine, hother, Token.left]
    constructor
    · rintro (haccepts | ⟨_, hrest, rest, rfl, haccepts⟩)
      · exact ⟨s, List.mem_cons_self, haccepts⟩
      · exact ⟨rest, List.mem_cons_of_mem s (List.mem_filterMap.mpr ⟨_, hrest, rfl⟩), haccepts⟩
    · rintro ⟨rest, hrest, haccepts⟩
      rcases List.mem_cons.mp hrest with rfl | hrest
      · exact .inl haccepts
      · obtain ⟨after, hafter, hslash⟩ := List.mem_filterMap.mp hrest
        split at hslash
        · cases hslash
          exact .inr ⟨_, hafter, rest, rfl, haccepts⟩
        · cases hslash
  | anything =>
    refine h.runOf.of_iff fun s => ?_
    rw [onLine, hother, Token.left]
  | segment =>
    refine h.runOf.of_iff fun s => ?_
    rw [inSegment, hother, Token.left]
  | single =>
    refine h.one.of_iff fun s => ?_
    rw [inSegment, hother, Token.left]
  | literal c =>
    refine h.one.of_iff fun s => ?_
    have hsame : (CharacterSet.ofCode c.toNat).contains {} = (· == c) :=
      funext fun _ => Bool.eq_iff_iff.mpr (CharacterSet.contains_ofCode.trans beq_iff_eq.symm)
    rw [hsame, Token.left]
  | oneOf set => exact h.one

end Judges

theorem sequence_concat_cons (e : Expression) (es : List Expression) (last : Expression) :
    sequence (e :: (es ++ [last])) = seq e (sequence (es ++ [last])) := by
  cases es <;> rfl

theorem judges_tokens (text : Array Char) (ts : List Token) :
    Judges text ((sequence (ts.map Token.expression ++ [anchor .textEnd])).run text some) (Splits ts) := by
  induction ts with
  | nil =>
    have haccepts : Judges text some fun _ => True := fun p _ => by simp
    exact haccepts.textEnd.of_iff fun s => by rw [splits_nil, and_true]
  | cons t ts ih =>
    rw [List.map_cons, List.cons_append, sequence_concat_cons]
    exact ih.token.of_iff fun s => splits_cons_left.symm

/-- **The expressions of tokens and the text's end fit exactly the paths that can be cut along the tokens.** -/
theorem fitsStart_tokens (ts : List Token) (path : String) :
    (sequence (ts.map Token.expression ++ [anchor .textEnd])).fitsStart path = true ↔ Splits ts path.toList :=
  judges_tokens path.toList.toArray ts ⟨0, [], []⟩ (Nat.zero_le _)

end Expression
end RepoSurvey
