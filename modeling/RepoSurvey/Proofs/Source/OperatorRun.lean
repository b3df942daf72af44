import Mathlib.Data.List.DropRight
import RepoSurvey.Proofs.Text.PatternReading
import RepoSurvey.Source.DecisionPoint

/-!
# Operator signs in a row

The signs `&`, `|` and `?` count by the rows in which they stand, and two texts put together join the row at the end of
the one with the row at the beginning of the other.

* `leading`, `trailing`: the lengths of these rows; `eq_replicate_append`, `eq_append_replicate`: the texts around them.
* `pairs`: the doubled signs of a text; `pairs_replicate_append`, `pairs_append`.
* `lone`: the question marks that stand for a choice; `lone_replicate_append`, `lone_append`.
* `signPoints`, `rowPoints`: what a text and a row count; `signPoints_seam`: what changes where two rows are joined.
-/

namespace RepoSurvey
namespace Source

open Pattern

variable {sign : Char} {before after : List Char}

/-! ### Rows -/

section Rows

/-- How often a text has a sign in a row at its beginning. -/
def leading (sign : Char) (s : List Char) : Nat := (s.takeWhile (· == sign)).length

/-- How often a text has a sign in a row at its end. -/
def trailing (sign : Char) (s : List Char) : Nat := (s.rtakeWhile (· == sign)).length

theorem eq_replicate_append (sign : Char) (s : List Char) :
    s = List.replicate (leading sign s) sign ++ s.dropWhile (· == sign) := by
  have hrow : s.takeWhile (· == sign) = List.replicate (leading sign s) sign :=
    List.eq_replicate_iff.mpr ⟨rfl, fun c hc => by simpa using List.mem_takeWhile_imp hc⟩
  rw [← hrow, List.takeWhile_append_dropWhile]

theorem eq_append_replicate (sign : Char) (s : List Char) :
    s = s.rdropWhile (· == sign) ++ List.replicate (trailing sign s) sign := by
  have hrow : s.rtakeWhile (· == sign) = List.replicate (trailing sign s) sign :=
    List.eq_replicate_iff.mpr ⟨rfl, fun c hc => by simpa using List.mem_rtakeWhile_imp hc⟩
  rw [← hrow, List.rdropWhile_append_rtakeWhile]

end Rows

/-! ### Doubled signs -/

section Pairs

/-- The number of doubled signs, read from the left. -/
def pairs (sign : Char) : List Char → Nat
  | [] => 0
  | [_] => 0
  | c :: d :: rest => if c = sign ∧ d = sign then pairs sign rest + 1 else pairs sign (d :: rest)

theorem pairs_cons_of_ne {c : Char} (hc : c ≠ sign) (s : List Char) : pairs sign (c :: s) = pairs sign s := by
  cases s with
  | nil => rfl
  | cons d rest => rw [pairs, if_neg fun h => hc h.1]

/-- A doubled sign is read where it stands. -/
theorem reads?_double (sign : Char) (prev : Option Char) (s : List Char) :
    (word [sign, sign]).reads? (prev, s) =
      if [sign, sign] <+: s then some (some sign, s.drop 2) else none := by
  rw [reads?, readings_word, placeAfter, apply_ite List.head?]
  rfl

theorem pairs_of_doubled (rest : List Char) : pairs sign (sign :: sign :: rest) = pairs sign rest + 1 := by
  rw [pairs, if_pos ⟨rfl, rfl⟩]

theorem pairs_of_not_doubled {c : Char} {rest : List Char} (h : ¬[sign, sign] <+: c :: rest) :
    pairs sign (c :: rest) = pairs sign rest := by
  cases rest with
  | nil => rfl
  | cons d rest =>
    rw [pairs, if_neg]
    rintro ⟨rfl, rfl⟩
    exact h ⟨rest, rfl⟩

theorem countFrom_double (sign : Char) (prev : Option Char) (s : List Char) :
    (word [sign, sign]).countFrom (prev, s) = pairs sign s := by
  have hread (place place' : Place) (h : (word [sign, sign]).reads? place = some place') :
      place.2 = sign :: sign :: place'.2 := by
    obtain ⟨prev, s⟩ := place
    rw [reads?_double] at h
    split_ifs at h with hstart
    obtain ⟨rest, rfl⟩ := hstart
    cases h
    rfl
  refine countFrom_eq (f := fun _ => pairs sign) (fun _ => rfl) ?_ ?_ ?_ prev s
  · intro place place' h
    rw [hread place place' h, List.length_cons, List.length_cons]
    omega
  · intro place place' h
    show pairs sign place.2 = pairs sign place'.2 + 1
    rw [hread place place' h, pairs_of_doubled]
  · intro prev c rest h
    refine pairs_of_not_doubled fun hstart => ?_
    rw [reads?_double, if_pos hstart] at h
    cases h

/-- A row counts half as often as it is long. -/
theorem pairs_replicate_append (n : Nat) (h : after.head?.any (· == sign) = false) :
    pairs sign (List.replicate n sign ++ after) = n / 2 + pairs sign after := by
  induction n using Nat.twoStepInduction with
  | zero => simp
  | one =>
    cases after with
    | nil => rfl
    | cons d rest =>
      have hd : d ≠ sign := by simpa using h
      simp [pairs, hd]
  | more n ih _ =>
    rw [List.replicate_succ, List.replicate_succ, List.cons_append, List.cons_append, pairs_of_doubled, ih]
    omega

/-- Behind another sign the count begins anew. -/
theorem pairs_append (h : before.getLast?.any (· == sign) = false) (after : List Char) :
    pairs sign (before ++ after) = pairs sign before + pairs sign after := by
  fun_induction pairs sign before with
  | case1 => rw [List.nil_append, Nat.zero_add]
  | case2 c =>
    have hc : c ≠ sign := by simpa using h
    rw [List.singleton_append, pairs_cons_of_ne hc, Nat.zero_add]
  | case3 c d rest hdoubled ih =>
    obtain ⟨rfl, rfl⟩ := hdoubled
    cases rest with
    | nil => simp at h
    | cons e rest =>
      rw [List.cons_append, List.cons_append, pairs_of_doubled, ih h, Nat.add_right_comm]
  | case4 c d rest hne ih => rw [List.cons_append, List.cons_append, pairs, if_neg hne, ← List.cons_append, ih h]

/-- Other signs do not count. -/
theorem pairs_of_notMem {gap : List Char} (hgap : sign ∉ gap) (after : List Char) :
    pairs sign (gap ++ after) = pairs sign after := by
  induction gap with
  | nil => rfl
  | cons c gap ih =>
    rw [List.mem_cons, not_or] at hgap
    rw [List.cons_append, pairs_cons_of_ne (Ne.symm hgap.1), ih hgap.2]

/-- **Doubled signs at a seam**: a text with other signs in between keeps the rows at both ends apart. -/
theorem pairs_seam (before after : List Char) {gap : List Char} (hne : gap ≠ []) (hgap : sign ∉ gap) :
    pairs sign (before ++ after) + (trailing sign before / 2 + leading sign after / 2) =
      pairs sign (before ++ gap ++ after) + (trailing sign before + leading sign after) / 2 := by
  have hbefore := any_getLast?_rdropWhile (· == sign) before
  have hafter := any_head?_dropWhile (· == sign) after
  have hfirst : (gap ++ after).head?.any (· == sign) = false := by
    obtain ⟨c, rest, rfl⟩ := List.exists_cons_of_ne_nil hne
    have hc : c ≠ sign := fun h => hgap (h ▸ List.mem_cons_self)
    simpa using hc
  have hjoined : pairs sign (before ++ after) = pairs sign (before.rdropWhile (· == sign)) +
      ((trailing sign before + leading sign after) / 2 + pairs sign (after.dropWhile (· == sign))) := by
    conv_lhs => rw [eq_append_replicate sign before, eq_replicate_append sign after, List.append_assoc,
      ← List.append_assoc (List.replicate _ _), List.replicate_append_replicate, pairs_append hbefore,
      pairs_replicate_append _ hafter]
  have hapart : pairs sign (before ++ gap ++ after) = pairs sign (before.rdropWhile (· == sign)) +
      (trailing sign before / 2 + (leading sign after / 2 + pairs sign (after.dropWhile (· == sign)))) := by
    conv_lhs => rw [eq_append_replicate sign before, List.append_assoc, List.append_assoc, pairs_append hbefore,
      pairs_replicate_append _ hfirst, pairs_of_notMem hgap, eq_replicate_append sign after,
      pairs_replicate_append _ hafter]
  omega

end Pairs

/-! ### Question marks -/

section Lone

/-- Signs that make another sign of a question mark before them. -/
def joinsMark (c : Char) : Bool := c == '?' || c == '.' || c == ':'

/-- Whether a question mark stands for a choice, given its neighbours. -/
def isLone (prev next : Option Char) : Bool := !prev.any (· == '?') && !next.any joinsMark

/-- What a row of question marks counts as a choice, given what follows it. -/
def lonePoint (n : Nat) (next : Option Char) : Nat := if n = 1 ∧ next.any joinsMark = false then 1 else 0

/-- The number of question marks that stand for a choice. -/
def lone : Option Char → List Char → Nat
  | _, [] => 0
  | prev, c :: rest => (if c = '?' ∧ isLone prev rest.head? then 1 else 0) + lone (some c) rest

theorem reads?_ternary (prev : Option Char) (c : Char) (rest : List Char) :
    ternary.reads? (prev, c :: rest) = if c = '?' ∧ isLone prev rest.head? then some (some '?', rest) else none := by
  have hword : (literal "?").readings (prev, c :: rest) = if c = '?' then [(some '?', rest)] else [] := by
    rw [literal, readings_word, placeAfter]
    by_cases hc : c = '?'
    · simp [hc]
    · simp [hc, Ne.symm hc]
  have hnext := readings_absent_one joinsMark (some '?', rest)
  have hreadings : ternary.readings (prev, c :: rest) =
      ((notAfter (· == '?')).readings (prev, c :: rest)).flatMap fun place =>
        ((literal "?").readings place).flatMap (absent (one joinsMark)).readings := by
    rw [ternary, readings_sequence]
    exact List.flatMap_congr fun place _ => readings_sequence _ _ [] place
  rw [reads?, hreadings, readings_notAfter]
  cases hprev : prev.any (· == '?') with
  | true => simp [isLone, hprev]
  | false =>
    rw [if_neg (by simp), List.flatMap_singleton, hword]
    by_cases hc : c = '?'
    · rw [if_pos hc, List.flatMap_singleton, hnext]
      cases hjoins : rest.head?.any joinsMark <;> simp [isLone, hprev, hc, hjoins]
    · rw [if_neg hc, List.flatMap_nil, if_neg fun h => hc h.1]
      rfl

theorem reads?_ternary_nil (prev : Option Char) : ternary.reads? (prev, []) = none := by
  have hword (prev : Option Char) : (literal "?").readings (prev, []) = [] := by
    rw [literal, readings_word, placeAfter]
    simp
  rw [reads?, ternary, readings_sequence, readings_notAfter]
  split_ifs
  · rfl
  · rw [List.flatMap_singleton, readings_sequence, hword]
    rfl

theorem countFrom_ternary (prev : Option Char) (s : List Char) : ternary.countFrom (prev, s) = lone prev s := by
  have hread (prev : Option Char) (s : List Char) (place : Place) (h : ternary.reads? (prev, s) = some place) :
      ∃ rest, s = '?' :: rest ∧ isLone prev rest.head? ∧ place = (some '?', rest) := by
    cases s with
    | nil =>
      rw [reads?_ternary_nil] at h
      cases h
    | cons c rest =>
      rw [reads?_ternary] at h
      split_ifs at h with hlone
      obtain ⟨rfl, hlone⟩ := hlone
      cases h
      exact ⟨rest, rfl, hlone, rfl⟩
  refine countFrom_eq (f := lone) (fun _ => rfl) ?_ ?_ ?_ prev s
  · rintro ⟨prev, s⟩ place' h
    obtain ⟨rest, rfl, -, rfl⟩ := hread prev s place' h
    exact Nat.lt_succ_self _
  · rintro ⟨prev, s⟩ place' h
    obtain ⟨rest, rfl, hlone, rfl⟩ := hread prev s place' h
    simp only [lone, hlone, and_self, if_true]
    omega
  · intro prev c rest h
    rw [reads?_ternary] at h
    split_ifs at h with hlone
    rw [lone, if_neg hlone, Nat.zero_add]

/-- Before another sign it does not matter what stands behind the place. -/
theorem lone_of_head? {s : List Char} (h : s.head?.any (· == '?') = false) (prev : Option Char) :
    lone prev s = lone none s := by
  cases s with
  | nil => rfl
  | cons c rest =>
    have hc : c ≠ '?' := by simpa using h
    rw [lone, lone, if_neg fun h => hc h.1, if_neg fun h => hc h.1]

/-- The rest of a row does not count. -/
theorem lone_replicate_of_mark (n : Nat) (h : after.head?.any (· == '?') = false) :
    lone (some '?') (List.replicate n '?' ++ after) = lone none after := by
  induction n with
  | zero => exact lone_of_head? h (some '?')
  | succ n ih => rw [List.replicate_succ, List.cons_append, lone, if_neg (by simp [isLone]), ih, Nat.zero_add]

/-- A row by itself counts if it is a single question mark that nothing joins. -/
theorem lone_replicate_append (n : Nat) {prev : Option Char} (hprev : prev.any (· == '?') = false)
    (h : after.head?.any (· == '?') = false) :
    lone prev (List.replicate n '?' ++ after) = lonePoint n after.head? + lone none after := by
  match n with
  | 0 => simpa [lonePoint] using lone_of_head? h prev
  | 1 =>
    rw [List.replicate_one, List.singleton_append, lone, lone_of_head? h]
    simp [isLone, hprev, lonePoint]
  | n + 2 =>
    rw [List.replicate_succ, List.cons_append, lone, lone_replicate_of_mark (n + 1) h, List.replicate_succ,
      List.cons_append, List.head?_cons, if_neg (by simp [isLone, joinsMark]), lonePoint, if_neg (by omega)]

/-- Behind another sign the count begins anew. -/
theorem lone_append (prev : Option Char) (h : before.getLast?.any (· == '?') = false) (after : List Char) :
    lone prev (before ++ after) = lone prev before + lone (before.getLast?.or prev) after := by
  induction before generalizing prev with
  | nil => simp [lone]
  | cons c rest ih =>
    cases rest with
    | nil =>
      have hc : c ≠ '?' := by simpa using h
      simp [lone, hc]
    | cons d rest =>
      have hrest : (d :: rest).getLast?.any (· == '?') = false := by rwa [List.getLast?_cons_cons] at h
      rw [List.cons_append, lone, ih (some c) hrest, lone.eq_2 prev, getLast?_cons_or c, ← Nat.add_assoc]
      rfl

theorem lone_of_notMem (prev : Option Char) {gap : List Char} (hgap : '?' ∉ gap) : lone prev gap = 0 := by
  induction gap generalizing prev with
  | nil => rfl
  | cons c rest ih =>
    rw [List.mem_cons, not_or] at hgap
    rw [lone, if_neg fun h => hgap.1 h.1.symm, ih (some c) hgap.2]

/-- **Question marks at a seam**: a text without them in between keeps the rows at both ends apart. -/
theorem lone_seam (before after : List Char) {gap : List Char} (hne : gap ≠ [])
    (hgap : ∀ c ∈ gap, joinsMark c = false) :
    lone none (before ++ after) + (lonePoint (trailing '?' before) none +
        lonePoint (leading '?' after) (after.dropWhile (· == '?')).head?) =
      lone none (before ++ gap ++ after) +
        lonePoint (trailing '?' before + leading '?' after) (after.dropWhile (· == '?')).head? := by
  have hbefore := any_getLast?_rdropWhile (· == '?') before
  have hafter := any_head?_dropWhile (· == '?') after
  have hprev : ((before.rdropWhile (· == '?')).getLast?.or none).any (· == '?') = false := by rwa [Option.or_none]
  have hother (c : Char) (hc : c ∈ gap) : (c == '?') = false := by
    have hjoins := hgap c hc
    simp only [joinsMark, Bool.or_eq_false_iff] at hjoins
    exact hjoins.1.1
  have hlast : gap.getLast?.any (· == '?') = false := by
    rw [List.getLast?_eq_some_getLast hne]
    exact hother _ (List.getLast_mem hne)
  have hlast' : (gap.getLast?.or none).any (· == '?') = false := by rwa [Option.or_none]
  have hnone : lone none gap = 0 := lone_of_notMem none fun h => by simpa using hother _ h
  have hfirst : (gap ++ after).head?.any (· == '?') = false ∧ (gap ++ after).head?.any joinsMark = false := by
    obtain ⟨c, rest, rfl⟩ := List.exists_cons_of_ne_nil hne
    exact ⟨hother c List.mem_cons_self, hgap c List.mem_cons_self⟩
  have hend : lonePoint (trailing '?' before) (gap ++ after).head? = lonePoint (trailing '?' before) none := by
    rw [lonePoint, lonePoint, hfirst.2, Option.any_none]
  have hjoined : lone none (before ++ after) = lone none (before.rdropWhile (· == '?')) +
      (lonePoint (trailing '?' before + leading '?' after) (after.dropWhile (· == '?')).head? +
        lone none (after.dropWhile (· == '?'))) := by
    conv_lhs => rw [eq_append_replicate '?' before, eq_replicate_append '?' after, List.append_assoc,
      ← List.append_assoc (List.replicate _ _), List.replicate_append_replicate, lone_append none hbefore,
      lone_replicate_append _ hprev hafter]
  have hafterGap : lone none (gap ++ after) = lonePoint (leading '?' after) (after.dropWhile (· == '?')).head? +
      lone none (after.dropWhile (· == '?')) := by
    conv_lhs => rw [lone_append none hlast, hnone, Nat.zero_add, eq_replicate_append '?' after,
      lone_replicate_append _ hlast' hafter]
  have hapart : lone none (before ++ gap ++ after) = lone none (before.rdropWhile (· == '?')) +
      (lonePoint (trailing '?' before) none + lone none (gap ++ after)) := by
    conv_lhs => rw [eq_append_replicate '?' before, List.append_assoc, List.append_assoc, lone_append none hbefore,
      lone_replicate_append _ hprev hfirst.1, hend]
  omega

end Lone

/-! ### Signs -/

section Signs

/-- What a sign counts in a text: doubled ones, and question marks that stand for a choice. -/
def signPoints (sign : Char) (s : List Char) : Nat := pairs sign s + if sign = '?' then lone none s else 0

/-- What a row of a sign counts, given what follows it. -/
def rowPoints (sign : Char) (n : Nat) (next : Option Char) : Nat := n / 2 + if sign = '?' then lonePoint n next else 0

/-- **Signs at a seam**: the two rows there count as one. -/
theorem signPoints_seam (before after : List Char) {gap : List Char} (hne : gap ≠ []) (hgap : sign ∉ gap)
    (hjoins : ∀ c ∈ gap, joinsMark c = false) :
    signPoints sign (before ++ after) + (rowPoints sign (trailing sign before) none +
        rowPoints sign (leading sign after) (after.dropWhile (· == sign)).head?) =
      signPoints sign (before ++ gap ++ after) +
        rowPoints sign (trailing sign before + leading sign after) (after.dropWhile (· == sign)).head? := by
  have hpairs := pairs_seam before after hne hgap
  unfold signPoints rowPoints
  split_ifs with hsign
  · subst hsign
    have hlone := lone_seam before after hne hjoins
    omega
  · omega

end Signs

end Source
end RepoSurvey
