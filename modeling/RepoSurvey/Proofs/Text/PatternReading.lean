import Mathlib.Data.List.DropRight
import RepoSurvey.Text.Pattern

/-!
# Reading a pattern at a place

How far a place is from the beginning of a text does not matter to a pattern, only the character before it and the
characters after it.

* `Place`, `Pattern.readings`: the places that a pattern reaches from a place, with an equation for each constructor.
* `readings_most_seq`: white space in front of something else is read as far as it goes.
* `Pattern.countFrom`: the number of matches from a place on.
* `countFrom_eq`: it is the only function with the steps of the search.
-/

namespace RepoSurvey

/-- The character before a place in a text, and the characters after it. -/
abbrev Place := Option Char × List Char

/-- A place without its distance and without what has been captured. -/
def Cursor.place (c : Cursor) : Place := (c.previous, c.rest)

namespace Pattern

variable {p q : Pattern} {prev : Option Char} {c : Char} {s : List Char} {accepts : Char → Bool}

/-! ### The edges of a text -/

section Edges

theorem any_head?_dropWhile (accepts : Char → Bool) (s : List Char) :
    (s.dropWhile accepts).head?.any accepts = false := by
  have h := List.head?_dropWhile_not accepts s
  cases hhead : (s.dropWhile accepts).head? with
  | none => rfl
  | some c =>
    rw [hhead] at h
    exact h

theorem any_getLast?_rdropWhile (accepts : Char → Bool) (s : List Char) :
    (s.rdropWhile accepts).getLast?.any accepts = false := by
  rw [List.rdropWhile, List.getLast?_reverse]
  exact any_head?_dropWhile accepts s.reverse

theorem takeWhile_eq_nil (h : s.head?.any accepts = false) : s.takeWhile accepts = [] := by
  cases s with
  | nil => rfl
  | cons c rest => exact List.takeWhile_cons_of_neg (by simpa using h)

theorem any_head?_of_takeWhile_eq_nil (h : s.takeWhile accepts = []) : s.head?.any accepts = false := by
  cases s with
  | nil => rfl
  | cons c rest => cases hc : accepts c <;> simp_all

theorem any_getLast?_of_rtakeWhile_eq_nil (h : s.rtakeWhile accepts = []) : s.getLast?.any accepts = false := by
  rw [← List.head?_reverse]
  exact any_head?_of_takeWhile_eq_nil (List.reverse_eq_nil_iff.mp h)

theorem dropWhile_eq_self (h : s.head?.any accepts = false) : s.dropWhile accepts = s := by
  cases s with
  | nil => rfl
  | cons c rest => exact List.dropWhile_cons_of_neg (by simpa using h)

theorem takeWhile_append_edge {letters : List Char} (hletters : ∀ c ∈ letters, accepts c = true)
    (h : s.head?.any accepts = false) : (letters ++ s).takeWhile accepts = letters := by
  rw [List.takeWhile_append_of_pos hletters, takeWhile_eq_nil h, List.append_nil]

/-- A text of a class is the whole first stretch of the class if nothing goes on with it. -/
theorem takeWhile_append_eq_iff {letters : List Char} (hletters : ∀ c ∈ letters, accepts c = true) :
    (letters ++ s).takeWhile accepts = letters ↔ s.head?.any accepts = false := by
  constructor
  · intro h
    rw [List.takeWhile_append_of_pos hletters, List.append_right_eq_self] at h
    exact any_head?_of_takeWhile_eq_nil h
  · exact takeWhile_append_edge hletters

theorem dropWhile_append_edge {letters : List Char} (hletters : ∀ c ∈ letters, accepts c = true)
    (h : s.head?.any accepts = false) : (letters ++ s).dropWhile accepts = s := by
  rw [List.dropWhile_append_of_pos hletters, dropWhile_eq_self h]

/-- What follows a text does not matter if the text does not belong to the class as a whole. -/
theorem takeWhile_append_of_not_all (h : ¬∀ c ∈ s, accepts c = true) (after : List Char) :
    (s ++ after).takeWhile accepts = s.takeWhile accepts := by
  have hpos := List.length_pos_iff.mpr fun hnil => h (List.dropWhile_eq_nil_iff.mp hnil)
  have hlength := congrArg List.length (List.takeWhile_append_dropWhile (p := accepts) (l := s))
  rw [List.length_append] at hlength
  rw [List.takeWhile_append, if_neg (by omega)]

theorem dropWhile_append_of_not_all (h : ¬∀ c ∈ s, accepts c = true) (after : List Char) :
    (s ++ after).dropWhile accepts = s.dropWhile accepts ++ after := by
  rw [List.dropWhile_append, if_neg fun hnil => h (List.dropWhile_eq_nil_iff.mp (List.isEmpty_iff.mp hnil))]

theorem rtakeWhile_append_edge {letters : List Char} (hletters : ∀ c ∈ letters, accepts c = true)
    (h : s.getLast?.any accepts = false) : (s ++ letters).rtakeWhile accepts = letters := by
  rw [List.rtakeWhile, List.reverse_append, takeWhile_append_edge (fun c hc => hletters c (List.mem_reverse.mp hc))
    (by rwa [List.head?_reverse]), List.reverse_reverse]

theorem rdropWhile_append_edge {letters : List Char} (hletters : ∀ c ∈ letters, accepts c = true)
    (h : s.getLast?.any accepts = false) : (s ++ letters).rdropWhile accepts = s := by
  rw [List.rdropWhile, List.reverse_append, dropWhile_append_edge (fun c hc => hletters c (List.mem_reverse.mp hc))
    (by rwa [List.head?_reverse]), List.reverse_reverse]

theorem getLast?_cons_or {α : Type} (first : α) (rest : List α) (prev : Option α) :
    (first :: rest).getLast?.or prev = rest.getLast?.or (some first) := by
  rw [List.getLast?_cons]
  cases rest.getLast? <;> rfl

end Edges

/-! ### Readings -/

section Readings

/-- Every way to read a pattern from a place, the preferred one first. -/
def readings (p : Pattern) (place : Place) : List Place := (p.ends ⟨0, place.1, place.2, none⟩).map Cursor.place

/-- The places reached by reading characters of a class, the nearest one first. -/
def placesWithin (accepts : Char → Bool) : Option Char → List Char → List Place
  | prev, [] => [(prev, [])]
  | prev, c :: rest => (prev, c :: rest) :: if accepts c then placesWithin accepts (some c) rest else []

-- one step of each reading
attribute [local simp] ends letterEnds placesWithin Cursor.place

theorem map_place_stops (accepts : Char → Bool) (captured : Option (Nat × List Char)) (n : Nat) (prev : Option Char)
    (s : List Char) : (stops accepts captured n prev s).map Cursor.place = placesWithin accepts prev s := by
  induction s generalizing n prev with
  | nil => rfl
  | cons c rest ih =>
    rw [stops, placesWithin, List.map_cons]
    split
    · rw [ih]
      rfl
    · rfl

/-- The place after a text's first letters, if these are its first ones. -/
def placeAfter (letters : List Char) (place : Place) : List Place :=
  if letters <+: place.2 then [(letters.getLast?.or place.1, place.2.drop letters.length)] else []

theorem placeAfter_cons (c d : Char) (letters rest : List Char) (prev : Option Char) :
    placeAfter (c :: letters) (prev, d :: rest) = if c = d then placeAfter letters (some d, rest) else [] := by
  unfold placeAfter
  rw [getLast?_cons_or, List.length_cons, List.drop_succ_cons]
  by_cases h : c = d
  · simp [List.cons_prefix_cons, h]
  · simp [List.cons_prefix_cons, h]

theorem map_place_letterEnds (letters : List Char) (c : Cursor) :
    (letterEnds letters c).map Cursor.place = placeAfter letters c.place := by
  induction letters generalizing c with
  | nil => simp [placeAfter]
  | cons l letters ih =>
    obtain ⟨n, prev, rest, captured⟩ := c
    cases rest with
    | nil => simp [placeAfter]
    | cons d rest =>
      rw [letterEnds, Cursor.place, placeAfter_cons, apply_ite (List.map Cursor.place), ih]
      rfl

/-- A pattern is read by the place alone. -/
theorem map_place_ends (p : Pattern) (c : Cursor) : (p.ends c).map Cursor.place = p.readings c.place := by
  have hstops (accepts : Char → Bool) (c : Cursor) : (stops accepts c.captured c.position c.previous c.rest).map
      Cursor.place = (stops accepts none 0 c.previous c.rest).map Cursor.place := by
    rw [map_place_stops, map_place_stops]
  have hite := apply_ite (List.map Cursor.place)
  induction p generalizing c with
  | one accepts =>
    obtain ⟨n, prev, rest, captured⟩ := c
    cases rest with
    | nil => rfl
    | cons d rest =>
      simp only [readings, ends, Cursor.place]
      split <;> rfl
  | most atLeast accepts =>
    simp only [readings, ends, List.map_reverse, List.map_drop, hstops, Cursor.place]
  | fewest atLeast accepts => simp only [readings, ends, List.map_drop, hstops, Cursor.place]
  | word letters => simp only [readings, ends, map_place_letterEnds, Cursor.place]
  | seq first second ih₁ ih₂ =>
    have hsplit (c : Cursor) : ((first.ends c).flatMap second.ends).map Cursor.place =
        ((first.ends c).map Cursor.place).flatMap second.readings := by
      rw [List.map_flatMap, List.flatMap_map]
      exact List.flatMap_congr fun e _ => ih₂ e
    rw [readings, ends, ends, hsplit, hsplit, ih₁, ih₁]
    rfl
  | alt first second ih₁ ih₂ => rw [readings, ends, ends, List.map_append, List.map_append, ih₁, ih₂, ih₁, ih₂]; rfl
  | opt inner ih => rw [readings, ends, ends, List.map_append, List.map_append, ih, ih]; rfl
  | capture inner ih =>
    have hforget (c : Cursor) (captured : Cursor → Option (Nat × List Char)) :
        ((inner.ends c).map fun e => { e with captured := captured e }).map Cursor.place = inner.readings c.place := by
      rw [List.map_map, ← ih]
      rfl
    rw [readings, ends, ends, hforget, hforget]
    rfl
  | absent inner ih =>
    have hempty (c : Cursor) : (inner.ends c).isEmpty = (inner.readings c.place).isEmpty := by
      rw [← ih, List.isEmpty_map]
    rw [readings, ends, ends, hempty, hempty, hite, hite]
    rfl
  | notAfter accepts =>
    rw [readings, ends, ends, hite, hite]
    rfl
  | lineStart =>
    rw [readings, ends, ends, hite, hite]
    rfl
  | boundary =>
    rw [readings, ends, ends, hite, hite]
    rfl

theorem readings_seq (p q : Pattern) (place : Place) :
    (seq p q).readings place = (p.readings place).flatMap q.readings := by
  rw [readings, ends, List.map_flatMap, readings, List.flatMap_map]
  exact List.flatMap_congr fun e _ => map_place_ends q e

theorem readings_sequence (p q : Pattern) (rest : List Pattern) (place : Place) :
    (sequence (p :: q :: rest)).readings place = (p.readings place).flatMap (sequence (q :: rest)).readings :=
  readings_seq p (sequence (q :: rest)) place

theorem readings_alt (p q : Pattern) (place : Place) :
    (alt p q).readings place = p.readings place ++ q.readings place :=
  List.map_append

theorem readings_word (letters : List Char) (place : Place) :
    (word letters).readings place = placeAfter letters place :=
  map_place_letterEnds letters _

/-- Nothing is read at a place before a character of a class, or after one. -/
theorem readings_absent_one (accepts : Char → Bool) (place : Place) :
    (absent (one accepts)).readings place = if place.2.head?.any accepts then [] else [place] := by
  obtain ⟨prev, s⟩ := place
  cases s with
  | nil => rfl
  | cons c rest =>
    cases h : accepts c <;> simp [readings, h]

theorem readings_notAfter (accepts : Char → Bool) (place : Place) :
    (notAfter accepts).readings place = if place.1.any accepts then [] else [place] := by
  rw [readings, ends, apply_ite (List.map Cursor.place)]
  rfl

theorem readings_boundary (place : Place) : boundary.readings place =
    if place.1.any Text.isWord != place.2.head?.any Text.isWord then [place] else [] := by
  rw [readings, ends, apply_ite (List.map Cursor.place)]
  rfl

/-- A word at the beginning of a word. -/
theorem readings_boundary_word {letters : List Char} (hne : letters ≠ [])
    (hletters : ∀ c ∈ letters, Text.isWord c = true) (q : Pattern) (rest : List Pattern) (prev : Option Char)
    (s : List Char) : (sequence (boundary :: word letters :: q :: rest)).readings (prev, s) =
      if prev.any Text.isWord = false ∧ letters <+: s then
        (sequence (q :: rest)).readings (letters.getLast?, s.drop letters.length) else [] := by
  have hreadings : (sequence (boundary :: word letters :: q :: rest)).readings (prev, s) =
      (boundary.readings (prev, s)).flatMap fun place =>
        (placeAfter letters place).flatMap (sequence (q :: rest)).readings := by
    rw [readings_sequence]
    exact List.flatMap_congr fun place _ => by rw [readings_sequence, readings_word]
  rw [hreadings, readings_boundary]
  by_cases hs : letters <+: s
  · obtain ⟨s, rfl⟩ := hs
    have hhead : (letters ++ s).head?.any Text.isWord = true := by
      obtain ⟨c, tail, rfl⟩ := List.exists_cons_of_ne_nil hne
      exact hletters c List.mem_cons_self
    have hlast : letters.getLast?.or prev = letters.getLast? := by
      rw [List.getLast?_eq_some_getLast hne, Option.some_or]
    rw [hhead]
    cases prev.any Text.isWord <;> simp [placeAfter, hlast]
  · cases prev.any Text.isWord != s.head?.any Text.isWord <;> simp [placeAfter, hs]

/-- The places in characters of a class: all but the last one stand before one of them. -/
theorem flatMap_placesWithin {f : Place → List Place} (hf : ∀ prev c rest, accepts c = true → f (prev, c :: rest) = [])
    (n : Nat) (prev : Option Char) (s : List Char) :
    ((placesWithin accepts prev s).drop n).reverse.flatMap f =
      if n ≤ (s.takeWhile accepts).length then f ((s.takeWhile accepts).getLast?.or prev, s.dropWhile accepts)
      else [] := by
  induction s generalizing n prev with
  | nil => cases n <;> simp
  | cons c rest ih =>
    by_cases hc : accepts c = true
    · rw [placesWithin, if_pos hc, List.takeWhile_cons_of_pos hc, List.dropWhile_cons_of_pos hc, getLast?_cons_or]
      cases n with
      | zero =>
        have hrest := ih 0 (some c)
        rw [List.drop_zero, if_pos (Nat.zero_le _)] at hrest
        rw [List.drop_zero, List.reverse_cons, List.flatMap_append, hrest, List.flatMap_singleton, hf prev c rest hc,
          List.append_nil, if_pos (Nat.zero_le _)]
      | succ n => simp only [List.drop_succ_cons, ih, List.length_cons, Nat.add_le_add_iff_right]
    · rw [placesWithin, if_neg hc, List.takeWhile_cons_of_neg hc, List.dropWhile_cons_of_neg hc]
      cases n <;> simp

/-- Characters of a class are read as far as they go, if what comes next cannot begin with one of them. -/
theorem readings_most_seq (hq : ∀ prev c rest, accepts c = true → q.readings (prev, c :: rest) = []) (n : Nat)
    (prev : Option Char) (s : List Char) :
    (seq (most n accepts) q).readings (prev, s) = if n ≤ (s.takeWhile accepts).length then
      q.readings ((s.takeWhile accepts).getLast?.or prev, s.dropWhile accepts) else [] := by
  rw [readings_seq, readings, ends, List.map_reverse, List.map_drop, map_place_stops, flatMap_placesWithin hq]

/-- What comes after as few characters as possible is looked for at one place after the other. -/
theorem readings_fewest_seq (accepts : Char → Bool) (q : Pattern) (prev : Option Char) (s : List Char) :
    (seq (fewest 0 accepts) q).readings (prev, s) = q.readings (prev, s) ++
      match s with
      | [] => []
      | c :: rest => if accepts c then (seq (fewest 0 accepts) q).readings (some c, rest) else [] := by
  have hplaces (prev : Option Char) (s : List Char) : (seq (fewest 0 accepts) q).readings (prev, s) =
      (placesWithin accepts prev s).flatMap q.readings := by
    rw [readings_seq, readings, ends, List.drop_zero, map_place_stops]
  rw [hplaces]
  cases s with
  | nil => simp
  | cons c rest =>
    simp only [placesWithin, List.flatMap_cons, hplaces]
    split <;> rfl

end Readings

/-! ### Matches from a place on -/

section Count

/-- The preferred way to read a pattern from a place. -/
def reads? (p : Pattern) (place : Place) : Option Place := (p.readings place).head?

def countFrom (p : Pattern) (place : Place) : Nat := (p.findFrom ⟨0, place.1, place.2, none⟩).length

theorem map_place_match? (p : Pattern) (c : Cursor) : (p.match? c).map Cursor.place = p.reads? c.place := by
  rw [match?, reads?, ← map_place_ends, List.head?_map]

/-- A match is counted, and the search goes on where it ends. -/
theorem length_findFrom_of_reads? {c : Cursor} {place : Place} (h : p.reads? c.place = some place)
    (hlt : place.2.length < c.rest.length) :
    ∃ e : Cursor, e.place = place ∧ (p.findFrom c).length = (p.findFrom e).length + 1 := by
  have hmatch : (p.match? { c with captured := none }).map Cursor.place = some place := by
    rw [map_place_match?]
    exact h
  obtain ⟨e, he, rfl⟩ := Option.map_eq_some_iff.mp hmatch
  refine ⟨e, rfl, ?_⟩
  rw [findFrom, he]
  simp only [if_pos (show e.rest.length < c.rest.length from hlt), List.length_cons]

/-- Without a match, or with one without characters, the search goes on one character further. -/
theorem length_findFrom_of_skip {n : Nat} {captured : Option (Nat × List Char)}
    (h : ∀ place, p.reads? (prev, c :: s) = some place → ¬place.2.length < (c :: s).length) :
    (p.findFrom ⟨n, prev, c :: s, captured⟩).length = (p.findFrom ⟨n + 1, some c, s, none⟩).length := by
  rw [findFrom]
  cases hmatch : p.match? ⟨n, prev, c :: s, none⟩ with
  | none => rfl
  | some e =>
    have hreads : p.reads? (prev, c :: s) = some e.place := by
      rw [← Option.map_some, ← hmatch, map_place_match?]
      rfl
    simp only [if_neg (show ¬e.rest.length < (c :: s).length from h _ hreads)]

theorem findFrom_nil (p : Pattern) (n : Nat) (prev : Option Char) (captured : Option (Nat × List Char)) :
    p.findFrom ⟨n, prev, [], captured⟩ = [] := by
  rw [findFrom]
  split
  · simp
  · rfl

/-- The number of matches does not depend on the distance from the beginning. -/
theorem length_findFrom (p : Pattern) (c : Cursor) : (p.findFrom c).length = p.countFrom c.place := by
  have hsame (n : Nat) : ∀ c c' : Cursor, c.rest.length = n → c.place = c'.place →
      (p.findFrom c).length = (p.findFrom c').length := by
    induction n using Nat.strongRecOn with
    | _ n ih =>
      rintro ⟨k, prev, s, captured⟩ ⟨k', prev', s', captured'⟩ hn hplace
      obtain ⟨rfl, rfl⟩ : prev = prev' ∧ s = s' := Prod.mk.inj hplace
      cases s with
      | nil => rw [findFrom_nil, findFrom_nil]
      | cons d rest =>
        by_cases h : ∃ place, p.reads? (prev, d :: rest) = some place ∧ place.2.length < (d :: rest).length
        · obtain ⟨place, hreads, hlt⟩ := h
          obtain ⟨e, rfl, hlength⟩ := length_findFrom_of_reads? (c := ⟨k, prev, d :: rest, captured⟩) hreads hlt
          obtain ⟨e', he', hlength'⟩ := length_findFrom_of_reads? (c := ⟨k', prev, d :: rest, captured'⟩) hreads hlt
          have hshort : e.rest.length < n := hn ▸ hlt
          rw [hlength, hlength', ih _ hshort e e' rfl he'.symm]
        · have hskip : ∀ place, p.reads? (prev, d :: rest) = some place → ¬place.2.length < (d :: rest).length :=
            fun place hreads hlt => h ⟨place, hreads, hlt⟩
          rw [length_findFrom_of_skip hskip, length_findFrom_of_skip hskip]
          exact ih rest.length (hn ▸ Nat.lt_succ_self _) _ _ rfl rfl
  exact hsame _ c _ rfl rfl

theorem count_eq_countFrom (p : Pattern) (s : List Char) : p.count s = p.countFrom (none, s) := rfl

theorem countFrom_nil (p : Pattern) (prev : Option Char) : p.countFrom (prev, []) = 0 := by
  rw [countFrom, findFrom_nil, List.length_nil]

theorem countFrom_of_reads? {place place' : Place} (h : p.reads? place = some place')
    (hlt : place'.2.length < place.2.length) : p.countFrom place = p.countFrom place' + 1 := by
  obtain ⟨e, rfl, hlength⟩ := length_findFrom_of_reads? (c := ⟨0, place.1, place.2, none⟩) h hlt
  rw [← length_findFrom p e, ← hlength]
  rfl

theorem countFrom_of_reads?_eq_none (h : p.reads? (prev, c :: s) = none) :
    p.countFrom (prev, c :: s) = p.countFrom (some c, s) := by
  rw [countFrom, length_findFrom_of_skip (fun place hreads => by rw [h] at hreads; cases hreads), length_findFrom]
  rfl

/-- What counts as the search does, counts the matches. -/
theorem countFrom_eq {f : Option Char → List Char → Nat} (hnil : ∀ prev, f prev [] = 0)
    (hshort : ∀ place place', p.reads? place = some place' → place'.2.length < place.2.length)
    (hread : ∀ place place', p.reads? place = some place' → f place.1 place.2 = f place'.1 place'.2 + 1)
    (hskip : ∀ prev c rest, p.reads? (prev, c :: rest) = none → f prev (c :: rest) = f (some c) rest)
    (prev : Option Char) (s : List Char) : p.countFrom (prev, s) = f prev s := by
  induction hn : s.length using Nat.strongRecOn generalizing prev s with
  | _ n ih =>
    cases hreads : p.reads? (prev, s) with
    | some place =>
      have hlt := hshort _ _ hreads
      rw [countFrom_of_reads? hreads hlt, hread _ _ hreads, ih _ (hn ▸ hlt) _ _ rfl]
    | none =>
      cases s with
      | nil => rw [countFrom_nil, hnil]
      | cons c rest =>
        rw [countFrom_of_reads?_eq_none hreads, hskip prev c rest hreads]
        exact ih rest.length (hn ▸ Nat.lt_succ_self _) _ _ rfl

end Count

end Pattern
end RepoSurvey
