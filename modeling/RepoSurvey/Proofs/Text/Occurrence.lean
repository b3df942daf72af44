import RepoSurvey.Proofs.Text.PatternReading

/-!
# Matches in a text

Where the matches of a pattern begin and end in a text, and what can be read there.

* `Cursor.Reaches`: one place of a text is behind another one; `reaches_ends`: a reading goes forward only.
* `placeIn`: the place of a text with a number of characters before it.
* `reads_of_mem_findAll`: a match is a reading between two such places; `pairwise_findAll`: matches do not overlap.
-/

namespace RepoSurvey

/-! ### Going forward -/

namespace Cursor

/-- A place behind another one, told by the characters in between. -/
def Reaches (c e : Cursor) : Prop :=
  ∃ read, c.rest = read ++ e.rest ∧ e.position = c.position + read.length ∧ e.previous = read.getLast?.or c.previous

variable {c d e : Cursor}

theorem Reaches.refl (c : Cursor) : c.Reaches c := ⟨[], rfl, rfl, rfl⟩

theorem Reaches.trans (h : c.Reaches d) (h' : d.Reaches e) : c.Reaches e := by
  obtain ⟨read, hrest, hposition, hprevious⟩ := h
  obtain ⟨read', hrest', hposition', hprevious'⟩ := h'
  refine ⟨read ++ read', ?_, ?_, ?_⟩
  · rw [hrest, hrest', List.append_assoc]
  · rw [hposition', hposition, List.length_append]
    omega
  · rw [hprevious', hprevious, List.getLast?_append, Option.or_assoc]

theorem reaches_next {l : Char} {rest : List Char} (h : c.rest = l :: rest) (captured : Option (Nat × List Char)) :
    c.Reaches ⟨c.position + 1, some l, rest, captured⟩ := ⟨[l], h, rfl, rfl⟩

theorem Reaches.position_le (h : c.Reaches e) : c.position ≤ e.position := by
  obtain ⟨read, -, hposition, -⟩ := h
  omega

/-- As many characters are read as the position goes forward. -/
theorem Reaches.length_add (h : c.Reaches e) : e.position + e.rest.length = c.position + c.rest.length := by
  obtain ⟨read, hrest, hposition, -⟩ := h
  rw [hrest, hposition, List.length_append]
  omega

end Cursor

namespace Pattern

variable {p : Pattern} {c e : Cursor} {s : List Char}

section Reach

theorem reaches_stops (accepts : Char → Bool) (captured captured' : Option (Nat × List Char)) (n : Nat)
    (prev : Option Char) (s : List Char) :
    ∀ e ∈ stops accepts captured n prev s, Cursor.Reaches ⟨n, prev, s, captured'⟩ e := by
  induction s generalizing n prev captured' with
  | nil =>
    intro e he
    obtain rfl := List.mem_singleton.mp he
    exact ⟨[], rfl, rfl, rfl⟩
  | cons l rest ih =>
    intro e he
    rw [stops] at he
    rcases List.mem_cons.mp he with rfl | he
    · exact ⟨[], rfl, rfl, rfl⟩
    · split_ifs at he
      · exact (Cursor.reaches_next rfl captured).trans (ih captured (n + 1) (some l) e he)
      · exact absurd he List.not_mem_nil

theorem reaches_letterEnds {letters : List Char} (h : e ∈ letterEnds letters c) : c.Reaches e := by
  induction letters generalizing c with
  | nil =>
    obtain rfl := List.mem_singleton.mp h
    exact .refl e
  | cons l letters ih =>
    rw [letterEnds] at h
    split at h
    · exact absurd h List.not_mem_nil
    · next l' rest hrest =>
      split_ifs at h
      · exact (Cursor.reaches_next hrest c.captured).trans (ih h)
      · exact absurd h List.not_mem_nil

/-- A pattern that only looks at a place stays there. -/
theorem reaches_of_mem_ite {test : Prop} [Decidable test] (h : e ∈ if test then [c] else []) : c.Reaches e := by
  split_ifs at h
  · exact List.mem_singleton.mp h ▸ .refl c
  · exact absurd h List.not_mem_nil

/-- A pattern is read forward. -/
theorem reaches_ends (p : Pattern) {c e : Cursor} (h : e ∈ p.ends c) : c.Reaches e := by
  induction p generalizing c e with
  | one accepts =>
    rw [ends] at h
    split at h
    · exact absurd h List.not_mem_nil
    · next l rest hrest =>
      split_ifs at h
      · exact List.mem_singleton.mp h ▸ Cursor.reaches_next hrest c.captured
      · exact absurd h List.not_mem_nil
  | most atLeast accepts =>
    exact reaches_stops accepts _ c.captured _ _ _ e (List.mem_of_mem_drop (List.mem_reverse.mp h))
  | fewest atLeast accepts => exact reaches_stops accepts _ c.captured _ _ _ e (List.mem_of_mem_drop h)
  | word letters => exact reaches_letterEnds h
  | seq first second ih ih' =>
    obtain ⟨d, hd, he⟩ := List.mem_flatMap.mp h
    exact (ih hd).trans (ih' he)
  | alt first second ih ih' =>
    rcases List.mem_append.mp h with hfirst | hsecond
    · exact ih hfirst
    · exact ih' hsecond
  | opt inner ih =>
    rcases List.mem_append.mp h with hinner | hself
    · exact ih hinner
    · exact List.mem_singleton.mp hself ▸ .refl c
  | capture inner ih =>
    obtain ⟨d, hd, rfl⟩ := List.mem_map.mp h
    exact ih (e := d) hd
  | absent inner => exact reaches_of_mem_ite h
  | notAfter accepts =>
    rw [ends, ← ite_not] at h
    exact reaches_of_mem_ite h
  | lineStart => exact reaches_of_mem_ite h
  | boundary => exact reaches_of_mem_ite h

end Reach

/-! ### Matches -/

section Matches

/-- A match is a reading at a place behind the one at which the search begins. -/
theorem exists_ends_of_mem_findFrom {o : Occurrence} (h : o ∈ p.findFrom c) : ∃ b e : Cursor, c.Reaches b ∧
    e ∈ p.ends b ∧ o.start = b.position ∧ o.finish = e.position ∧ e.rest.length < b.rest.length := by
  fun_induction findFrom p c with
  | case1 c e hmatch hshort ih =>
    have hends := List.mem_of_mem_head? hmatch
    rcases List.mem_cons.mp h with rfl | hlater
    · exact ⟨{ c with captured := none }, e, .refl c, hends, rfl, rfl, hshort⟩
    · obtain ⟨b, e', hb, hrest⟩ := ih hlater
      exact ⟨b, e', (reaches_ends p hends).trans hb, hrest⟩
  | case2 => exact absurd h List.not_mem_nil
  | case3 c e hmatch hshort l rest hrest ih =>
    obtain ⟨b, e', hb, hrest'⟩ := ih h
    exact ⟨b, e', (Cursor.reaches_next hrest none).trans hb, hrest'⟩
  | case4 => exact absurd h List.not_mem_nil
  | case5 c hmatch l rest hrest ih =>
    obtain ⟨b, e', hb, hrest'⟩ := ih h
    exact ⟨b, e', (Cursor.reaches_next hrest none).trans hb, hrest'⟩

theorem pairwise_findFrom (p : Pattern) (c : Cursor) : (p.findFrom c).Pairwise fun o o' => o.finish ≤ o'.start := by
  fun_induction findFrom p c with
  | case1 c e hmatch hshort ih =>
    refine List.pairwise_cons.mpr ⟨fun o' ho' => ?_, ih⟩
    obtain ⟨b, -, hb, -, hstart, -⟩ := exists_ends_of_mem_findFrom ho'
    exact hstart ▸ hb.position_le
  | case2 => exact .nil
  | case3 _ _ _ _ _ _ _ ih => exact ih
  | case4 => exact .nil
  | case5 _ _ _ _ _ ih => exact ih

/-- The place of a text with `n` characters before it. -/
def placeIn (s : List Char) (n : Nat) : Place := ((s.take n).getLast?, s.drop n)

theorem place_of_reaches (h : (Cursor.start s).Reaches c) : c.place = placeIn s c.position := by
  obtain ⟨read, hrest, hposition, hprevious⟩ := h
  have hs : s = read ++ c.rest := hrest
  have hlength : c.position = read.length := by rw [hposition, Cursor.start, Nat.zero_add]
  rw [Cursor.start, Option.or_none] at hprevious
  rw [placeIn, hlength, Cursor.place, hprevious, hs, List.take_left, List.drop_left]

/-- **A match is a reading** from the place where it begins to the one where it ends. -/
theorem reads_of_mem_findAll {o : Occurrence} (h : o ∈ p.findAll s) :
    o.start < o.finish ∧ o.finish ≤ s.length ∧ placeIn s o.finish ∈ p.readings (placeIn s o.start) := by
  obtain ⟨b, e, hb, hends, hstart, hfinish, hshort⟩ := exists_ends_of_mem_findFrom h
  have hreach := reaches_ends p hends
  have hlength := hreach.length_add
  have hwhole := (hb.trans hreach).length_add
  simp only [Cursor.start] at hwhole
  refine ⟨by omega, by omega, ?_⟩
  rw [hstart, hfinish, ← place_of_reaches hb, ← place_of_reaches (hb.trans hreach), ← map_place_ends]
  exact List.mem_map_of_mem hends

/-- **Matches do not overlap**, and come in the order of the text. -/
theorem pairwise_findAll (p : Pattern) (s : List Char) : (p.findAll s).Pairwise fun o o' => o.finish ≤ o'.start :=
  pairwise_findFrom p (.start s)

end Matches

end Pattern
end RepoSurvey
