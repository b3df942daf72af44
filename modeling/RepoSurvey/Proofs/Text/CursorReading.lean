import RepoSurvey.Proofs.Text.Occurrence

/-!
# What a pattern captures

A captured stretch of text is told by its distance from the beginning, so a pattern with one is read at a cursor and not
at a place alone.

* `Cursor.past`, `Cursor.capturing`: the cursor behind the next characters, and the one that has captured them.
* `mem_ends_most`: the ways to read characters of a class.
* `match?_seq_of_runs`: a run of a class is read as far as it goes, if what comes next cannot begin with the class.
* `match?_most`: a run with nothing behind it is read as far as it goes.
-/

namespace RepoSurvey

/-! ### The cursor behind some characters -/

namespace Cursor

/-- The cursor behind the next characters, told by them and by the characters that remain. -/
def past (c : Cursor) (read rest : List Char) : Cursor :=
  ⟨c.position + read.length, read.getLast?.or c.previous, rest, c.captured⟩

/-- The cursor behind the next characters, which it has captured. -/
def capturing (c : Cursor) (read rest : List Char) : Cursor :=
  { c.past read rest with captured := some (c.position, read) }

variable {c : Cursor} {read read' rest : List Char}

@[simp] theorem past_rest : (c.past read rest).rest = rest := rfl

@[simp] theorem past_position : (c.past read rest).position = c.position + read.length := rfl

@[simp] theorem capturing_captured : (c.capturing read rest).captured = some (c.position, read) := rfl

@[simp] theorem past_captured : (c.past read rest).captured = c.captured := rfl

theorem past_nil : c.past [] c.rest = c := rfl

theorem past_cons (first : Char) :
    c.past (first :: read) rest = past ⟨c.position + 1, some first, read ++ rest, c.captured⟩ read rest := by
  rw [past, past, Pattern.getLast?_cons_or, List.length_cons, Nat.add_assoc, Nat.add_comm 1]

theorem past_past : (c.past read (read' ++ rest)).past read' rest = c.past (read ++ read') rest := by
  simp only [past, List.length_append, List.getLast?_append, Option.or_assoc, Nat.add_assoc]

end Cursor

namespace Pattern

variable {p q : Pattern} {c d e : Cursor} {accepts : Char → Bool} {letters s : List Char} {n : Nat}

/-! ### Words -/

section Words

theorem ends_word (h : c.rest = letters ++ s) : (word letters).ends c = [c.past letters s] := by
  rw [ends]
  induction letters generalizing c with
  | nil =>
    rw [letterEnds, ← List.nil_append s, ← h]
    exact (congrArg List.singleton Cursor.past_nil).symm
  | cons l letters ih =>
    rw [letterEnds, h, List.cons_append, Cursor.past_cons]
    simp only [if_true]
    exact ih rfl

/-- Behind a word the pattern goes on. -/
theorem match?_word_seq (h : c.rest = letters ++ s) : (seq (word letters) q).match? c = q.match? (c.past letters s) := by
  rw [match?, ends, ends_word h, List.flatMap_singleton, match?]

theorem ends_word_seq_of_mismatch (h : ¬letters <+: c.rest) : (seq (word letters) q).ends c = [] := by
  have hword : (letterEnds letters c).map Cursor.place = [] := by
    rw [map_place_letterEnds, placeAfter]
    exact if_neg h
  rw [ends, ends, List.map_eq_nil_iff.mp hword, List.flatMap_nil]

/-- A word is not read where a character stands that cannot be its first one. -/
theorem ends_word_seq_of_first {l : Char} (hl : accepts l = false) (h : c.rest.head?.any accepts = true) :
    (seq (word (l :: letters)) q).ends c = [] := by
  refine ends_word_seq_of_mismatch fun hprefix => ?_
  obtain ⟨s, hs⟩ := hprefix
  rw [← hs, List.cons_append, List.head?_cons, Option.any_some, hl] at h
  cases h

end Words

/-! ### Runs of a class -/

section Runs

variable {captured : Option (Nat × List Char)} {position : Nat} {previous : Option Char} {read rest : List Char}

theorem past_mem_stops (hread : ∀ l ∈ read, accepts l = true) (hn : n ≤ read.length) :
    Cursor.past ⟨position, previous, read ++ rest, captured⟩ read rest ∈
      (stops accepts captured position previous (read ++ rest)).drop n := by
  induction read generalizing n position previous with
  | nil =>
    obtain rfl : n = 0 := Nat.le_zero.mp hn
    cases rest with
    | nil => exact List.mem_singleton_self _
    | cons c rest => exact List.mem_cons_self
  | cons l read ih =>
    rw [List.forall_mem_cons] at hread
    rw [Cursor.past_cons, List.cons_append, stops, if_pos hread.1]
    cases n with
    | zero => exact List.mem_cons_of_mem _ (ih hread.2 (Nat.zero_le _))
    | succ n => exact ih hread.2 (Nat.le_of_succ_le_succ hn)

theorem exists_past_of_mem_stops (he : e ∈ (stops accepts captured position previous s).drop n) :
    ∃ read rest, s = read ++ rest ∧ (∀ l ∈ read, accepts l = true) ∧ n ≤ read.length ∧
      e = Cursor.past ⟨position, previous, s, captured⟩ read rest := by
  induction s generalizing n position previous with
  | nil =>
    cases n with
    | zero =>
      obtain rfl := List.mem_singleton.mp he
      exact ⟨[], [], rfl, List.forall_mem_nil _, le_rfl, rfl⟩
    | succ n => exact absurd he (by rw [stops, List.drop_succ_cons, List.drop_nil]; exact List.not_mem_nil)
  | cons l s ih =>
    have hfurther {m : Nat}
        (hm : e ∈ (if accepts l then stops accepts captured (position + 1) (some l) s else []).drop m) :
        ∃ read rest, l :: s = read ++ rest ∧ (∀ l ∈ read, accepts l = true) ∧ m + 1 ≤ read.length ∧
          e = Cursor.past ⟨position, previous, l :: s, captured⟩ read rest := by
      by_cases hl : accepts l = true
      · rw [if_pos hl] at hm
        obtain ⟨read, rest, rfl, hread, hlength, rfl⟩ := ih hm
        refine ⟨l :: read, rest, rfl, List.forall_mem_cons.mpr ⟨hl, hread⟩, Nat.succ_le_succ hlength, ?_⟩
        rw [Cursor.past_cons]
      · rw [if_neg hl, List.drop_nil] at hm
        exact absurd hm List.not_mem_nil
    rw [stops] at he
    cases n with
    | zero =>
      rcases List.mem_cons.mp he with rfl | he
      · exact ⟨[], l :: s, rfl, List.forall_mem_nil _, le_rfl, rfl⟩
      · obtain ⟨read, rest, hs, hread, -, hpast⟩ := hfurther (m := 0) he
        exact ⟨read, rest, hs, hread, Nat.zero_le _, hpast⟩
    | succ n => exact hfurther he

/-- **Characters of a class** are read up to any place that at least so many of them lead to. -/
theorem mem_ends_most : e ∈ (most n accepts).ends c ↔ ∃ read rest, c.rest = read ++ rest ∧
    (∀ l ∈ read, accepts l = true) ∧ n ≤ read.length ∧ e = c.past read rest := by
  rw [ends, List.mem_reverse]
  constructor
  · exact exists_past_of_mem_stops
  · rintro ⟨read, rest, hrest, hread, hn, rfl⟩
    rw [hrest]
    exact past_mem_stops hread hn

theorem ends_most_eq_nil (h : c.rest.head?.any accepts = false) : (most (n + 1) accepts).ends c = [] := by
  refine List.eq_nil_iff_forall_not_mem.mpr fun e he => ?_
  obtain ⟨read, rest, hrest, hread, hn, -⟩ := mem_ends_most.mp he
  cases read with
  | nil => cases hn
  | cons l read =>
    rw [hrest, List.cons_append, List.head?_cons, Option.any_some, hread l List.mem_cons_self] at h
    cases h

theorem getLast?_drop_stops (hletters : ∀ l ∈ letters, accepts l = true) (hs : s.head?.any accepts = false)
    (hn : n ≤ letters.length) : ((stops accepts captured position previous (letters ++ s)).drop n).getLast? =
      some (Cursor.past ⟨position, previous, letters ++ s, captured⟩ letters s) := by
  induction letters generalizing n position previous with
  | nil =>
    obtain rfl : n = 0 := Nat.le_zero.mp hn
    cases s with
    | nil => rfl
    | cons l s =>
      have hl : accepts l = false := hs
      simp only [List.nil_append, stops, hl]
      rfl
  | cons l letters ih =>
    rw [List.forall_mem_cons] at hletters
    rw [Cursor.past_cons, List.cons_append, stops, if_pos hletters.1]
    cases n with
    | zero =>
      have hlater : (stops accepts captured (position + 1) (some l) (letters ++ s)).getLast? = some _ :=
        ih hletters.2 (Nat.zero_le _)
      rw [List.drop_zero, List.getLast?_cons, hlater]
      rfl
    | succ n => exact ih hletters.2 (Nat.le_of_succ_le_succ hn)

/-- A run with nothing behind it is read as far as it goes. -/
theorem match?_most (h : c.rest = letters ++ s) (hletters : ∀ l ∈ letters, accepts l = true)
    (hs : s.head?.any accepts = false) (hn : n ≤ letters.length) :
    (most n accepts).match? c = some (c.past letters s) := by
  rw [match?, ends, List.head?_reverse, h, getLast?_drop_stops hletters hs hn, ← h]

end Runs

/-! ### Captures -/

section Captures

variable {read rest : List Char}

/-- What has been read is captured. -/
theorem capture_past (h : c.rest = read ++ rest) : ({ c.past read rest with
    captured := some (c.position, c.rest.take ((c.past read rest).position - c.position)) } : Cursor) =
      c.capturing read rest := by
  rw [Cursor.past_position, Nat.add_sub_cancel_left, h, List.take_left]
  rfl

theorem match?_capture (hmatch : p.match? c = some (c.past read rest)) (h : c.rest = read ++ rest) :
    (capture p).match? c = some (c.capturing read rest) := by
  rw [← capture_past h]
  exact List.head?_map.trans (congrArg (Option.map _) hmatch)

theorem capturing_mem_ends (hmem : c.past read rest ∈ p.ends c) (h : c.rest = read ++ rest) :
    c.capturing read rest ∈ (capture p).ends c := by
  rw [← capture_past h]
  exact List.mem_map_of_mem hmem

end Captures

/-! ### The only way to go on -/

section Only

/-- A pattern after which only one place leads on is read up to that place. -/
theorem match?_seq_of_only (he : e ∈ p.ends c) (honly : ∀ d ∈ p.ends c, d = e ∨ q.ends d = []) :
    (seq p q).match? c = q.match? e := by
  have hfirst : (seq p q).match? c = (p.ends c).findSome? q.match? := List.head?_flatMap
  have hdead : ∀ d ∈ p.ends c, d = e ∨ q.match? d = none := by
    intro d hd
    refine (honly d hd).imp_right fun hnil => ?_
    rw [match?, hnil, List.head?_nil]
  rw [hfirst]
  cases hmatch : q.match? e with
  | none =>
    refine List.findSome?_eq_none_iff.mpr fun d hd => ?_
    rcases hdead d hd with rfl | hnone
    · exact hmatch
    · exact hnone
  | some e' =>
    cases hfound : (p.ends c).findSome? q.match? with
    | none => exact absurd (List.findSome?_eq_none_iff.mp hfound e he) (by rw [hmatch]; exact Option.some_ne_none e')
    | some e'' =>
      obtain ⟨d, hd, hd'⟩ := List.exists_of_findSome?_eq_some hfound
      rcases hdead d hd with rfl | hnone
      · rw [← hd', hmatch]
      · rw [hnone] at hd'
        cases hd'

/-- **A run of a class** is read as far as it goes, if what comes next cannot begin with the class. The run may be told
by any cursor behind it, such as one that captures it. -/
theorem match?_seq_of_runs {behind : List Char → List Char → Cursor}
    (hbehind : ∀ read rest, (behind read rest).rest = rest)
    (hruns : ∀ d ∈ p.ends c, ∃ read rest, c.rest = read ++ rest ∧ (∀ l ∈ read, accepts l = true) ∧ d = behind read rest)
    (hq : ∀ d : Cursor, d.rest.head?.any accepts = true → q.ends d = []) (h : c.rest = letters ++ s)
    (hletters : ∀ l ∈ letters, accepts l = true) (hs : s.head?.any accepts = false)
    (hmem : behind letters s ∈ p.ends c) : (seq p q).match? c = q.match? (behind letters s) := by
  refine match?_seq_of_only hmem fun d hd => ?_
  obtain ⟨read, rest, hrest, hread, rfl⟩ := hruns d hd
  rw [h] at hrest
  rcases List.append_eq_append_iff.mp hrest with ⟨more, rfl, rfl⟩ | ⟨more, rfl, rfl⟩
  · -- more than the whole run cannot be read
    cases more with
    | nil => exact .inl (by rw [List.append_nil, List.nil_append])
    | cons l more =>
      rw [List.cons_append, List.head?_cons, Option.any_some,
        hread l (List.mem_append_right _ List.mem_cons_self)] at hs
      cases hs
  · cases more with
    | nil => exact .inl (by rw [List.append_nil, List.nil_append])
    | cons l more =>
      refine .inr (hq _ ?_)
      rw [hbehind]
      exact hletters l (List.mem_append_right _ List.mem_cons_self)

theorem match?_most_seq (hq : ∀ d : Cursor, d.rest.head?.any accepts = true → q.ends d = [])
    (h : c.rest = letters ++ s) (hletters : ∀ l ∈ letters, accepts l = true) (hs : s.head?.any accepts = false)
    (hn : n ≤ letters.length) : (seq (most n accepts) q).match? c = q.match? (c.past letters s) := by
  refine match?_seq_of_runs (fun _ _ => rfl) (fun d hd => ?_) hq h hletters hs ?_
  · obtain ⟨read, rest, hrest, hread, -, rfl⟩ := mem_ends_most.mp hd
    exact ⟨read, rest, hrest, hread, rfl⟩
  · exact mem_ends_most.mpr ⟨letters, s, h, hletters, hn, rfl⟩

end Only

/-! ### The search for matches -/

section Search

/-- A match with characters is found, and the search goes on where it ends. -/
theorem findFrom_of_match? (h : p.match? { c with captured := none } = some e) (hlt : e.rest.length < c.rest.length) :
    p.findFrom c = ⟨c.position, e.position, e.captured⟩ :: p.findFrom e := by
  rw [findFrom, h]
  exact if_pos hlt

/-- Without a match the search goes on one character further. -/
theorem findFrom_of_none {l : Char} {rest : List Char} (h : p.match? { c with captured := none } = none)
    (hrest : c.rest = l :: rest) : p.findFrom c = p.findFrom ⟨c.position + 1, some l, rest, none⟩ := by
  obtain ⟨position, previous, rest', captured⟩ := c
  obtain rfl : rest' = l :: rest := hrest
  rw [findFrom, h]

end Search

end Pattern
end RepoSurvey
