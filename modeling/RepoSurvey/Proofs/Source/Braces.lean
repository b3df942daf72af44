import RepoSurvey.Proofs.Source.FunctionScore

/-!
# Braces and the end of a function

The end of a function is looked for line by line, by the balance of the braces from its first line on. All that the
search has seen up to a line can be told from the lines themselves.

* `balance`, `opensIn`: how many more braces open than close in some lines, and whether one opens at all.
* `Reads`: what is true of the lines that the search has read.
* `Ending`: the ways in which a function ends on a line.
* `closing_tells`: the search keeps the one, and stops at the other; `bodyEnd_ends`: so does a function.
-/

namespace RepoSurvey
namespace Source

/-! ### Balance -/

section Balance

/-- How many more braces open than close in some lines. -/
def balance (code : List (List Char)) : Int :=
  signedTotal (code.map fun line => (line.count '\x7b' : Int) - line.count '\x7d')

/-- Whether a brace opens in some lines. -/
def opensIn (code : List (List Char)) : Bool := code.any (·.contains '\x7b')

theorem balance_append (above below : List (List Char)) : balance (above ++ below) = balance above + balance below := by
  unfold balance
  rw [List.map_append, signedTotal_append]

theorem opensIn_append (above below : List (List Char)) : opensIn (above ++ below) = (opensIn above || opensIn below) :=
  List.any_append

theorem balance_singleton (line : List Char) : balance [line] = line.count '\x7b' - line.count '\x7d' := by
  simp [balance, signedTotal]

theorem opensIn_singleton (line : List Char) : opensIn [line] = line.contains '\x7b' := by
  simp [opensIn]

/-- The balance of the first lines of a function. -/
def depthAt (ls : List Line) (n : Nat) : Int := balance ((ls.take n).map (·.code))

/-- Whether a brace opens in the first lines of a function. -/
def openedBy (ls : List Line) (n : Nat) : Bool := opensIn ((ls.take n).map (·.code))

variable {ls : List Line} {n : Nat} {line : Line}

theorem take_succ_of_getElem? (h : ls[n]? = some line) : ls.take (n + 1) = ls.take n ++ [line] := by
  rw [List.take_add_one, h, Option.toList_some]

theorem depthAt_succ (h : ls[n]? = some line) :
    depthAt ls (n + 1) = depthAt ls n + line.code.count '\x7b' - line.code.count '\x7d' := by
  unfold depthAt
  rw [take_succ_of_getElem? h, List.map_append, balance_append, List.map_singleton, balance_singleton]
  omega

theorem openedBy_succ (h : ls[n]? = some line) :
    openedBy ls (n + 1) = (openedBy ls n || line.code.contains '\x7b') := by
  unfold openedBy
  rw [take_succ_of_getElem? h, List.map_append, opensIn_append, List.map_singleton, opensIn_singleton]

/-- A brace that has not opened by a line has not opened by an earlier one. -/
theorem openedBy_eq_false_of_le {m : Nat} (hle : m ≤ n) (h : openedBy ls n = false) : openedBy ls m = false := by
  have hparts : ls.take n = ls.take m ++ (ls.drop m).take (n - m) := by
    rw [← List.take_add]
    congr 1
    omega
  unfold openedBy at h ⊢
  rw [hparts, List.map_append, opensIn_append, Bool.or_eq_false_iff] at h
  exact h.1

end Balance

/-! ### The search for the end -/

section Search

/-- Whether there is such a line and it is blank or begins a declaration. -/
def beginsAt (ls : List Line) (n : Nat) : Bool := ls[n]?.any fun line => beginsBlock line.raw

/-- What is true of the first `n` lines of a function once the search for its end has read them: it did not end on any
of them but perhaps the last. -/
structure Reads (ls : List Line) (n : Nat) : Prop where
  le_length : n ≤ ls.length
  short : n ≤ maxBodyLines + 2
  /-- Once a brace has opened, the braces are not balanced again above the last line. -/
  deep : ∀ m < n, openedBy ls m = true → 0 < depthAt ls m
  /-- As long as none has, no line but the first one begins something else. -/
  unbroken : ∀ m < n, 0 < m → openedBy ls m = false → beginsAt ls m = false

/-- How a function can end on its line `n`, counted from zero. -/
inductive Ending (ls : List Line) (n : Nat) : Prop
  | closed (opened : openedBy ls (n + 1) = true) (balanced : depthAt ls (n + 1) ≤ 0)
  | braceless (opened : openedBy ls (n + 1) = false) (begins : beginsAt ls (n + 1) = true)
  /-- There are no more lines. -/
  | last (last : n + 1 = ls.length)
  /-- The search is given up. -/
  | cut (cut : n = maxBodyLines + 1)

variable {ls : List Line} {n : Nat} {line : Line}

theorem reads_zero (ls : List Line) : Reads ls 0 :=
  ⟨Nat.zero_le _, Nat.zero_le _, fun _ h => absurd h (Nat.not_lt_zero _), fun _ h => absurd h (Nat.not_lt_zero _)⟩

/-- One more line is read, unless the braces are balanced above it or it begins something else. -/
theorem Reads.succ (h : Reads ls n) (hline : n < ls.length) (hshort : n ≤ maxBodyLines + 1)
    (hdeep : openedBy ls n = true → 0 < depthAt ls n)
    (hunbroken : 0 < n → openedBy ls n = false → beginsAt ls n = false) : Reads ls (n + 1) := by
  refine ⟨hline, by omega, ?_, ?_⟩
  · intro m hm hopened
    rcases Nat.lt_succ_iff_lt_or_eq.mp hm with hlt | rfl
    · exact h.deep m hlt hopened
    · exact hdeep hopened
  · intro m hm hpos hopened
    rcases Nat.lt_succ_iff_lt_or_eq.mp hm with hlt | rfl
    · exact h.unbroken m hlt hpos hopened
    · exact hunbroken hpos hopened

/-- What an outcome of the search says about the lines. -/
def Closing.Tells (ls : List Line) : Closing → Prop
  | .at found => Reads ls (found + 1) ∧ Ending ls found
  | .unclosed => Reads ls ls.length
  | .braceless => ∃ n, Reads ls n ∧ openedBy ls n = false ∧ (n = ls.length ∨ 0 < n ∧ beginsAt ls n = true)

/-- The search goes on from the lines that it has read, to an outcome that tells what it has seen. -/
theorem closing_tells (hreads : Reads ls n) (hshort : n ≤ maxBodyLines + 1)
    (hdeep : openedBy ls n = true → 0 < depthAt ls n) :
    (closing n (depthAt ls n) (openedBy ls n) (ls.drop n)).Tells ls := by
  -- By induction on the lines below: what the search carries along is always the balance of those above.
  induction hrest : ls.drop n generalizing n with
  | nil =>
    have hlength : n = ls.length := Nat.le_antisymm hreads.le_length (List.drop_eq_nil_iff.mp hrest)
    rw [closing]
    split_ifs with hopened
    · show Reads ls ls.length
      exact hlength ▸ hreads
    · exact ⟨n, hreads, Bool.not_eq_true _ ▸ hopened, .inl hlength⟩
  | cons line rest ih =>
    have hline : ls[n]? = some line := by
      rw [← Nat.add_zero n, ← List.getElem?_drop, hrest]
      rfl
    have hlt : n < ls.length := (List.getElem?_eq_some_iff.mp hline).1
    have hbegins : beginsAt ls n = beginsBlock line.raw := by
      rw [beginsAt, hline, Option.any_some]
    have hrest' : ls.drop (n + 1) = rest := by
      rw [← List.tail_drop, hrest, List.tail_cons]
    rw [closing, ← depthAt_succ hline, ← openedBy_succ hline]
    by_cases hstop : (!openedBy ls n && n != 0 && beginsBlock line.raw) = true
    · rw [if_pos hstop]
      simp only [Bool.and_eq_true, Bool.not_eq_true', bne_iff_ne] at hstop
      obtain ⟨⟨hopened, hpos⟩, hbreak⟩ := hstop
      exact ⟨n, hreads, hopened, .inr ⟨Nat.pos_of_ne_zero hpos, hbegins ▸ hbreak⟩⟩
    · rw [if_neg hstop]
      have hnext : Reads ls (n + 1) := by
        refine hreads.succ hlt hshort hdeep fun hpos hopened => ?_
        rw [hbegins]
        by_contra hbreak
        rw [Bool.not_eq_false] at hbreak
        exact hstop (by simp [hopened, hbreak, Nat.ne_of_gt hpos])
      dsimp only
      split_ifs with hclosed hcut
      · simp only [Bool.and_eq_true, decide_eq_true_eq] at hclosed
        exact ⟨hnext, .closed hclosed.1 hclosed.2⟩
      · exact ⟨hnext, .cut (by omega)⟩
      · refine ih hnext (by omega) (fun hopened => ?_) hrest'
        rw [hopened, Bool.true_and, decide_eq_true_eq] at hclosed
        omega

/-- As many items are taken as there are before the first one that fails the test. -/
theorem length_takeWhile_eq {α : Type} {p : α → Bool} {xs : List α} {n : Nat} (hlength : n ≤ xs.length)
    (hbefore : ∀ m < n, ∀ x, xs[m]? = some x → p x = true) (hstop : ∀ x, xs[n]? = some x → p x = false) :
    (xs.takeWhile p).length = n := by
  induction xs generalizing n with
  | nil =>
    rw [List.length_nil, Nat.le_zero] at hlength
    rw [hlength, List.takeWhile_nil, List.length_nil]
  | cons x xs ih =>
    cases n with
    | zero => rw [List.takeWhile_cons_of_neg (by simp [hstop x rfl]), List.length_nil]
    | succ n =>
      have hrest := ih (Nat.le_of_succ_le_succ hlength) (fun m hm => hbefore (m + 1) (Nat.succ_lt_succ hm)) hstop
      rw [List.takeWhile_cons_of_pos (hbefore 0 (Nat.succ_pos n) x rfl), List.length_cons, hrest]

/-- Without a brace a function goes on to the next line that begins something else. -/
theorem length_takeWhile_of_braceless (hne : ls ≠ []) (hreads : Reads ls n) (hopened : openedBy ls n = false)
    (hends : n = ls.length ∨ 0 < n ∧ beginsAt ls n = true) :
    (ls.tail.takeWhile fun line => !beginsBlock line.raw).length + 1 = n := by
  have hlength := List.length_pos_iff.mpr hne
  have hle := hreads.le_length
  obtain ⟨k, rfl⟩ : ∃ k, n = k + 1 := Nat.exists_eq_succ_of_ne_zero (by omega)
  congr 1
  apply length_takeWhile_eq
  · rw [List.length_tail]
    omega
  · intro m hm line hline
    have hbegins := hreads.unbroken (m + 1) (by omega) (Nat.succ_pos m) (openedBy_eq_false_of_le (by omega) hopened)
    rw [List.getElem?_tail] at hline
    rw [beginsAt, hline, Option.any_some] at hbegins
    rw [hbegins, Bool.not_false]
  · intro line hline
    rw [List.getElem?_tail] at hline
    rcases hends with hend | ⟨-, hbegins⟩
    · rw [List.getElem?_eq_none (by omega)] at hline
      cases hline
    · rw [beginsAt, hline, Option.any_some] at hbegins
      rw [hbegins, Bool.not_true]

/-- **The end of a function**: the search reads its lines up to the one on which it ends. -/
theorem bodyEnd_ends (hne : ls ≠ []) : Reads ls (bodyEnd ls + 1) ∧ Ending ls (bodyEnd ls) := by
  have hlength := List.length_pos_iff.mpr hne
  have hnone : openedBy ls 0 = false := rfl
  have htells : (closing 0 0 false ls).Tells ls :=
    closing_tells (reads_zero ls) (Nat.zero_le _) fun hopened => absurd (hnone.symm.trans hopened) Bool.false_ne_true
  unfold bodyEnd
  cases hclosing : closing 0 0 false ls with
  | «at» found =>
    rw [hclosing] at htells
    exact htells
  | unclosed =>
    rw [hclosing] at htells
    have hlast : ls.length - 1 + 1 = ls.length := by omega
    exact ⟨hlast.symm ▸ htells, .last hlast⟩
  | braceless =>
    rw [hclosing] at htells
    obtain ⟨n, hreads, hopened, hends⟩ := htells
    have hlast := length_takeWhile_of_braceless hne hreads hopened hends
    dsimp only
    refine ⟨hlast.symm ▸ hreads, ?_⟩
    rcases hends with hend | ⟨-, hbegins⟩
    · exact .last (hlast.trans hend)
    · exact .braceless (hlast.symm ▸ hopened) (hlast.symm ▸ hbegins)

/-- A function is not longer than the search for its end. -/
theorem bodyEnd_le (ls : List Line) : bodyEnd ls ≤ maxBodyLines + 1 := by
  cases ls with
  | nil => exact Nat.zero_le _
  | cons line rest =>
    have hshort := (bodyEnd_ends (List.cons_ne_nil line rest)).1.short
    omega

end Search

end Source
end RepoSurvey
