import RepoSurvey.Proofs.Source.Extraction

/-!
# Functions inside functions

Each function ends by a search of its own, which knows nothing of the functions around it. Two of them still nest, if
the search for the outer one was not given up and neither goes on below a brace that closes something around it.

* `HasMatchedBraces`: the braces of a text match, which `matchesFrom` checks.
* `bodyEnd_drop_le`: a function that begins inside another one ends inside it.
* `Block.IsCut`, `Block.RunsOn`: what tells the functions that may run past the end of another one.
* `blocks_nest`: blocks of a text nest; `blocks_cross`: where matched braces alone do not suffice.
-/

namespace RepoSurvey
namespace Source

variable {style : CommentStyle} {text : List Char}

/-! ### Matched braces -/

section Matched

/-- Each brace that closes in some code has been opened, and each that opens is closed. -/
def HasMatchedBraces (code : List Char) : Prop :=
  (∀ front, front <+: code → front.count '\x7d' ≤ front.count '\x7b') ∧ code.count '\x7d' = code.count '\x7b'

/-- Whether the braces of some code match, those that are open before it included. -/
def matchesFrom : Nat → List Char → Bool
  | depth, [] => depth == 0
  | depth, c :: rest =>
    if c = '\x7b' then matchesFrom (depth + 1) rest
    else if c = '\x7d' then depth != 0 && matchesFrom (depth - 1) rest
    else matchesFrom depth rest

theorem forall_prefix_cons {p : List Char → Prop} {c : Char} {rest : List Char} :
    (∀ front, front <+: c :: rest → p front) ↔ p [] ∧ ∀ front, front <+: rest → p (c :: front) := by
  constructor
  · intro h
    refine ⟨h [] List.nil_prefix, fun front hfront => h (c :: front) ?_⟩
    rwa [List.prefix_cons_inj]
  · intro h front hfront
    rcases List.prefix_cons_iff.mp hfront with rfl | ⟨front', rfl, hfront'⟩
    · exact h.1
    · exact h.2 front' hfront'

theorem matchesFrom_iff (depth : Nat) (code : List Char) :
    matchesFrom depth code = true ↔
      (∀ front, front <+: code → front.count '\x7d' ≤ depth + front.count '\x7b') ∧
        code.count '\x7d' = depth + code.count '\x7b' := by
  induction code generalizing depth with
  | nil =>
    simp only [matchesFrom, List.prefix_nil, forall_eq, List.count_nil, beq_iff_eq]
    omega
  | cons c rest ih =>
    rw [forall_prefix_cons, matchesFrom]
    by_cases hopen : c = '\x7b'
    · subst hopen
      rw [if_pos rfl, ih]
      simp [Nat.add_assoc, Nat.add_comm 1]
    · rw [if_neg hopen]
      by_cases hclose : c = '\x7d'
      · subst hclose
        rw [if_pos rfl, Bool.and_eq_true, bne_iff_ne, ih]
        -- At depth zero the brace alone is a front in which more of them close than have been opened.
        cases depth with
        | zero =>
          refine iff_of_false (by simp) fun h => ?_
          have hfirst := h.1.2 [] List.nil_prefix
          simp at hfirst
        | succ depth => simp [Nat.add_right_comm]
      · rw [if_neg hclose, ih]
        simp [hopen, hclose]

instance (code : List Char) : Decidable (HasMatchedBraces code) :=
  decidable_of_iff (matchesFrom 0 code = true) (by simp only [matchesFrom_iff, HasMatchedBraces, Nat.zero_add])

end Matched

/-! ### One function inside another -/

section Inside

variable {ls : List Line} {k n : Nat}

theorem depthAt_add (ls : List Line) (k n : Nat) : depthAt ls (k + n) = depthAt ls k + depthAt (ls.drop k) n := by
  unfold depthAt
  rw [List.take_add, List.map_append, balance_append]

theorem openedBy_add (ls : List Line) (k n : Nat) :
    openedBy ls (k + n) = (openedBy ls k || openedBy (ls.drop k) n) := by
  unfold openedBy
  rw [List.take_add, List.map_append, opensIn_append]

theorem beginsAt_drop (ls : List Line) (k n : Nat) : beginsAt (ls.drop k) n = beginsAt ls (k + n) := by
  unfold beginsAt
  rw [List.getElem?_drop]

/-- **A function that begins inside another one ends inside it**, if the search for the outer one was not given up and
neither goes on below a line that closes more braces than the function has opened. -/
theorem bodyEnd_drop_le (hk : k ≤ bodyEnd ls) (hlength : bodyEnd ls < ls.length)
    (hcut : bodyEnd ls = maxBodyLines + 1 → openedBy ls (bodyEnd ls + 1) = true ∧ depthAt ls (bodyEnd ls + 1) ≤ 0)
    (houter : ∀ m ≤ bodyEnd ls, 0 ≤ depthAt ls m)
    (hinner : ∀ m ≤ bodyEnd (ls.drop k), 0 ≤ depthAt (ls.drop k) m) : k + bodyEnd (ls.drop k) ≤ bodyEnd ls := by
  by_contra hpast
  have hne : ls ≠ [] := by
    rintro rfl
    exact absurd hlength (Nat.not_lt_zero _)
  have hne' : ls.drop k ≠ [] := by
    rw [Ne, List.drop_eq_nil_iff]
    omega
  have hlength' := bodyEnd_lt hne'
  rw [List.length_drop] at hlength'
  obtain ⟨hreads, hends⟩ := bodyEnd_ends hne
  obtain ⟨hreads', -⟩ := bodyEnd_ends hne'
  -- The inner function goes on behind its first `n` lines, the last of which is that of the outer one.
  obtain ⟨n, hn⟩ : ∃ n, bodyEnd ls + 1 = k + n := ⟨bodyEnd ls + 1 - k, by omega⟩
  have habove := houter k hk
  have hbelow := hinner n (by omega)
  -- So the outer one has a brace open there: one from above the inner one, or one that the inner one has opened.
  have hclosed (hopened : openedBy ls (k + n) = true) (hbalanced : depthAt ls (k + n) ≤ 0) : False := by
    rw [openedBy_add, Bool.or_eq_true] at hopened
    rw [depthAt_add] at hbalanced
    rcases hopened with hopened | hopened
    · have hdeep := hreads.deep k (by omega) hopened
      omega
    · have hdeep := hreads'.deep n (by omega) hopened
      omega
  cases hends with
  | closed hopened hbalanced =>
    rw [hn] at hopened hbalanced
    exact hclosed hopened hbalanced
  | braceless hopened hbegins =>
    rw [hn, openedBy_add, Bool.or_eq_false_iff] at hopened
    rw [hn, ← beginsAt_drop] at hbegins
    have hunbroken := hreads'.unbroken n (by omega) (by omega) hopened.2
    rw [hbegins] at hunbroken
    cases hunbroken
  | last hlast => omega
  | cut hlast =>
    obtain ⟨hopened, hbalanced⟩ := hcut hlast
    rw [hn] at hopened hbalanced
    exact hclosed hopened hbalanced

end Inside

/-! ### Blocks of a text -/

section Blocks

/-- The stripped lines of a block. -/
def Block.code (style : CommentStyle) (text : List Char) (f : Block) : List (List Char) :=
  (((stripped style text).splitOn '\n').drop (f.first - 1)).take (f.last + 1 - f.first)

/-- The search for the end of a block was given up, because it went on for too long. -/
def Block.IsCut (style : CommentStyle) (text : List Char) (f : Block) : Prop :=
  f.last = f.first + (maxBodyLines + 1) ∧ ¬(opensIn (f.code style text) = true ∧ balance (f.code style text) ≤ 0)

instance (style : CommentStyle) (text : List Char) (f : Block) : Decidable (f.IsCut style text) :=
  inferInstanceAs (Decidable (_ ∧ _))

/-- A block goes on below a line that closes more braces than the block has opened. -/
def Block.RunsOn (style : CommentStyle) (text : List Char) (f : Block) : Prop :=
  ∃ n, n ≤ f.last - f.first ∧ balance ((f.code style text).take n) < 0

instance (style : CommentStyle) (text : List Char) (f : Block) : Decidable (f.RunsOn style text) :=
  inferInstanceAs (Decidable (∃ n, n ≤ _ ∧ _))

/-- The lines of two blocks are apart, or those of one are among those of the other. -/
def SpansNest (f g : Block) : Prop :=
  (f.last < g.first ∨ g.last < f.first) ∨
    (f.first ≤ g.first ∧ g.last ≤ f.last) ∨ (g.first ≤ f.first ∧ f.last ≤ g.last)

instance (f g : Block) : Decidable (SpansNest f g) := inferInstanceAs (Decidable (_ ∨ _))

theorem code_declaredFunction (style : CommentStyle) (text : List Char) (name : String) (k : Nat) :
    (declaredFunction style name (1 + k) ((lines style text).drop k)).code style text =
      (((lines style text).drop k).take (bodyEnd ((lines style text).drop k) + 1)).map (·.code) := by
  have hfirst : 1 + k - 1 = k := Nat.add_sub_cancel_left 1 k
  have hcount : 1 + k + bodyEnd ((lines style text).drop k) + 1 - (1 + k) =
      bodyEnd ((lines style text).drop k) + 1 := by omega
  simp only [Block.code, declaredFunction, score]
  rw [hfirst, hcount, ← map_code_lines, List.map_take, List.map_drop]

theorem depthAt_nonneg_of_not_runsOn {name : String} {k m : Nat}
    (h : ¬(declaredFunction style name (1 + k) ((lines style text).drop k)).RunsOn style text)
    (hm : m ≤ bodyEnd ((lines style text).drop k)) : 0 ≤ depthAt ((lines style text).drop k) m := by
  by_contra hneg
  refine h ⟨m, ?_, ?_⟩
  · simp only [declaredFunction, score]
    omega
  · rw [code_declaredFunction, ← List.map_take, List.take_take, Nat.min_eq_left (by omega)]
    exact not_le.mp hneg

/-- **Functions nest**: of two blocks of a text, the search for the end of the upper one not given up, the lines are
apart or those of one are among those of the other, if neither goes on below a brace that closes something else. -/
theorem blocks_nest (style : CommentStyle) (text : List Char) {f g : Block} (hf : f ∈ (blocks style text).blocks)
    (hg : g ∈ (blocks style text).blocks) (hfirst : f.first ≤ g.first) (hcut : ¬f.IsCut style text)
    (houter : ¬f.RunsOn style text) (hinner : ¬g.RunsOn style text) : SpansNest f g := by
  by_cases hnil : functions style 1 (lines style text) = []
  · rw [blocks_of_nil hnil] at hf hg
    obtain rfl := List.mem_singleton.mp hf
    obtain rfl := List.mem_singleton.mp hg
    exact .inr (.inl ⟨Nat.le_refl _, Nat.le_refl _⟩)
  · rw [blocks_of_ne_nil hnil] at hf hg
    obtain ⟨name, k, hk, rfl⟩ := mem_functions hf
    obtain ⟨name', k', hk', rfl⟩ := mem_functions hg
    rw [Block.IsCut, not_and, not_not, code_declaredFunction] at hcut
    simp only [declaredFunction, score] at hfirst hcut
    have hdepths {m : Nat} := depthAt_nonneg_of_not_runsOn (m := m) houter
    have hdepths' {m : Nat} := depthAt_nonneg_of_not_runsOn (m := m) hinner
    have hne : (lines style text).drop k ≠ [] := by
      rw [Ne, List.drop_eq_nil_iff]
      omega
    have hinside : (lines style text).drop k' = ((lines style text).drop k).drop (k' - k) := by
      rw [List.drop_drop]
      congr 1
      omega
    rw [hinside] at hdepths'
    by_cases hbegins : k' - k ≤ bodyEnd ((lines style text).drop k)
    · have hends := bodyEnd_drop_le hbegins (bodyEnd_lt hne) (fun hlast => hcut (by omega)) (fun m hm => hdepths hm)
        fun m hm => hdepths' hm
      rw [← hinside] at hends
      simp only [SpansNest, declaredFunction, score]
      omega
    · simp only [SpansNest, declaredFunction, score]
      omega

/-- A function with an arrow without braces as its last declaration. -/
theorem blocks_nest_of_inner_arrow :
    let text := "function f() \x7b\n  if (x) \x7b\n  \x7d\n  const g = (x) =>\n    x;\n\x7d\n".toList
    let f : Block := ⟨"f", 1, 6, 2, 2⟩
    let g : Block := ⟨"g", 4, 6, 1, 0⟩
    f ∈ (blocks .slashes text).blocks ∧ g ∈ (blocks .slashes text).blocks ∧ f.first ≤ g.first ∧
      ¬f.IsCut .slashes text ∧ ¬f.RunsOn .slashes text ∧ ¬g.RunsOn .slashes text ∧ SpansNest f g := by
  intro text f g
  have hblocks : (blocks .slashes text).blocks = [f, g] := by decide +kernel
  have hf : f ∈ (blocks .slashes text).blocks := hblocks ▸ List.mem_cons_self
  have hg : g ∈ (blocks .slashes text).blocks := hblocks ▸ List.mem_cons_of_mem f List.mem_cons_self
  have hfirst : f.first ≤ g.first := by decide
  have hcut : ¬f.IsCut .slashes text := by decide +kernel
  have houter : ¬f.RunsOn .slashes text := by decide +kernel
  have hinner : ¬g.RunsOn .slashes text := by decide +kernel
  exact ⟨hf, hg, hfirst, hcut, houter, hinner, blocks_nest .slashes text hf hg hfirst hcut houter hinner⟩

/-- A function of more than 500 lines, at the end of which another one begins. -/
def longText : List Char :=
  "function f() \x7b".toList ++ List.replicate 500 '\n' ++ "function g() \x7b\n\n\x7d\n\x7d".toList

/-- A function with an arrow without braces as its last declaration, and a method below it. -/
def arrowText : List Char := "function f() \x7b\n  const g = x =>\n    x;\n\x7d\n  h(y) \x7b\n  \x7d".toList

/-- **Functions with matched braces may cross.** The search for the end of a long function is given up inside another
one; and an arrow without braces goes on to the next brace that opens, past the end of the function that it is in and
into the one below. -/
theorem blocks_cross :
    (HasMatchedBraces (stripped .slashes longText) ∧
      ∃ f ∈ (blocks .slashes longText).blocks, ∃ g ∈ (blocks .slashes longText).blocks,
        f.first = 1 ∧ f.last = 502 ∧ g.first = 501 ∧ g.last = 503 ∧ ¬SpansNest f g) ∧
    (HasMatchedBraces (stripped .slashes arrowText) ∧
      ∃ f ∈ (blocks .slashes arrowText).blocks, ∃ g ∈ (blocks .slashes arrowText).blocks,
        ∃ h ∈ (blocks .slashes arrowText).blocks, f.first = 1 ∧ f.last = 4 ∧ g.first = 2 ∧ g.last = 5 ∧
          h.first = 5 ∧ h.last = 6 ∧ ¬SpansNest f g ∧ ¬SpansNest g h) := by
  refine ⟨⟨?_, ?_⟩, ⟨?_, ?_⟩⟩ <;> decide +kernel

end Blocks

end Source
end RepoSurvey
