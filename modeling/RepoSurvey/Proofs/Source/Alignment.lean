import RepoSurvey.Proofs.Source.FunctionScore

/-!
# Lines of code stand beside the lines of the text

Every line of the stripped text is what is left of the line of the text with the same number, so that a number taken
from one of the two lists of lines can be used on the other.

* `isLiteralQuote_of_mem_stripped`, `hash_not_mem_stripped`: what the stripped text never holds.
* `sublist_codeFrom`: a stripped line is a part of its line.
* `extraction?`: the functions of a file, found by line numbers that are looked up in the lines of the text.
* `stripped_isAligned`: the two lists of lines are aligned, and no look-up fails.
-/

namespace RepoSurvey
namespace Source

variable {style : CommentStyle}

/-! ### What is kept -/

/-- A character that is kept has been in code, line feeds apart. -/
theorem keeps_of_mem_strippedFrom {s : Scan} {text : List Char} {c : Char} (h : c ∈ strippedFrom style s text) :
    ∃ following, c = '\n' ∨ Scan.next style .code c following = .code := by
  induction text generalizing s with
  | nil => exact absurd h List.not_mem_nil
  | cons d rest ih =>
    rw [strippedFrom_cons] at h
    split_ifs at h with hkeeps
    · rcases List.mem_cons.mp h with rfl | hrest
      · refine ⟨rest.head?, (Scan.keeps_eq_true.mp hkeeps).imp_right ?_⟩
        rintro ⟨rfl, hnext⟩
        exact hnext
      · exact ih hrest
    · exact ih h

/-- No quote is left. -/
theorem isLiteralQuote_of_mem_stripped {text : List Char} {c : Char} (h : c ∈ stripped style text) :
    isLiteralQuote c = false := by
  obtain ⟨following, rfl | hnext⟩ := keeps_of_mem_strippedFrom h
  · decide
  · exact (Scan.next_code_eq_code.mp hnext).2.2

/-- No `#` is left where it begins a comment. -/
theorem hash_not_mem_stripped (text : List Char) : '#' ∉ stripped .hash text := by
  intro h
  obtain ⟨following, hfeed | hnext⟩ := keeps_of_mem_strippedFrom h
  · exact absurd hfeed (by decide)
  · exact absurd (Scan.next_code_eq_code.mp hnext).1 (by simp [opensLineComment])

/-- Each stripped line is a part of its line. -/
theorem sublist_codeFrom (s : Scan) (lines : List (List Char)) :
    List.Forall₂ List.Sublist (codeFrom style s lines) lines := by
  induction lines generalizing s with
  | nil => exact .nil
  | cons line rest ih => exact .cons (strippedFrom_sublist style s line) (ih _)

/-! ### Line numbers -/

section Numbers

/-- Written lines with the code beside them. -/
def paired (raw code : List (List Char)) : List Line := (raw.zip code).map fun (r, c) => ⟨r, c⟩

/-- The search for a closing brace in code from the line `start` on, with the written lines looked up by number. There
is no answer if a number is that of no written line. -/
def closing? (raw : List (List Char)) (start : Nat) : Nat → Int → Bool → List (List Char) → Option Closing
  | _, _, opened, [] => some (if opened then .unclosed else .braceless)
  | offset, depth, opened, code :: rest =>
    let depth' := depth + code.count '\x7b' - code.count '\x7d'
    let opened' := opened || code.contains '\x7b'
    let further : Option Closing :=
      if opened' && depth' ≤ 0 then some (.at offset)
      else if maxBodyLines < offset then some (.at offset)
      else closing? raw start (offset + 1) depth' opened' rest
    if !opened && offset != 0 then
      match raw[start + offset]? with
      | none => none
      | some line => if beginsBlock line then some .braceless else further
    else further

/-- The number of the last line of a function from its first, both from zero, if it is that of a written line. -/
def bodyEnd? (raw code : List (List Char)) (start : Nat) : Option Nat := do
  let last ← match ← closing? raw start 0 0 false (code.drop start) with
    | .at offset => some (start + offset)
    | .unclosed => some (code.length - 1)
    | .braceless => some (start + ((raw.drop (start + 1)).takeWhile fun line => !beginsBlock line).length)
  if last < raw.length then some last else none

/-- The functions declared in code from the line `start` on, scored on the written lines. -/
def functions? (style : CommentStyle) (raw code : List (List Char)) : Nat → List (List Char) → Option (List Block)
  | _, [] => some []
  | start, line :: rest =>
    match functionName? line with
    | none => functions? style raw code (start + 1) rest
    | some name => do
      let last ← bodyEnd? raw code start
      let body := ['\n'].intercalate ((raw.drop start).take (last + 1 - start))
      let later ← functions? style raw code (start + 1) rest
      return score style body name (start + 1) (last + 1) :: later

/-- The blocks of a text, whose functions are found by line numbers. -/
def extraction? (style : CommentStyle) (text : List Char) : Option Extraction :=
  let raw := text.splitOn '\n'
  let code := (stripped style text).splitOn '\n'
  (functions? style raw code 0 code).map fun
    | [] => .wholeFile (score style text "<module>" 1 raw.length)
    | found => .functions found

variable {raw code : List (List Char)} {start : Nat}

theorem length_paired (h : raw.length = code.length) : (paired raw code).length = raw.length := by
  rw [paired, List.length_map, List.length_zip, h, Nat.min_self]

theorem map_raw_paired (h : raw.length = code.length) : (paired raw code).map (·.raw) = raw := by
  rw [paired, List.map_map]
  exact List.map_fst_zip (Nat.le_of_eq h)

theorem drop_paired (n : Nat) : (paired raw code).drop n = paired (raw.drop n) (code.drop n) := by
  rw [paired, paired, ← List.map_drop, List.zip, List.drop_zipWith]

/-- With as many lines of code as written ones, no look-up of the search fails. -/
theorem closing?_eq {above : List (List Char)} {offset : Nat} (habove : above.length = start + offset)
    (h : raw.length = code.length) (depth : Int) (opened : Bool) :
    closing? (above ++ raw) start offset depth opened code = some (closing offset depth opened (paired raw code)) := by
  induction code generalizing raw above offset depth opened with
  | nil =>
    obtain rfl : raw = [] := List.length_eq_zero_iff.mp h
    rfl
  | cons line rest ih =>
    obtain ⟨written, below, rfl⟩ := List.exists_cons_of_length_eq_add_one h
    have hlookup : (above ++ written :: below)[start + offset]? = some written := by
      rw [← habove, List.getElem?_append_right (Nat.le_refl _), Nat.sub_self]
      rfl
    have hfurther := @ih below (above ++ [written]) (offset + 1)
      (by rw [List.length_append, habove, List.length_singleton, Nat.add_assoc]) (Nat.succ.inj h)
      (depth + line.count '\x7b' - line.count '\x7d') (opened || line.contains '\x7b')
    rw [List.append_assoc, List.singleton_append] at hfurther
    rw [closing?, paired, List.zip_cons_cons, List.map_cons, closing, hlookup]
    dsimp only
    rw [hfurther, paired]
    by_cases hlook : (!opened && offset != 0) = true
    · rw [hlook, if_pos rfl, Bool.true_and]
      split_ifs <;> rfl
    · rw [Bool.not_eq_true] at hlook
      rw [hlook, if_neg Bool.false_ne_true, Bool.false_and, if_neg Bool.false_ne_true]
      split_ifs <;> rfl

/-- The last line of a function is a written line, and the one that the search finds. -/
theorem bodyEnd?_eq (h : raw.length = code.length) (hstart : start < code.length) :
    bodyEnd? raw code start = some (start + bodyEnd ((paired raw code).drop start)) := by
  have habove : (raw.take start).length = start + 0 := by
    rw [List.length_take]
    omega
  have hdrop : (raw.drop start).length = (code.drop start).length := by rw [List.length_drop, List.length_drop, h]
  have hsearch := closing?_eq habove hdrop 0 false
  rw [List.take_append_drop, ← drop_paired] at hsearch
  have hlength : ((paired raw code).drop start).length = code.length - start := by
    rw [List.length_drop, length_paired h, h]
  have hend : bodyEnd ((paired raw code).drop start) < code.length - start := by
    rw [← hlength]
    apply bodyEnd_lt
    rw [← List.length_pos_iff]
    omega
  have hbelow : (raw.drop (start + 1)).takeWhile (fun line => !beginsBlock line) =
      (((paired raw code).drop start).tail.takeWhile fun line => !beginsBlock line.raw).map (·.raw) := by
    have hraw : ((paired raw code).drop start).tail.map (·.raw) = raw.drop (start + 1) := by
      rw [List.tail_drop, List.map_drop, map_raw_paired h]
    rw [← hraw, List.takeWhile_map]
    rfl
  rw [bodyEnd?, hsearch]
  rw [bodyEnd] at hend ⊢
  cases hclosing : closing 0 0 false ((paired raw code).drop start) with
  | «at» offset =>
    rw [hclosing] at hend
    simp only [Option.bind_eq_bind, Option.bind_some] at hend ⊢
    rw [if_pos (by omega)]
  | unclosed =>
    rw [hclosing] at hend
    simp only [Option.bind_eq_bind, Option.bind_some, hlength] at hend ⊢
    rw [if_pos (by omega)]
    congr 1
    omega
  | braceless =>
    rw [hclosing] at hend
    simp only [Option.bind_eq_bind, Option.bind_some, hbelow, List.length_map] at hend ⊢
    rw [if_pos (by omega)]

/-- The functions are found on the lines from one on. -/
theorem functions?_eq (h : raw.length = code.length) {left : List (List Char)} (hleft : left = code.drop start) :
    functions? style raw code start left = some (functions style (start + 1) ((paired raw code).drop start)) := by
  induction left generalizing start with
  | nil =>
    have hnone : (paired raw code).drop start = [] := by
      rw [drop_paired, ← hleft, paired, List.zip_nil_right, List.map_nil]
    rw [hnone]
    rfl
  | cons line rest ih =>
    have hstart : start < code.length := by
      have hlength := congrArg List.length hleft
      rw [List.length_cons, List.length_drop] at hlength
      omega
    have hrest : rest = code.drop (start + 1) := by
      rw [← List.tail_drop, ← hleft, List.tail_cons]
    obtain ⟨written, below, hraw⟩ : ∃ written below, raw.drop start = written :: below := by
      apply List.exists_cons_of_ne_nil
      rw [← List.length_pos_iff, List.length_drop]
      omega
    have hlines : (paired raw code).drop start = ⟨written, line⟩ :: (paired raw code).drop (start + 1) := by
      rw [drop_paired, drop_paired, hraw, ← hleft, ← hrest, ← List.tail_drop, hraw]
      rfl
    have hbody : (raw.drop start).take (start + bodyEnd ((paired raw code).drop start) + 1 - start) =
        (((paired raw code).drop start).take (bodyEnd ((paired raw code).drop start) + 1)).map (·.raw) := by
      rw [List.map_take, List.map_drop, map_raw_paired h]
      congr 1
      omega
    rw [functions?, ih hrest, bodyEnd?_eq h hstart]
    simp only [Option.bind_eq_bind, Option.bind_some, hbody]
    rw [hlines, functions]
    dsimp only
    cases functionName? line with
    | none => rfl
    | some name =>
      simp only [Option.pure_def]
      congr 3
      omega

/-- The line numbers of a text's code are good for its written lines. -/
theorem extraction?_eq (style : CommentStyle) (text : List Char) :
    extraction? style text = some (blocks style text) := by
  have hlength : (text.splitOn '\n').length = ((stripped style text).splitOn '\n').length := by
    rw [splitOn_stripped, length_codeFrom]
  have hlines : paired (text.splitOn '\n') ((stripped style text).splitOn '\n') = lines style text := rfl
  have hfunctions := @functions?_eq style _ _ 0 hlength _ List.drop_zero.symm
  rw [List.drop_zero, hlines] at hfunctions
  rw [extraction?, hfunctions, Option.map_some]
  rfl

/-- A function lies on the lines of its text. -/
theorem range_of_mem_functions {text : List Char} {f : Block} (h : f ∈ functions style 1 (lines style text)) :
    1 ≤ f.first ∧ f.first ≤ f.last ∧ f.last ≤ (text.splitOn '\n').length := by
  obtain ⟨name, k, hk, rfl⟩ := mem_functions h
  have hend : bodyEnd ((lines style text).drop k) < ((lines style text).drop k).length := by
    apply bodyEnd_lt
    rw [← List.length_pos_iff, List.length_drop]
    omega
  rw [List.length_drop, length_lines] at hend
  simp only [declaredFunction, score]
  omega

/-- Every block lies on the lines of its text. -/
theorem range_of_mem_blocks {text : List Char} {f : Block} (h : f ∈ (blocks style text).blocks) :
    1 ≤ f.first ∧ f.first ≤ f.last ∧ f.last ≤ (text.splitOn '\n').length := by
  have hlines : 0 < (text.splitOn '\n').length := List.length_pos_iff.mpr (List.splitOn_ne_nil '\n' text)
  rw [blocks] at h
  split at h
  · obtain rfl := List.mem_singleton.mp h
    exact ⟨Nat.le_refl 1, hlines, Nat.le_refl _⟩
  · exact range_of_mem_functions h

end Numbers

/-! ### Alignment -/

/-- The stripped text stands beside its text line by line, and holds no quote and no sign that begins a comment of one
character. -/
structure IsAligned (style : CommentStyle) (text : List Char) : Prop where
  length_lines : ((stripped style text).splitOn '\n').length = (text.splitOn '\n').length
  /-- What is left of a line is a part of the line. -/
  lines : List.Forall₂ List.Sublist ((stripped style text).splitOn '\n') (text.splitOn '\n')
  quotes : ∀ c ∈ stripped style text, isLiteralQuote c = false
  hashes : style = .hash → '#' ∉ stripped style text
  /-- The functions are found with line numbers of the code, none of which misses the written lines. -/
  functions : extraction? style text = some (blocks style text)
  /-- Every block lies on written lines. -/
  blocks : ∀ f ∈ (blocks style text).blocks, 1 ≤ f.first ∧ f.first ≤ f.last ∧ f.last ≤ (text.splitOn '\n').length

/-- **A stripped text is aligned with its text.** -/
theorem stripped_isAligned (style : CommentStyle) (text : List Char) : IsAligned style text where
  length_lines := by rw [splitOn_stripped, length_codeFrom]
  lines := by
    rw [splitOn_stripped]
    exact sublist_codeFrom .code _
  quotes := fun _ => isLiteralQuote_of_mem_stripped
  hashes := by
    rintro rfl
    exact hash_not_mem_stripped text
  functions := extraction?_eq style text
  blocks := fun _ => range_of_mem_blocks

end Source
end RepoSurvey
