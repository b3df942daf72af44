import Mathlib.Data.List.Basic
import RepoSurvey.Text.Quoted

/-!
# Quoted texts can be read back

* `Text.hexValue_hex`, `Text.length_hex`: a code point can be read off its digits, and how many there are.
* `Text.readBack?_quotedChar`: a character can be read off its quoted form, whatever follows it.
* `Text.quoted_injective`: different texts have different quoted forms.
-/

namespace RepoSurvey
namespace Text

/-! ### Code points -/

section CodePoints

def hexDigit (c : Char) : Nat := if c.toNat < 58 then c.toNat - 48 else c.toNat - 87

def hexValue (digits : List Char) : Nat := digits.foldl (fun v c => 16 * v + hexDigit c) 0

theorem hexDigit_digitChar {d : Nat} (h : d < 16) : hexDigit d.digitChar = d := by
  have hall : ∀ d : Fin 16, hexDigit d.val.digitChar = d.val := by decide
  exact hall ⟨d, h⟩

theorem hexValue_concat (digits : List Char) (c : Char) :
    hexValue (digits ++ [c]) = 16 * hexValue digits + hexDigit c := by
  rw [hexValue, List.foldl_append]
  rfl

theorem hexValue_toDigits (n : Nat) : hexValue (Nat.toDigits 16 n) = n := by
  induction n using Nat.strongRecOn with
  | ind n ih =>
    by_cases hlt : n < 16
    · rw [Nat.toDigits_of_lt_base hlt]
      exact (Nat.zero_add _).trans (hexDigit_digitChar hlt)
    · have hrest : n / 16 < n := Nat.div_lt_self (by omega) (by decide)
      rw [Nat.toDigits_of_base_le (by decide) (by omega), hexValue_concat, ih _ hrest,
        hexDigit_digitChar (Nat.mod_lt _ (by decide)), Nat.div_add_mod]

theorem hexValue_hex (width n : Nat) : hexValue (hex width n) = n := by
  have hzeros : ∀ k digits, hexValue (List.replicate k '0' ++ digits) = hexValue digits := by
    intro k digits
    induction k with
    | zero => rfl
    | succ k ih => exact ih
  rw [hex, hzeros, hexValue_toDigits]

theorem length_hex {width n : Nat} (h : (Nat.toDigits 16 n).length ≤ width) : (hex width n).length = width := by
  rw [hex, List.length_append, List.length_replicate, Nat.sub_add_cancel h]

end CodePoints

/-! ### Characters -/

section Characters

variable {quote c : Char} {rest : List Char}

/-- The character of a code point of some digits, and what follows. -/
def coded (width : Nat) (rest : List Char) : Char × List Char :=
  (Char.ofNat (hexValue (rest.take width)), rest.drop width)

/-- The character that is escaped, given what stands after the backslash. -/
def escaped? : List Char → Option (Char × List Char)
  | [] => none
  | mark :: rest =>
    if mark = 'n' then some ('\n', rest)
    else if mark = 'r' then some ('\r', rest)
    else if mark = 't' then some ('\t', rest)
    else if mark = 'x' then some (coded 2 rest)
    else if mark = 'u' then some (coded 4 rest)
    else if mark = 'U' then some (coded 8 rest)
    else some (mark, rest)

/-- The first character of a text in quoted form, and what follows. -/
def readBack? : List Char → Option (Char × List Char)
  | [] => none
  | c :: rest => if c = '\\' then escaped? rest else some (c, rest)

theorem coded_hex {width : Nat} (h : (Nat.toDigits 16 c.toNat).length ≤ width) (rest : List Char) :
    coded width (hex width c.toNat ++ rest) = (c, rest) := by
  have hlength := length_hex h
  rw [coded, List.take_left' hlength, List.drop_left' hlength, hexValue_hex, Char.ofNat_toNat]

theorem quoteFor_cases (s : List Char) : quoteFor s = '\x27' ∨ quoteFor s = '\x22' := by
  rw [quoteFor]
  by_cases h : (s.contains '\x27' && !s.contains '\x22') = true
  · exact .inr (if_pos h)
  · exact .inl (if_neg h)

/-- A character can be read off its quoted form, whatever follows it. -/
theorem readBack?_quotedChar (hquote : quote = '\x27' ∨ quote = '\x22') (c : Char) (rest : List Char) :
    readBack? (quotedChar quote c ++ rest) = some (c, rest) := by
  have hdigits : ∀ width, 0 < width → c.toNat < 16 ^ width → (Nat.toDigits 16 c.toNat).length ≤ width :=
    fun _ hwidth => (Nat.length_toDigits_le_iff (by decide) hwidth).mpr
  rw [quotedChar]
  split_ifs with hself hline hreturn htab hprinted hshort hmiddle
  · rcases hself with rfl | rfl
    · rcases hquote with rfl | rfl <;> rfl
    · rfl
  · rw [hline]
    rfl
  · rw [hreturn]
    rfl
  · rw [htab]
    rfl
  · exact if_neg fun h => hself (.inr h)
  · exact congrArg some (coded_hex (hdigits 2 (by decide) hshort) rest)
  · exact congrArg some (coded_hex (hdigits 4 (by decide) hmiddle) rest)
  · exact congrArg some (coded_hex (hdigits 8 (by decide) c.val.toNat_lt) rest)

end Characters

/-! ### Texts -/

section Texts

/-- Different texts have different forms between the same quotes. -/
theorem flatMap_quotedChar_injective {quote : Char} (hquote : quote = '\x27' ∨ quote = '\x22') {s t : List Char}
    (h : s.flatMap (quotedChar quote) ++ [quote] = t.flatMap (quotedChar quote) ++ [quote]) : s = t := by
  -- The closing quote is read back as a character with nothing after it.
  have hend : readBack? [quote] = some (quote, []) := by rcases hquote with rfl | rfl <;> rfl
  induction s generalizing t with
  | nil =>
    cases t with
    | nil => rfl
    | cons d t =>
      have hread := congrArg readBack? h
      rw [List.flatMap_cons, List.append_assoc, readBack?_quotedChar hquote] at hread
      simp [hend] at hread
  | cons c s ih =>
    have hread := congrArg readBack? h
    rw [List.flatMap_cons, List.append_assoc, readBack?_quotedChar hquote] at hread
    cases t with
    | nil => simp [hend] at hread
    | cons d t =>
      rw [List.flatMap_cons, List.append_assoc, readBack?_quotedChar hquote] at hread
      obtain ⟨rfl, hrest⟩ := Prod.mk.inj (Option.some.inj hread)
      rw [ih hrest]

theorem quoted_injective : Function.Injective quoted := by
  intro s t h
  have hlists := String.ofList_inj.mp h
  rw [List.cons_append, List.cons_append] at hlists
  obtain ⟨hquote, hrest⟩ := List.cons.inj hlists
  rw [hquote] at hrest
  exact String.toList_inj.mp (flatMap_quotedChar_injective (quoteFor_cases _) hrest)

end Texts

end Text
end RepoSurvey
