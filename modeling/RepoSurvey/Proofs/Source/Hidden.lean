import RepoSurvey.Proofs.Source.LineByLine
import RepoSurvey.Source.DecisionPoint

/-!
# Literals and comments

A literal or a comment that begins in code leaves its line feeds behind and nothing else, and the scanner goes on in
code. So the measures cannot tell what stands inside.

* `strippedFrom_append`: a text that is cut in code is scanned in two parts.
* `IsLiteralBody`, `Hidden`: the inside of a literal, and a stretch of text without code.
* `strippedFrom_hidden`: what scanning such a stretch leaves.
* `SameOutside`: two texts that differ inside such stretches only.
* `hidden_leaves_lineFeeds`: the same of whole texts and their measures.
-/

namespace RepoSurvey
namespace Source

variable {style : CommentStyle}

/-! ### A text in two parts -/

section Parts

/-- The characters on both sides of a cut do not open a comment together. -/
def IsCut (before after : List Char) : Prop :=
  before.getLast? = some '/' → after.head? ≠ some '/' ∧ after.head? ≠ some '*'

/-- A scanner that is in code after a character is so whatever follows, if that does not open a comment. -/
theorem Scan.next_of_cut {s : Scan} {c : Char} {following : Option Char} (h : s.next style c none = code)
    (hcut : c = '/' → following ≠ some '/' ∧ following ≠ some '*') : s.next style c following = code := by
  cases s with
  | code =>
    obtain ⟨hline, -, hquote⟩ := next_code_eq_code.mp h
    refine next_code_eq_code.mpr ⟨?_, ?_, hquote⟩
    · cases style with
      | slashes =>
        by_cases hc : c = '/'
        · simp [opensLineComment, (hcut hc).1]
        · simp [opensLineComment, hc]
      | hash => exact hline
    · by_cases hc : c = '/'
      · simp [opensBlockComment, (hcut hc).2]
      · simp [opensBlockComment, hc]
  | lineComment => exact h
  | blockOpening => exact h
  | blockComment => simp [next] at h
  | blockClosing => rfl
  | literal quote => exact h
  | escape quote => exact h

theorem isCut_cons {c d : Char} {before after : List Char} (h : IsCut (c :: d :: before) after) :
    IsCut (d :: before) after := fun hlast => h (by rw [List.getLast?_cons_cons, hlast])

/-- A text that is cut in code is scanned in two parts. -/
theorem strippedFrom_append {s : Scan} {before after : List Char} (hcode : s.after style before = .code)
    (hcut : IsCut before after) :
    strippedFrom style s (before ++ after) = strippedFrom style s before ++ strippedFrom style .code after := by
  induction before generalizing s with
  | nil =>
    obtain rfl : s = .code := hcode
    rfl
  | cons c rest ih =>
    rw [List.cons_append, strippedFrom_cons, strippedFrom_cons]
    cases rest with
    | nil =>
      have hnone : s.next style c none = .code := hcode
      have hnext : s.next style c after.head? = .code :=
        Scan.next_of_cut hnone fun hc => hcut (by rw [List.getLast?_singleton, hc])
      have hkeeps : s.keeps style c after.head? = s.keeps style c none := by
        rw [Scan.keeps, Scan.keeps, hnext, hnone]
      rw [List.nil_append, List.head?_nil, hnext, hnone, hkeeps]
      split_ifs <;> rfl
    | cons d rest =>
      have hrest := ih (s := s.next style c (some d)) hcode (isCut_cons hcut)
      rw [List.cons_append, List.head?_cons, List.head?_cons, ← List.cons_append, hrest]
      split_ifs <;> rfl

theorem stripped_append {before after : List Char} (hcode : Scan.after style .code before = .code)
    (hcut : IsCut before after) : stripped style (before ++ after) = stripped style before ++ stripped style after :=
  strippedFrom_append hcode hcut

end Parts

/-! ### Stretches without code -/

section Hidden

/-- The inside of a literal: neither its quote nor a backslash, but for a backslash with the character after it. -/
inductive IsLiteralBody (quote : Char) : List Char → Prop
  | nil : IsLiteralBody quote []
  | plain {c : Char} {rest : List Char} (hquote : c ≠ quote) (hescape : c ≠ '\\') (hrest : IsLiteralBody quote rest) :
      IsLiteralBody quote (c :: rest)
  | escaped (c : Char) {rest : List Char} (hrest : IsLiteralBody quote rest) : IsLiteralBody quote ('\\' :: c :: rest)

/-- A stretch of text without code. -/
inductive Hidden (style : CommentStyle) where
  | literal (quote : Char) (body : List Char) (isQuote : isLiteralQuote quote = true)
      (closed : IsLiteralBody quote body)
  | blockComment (body : List Char) (slashes : style = .slashes) (closed : ¬['*', '/'] <:+: body)
  /-- A comment up to the end of its line. -/
  | lineComment (body : List Char) (onLine : '\n' ∉ body)

namespace Hidden

/-- What stands between the marks at both ends. -/
def body : Hidden style → List Char
  | literal _ body _ _ => body
  | blockComment body _ _ => body
  | lineComment body _ => body

/-- What opens a comment up to the end of its line. -/
def lineOpening : CommentStyle → List Char
  | .slashes => ['/', '/']
  | .hash => ['#']

/-- The stretch as it is written. -/
def text : Hidden style → List Char
  | literal quote body _ _ => quote :: (body ++ [quote])
  | blockComment body _ _ => '/' :: '*' :: (body ++ ['*', '/'])
  | lineComment body _ => lineOpening style ++ body

/-- Whether the stretch begins where it should after a text: a slash before the slash of a comment would open one. -/
def MayFollow : Hidden style → List Char → Prop
  | literal _ _ _ _, _ => True
  | _, before => style = .slashes → before.getLast? ≠ some '/'

/-- Whether the stretch ends where it should before a text: a comment up to the end of its line, at such an end. -/
def EndsBefore : Hidden style → List Char → Prop
  | lineComment _ _, after => ∀ c ∈ after.head?, c = '\n'
  | _, _ => True

end Hidden

/-- Line feeds as many as a text has. -/
def lineFeeds (text : List Char) : List Char := List.replicate (text.count '\n') '\n'

theorem lineFeeds_cons {c : Char} (hc : c ≠ '\n') (rest : List Char) : lineFeeds (c :: rest) = lineFeeds rest := by
  rw [lineFeeds, List.count_cons_of_ne hc, lineFeeds]

/-- Outside code only a line feed is kept. -/
theorem strippedFrom_cons_hidden {s : Scan} (hs : s ≠ .code) (c : Char) (rest : List Char) :
    strippedFrom style s (c :: rest) = lineFeeds [c] ++ strippedFrom style (s.next style c rest.head?) rest := by
  rw [strippedFrom_cons]
  by_cases hc : c = '\n'
  · rw [hc, Scan.keeps_newline, if_pos rfl]
    rfl
  · rw [if_neg fun hkeeps => (Scan.keeps_eq_true.mp hkeeps).elim hc fun h => hs h.1, lineFeeds_cons hc]
    rfl

theorem lineFeeds_append (a b : List Char) : lineFeeds (a ++ b) = lineFeeds a ++ lineFeeds b := by
  rw [lineFeeds, List.count_append, List.replicate_add, lineFeeds, lineFeeds]

/-- A quote is neither a backslash nor a sign that opens a comment nor a line feed. -/
theorem quote_cases {quote : Char} (h : isLiteralQuote quote = true) :
    quote = '\x27' ∨ quote = '\x22' ∨ quote = '\x60' := by
  simpa [isLiteralQuote, or_assoc] using h

/-- A literal is left at its closing quote, and its line feeds are kept. -/
theorem strippedFrom_literalBody {quote : Char} (hquote : isLiteralQuote quote = true) {body : List Char}
    (hbody : IsLiteralBody quote body) (rest : List Char) :
    strippedFrom style (.literal quote) (body ++ quote :: rest) = lineFeeds body ++ strippedFrom style .code rest := by
  have hne : Scan.literal quote ≠ .code := by simp
  induction hbody with
  | nil =>
    have hnewline : quote ≠ '\n' := by
      rcases quote_cases hquote with rfl | rfl | rfl <;> decide
    rw [List.nil_append, strippedFrom_cons_hidden hne, lineFeeds_cons hnewline]
    simp [Scan.next]
  | @plain c tail hc hescape _ ih =>
    rw [List.cons_append, strippedFrom_cons_hidden hne, ← List.singleton_append (l := tail), lineFeeds_append,
      List.append_assoc]
    simp only [Scan.next, if_neg hc, if_neg hescape, ih]
  | @escaped c tail _ ih =>
    have hbackslash : '\\' ≠ quote := by
      rcases quote_cases hquote with rfl | rfl | rfl <;> decide
    have hescape : Scan.escape quote ≠ .code := by simp
    rw [List.cons_append, List.cons_append, strippedFrom_cons_hidden hne, Scan.next, if_neg hbackslash, if_pos rfl,
      strippedFrom_cons_hidden hescape, Scan.next, ih, lineFeeds_cons (by decide) [],
      lineFeeds_cons (by decide) (c :: tail), ← List.singleton_append (l := tail), lineFeeds_append, List.append_assoc]
    rfl

/-- A block comment is left at the first star with a slash after it. -/
theorem strippedFrom_blockBody {body : List Char} (hbody : ¬['*', '/'] <:+: body) (rest : List Char) :
    strippedFrom style .blockComment (body ++ '*' :: '/' :: rest) =
      lineFeeds body ++ strippedFrom style .code rest := by
  have hne : Scan.blockComment ≠ .code := by simp
  induction body with
  | nil =>
    have hclosing : Scan.blockClosing ≠ .code := by simp
    rw [List.nil_append, strippedFrom_cons_hidden hne, List.head?_cons, Scan.next, if_pos ⟨rfl, rfl⟩,
      strippedFrom_cons_hidden hclosing]
    rfl
  | cons c tail ih =>
    have hopen : ¬(c = '*' ∧ (tail ++ '*' :: '/' :: rest).head? = some '/') := by
      rintro ⟨rfl, hslash⟩
      cases tail with
      | nil => simp at hslash
      | cons d tail =>
        obtain rfl : d = '/' := by simpa using hslash
        exact hbody ⟨[], tail, rfl⟩
    have htail : ¬['*', '/'] <:+: tail := fun h => hbody (h.trans (List.suffix_cons c tail).isInfix)
    rw [List.cons_append, strippedFrom_cons_hidden hne, Scan.next, if_neg hopen, ih htail,
      ← List.singleton_append (l := tail), lineFeeds_append, List.append_assoc]

/-- A comment up to the end of its line is left there. -/
theorem strippedFrom_lineBody {body after : List Char} (hbody : '\n' ∉ body) (hafter : ∀ c ∈ after.head?, c = '\n') :
    strippedFrom style .lineComment (body ++ after) = strippedFrom style .code after := by
  have hne : Scan.lineComment ≠ .code := by simp
  induction body with
  | nil =>
    cases after with
    | nil => rfl
    | cons c rest =>
      obtain rfl : c = '\n' := hafter c rfl
      have hcode : Scan.next style .code '\n' none = .code := by cases style <;> rfl
      rw [List.nil_append, strippedFrom_cons, strippedFrom_cons, Scan.keeps_newline, Scan.keeps_newline,
        Scan.next_newline, Scan.next_newline .code, hcode]
      rfl
  | cons c tail ih =>
    rw [List.mem_cons, not_or] at hbody
    rw [List.cons_append, strippedFrom_cons_hidden hne, lineFeeds_cons (Ne.symm hbody.1), Scan.next,
      if_neg (Ne.symm hbody.1), ih hbody.2]
    rfl

/-- A character that opens something is not kept. -/
theorem strippedFrom_opening {s : Scan} {c : Char} {rest : List Char} (hc : c ≠ '\n') (hs : s ≠ .code)
    (hnext : Scan.next style .code c rest.head? = s) :
    strippedFrom style .code (c :: rest) = strippedFrom style s rest := by
  rw [strippedFrom_cons, hnext, if_neg]
  intro hkeeps
  rcases Scan.keeps_eq_true.mp hkeeps with hnewline | ⟨-, hcode⟩
  · exact hc hnewline
  · exact hs (hnext ▸ hcode)

/-- **A literal or a comment that begins in code** leaves its line feeds, and what follows is scanned from code. -/
theorem strippedFrom_hidden (r : Hidden style) {after : List Char} (hafter : r.EndsBefore after) :
    strippedFrom style .code (r.text ++ after) = lineFeeds r.body ++ strippedFrom style .code after := by
  cases r with
  | literal quote body hquote hbody =>
    have hopening : Scan.next style .code quote (body ++ quote :: after).head? = .literal quote := by
      rcases quote_cases hquote with rfl | rfl | rfl <;> cases style <;> rfl
    have hnewline : quote ≠ '\n' := by
      rcases quote_cases hquote with rfl | rfl | rfl <;> decide
    rw [Hidden.text, List.cons_append, List.append_assoc, List.singleton_append,
      strippedFrom_opening hnewline (by simp) hopening, strippedFrom_literalBody hquote hbody, Hidden.body]
  | blockComment body hstyle hbody =>
    cases hstyle
    have hblock : Scan.blockOpening ≠ .code := by simp
    rw [Hidden.text, List.cons_append, List.cons_append, List.append_assoc,
      strippedFrom_opening (by decide) hblock rfl, strippedFrom_cons_hidden hblock, Scan.next,
      lineFeeds_cons (by decide)]
    exact strippedFrom_blockBody hbody after
  | lineComment body hbody =>
    have hline : Scan.lineComment ≠ .code := by simp
    have hnone : lineFeeds body = [] := by rw [lineFeeds, List.count_eq_zero.mpr hbody, List.replicate_zero]
    rw [Hidden.body, hnone, List.nil_append]
    cases style with
    | slashes =>
      rw [Hidden.text, Hidden.lineOpening, List.append_assoc, List.cons_append, List.cons_append, List.nil_append,
        strippedFrom_opening (by decide) hline rfl, strippedFrom_cons_hidden hline, lineFeeds_cons (by decide)]
      exact strippedFrom_lineBody hbody hafter
    | hash =>
      rw [Hidden.text, Hidden.lineOpening, List.append_assoc, List.singleton_append,
        strippedFrom_opening (by decide) hline rfl]
      exact strippedFrom_lineBody hbody hafter

end Hidden

/-! ### Whole texts -/

section Texts

theorem isCut_of_mayFollow {r : Hidden style} {before : List Char} (h : r.MayFollow before) (after : List Char) :
    IsCut before (r.text ++ after) := by
  intro hlast
  cases r with
  | literal quote body hquote hbody =>
    rw [Hidden.text, List.cons_append, List.head?_cons]
    rcases quote_cases hquote with rfl | rfl | rfl <;> decide
  | blockComment body hstyle hbody => exact absurd hlast (h hstyle)
  | lineComment body hbody =>
    cases style with
    | slashes => exact absurd hlast (h rfl)
    | hash =>
      rw [Hidden.text, Hidden.lineOpening, List.append_assoc, List.singleton_append, List.head?_cons]
      decide

theorem stripped_hidden {before after : List Char} (r : Hidden style) (hcode : Scan.after style .code before = .code)
    (hfollow : r.MayFollow before) (hends : r.EndsBefore after) :
    stripped style (before ++ r.text ++ after) = stripped style before ++ lineFeeds r.body ++ stripped style after := by
  rw [List.append_assoc, stripped_append hcode (isCut_of_mayFollow hfollow after), List.append_assoc]
  exact congrArg (stripped style before ++ ·) (strippedFrom_hidden r hends)

/-- Two texts differ inside literals and comments only, each of which has as many line feeds as its counterpart. -/
inductive SameOutside (style : CommentStyle) : List Char → List Char → Prop
  | refl (text : List Char) : SameOutside style text text
  | hidden {before after after' : List Char} (r r' : Hidden style) (hcode : Scan.after style .code before = .code)
      (hfollow : r.MayFollow before) (hfollow' : r'.MayFollow before) (hends : r.EndsBefore after)
      (hends' : r'.EndsBefore after') (hfeeds : r.body.count '\n' = r'.body.count '\n')
      (hafter : SameOutside style after after') :
      SameOutside style (before ++ r.text ++ after) (before ++ r'.text ++ after')

/-- The code of such texts is the same. -/
theorem SameOutside.stripped_eq {text text' : List Char} (h : SameOutside style text text') :
    stripped style text = stripped style text' := by
  induction h with
  | refl text => rfl
  | hidden r r' hcode hfollow hfollow' hends hends' hfeeds _ ih =>
    rw [stripped_hidden r hcode hfollow hends, stripped_hidden r' hcode hfollow' hends', ih, lineFeeds, lineFeeds,
      hfeeds]

/-- **What stands inside literals and comments cannot be told from the code**: a literal or a comment that begins in
code leaves one line feed for each that it holds, and texts that differ in the insides of such stretches only, at any
number of places, have the same measures. -/
theorem hidden_leaves_lineFeeds (style : CommentStyle) :
    (∀ before after (r : Hidden style), Scan.after style .code before = .code → r.MayFollow before →
      r.EndsBefore after → stripped style (before ++ r.text ++ after) =
        stripped style before ++ List.replicate (r.body.count '\n') '\n' ++ stripped style after) ∧
    ∀ text text', SameOutside style text text' →
      cyclomatic style text = cyclomatic style text' ∧ cognitive style text = cognitive style text' := by
  constructor
  · intro before after r hcode hfollow hends
    exact stripped_hidden r hcode hfollow hends
  · intro text text' h
    rw [cyclomatic, cyclomatic, cognitive, cognitive, h.stripped_eq]
    exact ⟨rfl, rfl⟩

/-- A quote behind a backslash does not close a literal: `s = "\"&&"; t` counts as `s = ""; t` does. -/
theorem hidden_leaves_lineFeeds_of_escaped_quote :
    let r : Hidden .slashes := .literal '\x22' ['\\', '\x22', '&', '&'] rfl
      (.escaped _ (.plain (by decide) (by decide) (.plain (by decide) (by decide) .nil)))
    let empty : Hidden .slashes := .literal '\x22' [] rfl .nil
    let before := "s = ".toList
    let after := "; t".toList
    Scan.after .slashes .code before = .code ∧ r.MayFollow before ∧ r.EndsBefore after ∧
      stripped .slashes (before ++ r.text ++ after) = "s = ; t".toList ∧
      SameOutside .slashes (before ++ r.text ++ after) (before ++ empty.text ++ after) ∧
      cyclomatic .slashes (before ++ r.text ++ after) = cyclomatic .slashes (before ++ empty.text ++ after) := by
  intro r empty before after
  have hcode : Scan.after .slashes .code before = .code := by decide
  have hsame : SameOutside .slashes (before ++ r.text ++ after) (before ++ empty.text ++ after) :=
    .hidden r empty hcode trivial trivial trivial trivial rfl (.refl after)
  refine ⟨hcode, trivial, trivial, ?_, hsame, ((hidden_leaves_lineFeeds .slashes).2 _ _ hsame).1⟩
  rw [(hidden_leaves_lineFeeds .slashes).1 before after r hcode trivial trivial]
  decide

end Texts

end Source
end RepoSurvey
