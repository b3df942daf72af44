import RepoSurvey.Text.Cut
import RepoSurvey.Text.Names.Alphabetic
import RepoSurvey.Text.Names.Historic
import RepoSurvey.Text.Names.Pictorial
import RepoSurvey.Text.Names.Syllabic
import RepoSurvey.Text.Names.Symbolic

/-!
# Names of characters

The characters of Unicode 14 by their names and aliases. The case of letters does not count, but in the names of Hangul
syllables and unified ideographs.

* `NameEntry.ofText`: an entry in a table of names.
* `codeIn?`: the code point that a table gives to a name.
* `syllable?`, `ideograph?`, `numbered?`: names that are made by a rule.
* `named?`: the code point of any name.

The entries of a table are in the order of the code points and separated by commas and line breaks. An entry consists
of digits, if code points without an entry come before it: how many; of a small letter, if the name begins like the one
before it: how many words they share, `a` for one; of the other words; and of a small letter, if the name also ends
like the one before it: how many words they share at the end.
-/

namespace RepoSurvey
namespace Text

/-- The value of a hexadecimal digit. -/
def hexValue? (c : Char) : Option Nat :=
  if '0' ≤ c ∧ c ≤ '9' then some (c.toNat - '0'.toNat)
  else if 'a' ≤ c ∧ c ≤ 'f' then some (c.toNat - 'a'.toNat + 10)
  else if 'A' ≤ c ∧ c ≤ 'F' then some (c.toNat - 'A'.toNat + 10)
  else none

/-! ### Tables of names -/

section

/-- An entry in a table of names. -/
structure NameEntry where
  /-- Code points without an entry before this one. -/
  skipped : Nat
  /-- Words shared with the beginning of the name before. -/
  sharedStart : Nat
  words : List (List Char)
  /-- Words shared with the end of the name before. -/
  sharedEnd : Nat

/-- The number that a small letter stands for. -/
def letterCount? (c : Char) : Option Nat := if c.isLower then some (c.toNat - 'a'.toNat + 1) else none

def NameEntry.ofText (s : List Char) : NameEntry :=
  let digits := s.takeWhile Char.isDigit
  let s := s.drop digits.length
  let start := s.head?.bind letterCount?
  let s := if start.isSome then s.tail else s
  let finish := s.getLast?.bind letterCount?
  let s := if finish.isSome then s.dropLast else s
  { skipped := digits.foldl (fun n c => 10 * n + (c.toNat - '0'.toNat)) 0
    sharedStart := start.getD 0
    words := if s.isEmpty then [] else s.splitOn ' '
    sharedEnd := finish.getD 0 }

/-- The words of a name, after the words of the name before it. -/
def NameEntry.name (e : NameEntry) (before : List (List Char)) : List (List Char) :=
  before.take e.sharedStart ++ e.words ++ before.drop (before.length - e.sharedEnd)

/-- The code point of a name among entries, the first of which stands at or after `code`. -/
def codeAmong? (name : List (List Char)) : Nat → List (List Char) → List (List Char) → Option Nat
  | _, _, [] => none
  | code, before, text :: rest =>
    let entry := NameEntry.ofText text
    let code := code + entry.skipped
    let here := entry.name before
    if here = name then some code else codeAmong? name (code + 1) here rest

def codeIn? (table : String) (name : List Char) : Option Nat :=
  codeAmong? (name.splitOn ' ') 0 [] (table.toList.splitOnP fun c => c == ',' || c == '\n')

end

/-! ### Names made by a rule -/

section

def hangulInitials : List String :=
  ["G", "GG", "N", "D", "DD", "R", "M", "B", "BB", "S", "SS", "", "J", "JJ", "C", "K", "T", "P", "H"]

def hangulVowels : List String :=
  ["A", "AE", "YA", "YAE", "EO", "E", "YEO", "YE", "O", "WA", "WAE", "OE", "YO", "U", "WEO", "WE", "WI", "YU", "EU",
    "YI", "I"]

def hangulFinals : List String :=
  ["", "G", "GG", "GS", "N", "NJ", "NH", "D", "L", "LG", "LM", "LB", "LS", "LT", "LP", "LH", "M", "B", "BS", "S", "SS",
    "NG", "J", "C", "K", "T", "P", "H"]

/-- The number of the longest part that a text begins with, and the text after it. -/
def longestPart? (parts : List String) (s : List Char) : Option (Nat × List Char) :=
  let fitting := parts.zipIdx.filterMap fun (p, i) => (after? p.toList s).map (i, ·)
  fitting.foldl (fun best found =>
    if best.all fun b => decide (found.2.length < b.2.length) then some found else best) none

/-- A Hangul syllable, by the letters that it is written with. -/
def syllable? (letters : List Char) : Option Nat := do
  let (initial, s) ← longestPart? hangulInitials letters
  let (vowel, s) ← longestPart? hangulVowels s
  let (final, s) ← longestPart? hangulFinals s
  if s.isEmpty then some (0xAC00 + (initial * hangulVowels.length + vowel) * hangulFinals.length + final) else none

/-- The number that hexadecimal digits write, without small letters among them. -/
def capitalHex? (digits : List Char) : Option Nat :=
  if digits.any Char.isLower then none
  else digits.foldl (fun n c => n.bind fun n => (hexValue? c).map (16 * n + ·)) (some 0)

/-- First and last code points of the unified ideographs. -/
def ideographRanges : List (Nat × Nat) :=
  [(0x3400, 0x4DBF), (0x4E00, 0x9FFF), (0x20000, 0x2A6DF), (0x2A700, 0x2B738), (0x2B740, 0x2B81D), (0x2B820, 0x2CEA1),
    (0x2CEB0, 0x2EBE0), (0x30000, 0x3134A)]

def liesIn (ranges : List (Nat × Nat)) (code : Nat) : Bool :=
  ranges.any fun (first, last) => first ≤ code && code ≤ last

/-- A unified ideograph, by four or five digits. -/
def ideograph? (digits : List Char) : Option Nat :=
  if digits.length = 4 ∨ digits.length = 5 then (capitalHex? digits).filter (liesIn ideographRanges) else none

/-- Beginnings of names that end in the character's own number. -/
def numberedNames : List (String × List (Nat × Nat)) :=
  [("CJK COMPATIBILITY IDEOGRAPH-", [(0xF900, 0xFA6D), (0xFA70, 0xFAD9), (0x2F800, 0x2FA1D)]),
    ("KHITAN SMALL SCRIPT CHARACTER-", [(0x18B00, 0x18CD5)]), ("NUSHU CHARACTER-", [(0x1B170, 0x1B2FB)])]

/-- A character whose name ends in its number, which is written without leading zeros. -/
def numbered? (name : List Char) : Option Nat :=
  numberedNames.findSome? fun (start, ranges) =>
    (after? start.toList name).bind fun digits =>
      if digits.head? = some '0' then none else (capitalHex? digits).filter (liesIn ranges)

/-- A variation selector by its abbreviation, `VS1` to `VS256`. -/
def selector? : List Char → Option Nat
  | 'V' :: 'S' :: digits =>
    (List.range 256).findSome? fun i =>
      if Nat.toDigits 10 (i + 1) = digits then some (if i < 16 then 0xFE00 + i else 0xE0100 + i - 16) else none
  | _ => none

end

/-! ### All names -/

section

/-- Aliases and abbreviations, control characters included. -/
def aliases : List (String × Nat) := [
  ("NULL", 0x0), ("NUL", 0x0), ("START OF HEADING", 0x1), ("SOH", 0x1), ("START OF TEXT", 0x2), ("STX", 0x2),
  ("END OF TEXT", 0x3), ("ETX", 0x3), ("END OF TRANSMISSION", 0x4), ("EOT", 0x4), ("ENQUIRY", 0x5), ("ENQ", 0x5),
  ("ACKNOWLEDGE", 0x6), ("ACK", 0x6), ("ALERT", 0x7), ("BEL", 0x7), ("BACKSPACE", 0x8), ("BS", 0x8),
  ("CHARACTER TABULATION", 0x9), ("HORIZONTAL TABULATION", 0x9), ("HT", 0x9), ("TAB", 0x9), ("LINE FEED", 0xA),
  ("NEW LINE", 0xA), ("END OF LINE", 0xA), ("LF", 0xA), ("NL", 0xA), ("EOL", 0xA), ("LINE TABULATION", 0xB),
  ("VERTICAL TABULATION", 0xB), ("VT", 0xB), ("FORM FEED", 0xC), ("FF", 0xC), ("CARRIAGE RETURN", 0xD), ("CR", 0xD),
  ("SHIFT OUT", 0xE), ("LOCKING-SHIFT ONE", 0xE), ("SO", 0xE), ("SHIFT IN", 0xF), ("LOCKING-SHIFT ZERO", 0xF),
  ("SI", 0xF), ("DATA LINK ESCAPE", 0x10), ("DLE", 0x10), ("DEVICE CONTROL ONE", 0x11), ("DC1", 0x11),
  ("DEVICE CONTROL TWO", 0x12), ("DC2", 0x12), ("DEVICE CONTROL THREE", 0x13), ("DC3", 0x13),
  ("DEVICE CONTROL FOUR", 0x14), ("DC4", 0x14), ("NEGATIVE ACKNOWLEDGE", 0x15), ("NAK", 0x15),
  ("SYNCHRONOUS IDLE", 0x16), ("SYN", 0x16), ("END OF TRANSMISSION BLOCK", 0x17), ("ETB", 0x17), ("CANCEL", 0x18),
  ("CAN", 0x18), ("END OF MEDIUM", 0x19), ("EOM", 0x19), ("SUBSTITUTE", 0x1A), ("SUB", 0x1A), ("ESCAPE", 0x1B),
  ("ESC", 0x1B), ("INFORMATION SEPARATOR FOUR", 0x1C), ("FILE SEPARATOR", 0x1C), ("FS", 0x1C),
  ("INFORMATION SEPARATOR THREE", 0x1D), ("GROUP SEPARATOR", 0x1D), ("GS", 0x1D),
  ("INFORMATION SEPARATOR TWO", 0x1E), ("RECORD SEPARATOR", 0x1E), ("RS", 0x1E), ("INFORMATION SEPARATOR ONE", 0x1F),
  ("UNIT SEPARATOR", 0x1F), ("US", 0x1F), ("SP", 0x20), ("DELETE", 0x7F), ("DEL", 0x7F), ("PADDING CHARACTER", 0x80),
  ("PAD", 0x80), ("HIGH OCTET PRESET", 0x81), ("HOP", 0x81), ("BREAK PERMITTED HERE", 0x82), ("BPH", 0x82),
  ("NO BREAK HERE", 0x83), ("NBH", 0x83), ("INDEX", 0x84), ("IND", 0x84), ("NEXT LINE", 0x85), ("NEL", 0x85),
  ("START OF SELECTED AREA", 0x86), ("SSA", 0x86), ("END OF SELECTED AREA", 0x87), ("ESA", 0x87),
  ("CHARACTER TABULATION SET", 0x88), ("HORIZONTAL TABULATION SET", 0x88), ("HTS", 0x88),
  ("CHARACTER TABULATION WITH JUSTIFICATION", 0x89), ("HORIZONTAL TABULATION WITH JUSTIFICATION", 0x89),
  ("HTJ", 0x89), ("LINE TABULATION SET", 0x8A), ("VERTICAL TABULATION SET", 0x8A), ("VTS", 0x8A),
  ("PARTIAL LINE FORWARD", 0x8B), ("PARTIAL LINE DOWN", 0x8B), ("PLD", 0x8B), ("PARTIAL LINE BACKWARD", 0x8C),
  ("PARTIAL LINE UP", 0x8C), ("PLU", 0x8C), ("REVERSE LINE FEED", 0x8D), ("REVERSE INDEX", 0x8D), ("RI", 0x8D),
  ("SINGLE SHIFT TWO", 0x8E), ("SINGLE-SHIFT-2", 0x8E), ("SS2", 0x8E), ("SINGLE SHIFT THREE", 0x8F),
  ("SINGLE-SHIFT-3", 0x8F), ("SS3", 0x8F), ("DEVICE CONTROL STRING", 0x90), ("DCS", 0x90), ("PRIVATE USE ONE", 0x91),
  ("PRIVATE USE-1", 0x91), ("PU1", 0x91), ("PRIVATE USE TWO", 0x92), ("PRIVATE USE-2", 0x92), ("PU2", 0x92),
  ("SET TRANSMIT STATE", 0x93), ("STS", 0x93), ("CANCEL CHARACTER", 0x94), ("CCH", 0x94), ("MESSAGE WAITING", 0x95),
  ("MW", 0x95), ("START OF GUARDED AREA", 0x96), ("START OF PROTECTED AREA", 0x96), ("SPA", 0x96),
  ("END OF GUARDED AREA", 0x97), ("END OF PROTECTED AREA", 0x97), ("EPA", 0x97), ("START OF STRING", 0x98),
  ("SOS", 0x98), ("SINGLE GRAPHIC CHARACTER INTRODUCER", 0x99), ("SGC", 0x99), ("SINGLE CHARACTER INTRODUCER", 0x9A),
  ("SCI", 0x9A), ("CONTROL SEQUENCE INTRODUCER", 0x9B), ("CSI", 0x9B), ("STRING TERMINATOR", 0x9C), ("ST", 0x9C),
  ("OPERATING SYSTEM COMMAND", 0x9D), ("OSC", 0x9D), ("PRIVACY MESSAGE", 0x9E), ("PM", 0x9E),
  ("APPLICATION PROGRAM COMMAND", 0x9F), ("APC", 0x9F), ("NBSP", 0xA0), ("SHY", 0xAD),
  ("LATIN CAPITAL LETTER GHA", 0x1A2), ("LATIN SMALL LETTER GHA", 0x1A3), ("CGJ", 0x34F), ("ALM", 0x61C),
  ("SYRIAC SUBLINEAR COLON SKEWED LEFT", 0x709), ("KANNADA LETTER LLLA", 0xCDE), ("LAO LETTER FO FON", 0xE9D),
  ("LAO LETTER FO FAY", 0xE9F), ("LAO LETTER RO", 0xEA3), ("LAO LETTER LO", 0xEA5),
  ("TIBETAN MARK BKA- SHOG GI MGO RGYAN", 0xFD0), ("HANGUL JONGSEONG YESIEUNG-KIYEOK", 0x11EC),
  ("HANGUL JONGSEONG YESIEUNG-SSANGKIYEOK", 0x11ED), ("HANGUL JONGSEONG SSANGYESIEUNG", 0x11EE),
  ("HANGUL JONGSEONG YESIEUNG-KHIEUKH", 0x11EF), ("FVS1", 0x180B), ("FVS2", 0x180C), ("FVS3", 0x180D),
  ("MVS", 0x180E), ("FVS4", 0x180F), ("ZWSP", 0x200B), ("ZWNJ", 0x200C), ("ZWJ", 0x200D), ("LRM", 0x200E),
  ("RLM", 0x200F), ("LRE", 0x202A), ("RLE", 0x202B), ("PDF", 0x202C), ("LRO", 0x202D), ("RLO", 0x202E),
  ("NNBSP", 0x202F), ("MMSP", 0x205F), ("WJ", 0x2060), ("LRI", 0x2066), ("RLI", 0x2067), ("FSI", 0x2068),
  ("PDI", 0x2069), ("WEIERSTRASS ELLIPTIC FUNCTION", 0x2118), ("MICR ON US SYMBOL", 0x2448),
  ("MICR DASH SYMBOL", 0x2449), ("LEFTWARDS TRIANGLE-HEADED ARROW WITH DOUBLE VERTICAL STROKE", 0x2B7A),
  ("RIGHTWARDS TRIANGLE-HEADED ARROW WITH DOUBLE VERTICAL STROKE", 0x2B7C), ("YI SYLLABLE ITERATION MARK", 0xA015),
  ("MYANMAR LETTER KHAMTI LLA", 0xAA6E), ("PRESENTATION FORM FOR VERTICAL RIGHT WHITE LENTICULAR BRACKET", 0xFE18),
  ("BYTE ORDER MARK", 0xFEFF), ("BOM", 0xFEFF), ("ZWNBSP", 0xFEFF), ("CUNEIFORM SIGN NU11 TENU", 0x122D4),
  ("CUNEIFORM SIGN NU11 OVER NU11 BUR OVER BUR", 0x122D5), ("MEDEFAIDRIN CAPITAL LETTER H", 0x16E56),
  ("MEDEFAIDRIN CAPITAL LETTER NG", 0x16E57), ("MEDEFAIDRIN SMALL LETTER H", 0x16E76),
  ("MEDEFAIDRIN SMALL LETTER NG", 0x16E77), ("HENTAIGANA LETTER E-1", 0x1B001),
  ("BYZANTINE MUSICAL SYMBOL FTHORA SKLIRON CHROMA VASIS", 0x1D0C5)]

/-- The tables of names. -/
def nameTables : List String := [alphabeticNames, symbolicNames, syllabicNames, historicNames, pictorialNames]

/-- The code point of the character with a name. -/
def named? (name : List Char) : Option Nat :=
  match after? "HANGUL SYLLABLE ".toList name, after? "CJK UNIFIED IDEOGRAPH-".toList name with
  | some letters, _ => syllable? letters
  | _, some digits => ideograph? digits
  | none, none =>
    let capitals := name.map Char.toUpper
    (aliases.lookup (String.ofList capitals)).or ((selector? capitals).or ((numbered? capitals).or
      (nameTables.findSome? (codeIn? · capitals))))

end

end Text
end RepoSurvey
