import DocSplice.Grammar.Vocabulary
import DocSplice.Text.Identifier

/-!
# Lexemes

Which words, numbers and marks a text starts with.  Every function here gives the number of
characters that a lexeme takes at the start of the text, and zero when none is there.

`Lexeme.longest?` picks among the terminals that may come next the one that takes most characters.
A word is a keyword only where that keyword may come; elsewhere the same letters make a name.
-/

namespace DocSplice.Grammar.Lexeme

/-- A character between lexemes that says nothing. -/
def isSpacing (c : Char) : Bool :=
  let n := c.toNat
  (9 ≤ n && n ≤ 13) || n == 0x20 || n == 0x200B || n == 0x2060 || n == 0xFEFF

/-- A hexadecimal digit. -/
def isHexDigit (c : Char) : Bool :=
  isAsciiDigit c || ('a' ≤ c && c ≤ 'f') || ('A' ≤ c && c ≤ 'F')

/-! ## Numbers -/

/-- Decimal digits, where a single underscore may follow a digit; `afterDigit` says whether the
character before was one. -/
def digitsFrom (afterDigit : Bool) : Text → Nat
  | [] => 0
  | c :: t =>
    if isAsciiDigit c then 1 + digitsFrom true t
    else if c = '_' && afterDigit then 1 + digitsFrom false t
    else 0

/-- A group of decimal digits. -/
def digits (t : Text) : Nat := digitsFrom false t

/-- Digits of another base, where a single underscore may precede a digit. -/
def groupedDigits (isDigit : Char → Bool) : Text → Nat
  | [] => 0
  | c :: t =>
    if isDigit c then 1 + groupedDigits isDigit t
    else if c = '_' && t.head?.any isDigit then 1 + groupedDigits isDigit t
    else 0

/-- Whether the text starts with one of the characters. -/
def startsWithOneOf (letters : List Char) (t : Text) : Bool := t.head?.any letters.contains

/-- The length of an optional character. -/
def optional (letters : List Char) (t : Text) : Nat := if startsWithOneOf letters t then 1 else 0

/-- A number with a letter for its base. -/
def basedInteger (letters : List Char) (isDigit : Char → Bool) : Text → Nat
  | '0' :: c :: t =>
    let length := groupedDigits isDigit t
    if letters.contains c && 0 < length then
      2 + length + optional ['l', 'L'] (t.drop length)
    else 0
  | _ => 0

/-- The letters that may end a decimal number. -/
def numberSuffixes : List Char := ['l', 'L', 'j', 'J']

/-- A whole number. -/
def integer (t : Text) : Nat :=
  let decimal := digits t
  let suffixed := if decimal = 0 then 0 else decimal + optional numberSuffixes (t.drop decimal)
  [basedInteger ['x', 'X'] isHexDigit t, basedInteger ['o', 'O'] (fun c => '0' ≤ c && c ≤ '7') t,
    basedInteger ['b', 'B'] (fun c => c == '0' || c == '1') t].foldl max suffixed

/-- A point and the digits after it, which may be missing where digits came before. -/
def fraction (whole : Nat) : Text → Nat
  | '.' :: t => if whole = 0 && digits t = 0 then 0 else 1 + digits t
  | _ => 0

/-- An exponent. -/
def exponent : Text → Nat
  | c :: t =>
    let sign := optional ['+', '-'] t
    let power := digits (t.drop sign)
    if (c == 'e' || c == 'E') && 0 < power then 1 + sign + power else 0
  | [] => 0

/-- A number with a point or an exponent. -/
def float (t : Text) : Nat :=
  let whole := digits t
  let point := fraction whole (t.drop whole)
  let power := if whole + point = 0 then 0 else exponent (t.drop (whole + point))
  if point + power = 0 then 0
  else
    let length := whole + point + power
    length + optional numberSuffixes (t.drop length)

/-! ## Words, marks and what stands inside quotes -/

/-- A word. -/
def word : Text → Nat
  | c :: t => if startsIdentifier c then 1 + (t.takeWhile continuesIdentifier).length else 0
  | [] => 0

/-- The longest of the marks. -/
def longestMark (marks : List Mark) (t : Text) : Option (Mark × Nat) :=
  marks.foldl
    (fun best mark =>
      let length := mark.spelling.length
      if mark.spelling.isPrefixOf t && (best.map Prod.snd).getD 0 < length then
        some (mark, length)
      else best)
    none

/-- The length of exactly `count` characters with the property. -/
def exactly (count : Nat) (p : Char → Bool) (t : Text) : Option Nat :=
  let found := t.take count
  if found.length = count && found.all p then some count else none

/-- What a backslash escapes: a code point, a named character, a line end or a single character. -/
def escaped : Text → Nat
  | 'u' :: t => ((exactly 4 isHexDigit t).map (1 + ·)).getD 0
  | 'U' :: t => ((exactly 8 isHexDigit t).map (1 + ·)).getD 0
  | 'x' :: t => ((exactly 2 isHexDigit t).map (1 + ·)).getD 0
  | 'N' :: '\x7b' :: t =>
    let name := (t.takeWhile (· != '\x7d')).length
    if 0 < name && (t.drop name).head? == some '\x7d' then 3 + name else 0
  | '\n' :: _ => 1
  | '\r' :: '\n' :: _ => 2
  | c :: t =>
    if "'\"abfrntv\\".toList.contains c then 1
    else (exactly 3 isAsciiDigit (c :: t)).getD 0
  | [] => 0

/-- A backslash and what it escapes. -/
def escape : Text → Nat
  | '\\' :: t => if escaped t = 0 then 0 else 1 + escaped t
  | _ => 0

/-- A backslash. -/
def loneBackslash (t : Text) : Nat := optional ['\\'] t

/-- The letter of a conversion, behind its mark. -/
def conversion : Text → Nat
  | '!' :: c :: _ => if 'a' ≤ c && c ≤ 'z' then 2 else 0
  | _ => 0

/-- The plain part of a format. -/
def formatText (t : Text) : Nat :=
  (t.takeWhile fun c => c != '\x7b' && c != '\x7d' && c != '\n').length

/-! ## What stands between lexemes -/

/-- A comment up to the end of its line. -/
def comment : Text → Nat
  | '#' :: t => 1 + (t.takeWhile (· != '\n')).length
  | _ => 0

/-- A backslash that hides the end of its line, or that stands at the end of the text. -/
def continuation : Text → Nat
  | ['\\'] => 1
  | '\\' :: '\n' :: _ => 2
  | '\\' :: '\r' :: '\n' :: _ => 3
  | _ => 0

/-! ## The choice -/

/-- The terminal that a word stands for. -/
def wordTerminal? (expects : Terminal → Bool) (spelling : Text) : Option Terminal :=
  match (Keyword.ofSpelling? spelling).filter fun k => expects (.keyword k) with
  | some k => some (.keyword k)
  | none => if expects .name then some .name else none

/-- The word at the start of the text, if one may come next. -/
def word? (expects : Terminal → Bool) (t : Text) : Option (Terminal × Nat) :=
  let length := word t
  if length = 0 then none else (wordTerminal? expects (t.take length)).map (·, length)

/-- The mark at the start of the text, if one may come next. -/
def mark? (expects : Terminal → Bool) (t : Text) : Option (Terminal × Nat) :=
  (longestMark (Mark.all.filter fun m => expects (.mark m)) t).map fun found =>
    (.mark found.1, found.2)

/-- The lexeme of the given length, if it may come next. -/
def plain? (expects : Terminal → Bool) (a : Terminal) (length : Nat) : Option (Terminal × Nat) :=
  if 0 < length && expects a then some (a, length) else none

/-- The one that takes more characters; of two that take the same, the first. -/
def longer : Option (Terminal × Nat) → Option (Terminal × Nat) → Option (Terminal × Nat)
  | some a, some b => if a.2 < b.2 then some b else some a
  | some a, none => some a
  | none, b => b

/-- The longest lexeme that may come next.  Inside quotes a lexeme stands directly behind the one
before it, so `adjacent` says whether anything was skipped. -/
def longest? (expects : Terminal → Bool) (adjacent : Bool) (t : Text) :
    Option (Terminal × Nat) :=
  let quoted :=
    if adjacent then
      [plain? expects .escape (escape t), plain? expects .loneBackslash (loneBackslash t)]
    else []
  ([word? expects t, mark? expects t, plain? expects .float (float t),
      plain? expects .integer (integer t), plain? expects .conversion (conversion t)]
    ++ quoted).foldl longer none

end DocSplice.Grammar.Lexeme
