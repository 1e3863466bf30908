import DocSplice.Decimal.Shortest
import DocSplice.Text.Lines

/-!
# Writing TOML

How a value is written behind its key.

A string is written in the plainest of five forms that can hold it: with double quotes when nothing
needs an escape, with single quotes, over several lines with three double quotes or with three
single quotes, and last with double quotes and escapes.
-/

namespace DocSplice.Toml

/-- A control character other than a tab and a line end; it takes an escape. -/
def isControl (c : Char) : Bool :=
  (c.toNat < 32 && c != '\t' && c != '\n') || c.toNat == 127

/-- The longest run of a character. -/
def longestRun (sought : Char) (t : Text) : Nat :=
  (t.foldl (fun (run : Nat × Nat) c =>
    if c = sought then (run.1 + 1, max run.2 (run.1 + 1)) else (0, run.2)) (0, 0)).2

/-- A hexadecimal digit in upper case. -/
def upperHexDigit (n : Nat) : Char := Char.ofNat (if n < 10 then 48 + n else 55 + n)

/-- The escape of a control character. -/
def controlEscape (c : Char) : Text :=
  if c = '\x08' then ['\\', 'b']
  else if c = '\x0c' then ['\\', 'f']
  else if c = '\r' then ['\\', 'r']
  else ['\\', 'u', '0', '0', upperHexDigit (c.toNat / 16), upperHexDigit (c.toNat % 16)]

/-- The inside of a string with escapes; `quotes` double quotes may stand together, and so may line
ends if `breaks` says so.  `run` counts the quotes just before. -/
def escapeFrom (quotes : Nat) (breaks : Bool) (run : Nat) : Text → Text
  | [] => []
  | c :: t =>
    if c = '"' then
      if run < quotes then c :: escapeFrom quotes breaks (run + 1) t
      else '\\' :: c :: escapeFrom quotes breaks 0 t
    else if c = '\\' then '\\' :: c :: escapeFrom quotes breaks 0 t
    else if c = '\t' then '\\' :: 't' :: escapeFrom quotes breaks 0 t
    else if c = '\n' then
      if breaks then c :: escapeFrom quotes breaks 0 t
      else '\\' :: 'n' :: escapeFrom quotes breaks 0 t
    else if isControl c then controlEscape c ++ escapeFrom quotes breaks 0 t
    else c :: escapeFrom quotes breaks 0 t

/-- A string with double quotes. -/
def basicText (t : Text) : Text := '"' :: escapeFrom 0 false 0 t ++ ['"']

/-- A string between three quotes at either end, on a line of its own if it has several. -/
def blockText (quote : Char) (t inside : Text) : Text :=
  let fence := List.replicate 3 quote
  fence ++ (if List.contains t '\n' then ['\n'] else []) ++ inside ++ fence

/-- A string over several lines with escapes. -/
def basicBlockText (t : Text) : Text := blockText '"' t (escapeFrom 2 true 0 t)

/-- A string in the plainest form that can hold it. -/
def stringText (t : Text) : Text :=
  let broken := List.contains t '\n'
  let control := t.any isControl
  let escape := List.contains t '\\'
  if !control && !escape && longestRun '"' t = 0 && !broken then basicText t
  else if !control && longestRun '\'' t = 0 && !broken then '\'' :: t ++ ['\'']
  else if !control && !escape && longestRun '"' t ≤ 2 then basicBlockText t
  else if !control && longestRun '\'' t ≤ 2 then blockText '\'' t t
  else if broken then basicBlockText t
  else basicText t

/-- A number of the format; whole numbers keep a place behind the point. -/
def floatText (f : BinaryFormat) : BinaryNumber → Text
  | .finite negative magnitude =>
    let d := f.shortest magnitude
    BinaryNumber.signText negative ++ d.positional ++ (if d.isWhole then ['.', '0'] else [])
  | .infinite negative => BinaryNumber.signText negative ++ "inf".toList
  | .notANumber => "nan".toList

/-- A truth value. -/
def booleanText (b : Bool) : Text := (if b then "true" else "false").toList

/-- A key and what stands behind it, on a line of its own. -/
def entryLine (key : String) (value : Text) : Text := key.toList ++ " = ".toList ++ value ++ ['\n']

/-- A header and the lines below it. -/
def tableText (name : String) (lines : List Text) : Text :=
  '[' :: name.toList ++ [']', '\n'] ++ lines.flatten

end DocSplice.Toml
