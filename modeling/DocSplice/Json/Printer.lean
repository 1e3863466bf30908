import DocSplice.Json.Value

/-!
# Writing JSON

A value is written either on one line without blanks or, for readers, with every member and every
element on a line of its own, indented by two spaces for each level.  Empty arrays and objects are
never broken.

In a string the quote, the backslash and the control characters are escaped, everything else stands
for itself.
-/

namespace DocSplice.Json

/-- The lower-case hexadecimal digits of a number below sixteen. -/
def hexDigit (n : Nat) : Char := Char.ofNat (if n < 10 then 48 + n else 87 + n)

/-- A character inside a string. -/
def escapeChar (c : Char) : Text :=
  if c = '"' then ['\\', '"']
  else if c = '\\' then ['\\', '\\']
  else if c = '\n' then ['\\', 'n']
  else if c = '\r' then ['\\', 'r']
  else if c = '\t' then ['\\', 't']
  else if c = '\x08' then ['\\', 'b']
  else if c = '\x0c' then ['\\', 'f']
  else if c.toNat < 32 then ['\\', 'u', '0', '0', hexDigit (c.toNat / 16), hexDigit (c.toNat % 16)]
  else [c]

/-- A string in quotes. -/
def quote (t : Text) : Text := '"' :: t.flatMap escapeChar ++ ['"']

/-- The text of a number. -/
def numberText (negative : Bool) (magnitude : Decimal) : Text :=
  BinaryNumber.signText negative ++ magnitude.positional

/-- The layout of a value. -/
inductive Style where
  /-- On one line. -/
  | compact
  /-- On several lines, so many levels deep. -/
  | indented (level : Nat)
  deriving DecidableEq, Repr

namespace Style

/-- The layout one level further in. -/
def deeper : Style → Style
  | .compact => .compact
  | .indented level => .indented (level + 1)

/-- What stands before a member or an element. -/
def lineBreak : Style → Text
  | .compact => []
  | .indented level => '\n' :: List.replicate (2 * level) ' '

/-- What stands between the name of a member and its value. -/
def separator : Style → Text
  | .compact => [':']
  | .indented _ => [':', ' ']

/-- Put written parts between brackets. -/
def enclose (style : Style) (opening closing : Char) (parts : List Text) : Text :=
  if parts.isEmpty then [opening, closing]
  else
    opening :: Text.join ',' (parts.map (style.deeper.lineBreak ++ ·))
      ++ style.lineBreak ++ [closing]

end Style

namespace Value

mutual

/-- Write a value. -/
def write (style : Style) : Value → Text
  | .null => "null".toList
  | .boolean b => (if b then "true" else "false").toList
  | .number negative magnitude => numberText negative magnitude
  | .string t => quote t
  | .array elements => style.enclose '[' ']' (writeElements style.deeper elements)
  | .object members => style.enclose '\x7b' '\x7d' (writeMembers style.deeper members)

/-- Write the elements of an array. -/
def writeElements (style : Style) : List Value → List Text
  | [] => []
  | v :: rest => write style v :: writeElements style rest

/-- Write the members of an object. -/
def writeMembers (style : Style) : List (Text × Value) → List Text
  | [] => []
  | (name, v) :: rest =>
    (quote name ++ style.separator ++ write style v) :: writeMembers style rest

end

/-- The value on one line. -/
def compact (v : Value) : Text := v.write .compact

/-- The value on several lines. -/
def pretty (v : Value) : Text := v.write (.indented 0)

end Value

end DocSplice.Json
