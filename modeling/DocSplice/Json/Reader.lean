import DocSplice.Json.Value
import DocSplice.Text.Word

/-!
# Reading JSON

`Json.read?` reads a text that consists of one value, with blanks around it.  Every function below
takes what it reads from the front of a text and gives the rest; a text that does not start with
what is asked for gives nothing.  Nesting is limited, so that hostile texts do not exhaust the
reader.
-/

namespace DocSplice.Json

/-- Without the leading blanks. -/
def skipBlanks (t : Text) : Text :=
  t.dropWhile fun c => c == ' ' || c == '\t' || c == '\n' || c == '\r'

/-- What follows a fixed word. -/
def afterWord? (word : String) (t : Text) : Option Text := word.toList.isPrefixOf? t

/-! ## Strings -/

/-- The value of a hexadecimal digit. -/
def hexValue? (c : Char) : Option Nat :=
  if isAsciiDigit c then some (c.toNat - 48)
  else if 'a' ≤ c && c ≤ 'f' then some (c.toNat - 87)
  else if 'A' ≤ c && c ≤ 'F' then some (c.toNat - 55)
  else none

/-- The number that four hexadecimal digits write. -/
def fourHex? : Text → Option (Nat × Text)
  | a :: b :: c :: d :: t => do
    let a ← hexValue? a
    let b ← hexValue? b
    let c ← hexValue? c
    let d ← hexValue? d
    some (((a * 16 + b) * 16 + c) * 16 + d, t)
  | _ => none

/-- The character that an escape with a number writes: one number, or the two halves of a pair. -/
def unicode? (t : Text) : Option (Char × Text) := do
  let (first, rest) ← fourHex? t
  if 0xD800 ≤ first && first < 0xDC00 then
    match rest with
    | '\\' :: 'u' :: rest =>
      let (second, rest) ← fourHex? rest
      if 0xDC00 ≤ second && second < 0xE000 then
        some (Char.ofNat (0x10000 + (first - 0xD800) * 0x400 + (second - 0xDC00)), rest)
      else none
    | _ => none
  else if 0xDC00 ≤ first && first < 0xE000 then none
  else some (Char.ofNat first, rest)

/-- The character behind a backslash. -/
def escaped? : Text → Option (Char × Text)
  | '"' :: t => some ('"', t)
  | '\\' :: t => some ('\\', t)
  | '/' :: t => some ('/', t)
  | 'b' :: t => some ('\x08', t)
  | 'f' :: t => some ('\x0c', t)
  | 'n' :: t => some ('\n', t)
  | 'r' :: t => some ('\r', t)
  | 't' :: t => some ('\t', t)
  | 'u' :: t => unicode? t
  | _ => none

/-- The inside of a string and what follows its closing quote. -/
def stringFrom? : Nat → Text → Option (Text × Text)
  | _, '"' :: t => some ([], t)
  | fuel + 1, '\\' :: t => do
    let (c, t) ← escaped? t
    let (inside, t) ← stringFrom? fuel t
    some (c :: inside, t)
  | fuel + 1, c :: t =>
    if c.toNat < 32 then none
    else do
      let (inside, t) ← stringFrom? fuel t
      some (c :: inside, t)
  | _, _ => none

/-- The inside of a string whose opening quote was read. -/
def string? (t : Text) : Option (Text × Text) := stringFrom? t.length t

/-! ## Numbers -/

/-- The digits at the front of a text. -/
def digits (t : Text) : Text × Text := (t.takeWhile isAsciiDigit, t.dropWhile isAsciiDigit)

/-- The number that decimal digits write. -/
def digitsValue (t : Text) : Nat := t.foldl (fun n c => 10 * n + (c.toNat - 48)) 0

/-- The digits behind a point, if there is one. -/
def fraction? : Text → Option (Text × Text)
  | '.' :: t =>
    let (places, rest) := digits t
    if places.isEmpty then none else some (places, rest)
  | t => some ([], t)

/-- The sign and the digits of an exponent. -/
def signedDigits? (t : Text) : Option (Int × Text) :=
  let (negative, t) := match t with
    | '-' :: t => (true, t)
    | '+' :: t => (false, t)
    | t => (false, t)
  let (power, rest) := digits t
  if power.isEmpty then none
  else
    let value : Int := digitsValue power
    some (if negative then -value else value, rest)

/-- The exponent, if there is one. -/
def exponent? : Text → Option (Int × Text)
  | 'e' :: t => signedDigits? t
  | 'E' :: t => signedDigits? t
  | t => some (0, t)

/-- A number without its sign. -/
def magnitude? (t : Text) : Option (Decimal × Text) :=
  let (whole, rest) := digits t
  if whole.isEmpty || (whole.head? == some '0' && 1 < whole.length) then none
  else do
    let (places, rest) ← fraction? rest
    let (power, rest) ← exponent? rest
    some (⟨digitsValue (whole ++ places), power - places.length⟩, rest)

/-! ## Values -/

/-- How deep arrays and objects may be nested. -/
def depthLimit : Nat := 127

mutual

/-- A value; `depth` further levels may be opened. -/
def value? (fuel depth : Nat) (t : Text) : Option (Value × Text) :=
  match fuel, skipBlanks t with
  | 0, _ => none
  | _, [] => none
  | fuel + 1, c :: t =>
    if c = '"' then (string? t).map fun s => (.string s.1, s.2)
    else if c = '[' then
      match depth, skipBlanks t with
      | 0, _ => none
      | _, ']' :: t => some (.array [], t)
      | depth + 1, t => (elements? fuel depth t).map fun a => (.array a.1, a.2)
    else if c = '\x7b' then
      match depth, skipBlanks t with
      | 0, _ => none
      | _, '\x7d' :: t => some (.object [], t)
      | depth + 1, t => (members? fuel depth t).map fun m => (.object m.1, m.2)
    else if c = '-' then (magnitude? t).map fun n => (.number true n.1, n.2)
    else if isAsciiDigit c then (magnitude? (c :: t)).map fun n => (.number false n.1, n.2)
    else
      ((afterWord? "null" (c :: t)).map fun t => (.null, t))
        <|> ((afterWord? "true" (c :: t)).map fun t => (.boolean true, t))
        <|> ((afterWord? "false" (c :: t)).map fun t => (.boolean false, t))

/-- The elements of an array up to its closing bracket; there is at least one. -/
def elements? (fuel depth : Nat) (t : Text) : Option (List Value × Text) :=
  match fuel with
  | 0 => none
  | fuel + 1 =>
    match value? fuel depth t with
    | none => none
    | some (v, t) =>
      match skipBlanks t with
      | ']' :: t => some ([v], t)
      | ',' :: t => (elements? fuel depth t).map fun rest => (v :: rest.1, rest.2)
      | _ => none

/-- The members of an object up to its closing brace; there is at least one. -/
def members? (fuel depth : Nat) (t : Text) : Option (List (Text × Value) × Text) :=
  match fuel, skipBlanks t with
  | fuel + 1, '"' :: t =>
    match (string? t).map fun s => (s.1, skipBlanks s.2) with
    | some (name, ':' :: t) =>
      match value? fuel depth t with
      | none => none
      | some (v, t) =>
        match skipBlanks t with
        | '\x7d' :: t => some ([(name, v)], t)
        | ',' :: t => (members? fuel depth t).map fun rest => ((name, v) :: rest.1, rest.2)
        | _ => none
    | _ => none
  | _, _ => none

end

/-- The value that a text consists of. -/
def read? (t : Text) : Option Value :=
  match value? (2 * t.length + 2) depthLimit t with
  | some (v, rest) => if (skipBlanks rest).isEmpty then some v else none
  | none => none

end DocSplice.Json
