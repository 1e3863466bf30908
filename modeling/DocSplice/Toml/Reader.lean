import DocSplice.Toml.Value
import DocSplice.Text.Word

/-!
# Reading TOML

`Toml.read?` reads a document.  Every function below takes what it reads from the front of a text
and gives the rest; a text that does not start with what is asked for gives nothing, and so does a
number or a moment that is written correctly but does not exist.

A document is read line by line.  A header opens a table, and the lines that follow put values under
the keys of that table.  Arrays may spread over lines and may hold comments, inline tables may not.
-/

namespace DocSplice.Toml

/-! ## Blanks, comments and line ends -/

/-- A blank inside a line. -/
def isSpace (c : Char) : Bool := c == ' ' || c == '\t'

/-- Without the blanks at the front. -/
def skipSpaces (t : Text) : Text := t.dropWhile isSpace

/-- A character that may stand in a comment or in a literal string. -/
def isPlain (c : Char) : Bool := c == '\t' || (0x20 ≤ c.toNat && c.toNat != 0x7F)

/-- What follows a line end. -/
def afterNewline? : Text → Option Text
  | '\n' :: t => some t
  | '\r' :: '\n' :: t => some t
  | _ => none

/-- Without the comment at the front, if there is one. -/
def skipComment : Text → Text
  | '#' :: t => t.dropWhile isPlain
  | t => t

/-- What follows the rest of a line, which may hold blanks and a comment. -/
def afterLine? (t : Text) : Option Text :=
  let t := skipComment (skipSpaces t)
  if t.isEmpty then some [] else afterNewline? t

/-- Without the blanks, comments and line ends at the front. -/
def skipLines : Nat → Text → Text
  | 0, t => t
  | fuel + 1, t =>
    let rest := skipComment (skipSpaces t)
    match afterNewline? rest with
    | some rest => skipLines fuel rest
    | none => rest

/-- Without the blanks, comments and line ends at the front. -/
def skipBetween (t : Text) : Text := skipLines (t.length + 1) t

/-! ## Strings -/

/-- The value of a hexadecimal digit. -/
def hexValue? (c : Char) : Option Nat :=
  if isAsciiDigit c then some (c.toNat - 48)
  else if 'a' ≤ c && c ≤ 'f' then some (c.toNat - 87)
  else if 'A' ≤ c && c ≤ 'F' then some (c.toNat - 55)
  else none

/-- The character that so many hexadecimal digits write. -/
def codePoint? (count : Nat) (t : Text) : Option (Char × Text) := do
  let digits ← (t.take count).mapM hexValue?
  let n := digits.foldl (fun n d => 16 * n + d) 0
  if digits.length = count ∧ n.isValidChar then some (Char.ofNat n, t.drop count) else none

/-- The character behind a backslash. -/
def escaped? : Text → Option (Char × Text)
  | 'b' :: t => some ('\x08', t)
  | 't' :: t => some ('\t', t)
  | 'n' :: t => some ('\n', t)
  | 'f' :: t => some ('\x0c', t)
  | 'r' :: t => some ('\r', t)
  | '"' :: t => some ('"', t)
  | '\\' :: t => some ('\\', t)
  | 'u' :: t => codePoint? 4 t
  | 'U' :: t => codePoint? 8 t
  | _ => none

/-- The inside of a string with escapes and what follows its closing quote. -/
def basicFrom? : Nat → Text → Option (Text × Text)
  | _, '"' :: t => some ([], t)
  | fuel + 1, '\\' :: t => do
    let (c, t) ← escaped? t
    let (inside, t) ← basicFrom? fuel t
    some (c :: inside, t)
  | fuel + 1, c :: t =>
    if isPlain c then (basicFrom? fuel t).map fun s => (c :: s.1, s.2) else none
  | _, _ => none

/-- The inside of a literal string and what follows its closing quote. -/
def literal? : Text → Option (Text × Text)
  | '\'' :: t => some ([], t)
  | c :: t => if isPlain c then (literal? t).map fun s => (c :: s.1, s.2) else none
  | [] => none

/-- The quotes of a closing run that belong to the string: three close it, and up to two more may
stand before them. -/
def closing? (quote : Char) (t : Text) : Option (Text × Text) :=
  let run := (t.takeWhile (· == quote)).length
  if run < 3 then none
  else
    let kept := min (run - 3) 2
    some (List.replicate kept quote, t.drop (kept + 3))

/-- Without the blanks and line ends at the front. -/
def skipEmpty : Text → Text
  | '\r' :: '\n' :: t => skipEmpty t
  | c :: t => if isSpace c || c == '\n' then skipEmpty t else c :: t
  | [] => []

/-- What follows a backslash at the end of a line: the next character that is neither a blank nor
part of a line end. -/
def afterHiddenEnd? (t : Text) : Option Text := (afterNewline? (skipSpaces t)).map skipEmpty

/-- The inside of a string over several lines, with escapes where `escapes` says so, and what
follows its closing quotes. -/
def linesFrom? (quote : Char) (escapes : Bool) : Nat → Text → Option (Text × Text)
  | 0, _ => none
  | _, [] => none
  | fuel + 1, c :: t =>
    if c = quote then
      match closing? quote (c :: t) with
      | some found => some found
      | none => (linesFrom? quote escapes fuel t).map fun s => (c :: s.1, s.2)
    else if c = '\\' && escapes then
      match afterHiddenEnd? t with
      | some t => linesFrom? quote escapes fuel t
      | none => do
        let (e, t) ← escaped? t
        let (inside, t) ← linesFrom? quote escapes fuel t
        some (e :: inside, t)
    else
      match afterNewline? (c :: t) with
      | some t => (linesFrom? quote escapes fuel t).map fun s => ('\n' :: s.1, s.2)
      | none =>
        if isPlain c then (linesFrom? quote escapes fuel t).map fun s => (c :: s.1, s.2) else none

/-- A string over several lines whose opening quotes were read; a line end right behind them does
not count. -/
def lines? (quote : Char) (escapes : Bool) (t : Text) : Option (Text × Text) :=
  let t := (afterNewline? t).getD t
  linesFrom? quote escapes (t.length + 1) t

/-- A string of any of the four forms. -/
def string? : Text → Option (Text × Text)
  | '"' :: '"' :: '"' :: t => lines? '"' true t
  | '\'' :: '\'' :: '\'' :: t => lines? '\'' false t
  | '"' :: t => basicFrom? t.length t
  | '\'' :: t => literal? t
  | _ => none

/-! ## Keys -/

/-- A character of a key without quotes. -/
def isKeyChar (c : Char) : Bool := isAsciiLetter c || isAsciiDigit c || c == '_' || c == '-'

/-- A single key. -/
def key? : Text → Option (Text × Text)
  | '"' :: t => basicFrom? t.length t
  | '\'' :: t => literal? t
  | t =>
    let key := t.takeWhile isKeyChar
    if key.isEmpty then none else some (key, t.drop key.length)

/-- Keys with dots between them; the blanks around are skipped. -/
def dottedKey? : Nat → Text → Option (List Text × Text)
  | 0, _ => none
  | fuel + 1, t => do
    let (key, t) ← key? (skipSpaces t)
    match skipSpaces t with
    | '.' :: t => (dottedKey? fuel t).map fun rest => (key :: rest.1, rest.2)
    | t => some ([key], t)

/-- A dotted key as the path to a table and the key in it. -/
def path? (t : Text) : Option (List Text × Text × Text) := do
  let (keys, t) ← dottedKey? t.length t
  let key ← keys.getLast?
  some (keys.dropLast, key, t)

/-! ## Numbers -/

/-- Digits, where a single underscore may stand between two. -/
def digitsFrom (isDigit : Char → Bool) : Text → Text × Text
  | [] => ([], [])
  | c :: t =>
    if isDigit c then
      let (rest, after) := digitsFrom isDigit t
      (c :: rest, after)
    else if c = '_' && t.head?.any isDigit then digitsFrom isDigit t
    else ([], c :: t)

/-- One digit or more. -/
def digits? (isDigit : Char → Bool) (t : Text) : Option (Text × Text) :=
  if t.head?.any isDigit then some (digitsFrom isDigit t) else none

/-- The number that digits write. -/
def digitsValue (base : Nat) (digits : Text) : Nat :=
  digits.foldl (fun n c => base * n + (hexValue? c).getD 0) 0

/-- The sign at the front, if there is one. -/
def sign : Text → Bool × Text
  | '-' :: t => (true, t)
  | '+' :: t => (false, t)
  | t => (false, t)

/-- A whole number that fits into eight bytes. -/
def wholeNumber? (negative : Bool) (n : Nat) : Option Value :=
  if n < Nat.pow 2 63 || (negative && n == Nat.pow 2 63) then
    some (.integer (if negative then -(n : Int) else n))
  else none

/-- Decimal digits without a leading zero. -/
def decimal? (t : Text) : Option (Text × Text) :=
  match t with
  | '0' :: t => some (['0'], t)
  | t => digits? isAsciiDigit t

/-- A whole number with a letter for its base. -/
def based? (base : Nat) (isDigit : Char → Bool) (t : Text) : Option (Value × Text) := do
  let (digits, t) ← digits? isDigit t
  let n ← wholeNumber? false (digitsValue base digits)
  some (n, t)

/-- A whole number. -/
def integer? (t : Text) : Option (Value × Text) :=
  match t with
  | '0' :: 'x' :: t => based? 16 (fun c => (hexValue? c).isSome) t
  | '0' :: 'o' :: t => based? 8 (fun c => '0' ≤ c && c ≤ '7') t
  | '0' :: 'b' :: t => based? 2 (fun c => c == '0' || c == '1') t
  | t => do
    let (negative, t) := sign t
    let (digits, t) ← decimal? t
    let n ← wholeNumber? negative (digitsValue 10 digits)
    some (n, t)

/-- The digits behind a point. -/
def fraction? : Text → Option (Text × Text)
  | '.' :: t => digits? isAsciiDigit t
  | _ => none

/-- An exponent. -/
def exponent? : Text → Option (Int × Text)
  | c :: t =>
    if c = 'e' || c = 'E' then do
      let (negative, t) := sign t
      let (digits, t) ← digits? isAsciiDigit t
      let n : Int := digitsValue 10 digits
      some (if negative then -n else n, t)
    else none
  | [] => none

/-- A number of eight bytes; what is too large for them is refused unless it is negative. -/
def binary? (negative : Bool) (digits : Text) (exponent : Int) : Option Value :=
  match BinaryFormat.double.ofDecimal negative (digitsValue 10 digits) exponent with
  | .infinite false => none
  | x => some (.float x)

/-- A number with a point or an exponent, or one of the words for what is no finite number. -/
def float? (t : Text) : Option (Value × Text) :=
  match sign t with
  | (negative, 'i' :: 'n' :: 'f' :: t) => some (.float (.infinite negative), t)
  | (_, 'n' :: 'a' :: 'n' :: t) => some (.float .notANumber, t)
  | (negative, t) => do
    let (whole, t) ← decimal? t
    match fraction? t with
    | some (places, t) =>
      let (exponent, t) := (exponent? t).getD (0, t)
      let x ← binary? negative (whole ++ places) (exponent - places.length)
      some (x, t)
    | none =>
      let (exponent, t) ← exponent? t
      let x ← binary? negative whole exponent
      some (x, t)

/-! ## Moments -/

/-- A number of exactly so many digits, within bounds. -/
def field? (count low high : Nat) (t : Text) : Option (Nat × Text) :=
  let digits := t.take count
  let n := digitsValue 10 digits
  if digits.length = count && digits.all isAsciiDigit && low ≤ n && n ≤ high then
    some (n, t.drop count)
  else none

/-- What follows one character. -/
def after? (c : Char) : Text → Option Text
  | d :: t => if c = d then some t else none
  | [] => none

/-- The number of days of a month. -/
def daysIn (year month : Nat) : Nat :=
  if month = 2 then
    if year % 4 = 0 && (year % 100 != 0 || year % 400 == 0) then 29 else 28
  else if month ∈ [4, 6, 9, 11] then 30
  else 31

/-- What follows a date. -/
def afterDate? (t : Text) : Option Text := do
  let (year, t) ← field? 4 0 9999 t
  let t ← after? '-' t
  let (month, t) ← field? 2 1 12 t
  let t ← after? '-' t
  let (_, t) ← field? 2 1 (daysIn year month) t
  some t

/-- What follows a time of day. -/
def afterTime? (t : Text) : Option Text := do
  let (_, t) ← field? 2 0 23 t
  let t ← after? ':' t
  let (_, t) ← field? 2 0 59 t
  let t ← after? ':' t
  let (_, t) ← field? 2 0 60 t
  match t with
  | '.' :: t => if t.head?.any isAsciiDigit then some (t.dropWhile isAsciiDigit) else none
  | t => some t

/-- What follows a distance from universal time, if there is one. -/
def afterOffset? (t : Text) : Option Text :=
  match t with
  | 'Z' :: t => some t
  | 'z' :: t => some t
  | c :: t =>
    if c = '+' || c = '-' then do
      let (_, t) ← field? 2 0 23 t
      let t ← after? ':' t
      let (_, t) ← field? 2 0 59 t
      some t
    else some (c :: t)
  | [] => some []

/-- What follows a date with or without a time of day. -/
def afterDateTime? (t : Text) : Option Text := do
  let t ← afterDate? t
  match t with
  | c :: rest =>
    if c = 'T' || c = 't' then (afterTime? rest).bind afterOffset?
    else if c = ' ' && (afterTime? rest).isSome then (afterTime? rest).bind afterOffset?
    else some t
  | [] => some []

/-- A date, a time of day, or both. -/
def moment? (t : Text) : Option (Value × Text) :=
  (afterDateTime? t <|> afterTime? t).map fun rest =>
    (.moment (t.take (t.length - rest.length)), rest)

/-! ## Values -/

/-- A word with a value. -/
def word? (word : String) (v : Value) (t : Text) : Option (Value × Text) :=
  (word.toList.isPrefixOf? t).map (v, ·)

/-- How deep arrays and inline tables may be nested. -/
def depthLimit : Nat := 80

mutual

/-- A value; `depth` further levels may be opened. -/
def value? (fuel depth : Nat) (t : Text) : Option (Value × Text) :=
  match fuel, depth, t with
  | 0, _, _ => none
  | _, 0, _ => none
  | _, _, [] => none
  | fuel + 1, depth + 1, c :: t =>
    if c = '"' || c = '\'' then (string? (c :: t)).map fun s => (.string s.1, s.2)
    else if c = '[' then (elements? fuel depth t).map fun a => (.array a.1, a.2)
    else if c = '\x7b' then
      match skipSpaces t with
      | '\x7d' :: t => some (.table [], t)
      | t => (pairs? fuel depth [] t).map fun p => (.table (closeEntries p.1), p.2)
    else if isAsciiDigit c || c = '+' || c = '-' then
      moment? (c :: t) <|> float? (c :: t) <|> integer? (c :: t)
    else
      word? "true" (.boolean true) (c :: t) <|> word? "false" (.boolean false) (c :: t)
        <|> word? "inf" (.float (.infinite false)) (c :: t)
        <|> word? "nan" (.float .notANumber) (c :: t)

/-- The elements of an array up to its closing bracket. -/
def elements? (fuel depth : Nat) (t : Text) : Option (List Value × Text) :=
  match fuel, skipBetween t with
  | 0, _ => none
  | _, ']' :: t => some ([], t)
  | fuel + 1, t =>
    match value? fuel depth t with
    | none => none
    | some (v, t) =>
      match skipBetween t with
      | ']' :: t => some ([v], t)
      | ',' :: t => (elements? fuel depth t).map fun rest => (v :: rest.1, rest.2)
      | _ => none

/-- The entries of an inline table up to its closing brace, added to those before. -/
def pairs? (fuel depth : Nat) (before : Entries) (t : Text) : Option (Entries × Text) :=
  match fuel with
  | 0 => none
  | fuel + 1 =>
    match path? t with
    | some (path, key, '=' :: t) =>
      match value? fuel depth (skipSpaces t) with
      | none => none
      | some (v, t) =>
        match before.assign path key v, skipSpaces t with
        | some entries, '\x7d' :: t => some (entries, t)
        | some entries, ',' :: t => pairs? fuel depth entries t
        | _, _ => none
    | _ => none

end

/-! ## Documents -/

/-- The header of a table: the path to the table that holds it, and its key. -/
def header? (t : Text) : Option (List Text × Text × Text) := do
  let (path, key, t) ← path? t
  let t ← after? ']' t
  some (path, key, t)

/-- What one line does to the entries of a document: the path of the table that the next lines
belong to, the entries, and what follows the line. -/
def line? (current : List Text) (es : Entries) (t : Text) :
    Option (List Text × Entries × Text) :=
  match skipSpaces t with
  | '[' :: '[' :: t => do
    let (path, key, t) ← header? t
    let t ← after? ']' t
    let es ← es.within (Entries.openElement key) path
    some (path ++ [key], es, t)
  | '[' :: t => do
    let (path, key, t) ← header? t
    let es ← es.within (Entries.openTable key) path
    some (path ++ [key], es, t)
  | [] => some (current, es, [])
  | c :: t =>
    if c = '#' || c = '\n' || c = '\r' then some (current, es, c :: t)
    else
      match path? (c :: t) with
      | some (path, key, '=' :: t) => do
        let t := skipSpaces t
        let (v, t) ← value? (2 * t.length + 2) depthLimit t
        let es ← es.within (Entries.assign path key v) current
        some (current, es, t)
      | _ => none

/-- Read lines until the text ends. -/
def lineLoop? : Nat → List Text → Entries → Text → Option Entries
  | 0, _, _, _ => none
  | fuel + 1, current, es, t =>
    if t.isEmpty then some es
    else do
      let (current, es, t) ← line? current es t
      let t ← afterLine? t
      lineLoop? fuel current es t

/-- The table that a document is; a mark of the byte order at its start is skipped. -/
def read? (t : Text) : Option Value :=
  let t := if t.head? == some '\uFEFF' then t.drop 1 else t
  (lineLoop? (t.length + 1) [] [] t).map fun es => .table (closeEntries es)

end DocSplice.Toml
