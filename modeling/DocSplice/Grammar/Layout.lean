import DocSplice.Grammar.Vocabulary

/-!
# Layout

Line ends, indentation and quotes mean something only in view of what came before.  A `Layout`
remembers the indentations of the blocks that are open and the quotes that are.

`Layout.scan` looks at the text between two lexemes and says whether a layout terminal comes next.
What comes next depends on which terminals the grammar can take: a line end is a `newline` only
where a statement may end, and more indentation is an `indent` only where a block may start.  Line
ends, indents and dedents take no characters; the blanks and comments that were looked at are
skipped later.
-/

namespace DocSplice.Grammar

/-- The quotes of a string that is open, with what its prefix letters say. -/
structure Quotes where
  /-- The character that the quotes are made of. -/
  sign : Char
  triple : Bool
  raw : Bool
  bytes : Bool
  formatted : Bool
  deriving DecidableEq, Repr

/-- What is open at some place of a text, innermost first. -/
structure Layout where
  /-- The indentations of the open blocks. -/
  indents : List Nat
  /-- The open quotes. -/
  quotes : List Quotes
  /-- Whether the string that was opened last, if it is still open, is a formatted one. -/
  insideFormatted : Bool
  deriving DecidableEq, Repr

/-- A terminal found by a layout, with the number of characters before it, the number of its
characters and what is open after it. -/
structure Layout.Found where
  terminal : Terminal
  skipped : Nat
  length : Nat
  layout : Layout
  deriving DecidableEq, Repr

namespace Layout

/-- Nothing is open. -/
def initial : Layout := ⟨[], [], false⟩

/-- The indentation of the innermost block. -/
def indent (l : Layout) : Nat := l.indents.head?.getD 0

/-! ## Inside quotes -/

/-- What stands inside quotes. -/
inductive Inside where
  /-- So many plain characters. -/
  | text (length : Nat)
  /-- The closing quotes, so many characters from here. -/
  | close (length : Nat)
  /-- Something that is a lexeme of its own, or nothing that could be read. -/
  | other
  deriving DecidableEq, Repr

/-- The number of characters that a backslash of a raw string protects: a quote or a backslash, and
a line end. -/
def rawSkip (sign : Char) (t : Text) : Nat :=
  let quoted := if t.head?.any fun c => c == sign || c == '\\' then 1 else 0
  match t.drop quoted with
  | '\r' :: '\n' :: _ => quoted + 2
  | '\r' :: _ => quoted + 1
  | '\n' :: _ => quoted + 1
  | _ => quoted

/-- Plain characters, unless there are none. -/
def textOr (content : Bool) (length : Nat) : Inside := if content then .text length else .other

/-- What stands inside quotes before the text, when `read` characters came before it and `content`
says whether they are worth a terminal; the next `skip` characters are protected. -/
def insideFrom (q : Quotes) (read : Nat) (content : Bool) (skip : Nat) : Text → Inside
  | [] => .other
  | c :: t =>
    match skip with
    | skip + 1 => insideFrom q (read + 1) content skip t
    | 0 =>
      if q.formatted && (c == '\x7b' || c == '\x7d') then textOr content read
      else if c = '\\' then
        if q.raw then insideFrom q (read + 1) content (rawSkip q.sign t) t
        else if q.bytes && t.head?.any fun d => d == 'N' || d == 'u' || d == 'U' then
          insideFrom q (read + 1) true 2 t
        else textOr content read
      else if c = q.sign then
        if q.triple then
          match t with
          | d :: e :: _ =>
            if d = c then
              if e = c then if content then .text read else .close (read + 3)
              else .text (read + 2)
            else .text (read + 1)
          | [d] => if d = c then .text (read + 2) else .text (read + 1)
          | [] => .text (read + 1)
        else if content then .text read
        else .close (read + 1)
      else if c = '\n' && content && !q.triple then .other
      else insideFrom q (read + 1) true 0 t

/-- What stands inside quotes before the text. -/
def inside (q : Quotes) (t : Text) : Inside := insideFrom q 0 false 0 t

/-- A brace that is written twice, for a brace of the text of a formatted string. -/
def isDoubledBrace : Text → Bool
  | c :: d :: _ => c == d && (c == '\x7b' || c == '\x7d')
  | _ => false

/-- Whether the text starts with a brace. -/
def startsWithBrace (t : Text) : Bool := t.head?.any fun c => c == '\x7b' || c == '\x7d'

/-! ## Between lines -/

/-- The blanks and comments before the next lexeme. -/
structure Margin where
  /-- Whether a line ended. -/
  lineEnd : Bool
  /-- The indentation of what comes next. -/
  indent : Nat
  /-- The indentation of the first comment on a line of its own. -/
  firstComment : Option Nat
  /-- The number of characters that were looked at. -/
  length : Nat
  deriving DecidableEq, Repr

/-- No blanks yet. -/
def Margin.none : Margin := ⟨false, 0, Option.none, 0⟩

/-- A line end was passed. -/
def Margin.endLine (m : Margin) (length : Nat) : Margin :=
  { m with lineEnd := true, indent := 0, length := m.length + length }

/-- Some columns of indentation were passed. -/
def Margin.widen (m : Margin) (columns : Nat) : Margin :=
  { m with indent := m.indent + columns, length := m.length + 1 }

/-- The indentation starts again. -/
def Margin.restart (m : Margin) : Margin := { m with indent := 0, length := m.length + 1 }

/-- Blanks were passed that change nothing. -/
def Margin.pass (m : Margin) (length : Nat) : Margin := { m with length := m.length + length }

/-- A comment starts here. -/
def Margin.openComment (m : Margin) : Margin :=
  { m with firstComment := m.firstComment.or (some m.indent), length := m.length + 1 }

/-- The margin at the start of the text, together with what follows it.  Comments are part of it
only where `comments` says so, and only after a line end: the comment behind a statement does not
end it.  There is none where a backslash hides something other than a line end. -/
def marginFrom (comments : Bool) (m : Margin) (inComment : Bool) :
    Text → Option (Margin × Text)
  | [] => some (m.endLine 0, [])
  | c :: t =>
    if inComment then
      if c = '\n' then marginFrom comments m.restart false t
      else marginFrom comments (m.pass 1) true t
    else if c = '\n' then marginFrom comments (m.endLine 1) false t
    else if c = ' ' then marginFrom comments (m.widen 1) false t
    else if c = '\t' then marginFrom comments (m.widen 8) false t
    else if c = '\r' || c = '\x0c' then marginFrom comments m.restart false t
    else if c = '#' && comments then
      if m.lineEnd then marginFrom comments m.openComment true t else Option.none
    else if c = '\\' then
      match t with
      | [] => some (m.endLine 1, [])
      | d :: t =>
        if d = '\n' then marginFrom comments (m.pass 2) false t
        else if d = '\r' then
          match t with
          | [] => some (m.endLine 2, [])
          | e :: t => if e = '\n' then marginFrom comments (m.pass 3) false t else Option.none
        else Option.none
    else some (m, c :: t)

/-- The margin at the start of the text and what follows it. -/
def margin (comments : Bool) (t : Text) : Option (Margin × Text) :=
  marginFrom comments Margin.none false t

/-! ## Opening quotes -/

/-- The quotes that prefix letters and quote characters open, when so many characters were read. -/
def quotesFrom (q : Quotes) (read : Nat) : Text → Option (Quotes × Nat)
  | [] => none
  | c :: t =>
    if c = 'f' || c = 'F' then quotesFrom { q with formatted := true } (read + 1) t
    else if c = 'r' || c = 'R' then quotesFrom { q with raw := true } (read + 1) t
    else if c = 'b' || c = 'B' then quotesFrom { q with bytes := true } (read + 1) t
    else if c = 'u' || c = 'U' then quotesFrom q (read + 1) t
    else if c = '\x60' then some ({ q with sign := c }, read + 1)
    else if c = '"' || c = '\'' then
      match t with
      | d :: e :: _ =>
        if d = c && e = c then some ({ q with sign := c, triple := true }, read + 3)
        else some ({ q with sign := c }, read + 1)
      | _ => some ({ q with sign := c }, read + 1)
    else none

/-- The quotes that open at the start of the text, with the length of letters and quotes. -/
def quotes? (t : Text) : Option (Quotes × Nat) := quotesFrom ⟨'"', false, false, false, false⟩ 0 t

/-! ## The choice -/

/-- Whether a closing bracket may come next. -/
def expectsClosing (expects : Terminal → Bool) : Bool :=
  [Mark.rightParen, Mark.rightBracket, Mark.rightBrace].any fun m => expects (.mark m)

/-- Whether comments between lines belong to the margin here. -/
def readsComments (expects : Terminal → Bool) : Bool :=
  [.indent, .dedent, .newline, .keyword .except_].any expects

/-- Whether the text starts with a quote character. -/
def startsWithQuote (t : Text) : Bool := t.head?.any fun c => c == '"' || c == '\'' || c == '\x60'

/-- Whether a block ends at a margin.  A comment with the indentation of the block still belongs to
it. -/
def endsBlock (l : Layout) (expects : Terminal → Bool) (m : Margin) (t : Text) : Bool :=
  (expects .dedent ||
      (!expects .newline && !(expects .stringStart && startsWithQuote t)
        && !expectsClosing expects))
    && m.indent < l.indent && !l.insideFormatted && m.firstComment.all (· < l.indent)

/-- The terminal of a line end. -/
def atLineEnd (l : Layout) (expects : Terminal → Bool) (m : Margin) (t : Text) : Option Found :=
  if expects .indent && l.indent < m.indent then
    some ⟨.indent, 0, 0, { l with indents := m.indent :: l.indents }⟩
  else if l.endsBlock expects m t then some ⟨.dedent, 0, 0, { l with indents := l.indents.tail }⟩
  else if expects .newline then some ⟨.newline, 0, 0, l⟩
  else none

/-- The opening quotes behind a margin. -/
def openQuotes (l : Layout) (expects : Terminal → Bool) (m : Margin) (t : Text) : Option Found :=
  if m.firstComment.isNone && expects .stringStart then
    (quotes? t).map fun opened =>
      ⟨.stringStart, m.length, opened.2,
        { l with quotes := opened.1 :: l.quotes, insideFormatted := opened.1.formatted }⟩
  else none

/-- The layout terminal between lines, if one comes next. -/
def scanMargin (l : Layout) (expects : Terminal → Bool) (t : Text) : Option Found :=
  match margin (readsComments expects) t with
  | none => none
  | some (m, rest) =>
    (if m.lineEnd then l.atLineEnd expects m rest else none).or (l.openQuotes expects m rest)

/-- The terminal inside the innermost quotes, if one comes next. -/
def scanQuotes (l : Layout) (q : Quotes) (t : Text) : Option Found :=
  match inside q t with
  | .text length => some ⟨.stringText, 0, length, l⟩
  | .close length =>
    some ⟨.stringEnd, 0, length, { l with quotes := l.quotes.tail, insideFormatted := false }⟩
  | .other => none

/-- The layout terminal at the start of the text, if one comes next. -/
def scan (l : Layout) (expects : Terminal → Bool) (t : Text) : Option Found :=
  match l.quotes with
  | [] => l.scanMargin expects t
  | q :: _ =>
    if expects .doubledBrace && q.formatted && startsWithBrace t then
      if isDoubledBrace t then some ⟨.doubledBrace, 0, 2, l⟩ else none
    else if expects .stringText then l.scanQuotes q t
    else l.scanMargin expects t

end Layout

end DocSplice.Grammar
