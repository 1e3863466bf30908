import DocSplice.Docstring.Clean
import DocSplice.Text.Word

/-!
# Docstrings as string literals

`Docstring.literalValue` takes the prefix letters and the quotes off a literal as it stands in the
source.  `Docstring.render` goes the other way: it writes a documentation text as the lines of a
triple-quoted literal with a given indentation.

A text on one line shares its line with the quotes unless it ends in a quote or a backslash, which
would run into the closing quotes; any other text stands between two lines that hold only quotes.
A text with a backslash is written as a raw literal.
-/

namespace DocSplice.Docstring

/-- Three double quotes. -/
def doubleFence : Text := ['"', '"', '"']

/-- Three single quotes. -/
def singleFence : Text := ['\'', '\'', '\'']

/-- What stands between two copies of a quote that the text starts and ends with. -/
def between? (quote t : Text) : Option Text :=
  (Text.stripPrefix? t quote).bind (Text.stripSuffix? · quote)

/-- The letters before the quotes of a literal. -/
def literalPrefix (literal : Text) : Text := literal.takeWhile isAsciiLetter

/-- Whether a literal may document: its prefix letters mark it at most as raw. -/
def mayDocument (literal : Text) : Bool :=
  (literalPrefix literal).all fun c => c == 'r' || c == 'R' || c == 'u' || c == 'U'

/-- What stands between the quotes of a literal, escapes as they are written. -/
def literalValue (literal : Text) : Text :=
  let body := literal.dropWhile isAsciiLetter
  ([doubleFence, singleFence, ['"'], ['\'']].findSome? (between? · body)).getD body

/-- Take off triple quotes, perhaps of a raw literal, that a text is wrapped in. -/
def unwrapQuotes (t : Text) : Text :=
  let body := match t with
    | 'r' :: rest => rest
    | 'R' :: rest => rest
    | _ => t
  ([doubleFence, singleFence].findSome? (between? · body)).getD t

/-- Three double quotes, each behind a backslash. -/
def escapedFence : Text := ['\\', '"', '\\', '"', '\\', '"']

/-- The documentation text that a docstring is to hold. -/
def documentedText (documentation : Text) : Text := clean (unwrapQuotes (Text.trim documentation))

/-- The letter of a raw literal, when the text has a backslash. -/
def rawPrefix (text : Text) : Text := if List.contains text '\\' then ['r'] else []

/-- Whether a text can share its line with the quotes around it. -/
def fitsOneLine (text : Text) : Bool :=
  !List.contains text '\n' && text.getLast? != some '"' && text.getLast? != some '\\'

/-- One line of a literal that takes several; blank lines are not indented. -/
def renderLine (indent line : Text) : Text :=
  if Text.allBlank line then [] else indent ++ line

/-- The lines of the literal that holds a documentation text. -/
def render (documentation indent : Text) : List Text :=
  let text := documentedText documentation
  let opening := indent ++ rawPrefix text ++ doubleFence
  let escaped := Text.replace text doubleFence escapedFence
  if fitsOneLine escaped then [opening ++ escaped ++ doubleFence]
  else
    opening :: (Text.terminatedLines escaped).map (renderLine indent) ++ [indent ++ doubleFence]

end DocSplice.Docstring
