import DocSplice.Text.Lines

/-!
# Code outside strings and comments

Brackets decide where a function ends, and only those that are code count: not the ones in string
literals and not the ones in comments.  A string is opened by a double quote, a single quote or a
backtick and is closed by the same character; inside it a backslash takes the next character with
it.  A string may go on over any number of lines, so the scan of one line starts in the state in
which the scan of the line above ended.  A comment runs from `#` to the end of its line.
-/

namespace DocSplice.Brace

/-- Where a scan stands between two characters. -/
structure ScanState where
  /-- The quote that will close the string the scan is inside of. -/
  quote : Option Char
  /-- Whether the next character of the string is taken along by a backslash. -/
  escaped : Bool
  deriving DecidableEq, Repr

namespace ScanState

/-- Outside every string. -/
def outside : ScanState := ⟨none, false⟩

/-- Whether the scan is inside a string. -/
def inString (s : ScanState) : Bool := s.quote.isSome

/-- Whether the character opens a string. -/
def isQuote (c : Char) : Bool := c == '"' || c == '\'' || c == '\x60'

/-- The code characters of a line, and the state after it. -/
def scan (s : ScanState) : Text → List Char × ScanState
  | [] => ([], s)
  | c :: rest =>
    match s.quote with
    | some q =>
      if s.escaped then scan { s with escaped := false } rest
      else if c = '\\' then scan { s with escaped := true } rest
      else if c = q then scan { s with quote := none } rest
      else scan s rest
    | none =>
      if c = '#' then ([], s)
      else if isQuote c then scan { s with quote := some c } rest
      else
        let (code, after) := scan s rest
        (c :: code, after)

@[simp] theorem scan_nil (s : ScanState) : s.scan [] = ([], s) := by
  simp [scan]

end ScanState

end DocSplice.Brace
