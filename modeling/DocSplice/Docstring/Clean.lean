import DocSplice.Text.Lines

/-!
# The text of a docstring

A docstring is written with the indentation of the code around it, so its text is what is left when
that indentation is taken away.  `Docstring.clean` does this: tabs are expanded to columns of eight,
the first line is stripped, the other lines lose the indentation they all share, no line ends in
blanks, and the empty lines at either end are dropped.
-/

namespace DocSplice.Docstring

/-- Replace tabs by blanks up to the next column that is a multiple of eight; `column` is the column
of the first character. -/
def expandTabsFrom (column : Nat) : Text → Text
  | [] => []
  | c :: t =>
    if c = '\t' then
      let width := 8 - column % 8
      List.replicate width ' ' ++ expandTabsFrom (column + width) t
    else c :: expandTabsFrom (column + 1) t

/-- Replace the tabs of a line by blanks. -/
def expandTabs (line : Text) : Text := expandTabsFrom 0 line

/-- The number of spaces that a line starts with. -/
def leadingSpaces (line : Text) : Nat := (line.takeWhile (· == ' ')).length

/-- The least number of leading spaces of the lines that are not blank; zero when all are. -/
def margin (lines : List Text) : Nat :=
  (((lines.filter (!Text.allBlank ·)).map leadingSpaces).min?).getD 0

/-- Without as many of the leading spaces as asked for, or as there are. -/
def cutSpaces (width : Nat) (line : Text) : Text := line.drop (min width (leadingSpaces line))

/-- The lines stripped of the first line's blanks, of the common indentation and of trailing
blanks. -/
def dedent : List Text → List Text
  | [] => []
  | first :: rest =>
    Text.trim first :: rest.map fun line => Text.trimEnd (cutSpaces (margin rest) line)

/-- Without the empty lines at either end. -/
def dropEmptyEnds (lines : List Text) : List Text :=
  ((lines.reverse.dropWhile List.isEmpty).reverse).dropWhile List.isEmpty

/-- The lines of a docstring's text. -/
def cleanLines (value : Text) : List Text :=
  dropEmptyEnds (dedent ((Text.split '\n' value).map expandTabs))

/-- The text of a docstring. -/
def clean (value : Text) : Text := Text.joinLines (cleanLines value)

@[simp] theorem expandTabs_nil : expandTabs [] = [] := rfl

@[simp] theorem clean_nil : clean [] = [] := by decide

end DocSplice.Docstring
