import DocSplice.Docstring.Literal
import DocSplice.Failure
import DocSplice.Parser
import DocSplice.Splice
import DocSplice.Target

/-!
# Docstrings of declarations

The documentation of a declaration is the string that its body opens with.

* `items` reads the declarations of a source.  A source that the parser does not accept has none.
* `planSplices` installs docstrings.  Where the body starts on a line of its own, a new docstring
  goes above its first statement, with the same indentation, or in place of the old one; where the
  body shares a line with the header, it moves to lines of its own.

What is done to a declaration depends only on its entry in the outline and on the lines, so
`itemOf` and `planSplice` do not know the parser.
-/

namespace DocSplice.Docstring

/-- One more level of indentation. -/
def indentUnit : Text := [' ', ' ', ' ', ' ']

/-! ## Reading -/

/-- The docstring that a body opens with. -/
def ofOpening? (opening : Opening) : Option StringStatement :=
  opening.string.filter fun s => mayDocument s.literal

/-- The documentation of a declaration. -/
def documentation? (d : Declaration) : Option Text :=
  (d.opening.bind ofOpening?).map fun s => clean (literalValue s.literal)

/-- The last row of a declaration in a text with so many lines. -/
def lastRow (count : Nat) (d : Declaration) : Nat :=
  max d.start.row (min (count - 1) (d.stop.lastRow d.start.row))

/-- The item that a declaration is. -/
def itemOf (lines : List Text) (d : Declaration) : Item :=
  Item.ofSpan d.kind d.name lines (d.start.row + 1) (lastRow lines.length d + 1)
    (documentation? d)

/-- The items of an outline. -/
def itemsOf (lines : List Text) (outline : Outline) : List Item := outline.map (itemOf lines)

/-- The items of a file with the given text. -/
def items [Parser] (text : Text) : List Item :=
  itemsOf (Text.splitLines text) ((Parser.outline? text).getD [])

/-! ## Writing -/

/-- The code left on a line behind the given column, without the semicolon that separated it. -/
def remainderAfter (line : Text) (column : Nat) : Text :=
  let rest := Text.trim (line.drop column)
  match Text.stripPrefix? rest [';'] with
  | some separated => Text.trimStart separated
  | none => rest

/-- The line that holds the remainder, if there is any. -/
def remainderLines (indent remainder : Text) : List Text :=
  if remainder.isEmpty then [] else [indent ++ remainder]

/-- The line in the given row; rows below the text are empty. -/
def lineAt (lines : List Text) (row : Nat) : Text := lines[row]?.getD []

/-- What stands behind a place on its line. -/
def remainderAt (lines : List Text) (p : Place) : Text :=
  remainderAfter (lineAt lines p.row) p.column

/-- The splice that puts documentation at the top of a body whose first statement starts its
line. -/
def spliceOwnLine (lines : List Text) (opening : Opening) (documentation : Text) : Splice :=
  let row := opening.start.row
  let indent := Text.indent (lineAt lines row)
  let written := render documentation indent
  match ofOpening? opening with
  | some old =>
    ⟨row, old.stop.row + 1, written ++ remainderLines indent (remainderAt lines old.stop)⟩
  | none => .insertion row written

/-- The splice that puts documentation at the top of a body that shares its line with the header,
and the body on lines of its own. -/
def spliceSharedLine (lines : List Text) (d : Declaration) (opening : Opening)
    (documentation : Text) : Splice :=
  let row := opening.start.row
  let indent := Text.indent (lineAt lines d.start.row) ++ indentUnit
  let head := Text.trimEnd ((lineAt lines row).take opening.start.column)
  let (last, remainder) := match ofOpening? opening with
    | some old => (old.stop.row, remainderAt lines old.stop)
    | none => (row, remainderAt lines opening.start)
  ⟨row, last + 1, head :: render documentation indent ++ remainderLines indent remainder⟩

/-- Whether a statement is the first thing on its line. -/
def startsLine (lines : List Text) (opening : Opening) : Bool :=
  Text.allBlank ((lineAt lines opening.start.row).take opening.start.column)

/-- The splice that puts documentation at the top of a body. -/
def spliceBody (lines : List Text) (d : Declaration) (opening : Opening) (documentation : Text) :
    Splice :=
  if startsLine lines opening then spliceOwnLine lines opening documentation
  else spliceSharedLine lines d opening documentation

/-- A complaint about a source of this kind. -/
def corrupt (reason : String) : Failure := .corruption .structured reason

/-- The complaint that nothing is declared where a target says. -/
def missingDeclaration (t : Target) : Failure :=
  corrupt ("no top-level declaration of '" ++ String.ofList t.item.name ++ "' at line "
    ++ toString t.item.firstLine)

/-- The splice that installs the documentation of one target. -/
def planSplice (lines : List Text) (outline : Outline) (t : Target) : Except Failure Splice :=
  match outline.find? (·.start.row == t.row) with
  | none => .error (missingDeclaration t)
  | some d =>
    match d.opening with
    | none => .error (corrupt "declaration has no body")
    | some opening => .ok (spliceBody lines d opening t.documentation)

/-- The splices that install documentation, one for each target. -/
def planSplices [Parser] (text : Text) (targets : List Target) : Except Failure (List Splice) :=
  match Parser.outline? text with
  | none => .error (corrupt "original source does not parse")
  | some outline => targets.mapM (planSplice (Text.splitLines text) outline)

/-- The complaint about a text that the parser does not accept, if it does not. -/
def verify [Parser] (text : Text) : Except Failure Unit :=
  if Parser.accepts text then .ok () else .error (corrupt "rewritten source no longer parses")

end DocSplice.Docstring
