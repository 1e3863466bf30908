import DocSplice.Docstring.Literal
import DocSplice.Documentation

/-!
# Sections of a docstring

The text of a docstring has sections whose headers stand on a line of their own, with a line of
dashes below.  The dashes belong to the header and are no content; a header counts without them as
well, and dashes that stand anywhere else are content.  What comes before the first header describes
the unit.
-/

namespace DocSplice.Docstring

/-- The section that a line is the header of. -/
def sectionHeader? (line : Text) : Option Section :=
  let heading := Text.trim line
  if heading = "Parameters".toList then some .parameters
  else if heading = "Returns".toList then some .returns
  else if ["Examples".toList, "Example".toList].contains heading then some .examples
  else none

/-- A line of dashes, perhaps with blanks around. -/
def isUnderline (line : Text) : Bool :=
  let dashes := Text.trim line
  !dashes.isEmpty && dashes.all (· == '-')

/-- What a single line says. -/
def classifyLine (line : Text) : DocLine :=
  match sectionHeader? line with
  | some opened => .header opened none
  | none => .content line

/-- What the lines say, where a header takes the dashes below it along. -/
def classifyLines : List Text → List DocLine
  | [] => []
  | [line] => [classifyLine line]
  | line :: next :: rest =>
    match sectionHeader? line with
    | some opened =>
      .header opened none ::
        if isUnderline next then classifyLines rest else classifyLines (next :: rest)
    | none => .content line :: classifyLines (next :: rest)

/-- The documentation of an item of the given name, taken apart. -/
def decompose (name documentation : Text) : Documentation :=
  let sections :=
    (SectionScan.openedAt .description).run (classifyLines (Text.terminatedLines documentation))
  { kind := .structured
    name := some name
    description := sections.description
    parameters := sections.parameters
    returns := sections.returns
    examples := sections.examples
    raw := doubleFence ++ '\n' :: documentation ++ '\n' :: doubleFence }

@[simp] theorem classifyLines_nil : classifyLines [] = [] := rfl

end DocSplice.Docstring
