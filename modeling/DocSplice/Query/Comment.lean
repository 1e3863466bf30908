import DocSplice.Block
import DocSplice.Documentation
import DocSplice.Query.Routine
import DocSplice.Splice
import DocSplice.Target

/-!
# Markdown in leading comments

The documentation of a query file is a block of comment lines at its top.  The block opens with a
line `-- #`, usually the title, and goes on as long as lines are comments.  Inside the block
`-- # Name` gives the title, `-- ## Returns` and its like open sections, and every other line is
content.

* `block` finds the block; `items` and `decompose` read it.
* `render` writes documentation as comment lines, and `planSplices` puts them at the top of the file
  in place of the block that is there, with one blank line below.

A rendered block is recognised again: its lines are comments (`render_isComment`).
-/

namespace DocSplice.Query

/-- The marker of a comment line. -/
def marker : Text := ['-', '-']

/-- What a block starts with. -/
def opener : Text := ['-', '-', ' ', '#']

/-- Whether a line is a comment. -/
def isComment (line : Text) : Bool := Text.startsWith (Text.trimStart line) marker

/-- Whether a line may open a block. -/
def isOpener (line : Text) : Bool := Text.startsWith (Text.trimStart line) opener

/-- The documentation block at the top of the lines. -/
def block (lines : List Text) : Option LineRange := leadingBlock isOpener isComment lines

/-! ## Reading -/

/-- The section with the given heading, in lower case. -/
def sectionNamed? (heading : Text) : Option Section :=
  if heading = "description".toList then some .description
  else if ["parameters".toList, "params".toList, "arguments".toList].contains heading then
    some .parameters
  else if ["returns".toList, "return".toList].contains heading then some .returns
  else if ["example".toList, "examples".toList].contains heading then some .examples
  else none

/-- What a comment says, given without its marker and trimmed. -/
def classifyBody (body : Text) : DocLine :=
  match body with
  | '#' :: '#' :: heading =>
    match sectionNamed? (Text.lowerAscii (Text.trim heading)) with
    | some opened => .header opened none
    | none => .content body
  | '#' :: title => .title (Text.trim title)
  | _ => .content body

/-- What a line of the block says. -/
def classify (line : Text) : DocLine :=
  let trimmed := Text.trim line
  match Text.stripPrefix? trimmed marker with
  | some body => classifyBody (Text.trim body)
  | none => .content trimmed

/-- The one item of a file with the given text. -/
def items (text : Text) : List Item :=
  let lines := Text.splitLines text
  [Item.ofSpan .queryUnit (unitName lines) lines 1 lines.length
    ((block lines).map (·.text lines))]

/-- The documentation of an item, taken apart. -/
def decompose (documentation : Text) : Documentation :=
  let sections := SectionScan.closed.run ((Text.terminatedLines documentation).map classify)
  { kind := .singleUnit
    name := sections.title
    description := sections.description
    parameters := sections.parameters
    returns := sections.returns
    examples := sections.examples
    raw := documentation }

/-! ## Writing -/

/-- Write one line of documentation as a comment; a line that is one already loses only its
indentation. -/
def renderLine (line : Text) : Text :=
  let line := Text.trimEnd line
  if Text.allBlank line then marker
  else if isComment line then Text.trimStart line
  else marker ++ ' ' :: line

/-- Write documentation as comment lines. -/
def render (documentation : Text) : List Text :=
  (Text.terminatedLines (Text.dropAroundWhile (· == '\n') documentation)).map renderLine

/-- Whether a line opens a block and gives its title. -/
def isTitle (line : Text) : Bool :=
  isOpener line && match classify line with
    | .title _ => true
    | _ => false

/-- The comment lines for documentation, with the name of the item as the title when the
documentation does not start with one. -/
def renderTitled (name documentation : Text) : List Text :=
  let lines := render documentation
  if lines.head?.any isTitle then lines else (opener ++ ' ' :: name) :: lines

/-- The number of lines at the top that new documentation replaces: the block with what stands above
it, and the blank line below. -/
def replacedLines (lines : List Text) : Nat :=
  match block lines with
  | none => 0
  | some found => if lines[found.stop]?.any Text.allBlank then found.stop + 1 else found.stop

/-- The splices that install documentation.  The file is a single unit, so only the last target
counts. -/
def planSplices (text : Text) (targets : List Target) : List Splice :=
  match targets.getLast? with
  | none => []
  | some target =>
    [⟨0, replacedLines (Text.splitLines text),
      renderTitled target.item.name target.documentation ++ [[]]⟩]

/-- Every rendered line is a comment. -/
theorem renderLine_isComment (line : Text) : isComment (renderLine line) = true := by
  unfold renderLine
  simp only
  split
  · decide
  · split
    · rename_i h
      simpa [isComment] using h
    · rename_i h
      have : isBlank '-' = false := by decide
      simp [isComment, marker, Text.trimStart, this, Text.startsWith]

/-- Every line of a rendered block is a comment. -/
theorem render_isComment (documentation : Text) :
    ∀ line ∈ render documentation, isComment line = true := by
  intro line h
  obtain ⟨l, -, rfl⟩ := List.mem_map.1 h
  exact renderLine_isComment l

end DocSplice.Query
