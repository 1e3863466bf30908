import DocSplice.Block
import DocSplice.Brace.Body
import DocSplice.Brace.Declaration
import DocSplice.Documentation
import DocSplice.Failure
import DocSplice.Splice
import DocSplice.Target

/-!
# Marked lines above functions

The documentation of a function is the run of lines that starts with the marker `#'` and touches
the declaration from above.  Inside it a line `@param`, `@return` or the like opens a section, and
every other line is content; the lines before the first tag describe the function.

* `items` finds the functions of a file.  An assignment inside the arguments of a call, or inside a
  string, is not a declaration, so brackets and quotes are followed from the top of the file.
* `block` finds the documentation of a declaration; `decompose` reads it.
* `render` writes documentation as marked lines, and `planSplices` puts them in place of the block
  that is there.
-/

namespace DocSplice.Brace

/-- The marker of a documentation line. -/
def marker : Text := ['#', '\'']

/-- Whether a line is marked. -/
def isMarked (line : Text) : Bool := Text.startsWith (Text.trimStart line) marker

/-- The documentation that touches the given row from above. -/
def block (lines : List Text) (row : Nat) : Option LineRange := blockAbove isMarked lines row

/-! ## Finding the functions -/

/-- The items in the lines from `row` on, which are the last of `all`.  The next `skip` lines belong
to the item found last; `scan` and `calls` say whether a string and how many brackets are open. -/
def itemsFrom (all : List Text) (row skip : Nat) (scan : ScanState) (calls : Nat) :
    List Text → List Item
  | [] => []
  | line :: rest =>
    match skip with
    | skip + 1 => itemsFrom all (row + 1) skip scan calls rest
    | 0 =>
      match if calls = 0 ∧ scan.inString = false then declaredName? line else none with
      | some name =>
        let stop := bodyEnd all row
        Item.ofSpan .routine name all (row + 1) (stop + 1) ((block all row).map (·.text all))
          :: itemsFrom all (row + 1) (stop - row) scan calls rest
      | none =>
        let (code, after) := scan.scan line
        itemsFrom all (row + 1) 0 after (code.foldl callNesting calls) rest

/-- The functions of a file with the given text, in order. -/
def items (text : Text) : List Item :=
  let lines := Text.splitLines text
  itemsFrom lines 0 0 .outside 0 lines

/-! ## Reading -/

/-- The word at the start of a text and what follows the blank after it, trimmed. -/
def splitTag (t : Text) : Text × Text :=
  (t.takeWhile (!isBlank ·), Text.trim ((t.dropWhile (!isBlank ·)).drop 1))

/-- What a marked line says, given without its marker and trimmed. -/
def classifyBody (body : Text) : DocLine :=
  match body with
  | '@' :: tagged =>
    let (tag, rest) := splitTag tagged
    let inline := if rest.isEmpty then none else some rest
    if tag = "param".toList then .header .parameters (some body)
    else if ["return".toList, "returns".toList].contains tag then .header .returns inline
    else if ["examples".toList, "example".toList].contains tag then .header .examples inline
    else if tag = "description".toList then .header .description inline
    else if tag = "export".toList then .skip
    else .content body
  | _ => .content body

/-- What a line of the block says. -/
def classify (line : Text) : DocLine :=
  let trimmed := Text.trim line
  match Text.stripPrefix? trimmed marker with
  | some body => classifyBody (Text.trim body)
  | none => .content trimmed

/-- The documentation of an item of the given name, taken apart. -/
def decompose (name documentation : Text) : Documentation :=
  let sections :=
    (SectionScan.openedAt .description).run ((Text.terminatedLines documentation).map classify)
  { kind := .patternBrace
    name := if name.isEmpty then none else some name
    description := sections.description
    parameters := sections.parameters
    returns := sections.returns
    examples := sections.examples
    raw := documentation }

/-! ## Writing -/

/-- Write one line of documentation as a marked line; a line that is one already is only indented
anew. -/
def renderLine (indent line : Text) : Text :=
  let line := Text.trimEnd line
  if Text.allBlank line then indent ++ marker
  else if isMarked line then indent ++ Text.trimStart line
  else indent ++ marker ++ ' ' :: line

/-- Write documentation as marked lines with the given indentation. -/
def render (indent documentation : Text) : List Text :=
  (Text.terminatedLines (Text.dropAroundWhile (· == '\n') documentation)).map (renderLine indent)

/-- The complaint that no function is declared where a target says. -/
def missingDeclaration (t : Target) : Failure :=
  .corruption .patternBrace
    ("no declaration of '" ++ String.ofList t.item.name ++ "' at line "
      ++ toString t.item.firstLine)

/-- The splice that installs the documentation of one target: new marked lines, with the indentation
of the declaration, for the block above it. -/
def planSplice (lines : List Text) (t : Target) : Except Failure Splice :=
  match lines[t.row]? with
  | none => .error (missingDeclaration t)
  | some line =>
    if isDeclaration line then
      let start := match block lines t.row with
        | some found => found.start
        | none => t.row
      .ok ⟨start, t.row, render (Text.indent line) t.documentation⟩
    else .error (missingDeclaration t)

/-- The splices that install documentation, one for each target. -/
def planSplices (text : Text) (targets : List Target) : Except Failure (List Splice) :=
  targets.mapM (planSplice (Text.splitLines text))

end DocSplice.Brace
