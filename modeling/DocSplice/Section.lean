import DocSplice.Text.Lines

/-!
# Sections of documentation

Documentation of every convention has a title and four sections.  Each convention says what a single
line of a block is, a `DocLine`; the rest is common to all of them and is done here.

A `SectionScan` is fed one line after the other.  It remembers which section is open, and a line of
content goes to the open section; content that comes before any section is open is dropped.  A
scan may start with a section open already.  Such a section was not announced by a header, so at the
end it counts only if something was written into it, whereas a section with a header counts even
when it stayed empty.
-/

namespace DocSplice

/-- A named part of documentation. -/
inductive Section where
  | description
  | parameters
  | returns
  | examples
  deriving DecidableEq, Repr

/-- What one line of a documentation block is. -/
inductive DocLine where
  /-- It names the documented unit. -/
  | title (name : Text)
  /-- It opens a section, and may hold the first content of that section. -/
  | header (opened : Section) (inline : Option Text)
  /-- It is content of the open section. -/
  | content (text : Text)
  /-- It says nothing. -/
  | skip
  deriving DecidableEq, Repr

/-- The title and the sections of a documentation block.  A section is `none` when it was never
opened. -/
structure Sections where
  title : Option Text
  description : Option Text
  parameters : Option Text
  returns : Option Text
  examples : Option Text
  deriving DecidableEq, Repr

/-- The state of a scan over the lines of a block. -/
structure SectionScan where
  /-- The section that content goes to. -/
  current : Option Section
  /-- The section that is open without a header. -/
  implicit : Option Section
  title : Option Text
  /-- The content so far of every section that was opened. -/
  gathered : Section → Option (List Text)

namespace SectionScan

/-- Nothing is open yet. -/
def closed : SectionScan := ⟨none, none, none, fun _ => none⟩

/-- The given section is open without a header. -/
def openedAt (s : Section) : SectionScan := ⟨some s, some s, none, fun _ => none⟩

/-- Add content to a section, opening it if need be. -/
def write (scan : SectionScan) (s : Section) (content : List Text) : SectionScan :=
  { scan with
    gathered := fun s' =>
      if s' = s then some ((scan.gathered s).getD [] ++ content) else scan.gathered s' }

/-- One more line. -/
def feed (scan : SectionScan) : DocLine → SectionScan
  | .title name =>
    let name := Text.trim name
    if scan.title.isNone && !name.isEmpty then { scan with title := some name } else scan
  | .header opened inline =>
    let implicit := if scan.implicit = some opened then none else scan.implicit
    { scan with current := some opened, implicit := implicit }.write opened inline.toList
  | .content text =>
    match scan.current with
    | some s => scan.write s [text]
    | none => scan
  | .skip => scan

/-- What a section holds in the end: its lines put together and trimmed. -/
def result (scan : SectionScan) (s : Section) : Option Text :=
  match scan.gathered s with
  | none => none
  | some lines =>
    let text := Text.trim (Text.joinLines lines)
    if scan.implicit = some s && text.isEmpty then none else some text

/-- The title and the sections in the end. -/
def finish (scan : SectionScan) : Sections where
  title := scan.title
  description := scan.result .description
  parameters := scan.result .parameters
  returns := scan.result .returns
  examples := scan.result .examples

/-- Scan the lines one after the other. -/
def run (scan : SectionScan) (lines : List DocLine) : Sections :=
  (lines.foldl feed scan).finish

@[simp] theorem feed_skip (scan : SectionScan) : scan.feed .skip = scan := rfl

end SectionScan

end DocSplice
