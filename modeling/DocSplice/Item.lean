import DocSplice.SourceKind
import DocSplice.Text.Lines

/-!
# Documentable units

An `Item` is a unit of a source file that wants documentation: a routine, a class, or a whole query
file.  It remembers where it stands, what its source text is and which documentation was found for
it.  `documentation` is `none` when none was found and may be the empty text when an empty block
was.
-/

namespace DocSplice

/-- What a documentable unit is. -/
inductive ItemKind where
  /-- A function or procedure. -/
  | routine
  /-- A class-like declaration. -/
  | structuredType
  /-- A whole query file. -/
  | queryUnit
  deriving DecidableEq, Repr

/-- The word for the kind in reports. -/
def ItemKind.tag : ItemKind → String
  | .routine => "routine"
  | .structuredType => "structured_type"
  | .queryUnit => "query_unit"

/-- A documentable unit of a source file. -/
structure Item where
  /-- The declared name, or a placeholder. -/
  name : Text
  kind : ItemKind
  /-- The text of the lines from `firstLine` to `lastLine`. -/
  source : Text
  /-- The line of the declaration, counted from one, after any decorators. -/
  firstLine : Nat
  /-- The last line of the unit, counted from one and included. -/
  lastLine : Nat
  /-- The documentation that was found. -/
  documentation : Option Text
  deriving DecidableEq, Repr

/-- The item on the given lines; its source text is cut out of them. -/
def Item.ofSpan (kind : ItemKind) (name : Text) (lines : List Text) (firstLine lastLine : Nat)
    (documentation : Option Text) : Item where
  name := name
  kind := kind
  source := Text.spanText lines firstLine lastLine
  firstLine := firstLine
  lastLine := lastLine
  documentation := documentation

end DocSplice
