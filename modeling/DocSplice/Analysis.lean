import DocSplice.Brace.MarkedLines
import DocSplice.Docstring.Declarations
import DocSplice.Docstring.Sections
import DocSplice.Query.Comment

/-!
# Analysis of sources

What a kind of source means for its files: which items they have, how the documentation of an item
is taken apart, and where new documentation goes.  Each of the three kinds has its own rules; here
the kind picks them.

`SourceKind.verify` has the last word on a text that was rewritten: only a kind with a parser can
object.
-/

namespace DocSplice.SourceKind

/-- The items of a file with the given text, in order. -/
def items [Parser] : SourceKind → Text → List Item
  | .structured => Docstring.items
  | .singleUnit => Query.items
  | .patternBrace => Brace.items

/-- The documentation of an item of the given name, taken apart. -/
def decompose : SourceKind → Text → Text → Documentation
  | .structured, name, documentation => Docstring.decompose name documentation
  | .singleUnit, _, documentation => Query.decompose documentation
  | .patternBrace, name, documentation => Brace.decompose name documentation

/-- The documentation that was found for an item, taken apart. -/
def documentation? (kind : SourceKind) (item : Item) : Option Documentation :=
  item.documentation.map (kind.decompose item.name)

/-- The splices that install documentation; they refer to the lines of the text as it is. -/
def planSplices [Parser] : SourceKind → Text → List Target → Except Failure (List Splice)
  | .structured, text, targets => Docstring.planSplices text targets
  | .singleUnit, text, targets => .ok (Query.planSplices text targets)
  | .patternBrace, text, targets => Brace.planSplices text targets

/-- The complaint about a text that is not a source of the kind, if it is not. -/
def verify [Parser] : SourceKind → Text → Except Failure Unit
  | .structured, text => Docstring.verify text
  | .singleUnit, _ => .ok ()
  | .patternBrace, _ => .ok ()

end DocSplice.SourceKind
