import DocSplice.Item
import DocSplice.Place

/-!
# Parsers

The outline of a structured source lists its declarations: the functions and classes that stand in
no block.  Of each it tells the name, the stretch it covers, and the first statement of its body.
That is all that documentation needs to know of a structured source.

Where the outline comes from is not said here.  A `Parser` gives it, and what is done with
structured sources is defined, and proved, for every parser.

A declaration starts after its decorators and ends with its body.  A body can be a block on lines of
its own, statements on the line of the colon, or nothing at all.
-/

namespace DocSplice

/-- A string that makes up a whole statement. -/
structure StringStatement where
  /-- The literal as it stands in the source. -/
  literal : Text
  /-- Where the statement ends. -/
  stop : Place
  deriving DecidableEq, Repr

/-- The first statement of a body. -/
structure Opening where
  start : Place
  /-- The literal, if the statement is nothing but one string. -/
  string : Option StringStatement
  deriving DecidableEq, Repr

/-- A function or a class. -/
structure Declaration where
  kind : ItemKind
  name : Text
  start : Place
  stop : Place
  /-- The first statement of the body, if there is one. -/
  opening : Option Opening
  deriving DecidableEq, Repr

/-- The declarations of a source, in order. -/
abbrev Outline := List Declaration

/-- A parser of structured sources. -/
class Parser where
  /-- The outline of a text, if the parser accepts it. -/
  outline? : Text → Option Outline

/-- Whether the parser accepts a text. -/
def Parser.accepts [Parser] (text : Text) : Bool := (Parser.outline? text).isSome

end DocSplice
