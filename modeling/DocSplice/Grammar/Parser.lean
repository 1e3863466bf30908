import DocSplice.Grammar.Outline

/-!
# The grammar as a parser

The program runs with the parser that the grammar makes.
-/

namespace DocSplice.Grammar

/-- The parser that takes a text apart by the grammar. -/
instance parser : Parser where
  outline? := outline?

end DocSplice.Grammar
