import DocSplice.Parser
import DocSplice.Proofs.Patches
import DocSplice.Proofs.Places

/-!
# What is relied on of a parser

A parser may be anything that gives outlines.  What has to be known of it beyond that is said here.

* `Parser.Laws`: the places in an outline are places of the text.  Declarations and the first
  statements of their bodies start with a character that is neither a blank nor a semicolon, and a
  string that is a whole statement ends behind its start.
* `Parser.Statements`: what the statements of a text have to do with its outline, where simple
  statements and the headers of compound ones count.  They lie one behind the other, each starts
  with a character that is neither a blank nor a semicolon, and no statement covers both a header
  and the first statement behind its colon.
-/

namespace DocSplice

open Text

/-- The places in an outline are places of the text. -/
structure Parser.Laws [Parser] : Prop where
  /-- A declaration starts with a character that is neither a blank nor a semicolon. -/
  start : ∀ {text : Text} {outline : Outline} {d : Declaration},
    Parser.outline? text = some outline → d ∈ outline → Place.Solid text d.start
  /-- So does the first statement of a body. -/
  opening : ∀ {text : Text} {outline : Outline} {d : Declaration} {opening : Opening},
    Parser.outline? text = some outline → d ∈ outline → d.opening = some opening →
      Place.Solid text opening.start
  /-- A statement that is a string stops in the text, and not before it starts. -/
  string : ∀ {text : Text} {outline : Outline} {d : Declaration} {opening : Opening}
    {s : StringStatement}, Parser.outline? text = some outline → d ∈ outline →
      d.opening = some opening → opening.string = some s →
        Place.Reached text s.stop ∧ opening.start.offset ≤ s.stop.offset

/-- The stretches cover the statements of a text. -/
structure Parser.Statements [Parser] (text : Text) (statements : List Stretch) : Prop where
  /-- Statements lie in the text, one behind the other. -/
  inOrder : InOrder 0 text statements
  /-- A statement starts with a character that is neither a blank nor a semicolon. -/
  solid : ∀ s ∈ statements, ∃ c, (text)[s.start]? = some c ∧ isBlank c = false ∧ c ≠ ';'
  /-- In front of a body stands the colon of the header, and every statement stops with this colon
  or before it, or starts with the body or behind it. -/
  header : ∀ {outline : Outline} {d : Declaration} {opening : Opening},
    Parser.outline? text = some outline → d ∈ outline → d.opening = some opening →
      ∃ colon, (text)[colon]? = some ':' ∧ colon < opening.start.offset ∧
        ∀ s ∈ statements, s.stop ≤ colon + 1 ∨ opening.start.offset ≤ s.start

end DocSplice
