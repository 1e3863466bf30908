import DocSplice.Grammar.Token
import DocSplice.Parser

/-!
# Outlines read off tokens

The tokens of an accepted text tell its outline: a declaration starts with one of two words outside
of all blocks, its body comes behind the colon that ends the header, and brackets and lambdas are
counted to find that colon.
-/

namespace DocSplice.Grammar

namespace Outline

/-- Whether the token ends a statement. -/
def endsStatement (a : Token) : Bool := a.terminal == .newline || a.terminal == .mark .semicolon

/-- The statement that the tokens start with, if it is nothing but one string, perhaps with a comma
behind it. -/
def stringStatement? (text : Text) : List Token → Option StringStatement
  | [] => none
  | first :: rest =>
    if first.terminal = .stringStart then
      match rest.dropWhile (·.terminal != .stringEnd) with
      | last :: next :: rest =>
        let literal := Place.textBetween text first.start last.stop
        if endsStatement next then some ⟨literal, last.stop⟩
        else if next.terminal == .mark .comma && next.start.row == last.stop.row
            && rest.head?.any endsStatement then
          some ⟨literal, next.stop⟩
        else none
      | _ => none
    else none

/-- The tokens behind the colon that ends a header; `depth` brackets and so many lambdas are open,
each of which takes a colon of its own. -/
def afterHeader (depth lambdas : Nat) : List Token → List Token
  | [] => []
  | token :: rest =>
    match token.terminal with
    | .mark .leftParen | .mark .leftBracket | .mark .leftBrace =>
      afterHeader (depth + 1) lambdas rest
    | .mark .rightParen | .mark .rightBracket | .mark .rightBrace =>
      afterHeader (depth - 1) lambdas rest
    | .keyword .lambda_ => afterHeader depth (if depth = 0 then lambdas + 1 else lambdas) rest
    | .mark .colon =>
      if 0 < depth then afterHeader depth lambdas rest
      else if 0 < lambdas then afterHeader depth (lambdas - 1) rest
      else rest
    | _ => afterHeader depth lambdas rest

/-- Where the block ends that the tokens are in; `depth` further blocks are open inside it. -/
def blockEnd? (depth : Nat) : List Token → Option Place
  | [] => none
  | token :: rest =>
    match token.terminal with
    | .indent => blockEnd? (depth + 1) rest
    | .dedent => if depth = 0 then some token.start else blockEnd? (depth - 1) rest
    | _ => blockEnd? depth rest

/-- Where the line ends that the tokens are on. -/
def lineEnd? (tokens : List Token) : Option Place :=
  (tokens.find? (·.terminal == .newline)).map (·.start)

/-- The statement that the tokens start with. -/
def opening? (text : Text) : List Token → Option Opening
  | [] => none
  | first :: rest =>
    if first.terminal = .dedent then none
    else some ⟨first.start, stringStatement? text (first :: rest)⟩

/-- The first statement of the body that the tokens start with, and where the body ends. -/
def body? (text : Text) : List Token → Option (Option Opening × Place)
  | [] => none
  | first :: rest =>
    match first.terminal with
    | .newline => some (none, first.start)
    | .indent => (blockEnd? 0 rest).map (opening? text rest, ·)
    | _ => (lineEnd? rest).map (opening? text (first :: rest), ·)

/-- The declaration whose header goes on with the given tokens, which start with its name. -/
def declaration? (text : Text) (kind : ItemKind) (start : Place) :
    List Token → Option Declaration
  | [] => none
  | name :: rest => do
    let (opening, stop) ← body? text (afterHeader 0 0 rest)
    some ⟨kind, Place.textBetween text name.start name.stop, start, stop, opening⟩

/-- The declarations among the tokens; `depth` blocks are open, and `asyncAt` is where the word
before stands, if it is one that a declaration may start with. -/
def declarationsFrom (text : Text) (depth : Nat) (asyncAt : Option Place) :
    List Token → Outline
  | [] => []
  | token :: rest =>
    let declared (kind : ItemKind) : Outline :=
      if depth = 0 then (declaration? text kind (asyncAt.getD token.start) rest).toList else []
    match token.terminal with
    | .indent => declarationsFrom text (depth + 1) none rest
    | .dedent => declarationsFrom text (depth - 1) none rest
    | .keyword .async_ => declarationsFrom text depth (some token.start) rest
    | .keyword .def_ => declared .routine ++ declarationsFrom text depth none rest
    | .keyword .class_ => declared .structuredType ++ declarationsFrom text depth none rest
    | _ => declarationsFrom text depth none rest

end Outline

/-- The outline of a text, if the grammar accepts it. -/
def outline? (t : Text) : Option Outline :=
  (tokens? t).map (Outline.declarationsFrom t 0 none)

end DocSplice.Grammar
