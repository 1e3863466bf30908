import DocSplice.Grammar.Layout
import DocSplice.Grammar.Lexeme
import DocSplice.Place
import DocSplice.Grammar.Productions

/-!
# Tokens

A token is a terminal together with the stretch of text that it covers.  `tokens?` reads a whole
text as tokens, and succeeds exactly when the grammar accepts them: after each token the chart says
which terminals may come next, and only these are looked for.

At every place the layout is asked first.  Where it has nothing to say the blanks are skipped and
the longest lexeme is taken; a comment or a hidden line end is skipped like blanks, and then the
layout is asked again.
-/

namespace DocSplice.Grammar

/-- A terminal and the stretch of text that it covers. -/
structure Token where
  terminal : Terminal
  start : Place
  stop : Place
  deriving DecidableEq, Repr

/-- The state of a reading. -/
structure Reading where
  chart : Chart Terminal Category
  layout : Layout
  place : Place
  /-- What was not read yet. -/
  rest : Text

namespace Reading

/-- Nothing is read yet; a mark of the byte order at the very start is skipped. -/
def start (t : Text) : Reading :=
  let skipped := if t.head? == some '\uFEFF' then 1 else 0
  ⟨Chart.initial grammar, .initial, Place.origin.after (t.take skipped), t.drop skipped⟩

/-- Skip some characters. -/
def skip (r : Reading) (count : Nat) : Reading :=
  { r with place := r.place.after (r.rest.take count), rest := r.rest.drop count }

/-- Read a token that was found after `skipped` characters. -/
def take? (r : Reading) (found : Layout.Found) : Option (Token × Reading) := do
  let chart ← r.chart.read? grammar found.terminal
  let before := r.skip found.skipped
  let after := before.skip found.length
  some (⟨found.terminal, before.place, after.place⟩,
    { after with chart := chart, layout := found.layout })

/-- What one step of a reading gives. -/
inductive Step where
  /-- A token was read. -/
  | token (token : Token) (next : Reading)
  /-- Something was skipped. -/
  | skipped (next : Reading)
  /-- The text ended where it may. -/
  | finished (last : Token)
  /-- Nothing that may come next was found. -/
  | stuck

/-- A step with the token that was found, if it can be read. -/
def stepWith (r : Reading) (found : Layout.Found) : Step :=
  match r.take? found with
  | some (token, next) => .token token next
  | none => .stuck

/-- A step where the layout has nothing to say. -/
def lexemeStep (r : Reading) : Step :=
  let blanks := (r.rest.takeWhile Lexeme.isSpacing).length
  let t := r.rest.drop blanks
  let format := Lexeme.formatText r.rest
  if r.chart.expects .formatText && 0 < format then
    r.stepWith ⟨.formatText, 0, format, r.layout⟩
  else
    match Lexeme.longest? r.chart.expects (blanks == 0) t with
    | some (terminal, length) => r.stepWith ⟨terminal, blanks, length, r.layout⟩
    | none =>
      let between := max (Lexeme.comment t) (Lexeme.continuation t)
      if 0 < between then .skipped (r.skip (blanks + between))
      else if t.isEmpty then
        match r.take? ⟨.endOfText, blanks, 0, r.layout⟩ with
        | some (token, _) => .finished token
        | none => .stuck
      else .stuck

/-- One step. -/
def step (r : Reading) : Step :=
  match r.layout.scan r.chart.expects r.rest with
  | some found => r.stepWith found
  | none => r.lexemeStep

/-- Read on to the end of the text, in at most so many steps. -/
def run : Nat → Reading → Option (List Token)
  | 0, _ => none
  | fuel + 1, r =>
    match r.step with
    | .token token next => (run fuel next).map (token :: ·)
    | .skipped next => run fuel next
    | .finished last => some [last]
    | .stuck => none

end Reading

/-- The tokens of a text that the grammar accepts.  Each character starts at most one token, one
change of indentation each way and one line end, which bounds the number of steps. -/
def tokens? (t : Text) : Option (List Token) :=
  if List.contains t '\x00' then none else (Reading.start t).run (4 * t.length + 16)

end DocSplice.Grammar
