import DocSplice.Brace.Code

/-!
# Bodies of functions

The unit that a declaration starts ends with the body of its function, and `bodyEnd` finds the last
line of it.  Only code characters are looked at.  First the argument list has to be closed; then the
body is either braced, and ends with the brace that matches its first one, or it is a bare
expression, and ends with the first line that leaves no bracket open and does not stop after an
operator that asks for more.

A body that is never closed runs to the end of the file.  Where only blanks follow the argument
list there is no body, and the unit is the line of its declaration.
-/

namespace DocSplice.Brace

/-- How far the scan of a function has come. -/
inductive BodyState where
  /-- Inside the argument list, with so many parentheses open. -/
  | arguments (parens : Nat)
  /-- The argument list is closed and the body has not begun. -/
  | awaiting
  /-- Inside a braced body, with so many braces open. -/
  | braced (depth : Nat)
  /-- Inside a bare expression, with so many brackets open. -/
  | expression (depth : Nat)
  deriving DecidableEq, Repr

/-- Brackets open after one more character, of the three kinds together. -/
def nesting (depth : Nat) (c : Char) : Nat :=
  if c = '(' ∨ c = '[' ∨ c = '{' then depth + 1
  else if c = ')' ∨ c = ']' ∨ c = '}' then depth - 1
  else depth

/-- Parentheses and square brackets open after one more character. -/
def callNesting (depth : Nat) (c : Char) : Nat :=
  if c = '(' ∨ c = '[' then depth + 1
  else if c = ')' ∨ c = ']' then depth - 1
  else depth

namespace BodyState

/-- The state after one more code character; `none` when it was the brace that closes the body. -/
def step : BodyState → Char → Option BodyState
  | .arguments parens, c =>
    if c = '(' then some (.arguments (parens + 1))
    else if c = ')' then
      if parens ≤ 1 then some .awaiting else some (.arguments (parens - 1))
    else some (.arguments parens)
  | .awaiting, c =>
    if c = '{' then some (.braced 1)
    else if isBlank c then some .awaiting
    else some (.expression (nesting 0 c))
  | .braced depth, c =>
    if c = '{' then some (.braced (depth + 1))
    else if c = '}' then
      if depth ≤ 1 then none else some (.braced (depth - 1))
    else some (.braced depth)
  | .expression depth, c => some (.expression (nesting depth c))

/-- The state after the code of a line; `none` when the body was closed on it. -/
def run (state : BodyState) : List Char → Option BodyState
  | [] => some state
  | c :: code => (state.step c).bind (run · code)

@[simp] theorem run_nil (state : BodyState) : state.run [] = some state := rfl

theorem run_cons (state : BodyState) (c : Char) (code : List Char) :
    state.run (c :: code) = (state.step c).bind (run · code) := rfl

end BodyState

/-- The characters after which an expression asks for more. -/
def continuationChars : List Char :=
  ['+', '-', '*', '/', '^', '&', '|', '<', '>', '=', '!', '~', ',', '%']

/-- Whether the code of a line stops after an operator or a comma. -/
def endsWithOperator (code : List Char) : Bool :=
  match code.reverse.find? (!isBlank ·) with
  | some c => continuationChars.contains c
  | none => false

/-- What the lines below a declaration tell about its end. -/
inductive BodyScan where
  /-- The body ends on this row. -/
  | ended (row : Nat)
  /-- The lines were used up in this state. -/
  | unfinished (state : BodyState)
  deriving DecidableEq, Repr

/-- Scan lines, the first of which has number `row`. -/
def scanBody (row : Nat) (state : BodyState) (scan : ScanState) : List Text → BodyScan
  | [] => .unfinished state
  | line :: rest =>
    let (code, after) := scan.scan line
    match state.run code with
    | none => .ended row
    | some next =>
      if next = .expression 0 && !endsWithOperator code then .ended row
      else scanBody (row + 1) next after rest

/-- The last row of the function that is declared on row `start`. -/
def bodyEnd (lines : List Text) (start : Nat) : Nat :=
  match scanBody start (.arguments 0) .outside (lines.drop start) with
  | .ended row => row
  | .unfinished .awaiting => start
  | .unfinished _ => lines.length - 1

end DocSplice.Brace
