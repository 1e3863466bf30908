import DocSplice.Text.Lines

/-!
# Splices

A splice replaces a stretch of lines by others.  Splices are planned against the lines of the
unmodified text, all of them at once, and are applied from the bottom of the text upwards, so that
applying one never moves the lines that another one refers to.

`Splice.sortDescending` puts the highest start first; splices with the same start are ordered by
their end, highest first, and splices with the same range keep their order.
-/

namespace DocSplice

/-- Replace the lines from `start`, counted from zero, up to but not including `stop`. -/
structure Splice where
  start : Nat
  stop : Nat
  lines : List Text
  deriving DecidableEq, Repr

namespace Splice

/-- Insert lines before line `row`. -/
def insertion (row : Nat) (lines : List Text) : Splice := ⟨row, row, lines⟩

/-- Whether `a` may be applied before `b`: it starts later, or it starts on the same line and ends
no earlier. -/
def goesFirst (a b : Splice) : Bool :=
  b.start < a.start || (a.start == b.start && b.stop ≤ a.stop)

/-- Insert a splice into a list that is sorted for application, before those that may follow it. -/
def insertDescending (s : Splice) : List Splice → List Splice
  | [] => [s]
  | t :: rest => if goesFirst s t then s :: t :: rest else t :: insertDescending s rest

/-- Splices in the order in which they are applied. -/
def sortDescending : List Splice → List Splice
  | [] => []
  | s :: rest => insertDescending s (sortDescending rest)

@[simp] theorem sortDescending_nil : sortDescending [] = [] := rfl

theorem sortDescending_cons (s : Splice) (rest : List Splice) :
    sortDescending (s :: rest) = insertDescending s (sortDescending rest) := rfl

theorem insertDescending_perm (s : Splice) (l : List Splice) :
    (insertDescending s l).Perm (s :: l) := by
  induction l with
  | nil => exact .refl _
  | cons t rest ih =>
    unfold insertDescending
    split
    · exact .refl _
    · exact (List.Perm.cons t ih).trans (.swap s t rest)

/-- Sorting loses no splice and adds none. -/
theorem sortDescending_perm (l : List Splice) : (sortDescending l).Perm l := by
  induction l with
  | nil => exact .refl _
  | cons s rest ih => exact (insertDescending_perm s _).trans (List.Perm.cons s ih)

/-- Replace the lines that the splice covers. -/
def applyTo (lines : List Text) (s : Splice) : List Text :=
  lines.take s.start ++ s.lines ++ lines.drop s.stop

/-! ## Line endings -/

/-- Whether the line ends with a carriage return. -/
def hasReturn (line : Text) : Bool := line.getLast? == some '\r'

/-- The line, ended with a carriage return. -/
def addReturn (line : Text) : Text := if hasReturn line then line else line ++ ['\r']

/-- The line that decides about the endings of a splice's lines: the one it starts on, or the one
above when it starts below the last line. -/
def anchor? (source : List Text) (s : Splice) : Option Text :=
  match source[s.start]? with
  | some line => some line
  | none => if s.start = 0 then none else source[s.start - 1]?

/-- End the new lines with a carriage return when the line they land on has one. -/
def adoptEnding (source : List Text) (s : Splice) : Splice :=
  if (anchor? source s).any hasReturn then { s with lines := s.lines.map addReturn } else s

end Splice

end DocSplice
