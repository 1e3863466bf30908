import DocSplice.Text.Basic

/-!
# Places in a text

A `Place` says where in a text something stands: how many characters come before it, on which row
and in which column.  Rows and columns are counted from zero, and columns count characters.

`Place.after` moves a place over a stretch of text.  Moving over two stretches one after the other
is moving over both at once (`after_append`), and the offset moves by the length (`offset_after`).
-/

namespace DocSplice

/-- Where in a text something stands. -/
structure Place where
  /-- The number of characters before. -/
  offset : Nat
  row : Nat
  column : Nat
  deriving DecidableEq, Repr

namespace Place

/-- The place where every text begins. -/
def origin : Place := ⟨0, 0, 0⟩

/-- The place after one character. -/
def step (p : Place) (c : Char) : Place :=
  if c = '\n' then ⟨p.offset + 1, p.row + 1, 0⟩ else ⟨p.offset + 1, p.row, p.column + 1⟩

/-- The place after a stretch of text. -/
def after (p : Place) (t : Text) : Place := t.foldl step p

@[simp] theorem after_nil (p : Place) : p.after [] = p := rfl

@[simp] theorem after_cons (p : Place) (c : Char) (t : Text) :
    p.after (c :: t) = (p.step c).after t := rfl

theorem after_append (p : Place) (t u : Text) : p.after (t ++ u) = (p.after t).after u :=
  List.foldl_append

@[simp] theorem offset_step (p : Place) (c : Char) : (p.step c).offset = p.offset + 1 := by
  unfold step
  split <;> rfl

theorem offset_after (p : Place) (t : Text) : (p.after t).offset = p.offset + t.length := by
  induction t generalizing p with
  | nil => rfl
  | cons c t ih =>
    rw [after_cons, ih, offset_step, List.length_cons]
    omega

/-- The text between two places of a text. -/
def textBetween (t : Text) (start stop : Place) : Text :=
  (t.take stop.offset).drop start.offset

/-- The last row that a stretch covers when it starts on row `first` and ends here: a stretch that
ends before the first character of a row does not cover that row. -/
def lastRow (stop : Place) (first : Nat) : Nat :=
  if stop.column = 0 ∧ first < stop.row then stop.row - 1 else stop.row

theorem le_lastRow {stop : Place} {first : Nat} (h : first ≤ stop.row) :
    first ≤ stop.lastRow first := by
  unfold lastRow
  split <;> omega

end Place

end DocSplice
