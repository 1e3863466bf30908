import DocSplice.Text.Lines

/-!
# Blocks of documentation lines

Documentation kept in comments is a contiguous run of lines, found in one of two places.

* `leadingBlock` finds a block at the top of a file: blank lines may come first, then a line that
  opens the block, then every line that continues it.
* `blockAbove` finds the block that touches a given line from above: the longest run of marked
  lines that ends just before it.

Both are asked when documentation is read and again when it is replaced, so what a reader finds is
what an edit removes.
-/

namespace DocSplice

/-- A stretch of lines, counted from zero; `stop` is not included. -/
structure LineRange where
  start : Nat
  stop : Nat
  deriving DecidableEq, Repr

namespace LineRange

/-- The lines of the stretch. -/
def slice (r : LineRange) (lines : List Text) : List Text := (lines.take r.stop).drop r.start

/-- The text of the stretch. -/
def text (r : LineRange) (lines : List Text) : Text := Text.joinLines (r.slice lines)

end LineRange

/-- The block that starts on the first line that is not blank, when that line opens one; `row` is
the number of lines above. -/
def leadingBlockFrom (opens continues : Text → Bool) (row : Nat) : List Text → Option LineRange
  | [] => none
  | line :: rest =>
    if opens line then some ⟨row, row + 1 + (rest.takeWhile continues).length⟩
    else if Text.allBlank line then leadingBlockFrom opens continues (row + 1) rest
    else none

/-- The block at the top of the lines. -/
def leadingBlock (opens continues : Text → Bool) (lines : List Text) : Option LineRange :=
  leadingBlockFrom opens continues 0 lines

/-- The number of marked lines that end just above line `anchor`. -/
def markedAbove (marked : Text → Bool) (lines : List Text) (anchor : Nat) : Nat :=
  ((lines.take anchor).reverse.takeWhile marked).length

/-- The longest run of marked lines that ends just above line `anchor`. -/
def blockAbove (marked : Text → Bool) (lines : List Text) (anchor : Nat) : Option LineRange :=
  let count := markedAbove marked lines anchor
  if count = 0 then none else some ⟨min anchor lines.length - count, anchor⟩

@[simp] theorem leadingBlockFrom_nil (opens continues : Text → Bool) (row : Nat) :
    leadingBlockFrom opens continues row [] = none := rfl

@[simp] theorem markedAbove_zero (marked : Text → Bool) (lines : List Text) :
    markedAbove marked lines 0 = 0 := rfl

end DocSplice
