import DocSplice.Docstring.Declarations
import DocSplice.Proofs.Lines

/-!
# Places and lines

A place that was reached by moving over the beginning of a text says on which line one stands and
how much of that line is behind one.  `drop_split_after` puts this as one equation: the lines from
the row on begin with the line that is cut at the column.

`lineAt_after` reads it off for `Docstring.lineAt`, which knows the lines without the empty one that a
final newline would open.  So the offset of a place is the offset of its row and its column
(`Reached.offset_eq`), and of two places the later one is not on an earlier row (`Reached.row_le`).

A place is `Solid` where a character stands that is neither a blank nor a semicolon.  Then there is
such a line, and it is not blank (`Solid.line`).
-/

namespace DocSplice.Place

open Text

variable {text before rest : Text} {p : Place}

theorem row_step (p : Place) (c : Char) :
    (p.step c).row = if c = '\n' then p.row + 1 else p.row := by
  unfold step
  split <;> rfl

theorem column_step (p : Place) (c : Char) :
    (p.step c).column = if c = '\n' then 0 else p.column + 1 := by
  unfold step
  split <;> rfl

/-- **Rows and columns.**  The lines from the row on are those of what comes next, where the first
one has so many more characters as the column says; these are the last ones that were passed.  The
induction moves one more character over. -/
theorem drop_split_after (before rest : Text) :
    ∃ passed front, before = passed ++ front ∧ front.length = (origin.after before).column ∧
      '\n' ∉ front ∧ ∀ line lines, split '\n' rest = line :: lines →
        (split '\n' (before ++ rest)).drop (origin.after before).row = (front ++ line) :: lines := by
  induction hcount : before.length generalizing before rest with
  | zero =>
    obtain rfl := List.eq_nil_of_length_eq_zero hcount
    exact ⟨[], [], rfl, rfl, List.not_mem_nil, fun line lines h => h⟩
  | succ count ih =>
    obtain ⟨before, c, rfl⟩ : ∃ front last, before = front ++ [last] := by
      rcases List.eq_nil_or_concat before with rfl | ⟨front, last, rfl⟩
      · exact absurd hcount (by simp)
      · exact ⟨front, last, List.concat_eq_append⟩
    rw [List.length_append, List.length_singleton, Nat.add_right_cancel_iff] at hcount
    obtain ⟨passed, front, hbefore, hcolumn, hclean, hlines⟩ := ih before (c :: rest) hcount
    have hplace : origin.after (before ++ [c]) = (origin.after before).step c := by
      rw [after_append]
      rfl
    have hcut : before ++ [c] ++ rest = before ++ c :: rest := by
      rw [List.append_assoc]
      rfl
    rw [hplace, row_step, column_step, hcut]
    by_cases hc : c = '\n'
    · refine ⟨before ++ [c], [], (List.append_nil _).symm, by rw [if_pos hc]; rfl,
        List.not_mem_nil, fun line lines hrest => ?_⟩
      rw [if_pos hc, ← List.tail_drop, hlines [] (split '\n' rest) (by rw [hc, split_cons_sep])]
      exact hrest
    · refine ⟨passed, front ++ [c], ?_, ?_, ?_, fun line lines hrest => ?_⟩
      · rw [hbefore, List.append_assoc]
      · rw [if_neg hc, List.length_append, hcolumn, List.length_singleton]
      · rw [List.mem_append, List.mem_singleton, not_or]
        exact ⟨hclean, fun h => hc h.symm⟩
      · obtain ⟨piece, pieces, hsplit, hnext⟩ := split_cons_of_ne hc rest
        rw [hrest] at hsplit
        obtain ⟨rfl, rfl⟩ := List.cons.inj hsplit
        rw [if_neg hc, hlines _ _ hnext, List.append_assoc]
        rfl

end DocSplice.Place

namespace DocSplice.Docstring

open Text

/-- Without the empty line that a final newline would open, the lines are the same. -/
theorem lineAt_splitLines (text : Text) (row : Nat) :
    lineAt (splitLines text) row = lineAt (split '\n' text) row := by
  rcases split_eq_splitLines_or text with h | h
  · rw [h]
  · rw [h, lineAt, lineAt, List.getElem?_append]
    split
    · rfl
    · rename_i hrow
      rw [List.getElem?_eq_none (by omega)]
      cases row - (splitLines text).length with
      | zero => rfl
      | succ n => rfl

/-- There are as many rows above a place as there are lines, or fewer. -/
theorem row_le_length (before rest : Text) :
    (Place.origin.after before).row ≤ (splitLines (before ++ rest)).length := by
  obtain ⟨-, front, -, -, -, hlines⟩ := Place.drop_split_after before rest
  obtain ⟨line, lines, hrest⟩ := List.exists_cons_of_ne_nil (split_ne_nil '\n' rest)
  have hrow : (Place.origin.after before).row < (split '\n' (before ++ rest)).length := by
    by_contra hout
    have hnil := hlines line lines hrest
    rw [List.drop_eq_nil_of_le (by omega)] at hnil
    exact absurd hnil (by simp)
  rcases split_eq_splitLines_or (before ++ rest) with h | h
  · rw [← h]
    omega
  · rw [h, List.length_append, List.length_singleton] at hrow
    omega

/-- **The line of a place**: above it stand the lines of the rows above, and on it what was passed, as
long as the column says, and what comes next up to the end of the line. -/
theorem lineAt_after (before rest : Text) :
    ∃ front line lines, split '\n' rest = line :: lines ∧ '\n' ∉ front ∧
      front.length = (Place.origin.after before).column ∧
      before = ended ((splitLines (before ++ rest)).take (Place.origin.after before).row) ++ front ∧
      lineAt (splitLines (before ++ rest)) (Place.origin.after before).row = front ++ line := by
  obtain ⟨passed, front, hbefore, hcolumn, hclean, hlines⟩ := Place.drop_split_after before rest
  obtain ⟨line, lines, hrest⟩ := List.exists_cons_of_ne_nil (split_ne_nil '\n' rest)
  have hdrop := hlines line lines hrest
  refine ⟨front, line, lines, hrest, hclean, hcolumn, ?_, ?_⟩
  · have hrow := row_le_length before rest
    have htake : (splitLines (before ++ rest)).take (Place.origin.after before).row =
        (split '\n' (before ++ rest)).take (Place.origin.after before).row := by
      rcases split_eq_splitLines_or (before ++ rest) with h | h
      · rw [h]
      · rw [h, List.take_append_of_le_length hrow]
    -- both sides of the cut, with the newline that closes the text
    have hall : before ++ (rest ++ ['\n']) =
        ended ((split '\n' (before ++ rest)).take (Place.origin.after before).row) ++ front ++
          (rest ++ ['\n']) := by
      have htail : rest ++ ['\n'] = ended (line :: lines) := by
        rw [← hrest, ended_split]
      have hcut : split '\n' (before ++ rest) =
          (split '\n' (before ++ rest)).take (Place.origin.after before).row ++
            (front ++ line) :: lines := by
        rw [← hdrop, List.take_append_drop]
      calc before ++ (rest ++ ['\n'])
          = ended (split '\n' (before ++ rest)) := by rw [ended_split, List.append_assoc]
        _ = ended ((split '\n' (before ++ rest)).take (Place.origin.after before).row) ++
              ended ((front ++ line) :: lines) := by rw [← ended_append, ← hcut]
        _ = _ := by rw [htail, ended_cons, ended_cons, List.append_assoc, List.append_assoc]
    rw [htake]
    exact List.append_cancel_right hall
  · rw [lineAt_splitLines, lineAt, getElem?_of_drop hdrop]
    rfl

/-! ## Offsets of rows -/

variable {lines : List Text} {row : Nat}

theorem drop_row (h : row < lines.length) :
    lines.drop row = lineAt lines row :: lines.drop (row + 1) := by
  rw [List.drop_eq_getElem_cons h, lineAt, List.getElem?_eq_getElem h]
  rfl

/-- The rows up to a further one, with its line at the end. -/
theorem take_row_succ (h : row < lines.length) :
    lines.take (row + 1) = lines.take row ++ [lineAt lines row] := by
  rw [List.take_succ_eq_append_getElem h, lineAt, List.getElem?_eq_getElem h]
  rfl

theorem rowOffset_succ (h : row < lines.length) :
    rowOffset lines (row + 1) = rowOffset lines row + ((lineAt lines row).length + 1) := by
  rw [rowOffset, take_row_succ h, ended_append, List.length_append, ended_singleton,
    List.length_append, List.length_singleton, rowOffset]

theorem rowOffset_mono {next : Nat} (h : row ≤ next) : rowOffset lines row ≤ rowOffset lines next := by
  have hadd : rowOffset lines row + _ = rowOffset lines next := rowOffset_add h
  omega

/-- What stands in a column of a row. -/
theorem getElem?_ended {column : Nat} (h : row < lines.length)
    (hcolumn : column < (lineAt lines row).length) :
    (ended lines)[rowOffset lines row + column]? = (lineAt lines row)[column]? := by
  have hcut : ended lines = ended (lines.take row) ++
      (lineAt lines row ++ ('\n' :: ended (lines.drop (row + 1)))) := by
    rw [← ended_cons, ← drop_row h, ← ended_append, List.take_append_drop]
  rw [hcut, rowOffset, List.getElem?_append_right (Nat.le_add_right _ column),
    Nat.add_sub_cancel_left, List.getElem?_append_left hcolumn]

end DocSplice.Docstring

/-! ## Places that are reached -/

namespace DocSplice.Place

open Text Docstring

/-- The place is one that is reached when the text is read. -/
def Reached (text : Text) (p : Place) : Prop :=
  ∃ before after, text = before ++ after ∧ p = origin.after before

namespace Reached

variable {text : Text} {p q : Place}

theorem column_le (h : Reached text p) : p.column ≤ (lineAt (splitLines text) p.row).length := by
  obtain ⟨before, after, rfl, rfl⟩ := h
  obtain ⟨front, line, lines, -, -, hcolumn, -, hline⟩ := lineAt_after before after
  rw [hline, List.length_append, hcolumn]
  exact Nat.le_add_right _ _

/-- The offset of a place is the offset of its row and its column. -/
theorem offset_eq (h : Reached text p) :
    p.offset = rowOffset (splitLines text) p.row + p.column := by
  obtain ⟨before, after, rfl, rfl⟩ := h
  obtain ⟨front, line, lines, -, -, hcolumn, hbefore, -⟩ := lineAt_after before after
  have hoffset : (origin.after before).offset = before.length := by
    rw [offset_after]
    exact Nat.zero_add _
  have hlength := congrArg List.length hbefore
  rw [List.length_append, hcolumn] at hlength
  rw [hoffset]
  exact hlength

theorem row_le_length (h : Reached text p) : p.row ≤ (splitLines text).length := by
  obtain ⟨before, after, rfl, rfl⟩ := h
  exact Docstring.row_le_length before after

/-- The later one of two places is not on an earlier row. -/
theorem row_le (hp : Reached text p) (hq : Reached text q) (h : p.offset ≤ q.offset) :
    p.row ≤ q.row := by
  by_contra hlater
  have hrow := hp.row_le_length
  have hcolumn := hq.column_le
  have hsucc : rowOffset (splitLines text) (q.row + 1) = _ := rowOffset_succ (by omega)
  have hmono : rowOffset (splitLines text) (q.row + 1) ≤ rowOffset (splitLines text) p.row :=
    rowOffset_mono (by omega)
  rw [hp.offset_eq, hq.offset_eq] at h
  omega

end Reached

/-! ## Places where something stands -/

/-- At the place stands a character that is neither a blank nor a semicolon. -/
def Solid (text : Text) (p : Place) : Prop :=
  ∃ before c after, text = before ++ c :: after ∧ p = origin.after before ∧ isBlank c = false ∧
    c ≠ ';'

namespace Solid

variable {text : Text} {p : Place}

theorem reached (h : Solid text p) : Reached text p := by
  obtain ⟨before, c, after, htext, hp, -⟩ := h
  exact ⟨before, c :: after, htext, hp⟩

/-- The character at a solid place. -/
theorem getElem? (h : Solid text p) :
    ∃ c, (text)[p.offset]? = some c ∧ isBlank c = false ∧ c ≠ ';' := by
  obtain ⟨before, c, after, rfl, rfl, hsolid⟩ := h
  refine ⟨c, ?_, hsolid⟩
  have hoffset : (origin.after before).offset = before.length := by
    rw [offset_after]
    exact Nat.zero_add _
  rw [hoffset, List.getElem?_append_right (Nat.le_refl _), Nat.sub_self]
  rfl

/-- **The line of a solid place**: what stands before the place has as many characters as the column
says, and the character at the place is neither a blank nor a semicolon. -/
theorem line (h : Solid text p) :
    ∃ front c tail, lineAt (splitLines text) p.row = front ++ c :: tail ∧
      front.length = p.column ∧ isBlank c = false ∧ c ≠ ';' := by
  obtain ⟨before, c, rest, rfl, rfl, hblank, hc⟩ := h
  obtain ⟨front, line, lines, hsplit, hclean, hcolumn, -, hline⟩ :=
    lineAt_after before (c :: rest)
  have hnewline : c ≠ '\n' := by
    rintro rfl
    exact absurd hblank (by decide)
  obtain ⟨piece, pieces, -, hpiece⟩ := split_cons_of_ne hnewline rest
  rw [hpiece] at hsplit
  obtain ⟨rfl, -⟩ := List.cons.inj hsplit
  exact ⟨front, c, piece, hline, hcolumn, hblank, hc⟩

/-- A solid place is on a line of the text. -/
theorem row_lt (h : Solid text p) : p.row < (splitLines text).length := by
  obtain ⟨front, c, tail, hline, -⟩ := h.line
  by_contra hout
  rw [lineAt, List.getElem?_eq_none (by omega)] at hline
  exact absurd hline.symm (by simp)

theorem lineAt_mem (h : Solid text p) :
    lineAt (splitLines text) p.row ∈ splitLines text := by
  rw [lineAt, List.getElem?_eq_getElem h.row_lt]
  exact List.getElem_mem h.row_lt

/-- The line of a solid place is not blank. -/
theorem not_allBlank (h : Solid text p) :
    allBlank (lineAt (splitLines text) p.row) = false := by
  obtain ⟨front, c, tail, hline, -, hblank, -⟩ := h.line
  rw [hline, allBlank, List.all_append, List.all_cons, hblank, Bool.false_and, Bool.and_false]

end Solid

end DocSplice.Place
