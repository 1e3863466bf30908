import DocSplice.Text.Lines

/-!
# Edits row by row

A splice speaks of a stretch of lines, and splices are applied one after the other.  What a whole
list of them does is easier to follow row by row: every row of the text keeps its line or loses it,
and new lines stand directly above some rows.  A `RowEdit` says just that, and `RowEdit.apply` reads
the edited lines off it.

An edit is local: two edits that agree on some rows write the same lines for these rows
(`rowsFrom_congr`), and the rows of a text may be cut anywhere (`rowsFrom_append`).  Every later
argument about positions uses these two and never the splices.
-/

namespace DocSplice

/-- What an edit does to every row, counted from zero. -/
@[ext]
structure RowEdit where
  /-- The new lines that go directly above a row. -/
  above : Nat → List Text
  /-- Whether a row loses its line. -/
  drops : Nat → Bool

namespace RowEdit

/-- What becomes of lines, the first of which has number `row`. -/
def rowsFrom (e : RowEdit) (row : Nat) : List Text → List Text
  | [] => []
  | line :: rest =>
    e.above row ++ ((if e.drops row then [] else [line]) ++ e.rowsFrom (row + 1) rest)

/-- The lines after the edit; new lines above the row below the last one come last. -/
def apply (e : RowEdit) (lines : List Text) : List Text :=
  e.rowsFrom 0 lines ++ e.above lines.length

variable {e e' : RowEdit}

@[simp] theorem rowsFrom_nil (e : RowEdit) (row : Nat) : e.rowsFrom row [] = [] := rfl

theorem rowsFrom_cons (e : RowEdit) (row : Nat) (line : Text) (rest : List Text) :
    e.rowsFrom row (line :: rest) =
      e.above row ++ ((if e.drops row then [] else [line]) ++ e.rowsFrom (row + 1) rest) := rfl

/-- The rows of a text may be cut anywhere. -/
theorem rowsFrom_append (e : RowEdit) (row : Nat) (a b : List Text) :
    e.rowsFrom row (a ++ b) = e.rowsFrom row a ++ e.rowsFrom (row + a.length) b := by
  induction a generalizing row with
  | nil => rfl
  | cons line a ih =>
    rw [List.cons_append, rowsFrom_cons, rowsFrom_cons, ih, List.length_cons,
      show row + 1 + a.length = row + (a.length + 1) by omega]
    simp only [List.append_assoc]

/-- Edits that agree on the rows write the same lines for them. -/
theorem rowsFrom_congr {row : Nat} {lines : List Text}
    (h : ∀ i, row ≤ i → i < row + lines.length → e.above i = e'.above i ∧ e.drops i = e'.drops i) :
    e.rowsFrom row lines = e'.rowsFrom row lines := by
  induction lines generalizing row with
  | nil => rfl
  | cons line rest ih =>
    have hrow := h row (Nat.le_refl row) (by rw [List.length_cons]; omega)
    have hrest : e.rowsFrom (row + 1) rest = e'.rowsFrom (row + 1) rest := by
      refine ih fun i hi hlt => h i (by omega) ?_
      rw [List.length_cons]
      omega
    rw [rowsFrom_cons, rowsFrom_cons, hrow.1, hrow.2, hrest]

/-- Rows that the edit does not touch stay. -/
theorem rowsFrom_eq_self {row : Nat} {lines : List Text}
    (h : ∀ i, row ≤ i → i < row + lines.length → e.above i = [] ∧ e.drops i = false) :
    e.rowsFrom row lines = lines := by
  induction lines generalizing row with
  | nil => rfl
  | cons line rest ih =>
    have hrow := h row (Nat.le_refl row) (by rw [List.length_cons]; omega)
    have hrest : e.rowsFrom (row + 1) rest = rest := by
      refine ih fun i hi hlt => h i (by omega) ?_
      rw [List.length_cons]
      omega
    rw [rowsFrom_cons, hrow.1, hrow.2, hrest]
    rfl

/-- Edits that agree on all rows, and on the row below the last one, write the same lines. -/
theorem apply_congr {lines : List Text}
    (h : ∀ i, i ≤ lines.length → e.above i = e'.above i ∧ e.drops i = e'.drops i) :
    e.apply lines = e'.apply lines := by
  have hrows : e.rowsFrom 0 lines = e'.rowsFrom 0 lines :=
    rowsFrom_congr fun i _ hi => h i (by omega)
  rw [apply, apply, hrows, (h lines.length (Nat.le_refl _)).1]

/-- Lines in three pieces are edited piece by piece. -/
theorem apply_append_append (e : RowEdit) (a b c : List Text) :
    e.apply (a ++ (b ++ c)) =
      e.rowsFrom 0 a ++ (e.rowsFrom a.length b ++ (e.rowsFrom (a.length + b.length) c ++
        e.above (a.length + b.length + c.length))) := by
  have hend : (a ++ (b ++ c)).length = a.length + b.length + c.length := by
    rw [List.length_append, List.length_append, Nat.add_assoc]
  rw [apply, hend, rowsFrom_append, rowsFrom_append, Nat.zero_add]
  simp only [List.append_assoc]

/-- The lines above the last one, what is new above the last one, the last one if it stays, and what
comes below. -/
theorem apply_concat (e : RowEdit) (front : List Text) (last : Text) :
    e.apply (front ++ [last]) = e.rowsFrom 0 front ++ (e.above front.length ++
      ((if e.drops front.length then [] else [last]) ++ e.above (front.length + 1))) := by
  rw [apply, rowsFrom_append, rowsFrom_cons, rowsFrom_nil, List.length_append,
    List.length_singleton, Nat.zero_add, List.append_nil]
  simp only [List.append_assoc]

theorem apply_take (e : RowEdit) {lines : List Text} {row : Nat} (h : row ≤ lines.length) :
    e.apply (lines.take row) = e.rowsFrom 0 (lines.take row) ++ e.above row := by
  rw [apply, List.length_take_of_le h]

/-- A row comes below what is new above it, if it stays. -/
theorem rowsFrom_take_succ (e : RowEdit) {lines : List Text} {row : Nat} {line : Text}
    (h : lines[row]? = some line) :
    e.rowsFrom 0 (lines.take (row + 1)) =
      e.apply (lines.take row) ++ (if e.drops row then [] else [line]) := by
  have hrow : row ≤ lines.length := Nat.le_of_lt (List.getElem?_eq_some_iff.mp h).1
  rw [List.take_add_one, h, Option.toList_some, rowsFrom_append, List.length_take_of_le hrow,
    Nat.zero_add, rowsFrom_cons, rowsFrom_nil, List.append_nil, e.apply_take hrow,
    List.append_assoc]

/-- An edit that touches no row changes nothing. -/
theorem apply_eq_self {lines : List Text} (h : ∀ i, e.above i = [] ∧ e.drops i = false) :
    e.apply lines = lines := by
  rw [apply, rowsFrom_eq_self fun i _ _ => h i, (h lines.length).1, List.append_nil]

/-- Rows that the edit drops, with nothing new among them, are gone. -/
theorem rowsFrom_eq_nil {row : Nat} {lines : List Text}
    (h : ∀ i, row ≤ i → i < row + lines.length → e.above i = [] ∧ e.drops i = true) :
    e.rowsFrom row lines = [] := by
  induction lines generalizing row with
  | nil => rfl
  | cons line rest ih =>
    have hrow := h row (Nat.le_refl row) (by rw [List.length_cons]; omega)
    have hrest : e.rowsFrom (row + 1) rest = [] := by
      refine ih fun i hi hlt => h i (by omega) ?_
      rw [List.length_cons]
      omega
    rw [rowsFrom_cons, hrow.1, hrow.2, hrest]
    rfl

/-- A line after the edit is new above one of the rows or was there before. -/
theorem mem_rowsFrom {row : Nat} {lines : List Text} {line : Text}
    (h : line ∈ e.rowsFrom row lines) :
    (∃ i, row ≤ i ∧ i < row + lines.length ∧ line ∈ e.above i) ∨ line ∈ lines := by
  induction lines generalizing row with
  | nil => simp at h
  | cons first rest ih =>
    rw [rowsFrom_cons, List.mem_append, List.mem_append] at h
    rw [List.length_cons]
    rcases h with h | h | h
    · exact Or.inl ⟨row, Nat.le_refl row, by omega, h⟩
    · split at h
      · simp at h
      · rw [List.mem_singleton] at h
        exact Or.inr (h ▸ List.mem_cons_self)
    · rcases ih h with ⟨i, hi, hlt, hnew⟩ | hold
      · exact Or.inl ⟨i, by omega, by omega, hnew⟩
      · exact Or.inr (List.mem_cons_of_mem first hold)

/-- A property that no dropped and no new line has picks the same lines before and after. -/
theorem filter_rowsFrom {p : Text → Bool} {row : Nat} {lines : List Text}
    (hnew : ∀ i, ∀ line ∈ e.above i, p line = false)
    (hdrop : ∀ i line, lines[i]? = some line → e.drops (row + i) = true → p line = false) :
    (e.rowsFrom row lines).filter p = lines.filter p := by
  induction lines generalizing row with
  | nil => rfl
  | cons line rest ih =>
    have hrest : (e.rowsFrom (row + 1) rest).filter p = rest.filter p := by
      refine ih fun i l hi hd => hdrop (i + 1) l (by simpa using hi) ?_
      rwa [show row + (i + 1) = row + 1 + i by omega]
    have habove : (e.above row).filter p = [] := by
      refine List.filter_eq_nil_iff.mpr fun l hl => ?_
      rw [hnew row l hl]
      exact Bool.false_ne_true
    rw [rowsFrom_cons, List.filter_append, List.filter_append, hrest, habove, List.nil_append]
    cases hd : e.drops row with
    | true => simp [hdrop 0 line rfl hd]
    | false =>
      rw [if_neg Bool.false_ne_true, ← List.filter_append]
      rfl

/-- The edit that leaves the rows that a predicate picks and adds nothing. -/
def leave (p : Nat → Bool) : RowEdit where
  above _ := []
  drops row := !p row

@[simp] theorem above_leave (p : Nat → Bool) (row : Nat) : (leave p).above row = [] := rfl

@[simp] theorem drops_leave (p : Nat → Bool) (row : Nat) : (leave p).drops row = !p row := rfl

/-- Rows that an edit does not drop are found again after it, in their order. -/
theorem leave_sublist {p : Nat → Bool} {row : Nat} {lines : List Text}
    (h : ∀ i, row ≤ i → i < row + lines.length → p i = true → e.drops i = false) :
    ((leave p).rowsFrom row lines).Sublist (e.rowsFrom row lines) := by
  induction lines generalizing row with
  | nil => exact List.Sublist.refl _
  | cons line rest ih =>
    have hrest : ((leave p).rowsFrom (row + 1) rest).Sublist (e.rowsFrom (row + 1) rest) := by
      refine ih fun i hi hlt => h i (by omega) ?_
      rw [List.length_cons]
      omega
    have hline : (if (leave p).drops row then [] else [line]).Sublist
        (if e.drops row then [] else [line]) := by
      by_cases hp : p row = true
      · have hkept : e.drops row = false :=
          h row (Nat.le_refl row) (by rw [List.length_cons]; omega) hp
        simp [hp, hkept]
      · simp [hp]
    rw [rowsFrom_cons, rowsFrom_cons]
    exact (hline.append hrest).trans (List.sublist_append_right _ _)

/-- Where nothing is left, the predicate picks no row. -/
theorem eq_false_of_leave_eq_nil {p : Nat → Bool} {row : Nat} {lines : List Text}
    (h : (leave p).rowsFrom row lines = []) {i : Nat} (hi : row ≤ i)
    (hlt : i < row + lines.length) : p i = false := by
  induction lines generalizing row with
  | nil =>
    rw [List.length_nil] at hlt
    omega
  | cons line rest ih =>
    rw [rowsFrom_cons, List.append_eq_nil_iff, List.append_eq_nil_iff] at h
    by_cases hrow : i = row
    · refine Bool.eq_false_iff.mpr fun hp => ?_
      rw [← hrow, drops_leave, hp] at h
      exact absurd h.2.1 (List.cons_ne_nil line [])
    · rw [List.length_cons] at hlt
      exact ih h.2.2 (by omega) (by omega)

/-- The last line stays when its row is kept and nothing comes below it. -/
theorem getLast?_apply {lines : List Text} (hne : lines ≠ [])
    (hdrop : e.drops (lines.length - 1) = false) (hend : e.above lines.length = []) :
    (e.apply lines).getLast? = lines.getLast? := by
  obtain ⟨first, last, rfl⟩ : ∃ first last, lines = first ++ [last] :=
    ⟨lines.dropLast, lines.getLast hne, (List.dropLast_concat_getLast hne).symm⟩
  have hlast : e.drops (0 + first.length) = false := by
    rw [List.length_append] at hdrop
    simpa using hdrop
  rw [apply, hend, List.append_nil, rowsFrom_append, rowsFrom_cons, hlast]
  simp

end RowEdit

end DocSplice
