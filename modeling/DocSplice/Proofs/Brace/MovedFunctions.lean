import DocSplice.Proofs.Brace.Extraction
import DocSplice.Proofs.RowEdit

/-!
# Functions after an edit

An edit of documentation drops marked lines and adds marked lines, and the functions that are found
after it are the ones that were found before, each on the row it has moved to (`found_apply`).

The extraction before the edit and the one after it are read hand in hand, over the lines that stay.
What comes between two of these is marked lines on either side.  Marked lines bring no function and
do not decide whether a function has a body, but they can end one: a bare expression that asks for
more goes on to the next line, and when that is a marked line it ends there.  So it matters that an
edit leaves something of a run that it drops, and that it adds lines only above a function that is
found, since no body is open there.  `RewritesBlocks` says just that.
-/

namespace DocSplice.Brace

/-! ## Extraction through an edit -/

/-- The edit rewrites documentation: it drops marked lines and adds marked lines, it adds lines
above functions that are found and nowhere else, and where it drops a run it leaves something. -/
structure RewritesBlocks (e : RowEdit) (lines : List Text) : Prop where
  new_marked : ∀ row, ∀ line ∈ e.above row, isMarked line = true
  old_marked : ∀ row line, lines[row]? = some line → e.drops row = true → isMarked line = true
  replaced : ∀ row, e.drops row = true → e.drops (row + 1) = true ∨ e.above (row + 1) ≠ []
  above_found : ∀ row, e.above row ≠ [] → ∃ name, (row, name) ∈ found lines

/-- A function after the edit. -/
def movedBy (e : RowEdit) (lines : List Text) (f : Nat × Text) : Nat × Text :=
  ((e.apply (lines.take f.1)).length, f.2)

namespace RewritesBlocks

variable {e : RowEdit} {lines rest : List Text} {row : Nat}

/-- Lines that are not marked are the same before and after the edit. -/
theorem filter_rowsFrom (h : RewritesBlocks e lines) (hdrop : lines.drop row = rest) :
    (e.rowsFrom row rest).filter (!isMarked ·) = rest.filter (!isMarked ·) := by
  refine RowEdit.filter_rowsFrom (fun i line hline => ?_) fun i line hline hgone => ?_
  · simp [h.new_marked i line hline]
  · have hat : lines[row + i]? = some line := by
      rw [← List.getElem?_drop, hdrop]
      exact hline
    simp [h.old_marked (row + i) line hat hgone]

/-- A function has a body after the edit when it has one before. -/
theorem afterDeclaration_eq (h : RewritesBlocks e lines) (hdrop : lines.drop row = rest)
    {line : Text} (hline : isMarked line = false) :
    Position.afterDeclaration line (e.rowsFrom row rest) = .afterDeclaration line rest := by
  have hbodiless : Bodiless (line :: e.rowsFrom row rest) ↔ Bodiless (line :: rest) := by
    rw [bodiless_iff, bodiless_iff (line :: rest), List.filter_cons_of_pos (by simp [hline]),
      List.filter_cons_of_pos (by simp [hline]), h.filter_rowsFrom hdrop]
  rw [Position.afterDeclaration, Position.afterDeclaration]
  simp only [hbodiless]

/-- Functions above which new lines come are found among the rows from `row` on. -/
def AboveFound (e : RowEdit) (p : Position) (row : Nat) (rest : List Text) : Prop :=
  ∀ i, row ≤ i → e.above i ≠ [] → ∃ name, (i, name) ∈ foundFrom p row rest

/-- The functions above which new lines come are found below the first line, or on it. -/
theorem AboveFound.cons {p : Position} {line : Text} (h : AboveFound e p row (line :: rest)) :
    AboveFound e (if (p.declares? line).isSome then .afterDeclaration line rest else p.after line)
      (row + 1) rest := by
  intro i hi habove
  obtain ⟨name, hname⟩ := h i (Nat.le_of_succ_le hi) habove
  refine ⟨name, ?_⟩
  cases hdecl : p.declares? line with
  | none =>
    rw [foundFrom_cons_none hdecl] at hname
    exact hname
  | some found =>
    rw [foundFrom_cons_some hdecl, List.mem_cons] at hname
    rcases hname with hfirst | hname
    · have hrow : i = row := (Prod.mk.inj hfirst).1
      omega
    · exact hname

/-- A line that stays, read before and after the edit in the same position. -/
theorem foundFrom_kept (h : RewritesBlocks e lines) {p : Position} {line : Text}
    (hdrop : lines.drop row = line :: rest) (habove : AboveFound e p row (line :: rest))
    (ih : ∀ next, AboveFound e next (row + 1) rest →
      foundFrom next ((e.apply (lines.take row)).length + 1) (e.rowsFrom (row + 1) rest) =
        (foundFrom next (row + 1) rest).map (movedBy e lines)) :
    foundFrom p (e.apply (lines.take row)).length (line :: e.rowsFrom (row + 1) rest) =
      (foundFrom p row (line :: rest)).map (movedBy e lines) := by
  have hnext : lines.drop (row + 1) = rest := drop_succ_of_drop hdrop
  have hrest := ih _ habove.cons
  cases hdecl : p.declares? line with
  | none =>
    rw [hdecl] at hrest
    rw [foundFrom_cons_none hdecl, foundFrom_cons_none hdecl]
    exact hrest
  | some name =>
    rw [hdecl] at hrest
    have hcode : isMarked line = false := by
      refine Bool.eq_false_iff.mpr fun hm => ?_
      rw [Position.declares?_marked hm] at hdecl
      exact absurd hdecl (by simp)
    rw [foundFrom_cons_some hdecl, foundFrom_cons_some hdecl, List.map_cons,
      h.afterDeclaration_eq hnext hcode]
    exact congrArg _ hrest

/-- **Extraction before and after an edit goes hand in hand.**  Both read the lines that stay, and
there they stand in the same position.  Between a run that is dropped and the lines that replace it
they do not: the extraction before the edit has read marked lines by then and the other one has not
yet.  The new lines make up for it, as one marked line does what a whole run of them does. -/
theorem foundFrom_rowsFrom (h : RewritesBlocks e lines) {p q : Position}
    (hdrop : lines.drop row = rest)
    (hpq : q = p ∨ (p = q.pastMarked ∧ (e.drops row = true ∨ e.above row ≠ [])))
    (habove : AboveFound e p row rest) :
    foundFrom q (e.rowsFrom 0 (lines.take row)).length (e.rowsFrom row rest) =
      (foundFrom p row rest).map (movedBy e lines) := by
  induction rest generalizing row p q with
  | nil => simp [foundFrom]
  | cons line rest ih =>
    have hline : lines[row]? = some line := getElem?_of_drop hdrop
    have hnext : lines.drop (row + 1) = rest := drop_succ_of_drop hdrop
    have hrow : row ≤ lines.length := Nat.le_of_lt (List.getElem?_eq_some_iff.mp hline).1
    have happly : e.apply (lines.take row) = e.rowsFrom 0 (lines.take row) ++ e.above row :=
      e.apply_take hrow
    have hstep : e.rowsFrom 0 (lines.take (row + 1)) =
        e.apply (lines.take row) ++ (if e.drops row then [] else [line]) :=
      e.rowsFrom_take_succ hline
    have hkept (hstays : e.drops row = false) :
        foundFrom p (e.apply (lines.take row)).length (line :: e.rowsFrom (row + 1) rest) =
          (foundFrom p row (line :: rest)).map (movedBy e lines) := by
      refine h.foundFrom_kept hdrop habove fun next hfound => ?_
      have hrest := ih (q := next) hnext (Or.inl rfl) hfound
      rw [hstep, hstays, List.length_append] at hrest
      exact hrest
    by_cases hnew : e.above row = []
    · by_cases hgone : e.drops row = true
      · -- the line goes, and something is left below it
        have hm : isMarked line = true := h.old_marked row line hline hgone
        have hpast : p.pastMarked = q.pastMarked := by
          rcases hpq with rfl | ⟨rfl, -⟩
          · rfl
          · exact Position.pastMarked_pastMarked q
        have hdecl : p.declares? line = none := Position.declares?_marked hm p
        have hfound : AboveFound e p.pastMarked (row + 1) rest := by
          have hcons := habove.cons
          rw [hdecl, Position.after_marked hm] at hcons
          exact hcons
        have hrest := ih hnext (Or.inr ⟨hpast, h.replaced row hgone⟩) hfound
        rw [hstep, happly, hnew, hgone, if_pos rfl, List.append_nil, List.append_nil] at hrest
        rw [RowEdit.rowsFrom_cons, hnew, hgone, foundFrom_marked hm]
        exact hrest
      · -- nothing happens here, and nothing is on its way
        have hstays : e.drops row = false := Bool.eq_false_iff.mpr hgone
        have hsame : q = p := hpq.resolve_right fun hpast => hpast.2.elim hgone fun hne => hne hnew
        rw [RowEdit.rowsFrom_cons, hnew, hstays, hsame]
        rw [happly, hnew, List.append_nil] at hkept
        exact hkept hstays
    · -- new lines come above a function
      obtain ⟨name, hname⟩ := habove row (Nat.le_refl row) hnew
      have hdecl : p.declares? line = some name := declares?_of_mem_foundFrom hname rfl
      have hstays : e.drops row = false := by
        refine Bool.eq_false_iff.mpr fun hgone => ?_
        rw [Position.declares?_marked (h.old_marked row line hline hgone)] at hdecl
        exact absurd hdecl (by simp)
      have hpast : q.pastMarked = p := by
        have houter : p = .outer 0 := (Position.declares?_eq_some_iff.mp hdecl).1
        rcases hpq with rfl | ⟨hp, -⟩
        · rw [houter]
          rfl
        · exact hp.symm
      rw [RowEdit.rowsFrom_cons, foundFrom_append_marked (h.new_marked row) hnew, hpast, hstays,
        ← List.length_append, ← happly]
      exact hkept hstays

/-- **The functions after an edit are the functions before it**, each on the row it has moved to. -/
theorem found_apply (h : RewritesBlocks e lines) (hend : e.above lines.length = []) :
    found (e.apply lines) = (found lines).map (movedBy e lines) := by
  have hfound : AboveFound e (.outer 0) 0 lines := fun i _ habove => h.above_found i habove
  have hall := h.foundFrom_rowsFrom (q := .outer 0) (show lines.drop 0 = lines from rfl)
    (Or.inl rfl) hfound
  rw [RowEdit.apply, hend, List.append_nil]
  exact hall

end RewritesBlocks

end DocSplice.Brace
