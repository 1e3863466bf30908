import DocSplice.Proofs.Splicing

/-!
# Splices all at once

`LineBuffer.apply` sorts splices, walks over them with a floor, and then changes the lines one
splice after the other, from the bottom of the text upwards.  What this amounts to can be said
without an order of application, and without a loop.

* `Splice.atOnce`: every splice is read against the lines as they are.  Above a row stand first the
  insertions at that row, the one that was given last in front, and then the lines of the
  replacement that starts there; a row that a replacement covers loses its line.
* `Splice.apply_atOnce`: splices that lie inside the text and are apart amount to this edit.  The
  sort is stable, which settles the order of several insertions at one row, and it puts a longer
  splice before a shorter one, so that an insertion ends up above the replacement that starts on its
  row.
* `LineBuffer.applyInPlace`: the same work on a buffer that is held in a state and changed splice by
  splice.  `applyInPlace_eq` says that a rejection comes before the first change, and
  `within_of_descending` that no step of the loop reaches past the lines that are there.
* `LineBuffer.applies_at_once`: all of this together.
-/

namespace DocSplice

namespace Splice

/-- The splice covers no row and adds its lines above the given one. -/
def insertsAt (row : Nat) (s : Splice) : Bool := s.start == row && s.stop == row

/-- The splice covers rows, the first of which is the given one. -/
def replacesFrom (row : Nat) (s : Splice) : Bool := s.start == row && decide (row < s.stop)

/-- All splices at once, each read against the lines as they are. -/
def atOnce (splices : List Splice) : RowEdit where
  above row :=
    (splices.filter (insertsAt row)).reverse.flatMap (·.lines) ++
      (splices.filter (replacesFrom row)).flatMap (·.lines)
  drops row := splices.any fun s => s.start ≤ row && row < s.stop

theorem insertsAt_iff {row : Nat} {s : Splice} :
    insertsAt row s = true ↔ s.start = row ∧ s.stop = row := by
  simp [insertsAt]

theorem replacesFrom_iff {row : Nat} {s : Splice} :
    replacesFrom row s = true ↔ s.start = row ∧ row < s.stop := by
  simp [replacesFrom]

/-! ## The sort keeps the order of insertions at one row -/

theorem filter_insertDescending (row : Nat) (s : Splice) (l : List Splice) :
    (insertDescending s l).filter (insertsAt row) = (s :: l).filter (insertsAt row) := by
  induction l with
  | nil => rfl
  | cons t rest ih =>
    unfold insertDescending
    by_cases hfirst : goesFirst s t = true
    · rw [if_pos hfirst]
    · rw [if_neg hfirst, List.filter_cons, ih]
      simp only [List.filter_cons]
      -- two insertions at one row go first of each other, so not both are at `row`
      have hnot : insertsAt row s = true → insertsAt row t = true → False := by
        intro hs ht
        rw [insertsAt_iff] at hs ht
        exact hfirst (goesFirst_iff.mpr (by omega))
      by_cases hs : insertsAt row s = true
      · by_cases ht : insertsAt row t = true
        · exact absurd ht (hnot hs)
        · simp [hs, ht]
      · simp [hs]

/-- **The sort is stable** as far as insertions at one row go. -/
theorem filter_sortDescending (row : Nat) (l : List Splice) :
    (sortDescending l).filter (insertsAt row) = l.filter (insertsAt row) := by
  induction l with
  | nil => rfl
  | cons s rest ih =>
    rw [sortDescending_cons, filter_insertDescending, List.filter_cons, List.filter_cons, ih]

/-- Of splices that are apart at most one replaces from a row on. -/
theorem filter_replacesFrom_or {splices : List Splice} (hapart : splices.Pairwise Apart)
    (row : Nat) :
    splices.filter (replacesFrom row) = [] ∨
      ∃ s, splices.filter (replacesFrom row) = [s] := by
  have hpair := hapart.filter (replacesFrom row)
  match hfound : splices.filter (replacesFrom row) with
  | [] => exact Or.inl rfl
  | [s] => exact Or.inr ⟨s, rfl⟩
  | s :: t :: rest =>
    have hall : ∀ u ∈ s :: t :: rest, u.start = row ∧ row < u.stop := by
      intro u hu
      rw [← hfound] at hu
      exact replacesFrom_iff.mp (List.mem_filter.mp hu).2
    rw [hfound] at hpair
    have hst : Apart s t := (List.pairwise_cons.mp hpair).1 t List.mem_cons_self
    have hs := hall s List.mem_cons_self
    have ht := hall t (List.mem_cons_of_mem s List.mem_cons_self)
    rcases hst with h | h
    · omega
    · omega

/-- Sorted splices that start on a row: longer ones come before insertions. -/
theorem filter_start_of_sorted {l : List Splice} (row : Nat) (hle : ∀ s ∈ l, s.start ≤ s.stop)
    (hsorted : l.Pairwise fun a b => goesFirst a b = true) :
    l.filter (·.start == row) = l.filter (replacesFrom row) ++ l.filter (insertsAt row) := by
  induction l with
  | nil => rfl
  | cons s rest ih =>
    obtain ⟨hfirst, hrest⟩ := List.pairwise_cons.mp hsorted
    have ih := ih (fun t ht => hle t (List.mem_cons_of_mem s ht)) hrest
    by_cases hrow : s.start = row
    · by_cases hlong : row < s.stop
      · have hr : replacesFrom row s = true := replacesFrom_iff.mpr ⟨hrow, hlong⟩
        have hi : insertsAt row s = false := by
          simp [insertsAt]
          omega
        simp [hrow, hr, hi, ih]
      · have hstop : s.stop = row := by
          have := hle s List.mem_cons_self
          omega
        have hr : replacesFrom row s = false := by simp [replacesFrom, hlong]
        have hi : insertsAt row s = true := insertsAt_iff.mpr ⟨hrow, hstop⟩
        -- a longer splice would have come before
        have hnone : rest.filter (replacesFrom row) = [] := by
          refine List.filter_eq_nil_iff.mpr fun t ht hrt => ?_
          have hst := goesFirst_iff.mp (hfirst t ht)
          have hrt := replacesFrom_iff.mp hrt
          omega
        simp [hrow, hr, hi, ih, hnone]
    · have hr : replacesFrom row s = false := by simp [replacesFrom, hrow]
      have hi : insertsAt row s = false := by simp [insertsAt, hrow]
      simp [hrow, hr, hi, ih]

/-- The sorted splices that start on a row: the replacement, then the insertions as they were
given. -/
theorem filter_start_sortDescending {splices : List Splice} (hapart : splices.Pairwise Apart)
    (hle : ∀ s ∈ splices, s.start ≤ s.stop) (row : Nat) :
    (sortDescending splices).filter (·.start == row) =
      splices.filter (replacesFrom row) ++ splices.filter (insertsAt row) := by
  have hmem : ∀ s ∈ sortDescending splices, s.start ≤ s.stop :=
    fun s hs => hle s ((sortDescending_perm splices).mem_iff.mp hs)
  have hperm : ((sortDescending splices).filter (replacesFrom row)).Perm
      (splices.filter (replacesFrom row)) := (sortDescending_perm splices).filter _
  have hsame : (sortDescending splices).filter (replacesFrom row) =
      splices.filter (replacesFrom row) := by
    rcases filter_replacesFrom_or hapart row with hnil | ⟨s, hs⟩
    · rw [hnil] at hperm ⊢
      exact hperm.eq_nil
    · rw [hs] at hperm ⊢
      exact List.perm_singleton.mp hperm
  rw [filter_start_of_sorted row hmem (sortDescending_pairwise splices), hsame,
    filter_sortDescending]

/-! ## From rows where splices stop to rows where they start -/

/-- Every splice drops the rows it covers and puts its lines above the row it starts on. -/
def startEdit (splices : List Splice) : RowEdit where
  above row := (splices.filter (·.start == row)).flatMap (·.lines)
  drops row := splices.any fun s => s.start ≤ row && row < s.stop

theorem above_startEdit_cons (s : Splice) (rest : List Splice) (row : Nat) :
    (startEdit (s :: rest)).above row =
      (if s.start = row then s.lines else []) ++ (startEdit rest).above row := by
  by_cases h : s.start = row
  · simp [startEdit, h]
  · simp [startEdit, h]

theorem drops_startEdit_cons (s : Splice) (rest : List Splice) (row : Nat) :
    (startEdit (s :: rest)).drops row =
      ((decide (s.start ≤ row) && decide (row < s.stop)) || (startEdit rest).drops row) := by
  simp only [startEdit, List.any_cons]

/-- Splices in ascending order leave the rows above the first of them alone. -/
theorem startEdit_eq_of_lt {splices : List Splice} {row i : Nat}
    (h : ∀ s ∈ splices, row ≤ s.start) (hi : i < row) :
    (startEdit splices).above i = [] ∧ (startEdit splices).drops i = false := by
  constructor
  · refine List.flatMap_eq_nil_iff.mpr fun s hs => ?_
    have hstart := (List.mem_filter.mp hs).2
    have := h s (List.mem_filter.mp hs).1
    rw [beq_iff_eq] at hstart
    omega
  · refine Bool.eq_false_iff.mpr fun hd => ?_
    simp only [startEdit, List.any_eq_true, Bool.and_eq_true, decide_eq_true_eq] at hd
    obtain ⟨s, hs, hstart, -⟩ := hd
    have := h s hs
    omega

/-- Under the row it starts on a splice leaves everything to the others, whether it covers rows or
not. -/
theorem startEdit_cons_rows {s : Splice} {rest : List Splice} {b c : List Text}
    (hlength : s.start + b.length = s.stop) (hrest : ∀ t ∈ rest, s.stop ≤ t.start) :
    (startEdit (s :: rest)).rowsFrom s.start (b ++ c) ++
        (startEdit (s :: rest)).above (s.stop + c.length) =
      s.lines ++ ((startEdit rest).rowsFrom s.stop c ++
        (startEdit rest).above (s.stop + c.length)) := by
  have hbelow : ∀ i, s.start < i →
      (startEdit (s :: rest)).above i = (startEdit rest).above i := by
    intro i hi
    rw [above_startEdit_cons, if_neg (by omega), List.nil_append]
  have hdrops : ∀ i, s.stop ≤ i →
      (startEdit (s :: rest)).drops i = (startEdit rest).drops i := by
    intro i hi
    rw [drops_startEdit_cons, decide_eq_false (show ¬ i < s.stop by omega), Bool.and_false,
      Bool.false_or]
  have hat : (startEdit (s :: rest)).above s.start = s.lines ++ (startEdit rest).above s.start := by
    rw [above_startEdit_cons, if_pos rfl]
  cases b with
  | nil =>
    have hstop : s.start = s.stop := by simpa using hlength
    cases c with
    | nil => simp [hat, ← hstop]
    | cons line c =>
      have hmore : (startEdit (s :: rest)).rowsFrom (s.start + 1) c =
          (startEdit rest).rowsFrom (s.start + 1) c := by
        refine RowEdit.rowsFrom_congr fun i hi _ => ⟨hbelow i (by omega), hdrops i (by omega)⟩
      rw [List.nil_append, RowEdit.rowsFrom_cons, hat, hdrops s.start (by omega), hmore,
        hbelow _ (by rw [List.length_cons]; omega), ← hstop, RowEdit.rowsFrom_cons]
      simp only [List.append_assoc]
  | cons line b =>
    rw [List.length_cons] at hlength
    have hnone : (startEdit rest).above s.start = [] :=
      (startEdit_eq_of_lt hrest (show s.start < s.stop by omega)).1
    have hgone : (startEdit (s :: rest)).rowsFrom (s.start + 1) b = [] := by
      refine RowEdit.rowsFrom_eq_nil fun i hi hlt => ⟨?_, ?_⟩
      · rw [hbelow i (by omega)]
        exact (startEdit_eq_of_lt hrest (by omega)).1
      · rw [drops_startEdit_cons, decide_eq_true (show s.start ≤ i by omega),
          decide_eq_true (show i < s.stop by omega)]
        rfl
    have hdrop : (startEdit (s :: rest)).drops s.start = true := by
      rw [drops_startEdit_cons, decide_eq_true (Nat.le_refl s.start),
        decide_eq_true (show s.start < s.stop by omega)]
      rfl
    have hmore : (startEdit (s :: rest)).rowsFrom s.stop c = (startEdit rest).rowsFrom s.stop c :=
      RowEdit.rowsFrom_congr fun i hi _ => ⟨hbelow i (by omega), hdrops i (by omega)⟩
    have hrow : s.start + 1 + b.length = s.stop := by omega
    rw [List.cons_append, RowEdit.rowsFrom_cons, hat, hnone, hdrop, RowEdit.rowsFrom_append, hgone,
      hrow, hmore, hbelow _ (by omega)]
    simp

/-- For splices in ascending order it makes no difference whether the lines of each are put where it
starts or where it stops. -/
theorem startEdit_apply {lines : List Text} {splices : List Splice}
    (hin : ∀ s ∈ splices, s.Within lines.length)
    (hsorted : splices.Pairwise fun a b => a.stop ≤ b.start) :
    (startEdit splices).apply lines = (edit splices).apply lines := by
  induction splices with
  | nil => rfl
  | cons s rest ih =>
    obtain ⟨hle, hcount⟩ := hin s List.mem_cons_self
    obtain ⟨hfirst, hrest⟩ := List.pairwise_cons.mp hsorted
    have hmore : ∀ t ∈ rest, t.Within lines.length := fun t ht => hin t (List.mem_cons_of_mem s ht)
    have ih := ih hmore hrest
    obtain ⟨a, b, c, rfl, ha, hb⟩ := exists_cut hle hcount
    have hstop : ∀ i, i < s.stop → (edit rest).above i = [] ∧ (edit rest).drops i = false := by
      intro i hi
      exact edit_eq_of_lt (fun t ht => ⟨hfirst t ht, (hmore t ht).1⟩) hi
    have hstart : ∀ i, i < s.stop →
        (startEdit rest).above i = [] ∧ (startEdit rest).drops i = false :=
      fun i hi => startEdit_eq_of_lt hfirst hi
    have hquiet : ∀ i, a.length ≤ i → i < a.length + b.length →
        (edit rest).above i = [] ∧ (edit rest).drops i = false :=
      fun i _ hi => hstop i (by omega)
    -- what the others do under the first splice is the same for both edits
    have hunder : (startEdit rest).rowsFrom s.stop c ++ (startEdit rest).above (s.stop + c.length) =
        (edit rest).rowsFrom s.stop c ++ (edit rest).above (s.stop + c.length) := by
      rw [RowEdit.apply_append_append, RowEdit.apply_append_append,
        RowEdit.rowsFrom_eq_self fun i _ hi => hstart i (by omega),
        RowEdit.rowsFrom_eq_self fun i _ hi => hstart i (by omega),
        RowEdit.rowsFrom_eq_self fun i _ hi => hstop i (by omega),
        RowEdit.rowsFrom_eq_self hquiet, hb] at ih
      exact List.append_cancel_left (List.append_cancel_left ih)
    have hlow : ∀ t ∈ s :: rest, s.start ≤ t.start := by
      intro t ht
      rcases List.mem_cons.mp ht with rfl | ht
      · exact Nat.le_refl _
      · exact Nat.le_trans hle (hfirst t ht)
    have habove : (startEdit (s :: rest)).rowsFrom 0 a = a :=
      RowEdit.rowsFrom_eq_self fun i _ hi => startEdit_eq_of_lt hlow (by omega)
    have hlength : (a ++ (b ++ c)).length = s.stop + c.length := by
      rw [List.length_append, List.length_append]
      omega
    rw [apply_edit_cons ha hb hquiet, hb, RowEdit.rowsFrom_eq_self fun i _ hi => hstop i (by omega),
      RowEdit.apply, RowEdit.rowsFrom_append, habove, hlength, Nat.zero_add, ha, List.append_assoc,
      startEdit_cons_rows (by omega) hfirst, hunder]

/-- The splices in ascending order, each at the row it starts on, are all splices at once. -/
theorem startEdit_ascending {splices : List Splice} (hapart : splices.Pairwise Apart)
    (hle : ∀ s ∈ splices, s.start ≤ s.stop) : startEdit (ascending splices) = atOnce splices := by
  ext1
  · funext row
    have hsingle : (splices.filter (replacesFrom row)).reverse =
        splices.filter (replacesFrom row) := by
      rcases filter_replacesFrom_or hapart row with hnil | ⟨s, hs⟩
      · rw [hnil, List.reverse_nil]
      · rw [hs, List.reverse_singleton]
    simp only [startEdit, atOnce, ascending, List.filter_reverse,
      filter_start_sortDescending hapart hle, List.reverse_append, List.flatMap_append, hsingle]
  · funext row
    exact (ascending_perm splices).any_eq

/-- **Splices that are apart are applied all at once.** -/
theorem apply_atOnce {lines : List Text} {splices : List Splice}
    (hin : ∀ s ∈ splices, s.Within lines.length) (hapart : splices.Pairwise Apart) :
    (edit (ascending splices)).apply lines = (atOnce splices).apply lines := by
  have hle : ∀ s ∈ splices, s.start ≤ s.stop := fun s hs => (hin s hs).1
  have hin' : ∀ s ∈ ascending splices, s.Within lines.length :=
    fun s hs => hin s (mem_ascending.mp hs)
  have hsorted : (ascending splices).Pairwise fun a b => a.stop ≤ b.start :=
    List.pairwise_reverse.mpr ((LineBuffer.pairwise_sortDescending_iff hle).mpr hapart)
  rw [← startEdit_apply hin' hsorted, startEdit_ascending hapart hle]

end Splice

/-! ## A buffer that is changed in place -/

namespace LineBuffer

open Splice

variable {b after : LineBuffer} {splices : List Splice} {rejection : SpliceRejection}

/-- Put other lines into the place of those that a splice covers. -/
def change (s : Splice) (b : LineBuffer) : LineBuffer := { b with lines := applyTo b.lines s }

/-- Change the buffer of a state splice by splice. -/
def changeAll (ordered : List Splice) : StateM LineBuffer PUnit :=
  ordered.forM fun s => modify (change s)

/-- Apply splices to the buffer of a state: all of them are checked, and then the lines are changed
splice by splice, from the bottom of the text upwards. -/
def applyInPlace (splices : List Splice) : StateM LineBuffer (Except SpliceRejection Unit) := do
  let ordered := sortDescending splices
  let count := (← get).size
  match check count count ordered with
  | .error rejection => return .error rejection
  | .ok () =>
    changeAll ordered
    return .ok ()

/-- A loop over splices changes the lines and nothing else. -/
theorem run_changeAll (ordered : List Splice) (b : LineBuffer) :
    (changeAll ordered).run b = (⟨⟩, { b with lines := ordered.foldl applyTo b.lines }) := by
  induction ordered generalizing b with
  | nil => rfl
  | cons s rest ih => exact ih (change s b)

/-- **Changing in place is all or nothing**: the answer and the buffer after it are those of
`apply`, and after a rejection the buffer is the one before. -/
theorem applyInPlace_eq (splices : List Splice) (b : LineBuffer) :
    (applyInPlace splices).run b =
      match b.apply splices with
      | .ok after => (.ok (), after)
      | .error rejection => (.error rejection, b) := by
  unfold applyInPlace apply
  cases hcheck : check b.size b.size (sortDescending splices) with
  | error rejection =>
    simp only [StateT.run_bind, StateT.run_get, pure_bind, hcheck]
    rfl
  | ok u =>
    simp only [StateT.run_bind, StateT.run_get, pure_bind, hcheck]
    show (Except.ok (), ((changeAll (sortDescending splices)).run b).2) = _
    rw [run_changeAll]

/-- No step of the loop reaches past the lines that the steps before it left. -/
theorem within_of_descending {s : Splice} {before rest : List Splice} {lines : List Text}
    (hin : ∀ t ∈ before ++ s :: rest, t.Within lines.length)
    (hsorted : (before ++ s :: rest).Pairwise fun a b => b.stop ≤ a.start) :
    s.Within (before.foldl applyTo lines).length := by
  induction before generalizing lines with
  | nil => exact hin s List.mem_cons_self
  | cons t before ih =>
    rw [List.cons_append] at hin hsorted
    obtain ⟨hfirst, hmore⟩ := List.pairwise_cons.mp hsorted
    have ht := hin t List.mem_cons_self
    have hlength : t.start ≤ (applyTo lines t).length := by
      have hstart : t.start ≤ lines.length := Nat.le_trans ht.1 ht.2
      rw [applyTo, List.length_append, List.length_append, List.length_take]
      omega
    rw [List.foldl_cons]
    refine ih (fun u hu => ?_) hmore
    exact ⟨(hin u (List.mem_cons_of_mem t hu)).1, Nat.le_trans (hfirst u hu) hlength⟩

/-- Being apart, said of the places in the list. -/
theorem pairwise_apart_iff :
    splices.Pairwise Apart ↔
      ∀ i j (hi : i < splices.length) (hj : j < splices.length), i ≠ j →
        splices[i].stop ≤ splices[j].start ∨ splices[j].stop ≤ splices[i].start := by
  rw [List.pairwise_iff_getElem]
  constructor
  · intro h i j hi hj hne
    rcases Nat.lt_or_gt_of_ne hne with hlt | hlt
    · exact h i j hi hj hlt
    · exact (h j i hj hi hlt).symm
  · intro h i j hi hj hlt
    exact h i j hi hj (Nat.ne_of_lt hlt)

/-- Which splices can be applied, said of their places in the list. -/
theorem exists_apply_iff (b : LineBuffer) (splices : List Splice) :
    (∃ after, b.apply splices = .ok after) ↔
      (∀ s ∈ splices, s.start ≤ s.stop ∧ s.stop ≤ b.lines.length) ∧
        ∀ i j (hi : i < splices.length) (hj : j < splices.length), i ≠ j →
          splices[i].stop ≤ splices[j].start ∨ splices[j].stop ≤ splices[i].start := by
  constructor
  · rintro ⟨after, h⟩
    obtain ⟨hin, hapart, -⟩ := apply_eq_ok_iff.mp h
    exact ⟨hin, pairwise_apart_iff.mp hapart⟩
  · rintro ⟨hin, hapart⟩
    exact ⟨_, apply_eq_ok_iff.mpr ⟨hin, pairwise_apart_iff.mpr hapart, rfl⟩⟩

/-- The buffer after splices that could be applied. -/
theorem lines_of_apply (h : b.apply splices = .ok after) :
    after.lines = (atOnce splices).apply b.lines ∧ after.finalNewline = b.finalNewline := by
  obtain ⟨hin, hapart, rfl⟩ := apply_eq_ok_iff.mp h
  exact ⟨apply_atOnce hin hapart, rfl⟩

/-- When splices are applied, each of them finds its rows. -/
theorem within_of_apply (h : b.apply splices = .ok after) {before rest : List Splice} {s : Splice}
    (hcut : sortDescending splices = before ++ s :: rest) :
    s.Within (before.foldl applyTo b.lines).length := by
  obtain ⟨hin, hapart, -⟩ := apply_eq_ok_iff.mp h
  have hmem : ∀ s ∈ sortDescending splices, s.Within b.lines.length :=
    fun s hs => hin s ((sortDescending_perm splices).mem_iff.mp hs)
  have hsorted := (pairwise_sortDescending_iff fun s hs => (hin s hs).1).mpr hapart
  rw [hcut] at hmem hsorted
  exact within_of_descending hmem hsorted

/-- **Splices are applied all at once or not at all.**  They are applied exactly when each of them
lies inside the text and no two of them overlap.  Then the lines are those of the one-shot edit, the
final newline is as before, and no step of the loop reaches past the lines it finds; otherwise the
buffer is as before.  And taking a text apart and putting it together gives the text. -/
theorem applies_at_once (b : LineBuffer) (splices : List Splice) :
    let answer := ((applyInPlace splices).run b).1
    let after := ((applyInPlace splices).run b).2
    (answer = .ok () ↔
        (∀ s ∈ splices, s.start ≤ s.stop ∧ s.stop ≤ b.lines.length) ∧
        ∀ i j (hi : i < splices.length) (hj : j < splices.length), i ≠ j →
          splices[i].stop ≤ splices[j].start ∨ splices[j].stop ≤ splices[i].start) ∧
      (answer = .ok () →
        b.apply splices = .ok after ∧
        after.lines = (atOnce splices).apply b.lines ∧
        after.finalNewline = b.finalNewline ∧
        ∀ before s rest, sortDescending splices = before ++ s :: rest →
          s.start ≤ s.stop ∧ s.stop ≤ (before.foldl applyTo b.lines).length) ∧
      (∀ rejection, answer = .error rejection →
        b.apply splices = .error rejection ∧ after = b) ∧
      ∀ t : Text, (ofText t).toText = t := by
  intro answer after
  have hrun := applyInPlace_eq splices b
  have hanswer : answer = ((applyInPlace splices).run b).1 := rfl
  have hafter : after = ((applyInPlace splices).run b).2 := rfl
  rw [← exists_apply_iff]
  cases happly : b.apply splices with
  | ok result =>
    rw [hrun, happly] at hanswer hafter
    refine ⟨iff_of_true hanswer ⟨result, rfl⟩, fun _ => ?_, fun rejection herr => ?_,
      toText_ofText⟩
    · obtain ⟨hlines, hfinal⟩ := lines_of_apply happly
      rw [hafter]
      exact ⟨rfl, hlines, hfinal, fun before s rest hcut => within_of_apply happly hcut⟩
    · rw [hanswer] at herr
      exact absurd herr (by simp)
  | error rejection =>
    rw [hrun, happly] at hanswer hafter
    refine ⟨iff_of_false (by simp [hanswer]) (by simp), fun hok => ?_, fun other herr => ?_,
      toText_ofText⟩
    · rw [hanswer] at hok
      exact absurd hok (by simp)
    · rw [hanswer] at herr
      exact ⟨congrArg Except.error (Except.error.inj herr), hafter⟩

/-- Two insertions above one row, the replacement that starts there, and an insertion where it
ends. -/
example :
    (ofText "a\nb\nc\n".toList).apply
        [⟨1, 1, ["x".toList]⟩, ⟨1, 2, ["B".toList]⟩, ⟨1, 1, ["y".toList]⟩, ⟨2, 2, ["z".toList]⟩] =
      .ok (ofText "a\ny\nx\nB\nz\nc\n".toList) := by
  decide +kernel

end LineBuffer

end DocSplice
