import DocSplice.Proofs.Lines
import DocSplice.Proofs.RowEdit

/-!
# Splices applied together

Splices are sorted, checked one after the other against a floor, and applied from the bottom of the
text upwards.  This file says what comes of it without mentioning an order of application.

* `Splice.Within` and `Splice.Apart`: a splice lies inside the text; two splices do not overlap.
  Splices that only touch are apart, and so are two insertions above the same row.
* `Splice.edit`: the row edit that splices amount to when each is read against the lines as they
  were.
* `foldl_applyTo_reverse`: applying splices bottom-up is that edit.
* `mem_adoptEnding`: a splice that takes over the line endings around it keeps its range, and its
  lines are the given ones or the given ones with a carriage return.
* `LineBuffer.apply_eq_ok_iff`: splices are applied exactly when all of them lie inside the text and
  any two are apart, and the outcome is the edit.
-/

namespace DocSplice

namespace Splice

/-- The splice is not inverted and does not reach past the last of `count` lines. -/
def Within (count : Nat) (s : Splice) : Prop := s.start ≤ s.stop ∧ s.stop ≤ count

/-- The splices do not overlap. -/
def Apart (a b : Splice) : Prop := a.stop ≤ b.start ∨ b.stop ≤ a.start

theorem Apart.symm {a b : Splice} (h : Apart a b) : Apart b a := Or.symm h

/-! ## The edit that splices amount to -/

/-- Every splice drops the rows it covers and puts its lines above the row it stops at. -/
def edit (splices : List Splice) : RowEdit where
  above row := (splices.filter (·.stop == row)).flatMap (·.lines)
  drops row := splices.any fun s => s.start ≤ row && row < s.stop

theorem mem_above_edit {splices : List Splice} {row : Nat} {line : Text} :
    line ∈ (edit splices).above row ↔ ∃ s ∈ splices, s.stop = row ∧ line ∈ s.lines := by
  simp only [edit, List.mem_flatMap, List.mem_filter, beq_iff_eq, and_assoc]

theorem drops_edit_iff {splices : List Splice} {row : Nat} :
    (edit splices).drops row = true ↔ ∃ s ∈ splices, s.start ≤ row ∧ row < s.stop := by
  simp only [edit, List.any_eq_true, Bool.and_eq_true, decide_eq_true_eq]

theorem above_edit_cons (s : Splice) (rest : List Splice) (row : Nat) :
    (edit (s :: rest)).above row =
      (if s.stop = row then s.lines else []) ++ (edit rest).above row := by
  by_cases h : s.stop = row
  · simp [edit, h]
  · simp [edit, h]

theorem drops_edit_cons (s : Splice) (rest : List Splice) (row : Nat) :
    (edit (s :: rest)).drops row =
      ((decide (s.start ≤ row) && decide (row < s.stop)) || (edit rest).drops row) := by
  simp only [edit, List.any_cons]

/-- Splices that stop at different rows may be listed in any order: no two of them put lines above
the same row. -/
theorem edit_perm {a b : List Splice} (h : a.Perm b)
    (hstops : a.Pairwise fun s t => s.stop ≠ t.stop) : edit a = edit b := by
  have habove : ∀ row, a.filter (·.stop == row) = b.filter (·.stop == row) := by
    intro row
    induction h with
    | nil => rfl
    | cons s h ih => rw [List.filter_cons, List.filter_cons, ih (List.pairwise_cons.mp hstops).2]
    | swap s t l =>
      have hne : t.stop ≠ s.stop := (List.pairwise_cons.mp hstops).1 s List.mem_cons_self
      by_cases hs : s.stop = row
      · have ht : t.stop ≠ row := hs ▸ hne
        simp [hs, ht]
      · simp [List.filter_cons, hs]
    | trans h _ ih ih' =>
      exact (ih hstops).trans (ih' ((h.pairwise_iff fun hne => Ne.symm hne).mp hstops))
  ext1
  · funext row
    exact congrArg (fun found => List.flatMap (·.lines) found) (habove row)
  · funext row
    exact h.any_eq

/-- Splices that start at `row` or later leave the rows above alone. -/
theorem edit_eq_of_lt {splices : List Splice} {row i : Nat}
    (h : ∀ s ∈ splices, row ≤ s.start ∧ s.start ≤ s.stop) (hi : i < row) :
    (edit splices).above i = [] ∧ (edit splices).drops i = false := by
  constructor
  · refine List.eq_nil_iff_forall_not_mem.mpr fun line hline => ?_
    obtain ⟨s, hs, hstop, -⟩ := mem_above_edit.mp hline
    have := h s hs
    omega
  · refine Bool.eq_false_iff.mpr fun hd => ?_
    obtain ⟨s, hs, hstart, -⟩ := drops_edit_iff.mp hd
    have := h s hs
    omega

/-- Below the splice that comes first, its lines and then what the others do. -/
theorem edit_cons_from {s : Splice} {rest : List Splice} (c : List Text) :
    (edit (s :: rest)).rowsFrom s.stop c ++ (edit (s :: rest)).above (s.stop + c.length) =
      s.lines ++ ((edit rest).rowsFrom s.stop c ++ (edit rest).above (s.stop + c.length)) := by
  have hat : (edit (s :: rest)).above s.stop = s.lines ++ (edit rest).above s.stop := by
    rw [above_edit_cons, if_pos rfl]
  have hbelow : ∀ i, s.stop < i → (edit (s :: rest)).above i = (edit rest).above i := by
    intro i hi
    rw [above_edit_cons, if_neg (by omega), List.nil_append]
  have hdrops : ∀ i, s.stop ≤ i → (edit (s :: rest)).drops i = (edit rest).drops i := by
    intro i hi
    rw [drops_edit_cons, decide_eq_false (show ¬ i < s.stop by omega), Bool.and_false,
      Bool.false_or]
  cases c with
  | nil =>
    rw [RowEdit.rowsFrom_nil, RowEdit.rowsFrom_nil, List.length_nil, Nat.add_zero, hat]
    rfl
  | cons line c =>
    have hrest : (edit (s :: rest)).rowsFrom (s.stop + 1) c = (edit rest).rowsFrom (s.stop + 1) c :=
      RowEdit.rowsFrom_congr fun i hi _ => ⟨hbelow i (by omega), hdrops i (by omega)⟩
    rw [RowEdit.rowsFrom_cons, RowEdit.rowsFrom_cons, hat, hdrops s.stop (Nat.le_refl _), hrest,
      hbelow _ (by rw [List.length_cons]; omega)]
    simp only [List.append_assoc]

/-- What the others do where one more splice is to come: the rows it will cover stay, as the others
leave them alone. -/
theorem apply_edit_of_quiet {rest : List Splice} {a b c : List Text}
    (hquiet : ∀ i, a.length ≤ i → i < a.length + b.length →
      (edit rest).above i = [] ∧ (edit rest).drops i = false) :
    (edit rest).apply (a ++ (b ++ c)) =
      (edit rest).rowsFrom 0 a ++ (b ++ ((edit rest).rowsFrom (a.length + b.length) c ++
        (edit rest).above (a.length + b.length + c.length))) := by
  rw [RowEdit.apply_append_append, RowEdit.rowsFrom_eq_self hquiet]

/-- **One more splice.**  Where the others leave the rows it covers alone, its lines take the place
of these rows and nothing else changes. -/
theorem apply_edit_cons {s : Splice} {rest : List Splice} {a b c : List Text}
    (hstart : a.length = s.start) (hstop : a.length + b.length = s.stop)
    (hquiet : ∀ i, a.length ≤ i → i < a.length + b.length →
      (edit rest).above i = [] ∧ (edit rest).drops i = false) :
    (edit (s :: rest)).apply (a ++ (b ++ c)) =
      (edit rest).rowsFrom 0 a ++ (s.lines ++ ((edit rest).rowsFrom (a.length + b.length) c ++
        (edit rest).above (a.length + b.length + c.length))) := by
  have hkept : (edit (s :: rest)).rowsFrom 0 a = (edit rest).rowsFrom 0 a := by
    refine RowEdit.rowsFrom_congr fun i _ hi => ⟨?_, ?_⟩
    · rw [above_edit_cons, if_neg (by omega), List.nil_append]
    · rw [drops_edit_cons, decide_eq_false (show ¬ s.start ≤ i by omega), Bool.false_and,
        Bool.false_or]
  have hgone : (edit (s :: rest)).rowsFrom a.length b = [] := by
    refine RowEdit.rowsFrom_eq_nil fun i hi hlt => ⟨?_, ?_⟩
    · rw [above_edit_cons, if_neg (by omega), (hquiet i hi hlt).1, List.nil_append]
    · rw [drops_edit_cons, decide_eq_true (show s.start ≤ i by omega),
        decide_eq_true (show i < s.stop by omega)]
      rfl
  rw [RowEdit.apply_append_append, hkept, hgone, List.nil_append, hstop, edit_cons_from]

/-- Lines cut at a splice: the lines above it, the lines it covers, and the lines below. -/
theorem exists_cut {s : Splice} {lines : List Text} (hle : s.start ≤ s.stop)
    (hcount : s.stop ≤ lines.length) :
    ∃ a b c, lines = a ++ (b ++ c) ∧ a.length = s.start ∧ a.length + b.length = s.stop := by
  refine ⟨lines.take s.start, (lines.drop s.start).take (s.stop - s.start),
    (lines.drop s.start).drop (s.stop - s.start), ?_, ?_, ?_⟩
  · rw [List.take_append_drop, List.take_append_drop]
  · rw [List.length_take]
    omega
  · rw [List.length_take, List.length_take, List.length_drop]
    omega

/-! ## Bottom-up application -/

/-- **Applying splices bottom-up is their edit.**  The induction takes the splices from the top of
the text: the ones below have been applied already and have changed nothing above their starts, so
the first splice still finds its rows. -/
theorem foldr_applyTo {lines : List Text} {splices : List Splice}
    (hin : ∀ s ∈ splices, s.Within lines.length)
    (hsorted : splices.Pairwise fun a b => a.stop ≤ b.start) :
    splices.foldr (fun s done => applyTo done s) lines = (edit splices).apply lines := by
  induction splices with
  | nil => exact (RowEdit.apply_eq_self fun _ => ⟨rfl, rfl⟩).symm
  | cons s rest ih =>
    obtain ⟨hle, hcount⟩ := hin s List.mem_cons_self
    obtain ⟨hfirst, hrest⟩ := List.pairwise_cons.mp hsorted
    have ih := ih (fun t ht => hin t (List.mem_cons_of_mem s ht)) hrest
    have hlow : ∀ i, i < s.stop → (edit rest).above i = [] ∧ (edit rest).drops i = false := by
      intro i hi
      exact edit_eq_of_lt (fun t ht => ⟨hfirst t ht, (hin t (List.mem_cons_of_mem s ht)).1⟩) hi
    obtain ⟨a, b, c, rfl, ha, hb⟩ := exists_cut hle hcount
    have hquiet : ∀ i, a.length ≤ i → i < a.length + b.length →
        (edit rest).above i = [] ∧ (edit rest).drops i = false :=
      fun i _ hi => hlow i (by omega)
    have hkept : (edit rest).rowsFrom 0 a = a :=
      RowEdit.rowsFrom_eq_self fun i _ hi => hlow i (by omega)
    rw [List.foldr_cons, ih, apply_edit_of_quiet hquiet, apply_edit_cons ha hb hquiet, hkept,
      applyTo, ← ha, List.take_left]
    have hcut : (a ++ (b ++ ((edit rest).rowsFrom (a.length + b.length) c ++
        (edit rest).above (a.length + b.length + c.length)))).drop s.stop =
        (edit rest).rowsFrom (a.length + b.length) c ++
          (edit rest).above (a.length + b.length + c.length) := by
      rw [← List.append_assoc, List.drop_left' (by rw [List.length_append]; exact hb)]
    rw [hcut, List.append_assoc]

/-- Applying splices in descending order is their edit, read in ascending order. -/
theorem foldl_applyTo_reverse {lines : List Text} {splices : List Splice}
    (hin : ∀ s ∈ splices, s.Within lines.length)
    (hsorted : splices.Pairwise fun a b => b.stop ≤ a.start) :
    splices.foldl applyTo lines = (edit splices.reverse).apply lines := by
  rw [← foldr_applyTo (fun s hs => hin s (List.mem_reverse.mp hs))
    (List.pairwise_reverse.mpr hsorted), List.foldr_reverse]

/-! ## The order of application -/

theorem goesFirst_iff {a b : Splice} :
    goesFirst a b = true ↔ b.start < a.start ∨ (a.start = b.start ∧ b.stop ≤ a.stop) := by
  simp [goesFirst]

/-- Of two splices that are apart, the one that goes first covers rows further down. -/
theorem stop_le_start_of_goesFirst {a b : Splice} (hfirst : goesFirst a b = true)
    (hapart : Apart a b) (ha : a.start ≤ a.stop) : b.stop ≤ a.start := by
  rcases hapart with h | h
  · rcases goesFirst_iff.mp hfirst with hlt | ⟨heq, hstop⟩
    · omega
    · omega
  · exact h

theorem insertDescending_pairwise (s : Splice) {l : List Splice}
    (h : l.Pairwise fun a b => goesFirst a b = true) :
    (insertDescending s l).Pairwise fun a b => goesFirst a b = true := by
  induction l with
  | nil => exact List.pairwise_singleton _ s
  | cons t rest ih =>
    obtain ⟨ht, hrest⟩ := List.pairwise_cons.mp h
    unfold insertDescending
    split
    · rename_i hst
      have hall : ∀ u ∈ t :: rest, goesFirst s u = true := by
        intro u hu
        rcases List.mem_cons.mp hu with rfl | hu
        · exact hst
        · have htu := goesFirst_iff.mp (ht u hu)
          have hst := goesFirst_iff.mp hst
          exact goesFirst_iff.mpr (by omega)
      exact List.pairwise_cons.mpr ⟨hall, h⟩
    · rename_i hst
      have hall : ∀ u ∈ insertDescending s rest, goesFirst t u = true := by
        intro u hu
        rcases List.mem_cons.mp ((insertDescending_perm s rest).mem_iff.mp hu) with rfl | hu
        · rw [goesFirst_iff] at hst ⊢
          omega
        · exact ht u hu
      exact List.pairwise_cons.mpr ⟨hall, ih hrest⟩

/-- The sorted splices are in the order of application. -/
theorem sortDescending_pairwise (l : List Splice) :
    (sortDescending l).Pairwise fun a b => goesFirst a b = true := by
  induction l with
  | nil => exact List.Pairwise.nil
  | cons s rest ih =>
    rw [sortDescending_cons]
    exact insertDescending_pairwise s ih

/-- Splices in the order in which the text is read. -/
def ascending (splices : List Splice) : List Splice := (sortDescending splices).reverse

theorem ascending_perm (splices : List Splice) : (ascending splices).Perm splices :=
  (List.reverse_perm _).trans (sortDescending_perm splices)

theorem mem_ascending {s : Splice} {splices : List Splice} :
    s ∈ ascending splices ↔ s ∈ splices :=
  (ascending_perm splices).mem_iff

/-! ## Line endings -/

theorem hasReturn_addReturn (line : Text) : hasReturn (addReturn line) = true := by
  unfold addReturn
  split
  · assumption
  · simp [hasReturn]

theorem startsWith_addReturn {line p : Text} (h : Text.startsWith line p = true) :
    Text.startsWith (addReturn line) p = true := by
  obtain ⟨rest, rfl⟩ := Text.startsWith_iff.mp h
  unfold addReturn
  split
  · exact h
  · exact Text.startsWith_iff.mpr ⟨rest ++ ['\r'], (List.append_assoc _ _ _).symm⟩

theorem mem_of_mem_addReturn {line : Text} {c : Char} (h : c ∈ addReturn line) :
    c ∈ line ∨ c = '\r' := by
  unfold addReturn at h
  split at h
  · exact Or.inl h
  · rw [List.mem_append, List.mem_singleton] at h
    exact h

@[simp] theorem adoptEnding_start (source : List Text) (s : Splice) :
    (adoptEnding source s).start = s.start := by
  unfold adoptEnding
  split <;> rfl

@[simp] theorem adoptEnding_stop (source : List Text) (s : Splice) :
    (adoptEnding source s).stop = s.stop := by
  unfold adoptEnding
  split <;> rfl

theorem adoptEnding_lines (source : List Text) (s : Splice) :
    (adoptEnding source s).lines =
      if (anchor? source s).any hasReturn then s.lines.map addReturn else s.lines := by
  unfold adoptEnding
  split <;> rfl

/-- A line that ended like the lines around was given, or was given without its carriage return. -/
theorem mem_adoptEnding {source : List Text} {s : Splice} {line : Text}
    (h : line ∈ (adoptEnding source s).lines) :
    ∃ given ∈ s.lines, line = given ∨ line = addReturn given := by
  rw [adoptEnding_lines] at h
  split at h
  · obtain ⟨given, hgiven, rfl⟩ := List.mem_map.mp h
    exact ⟨given, hgiven, Or.inr rfl⟩
  · exact ⟨line, h, Or.inl rfl⟩

end Splice

namespace LineBuffer

open Splice

/-- The check lets through what ends above the floor, each splice above the one before. -/
theorem check_eq_ok_iff {count floor : Nat} {l : List Splice} :
    check count floor l = .ok () ↔
      (∀ s ∈ l, s.Within floor) ∧ l.Pairwise fun a b => b.stop ≤ a.start := by
  induction l generalizing floor with
  | nil => simp [check]
  | cons s rest ih =>
    have ih : check count s.start rest = .ok () ↔
        (∀ t ∈ rest, t.Within s.start) ∧ rest.Pairwise fun a b => b.stop ≤ a.start := ih
    unfold check
    rw [List.pairwise_cons]
    split
    · rename_i hinv
      constructor
      · intro h
        exact absurd h (by simp)
      · rintro ⟨hin, -⟩
        have := (hin s List.mem_cons_self).1
        omega
    · rename_i hinv
      split
      · rename_i hfloor
        constructor
        · intro h
          split at h <;> exact absurd h (by simp)
        · rintro ⟨hin, -⟩
          have := (hin s List.mem_cons_self).2
          omega
      · rename_i hfloor
        rw [ih]
        constructor
        · rintro ⟨hin, hrest⟩
          refine ⟨fun t ht => ?_, fun t ht => (hin t ht).2, hrest⟩
          rcases List.mem_cons.mp ht with rfl | ht
          · exact ⟨by omega, by omega⟩
          · have := hin t ht
            exact ⟨this.1, by have := this.2; omega⟩
        · rintro ⟨hin, hfirst, hrest⟩
          exact ⟨fun t ht => ⟨(hin t (List.mem_cons_of_mem s ht)).1, hfirst t ht⟩, hrest⟩

/-- Sorted splices stop one above the other exactly when any two of the given ones are apart. -/
theorem pairwise_sortDescending_iff {splices : List Splice}
    (h : ∀ s ∈ splices, s.start ≤ s.stop) :
    ((sortDescending splices).Pairwise fun a b => b.stop ≤ a.start) ↔ splices.Pairwise Apart := by
  rw [← (sortDescending_perm splices).pairwise_iff fun hab => Apart.symm hab]
  constructor
  · exact fun hs => hs.imp fun hab => Or.inr hab
  · intro hs
    have hboth := hs.and (sortDescending_pairwise splices)
    refine hboth.imp_of_mem fun {a b} ha _ hab => ?_
    exact stop_le_start_of_goesFirst hab.2 hab.1 (h a ((sortDescending_perm splices).mem_iff.mp ha))

/-- **Splices are applied exactly when they lie inside the text and are apart**, and then every one
of them is read against the lines as they were. -/
theorem apply_eq_ok_iff {b b' : LineBuffer} {splices : List Splice} :
    b.apply splices = .ok b' ↔
      (∀ s ∈ splices, s.Within b.size) ∧ splices.Pairwise Apart ∧
        b' = { b with lines := (edit (ascending splices)).apply b.lines } := by
  have hmem : ∀ {s}, s ∈ sortDescending splices ↔ s ∈ splices :=
    (sortDescending_perm splices).mem_iff
  have hcheck : check b.size b.size (sortDescending splices) = .ok () ↔
      (∀ s ∈ splices, s.Within b.size) ∧ splices.Pairwise Apart := by
    rw [check_eq_ok_iff]
    constructor
    · rintro ⟨hin, hsorted⟩
      have hin' : ∀ s ∈ splices, s.Within b.size := fun s hs => hin s (hmem.mpr hs)
      exact ⟨hin', (pairwise_sortDescending_iff fun s hs => (hin' s hs).1).mp hsorted⟩
    · rintro ⟨hin, hapart⟩
      exact ⟨fun s hs => hin s (hmem.mp hs),
        (pairwise_sortDescending_iff fun s hs => (hin s hs).1).mpr hapart⟩
  cases hc : check b.size b.size (sortDescending splices) with
  | error rejection =>
    have hfail : b.apply splices = .error rejection := by
      simp only [apply, hc]
    rw [hfail]
    constructor
    · intro h
      exact absurd h (by simp)
    · rintro ⟨hin, hapart, -⟩
      exact absurd (hcheck.mpr ⟨hin, hapart⟩) (by simp [hc])
  | ok u =>
    obtain ⟨hin, hapart⟩ := hcheck.mp hc
    have hdone : (sortDescending splices).foldl applyTo b.lines =
        (edit (ascending splices)).apply b.lines :=
      foldl_applyTo_reverse (fun s hs => hin s (hmem.mp hs))
        ((pairwise_sortDescending_iff fun s hs => (hin s hs).1).mpr hapart)
    have happly : b.apply splices =
        .ok { b with lines := (edit (ascending splices)).apply b.lines } := by
      simp only [apply, hc, hdone]
    rw [happly]
    constructor
    · intro h
      exact ⟨hin, hapart, (Except.ok.inj h).symm⟩
    · rintro ⟨-, -, rfl⟩
      rfl

/-- A single splice inside the text is applied. -/
theorem apply_singleton {b : LineBuffer} {s : Splice} (h : s.Within b.size) :
    b.apply [s] = .ok { b with lines := Splice.applyTo b.lines s } := by
  have hcheck : check b.size b.size [s] = .ok () := by
    refine check_eq_ok_iff.mpr ⟨fun t ht => ?_, List.pairwise_singleton _ s⟩
    rw [List.mem_singleton.mp ht]
    exact h
  have hsort : Splice.sortDescending [s] = [s] := rfl
  simp only [apply, hsort, hcheck, List.foldl_cons, List.foldl_nil]

end LineBuffer

end DocSplice
