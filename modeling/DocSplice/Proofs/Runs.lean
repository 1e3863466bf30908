import DocSplice.Block

/-!
# Runs above a row

`blockAbove` counts marked lines upwards from a row.  Stated without the counting, a row belongs to
the block when every row from it down to the anchor is marked: `InRunAbove`.  The rows of the block
are exactly these (`inRunAbove_iff`), which makes the block the longest run that touches the anchor.
`IsBlockAbove` says which stretch that is, and such a stretch is found exactly when it stands there
(`blockAbove_eq_some_iff`).
-/

namespace DocSplice

variable {marked : Text → Bool} {lines : List Text}

/-- Row `i` belongs to the run of marked lines that ends just above row `row`. -/
def InRunAbove (marked : Text → Bool) (lines : List Text) (row i : Nat) : Prop :=
  i < row ∧ ∀ j, i ≤ j → j < row → ∃ line, lines[j]? = some line ∧ marked line = true

/-- The row on which the block above `row` starts, or `row` itself when there is none. -/
def startAbove (marked : Text → Bool) (lines : List Text) (row : Nat) : Nat :=
  match blockAbove marked lines row with
  | some found => found.start
  | none => row

/-- One row further down the count goes on or starts again. -/
theorem markedAbove_succ {row : Nat} {line : Text} (h : lines[row]? = some line) :
    markedAbove marked lines (row + 1) =
      if marked line then markedAbove marked lines row + 1 else 0 := by
  have htake : (lines.take (row + 1)).reverse = line :: (lines.take row).reverse := by
    rw [List.take_add_one, h, Option.toList_some, List.reverse_append]
    rfl
  rw [markedAbove, htake, List.takeWhile_cons]
  split
  · rfl
  · rfl

theorem markedAbove_le (marked : Text → Bool) (lines : List Text) (row : Nat) :
    markedAbove marked lines row ≤ row := by
  have hprefix : markedAbove marked lines row ≤ (lines.take row).reverse.length :=
    (List.takeWhile_prefix marked).length_le
  rw [List.length_reverse, List.length_take] at hprefix
  omega

theorem startAbove_eq {row : Nat} (h : row ≤ lines.length) :
    startAbove marked lines row = row - markedAbove marked lines row := by
  unfold startAbove blockAbove
  by_cases hc : markedAbove marked lines row = 0
  · simp [hc]
  · simp [hc, Nat.min_eq_left h]

theorem startAbove_le {row : Nat} (h : row ≤ lines.length) :
    startAbove marked lines row ≤ row := by
  rw [startAbove_eq h]
  exact Nat.sub_le _ _

/-- **The block above a row is the longest run of marked lines that touches it.** -/
theorem inRunAbove_iff {row : Nat} (h : row ≤ lines.length) {i : Nat} :
    InRunAbove marked lines row i ↔ startAbove marked lines row ≤ i ∧ i < row := by
  rw [startAbove_eq h]
  induction row with
  | zero =>
    constructor
    · exact fun hi => absurd hi.1 (Nat.not_lt_zero i)
    · exact fun hi => absurd hi.2 (Nat.not_lt_zero i)
  | succ row ih =>
    have hcount := markedAbove_le marked lines row
    have ih := ih (by omega)
    obtain ⟨line, hline⟩ : ∃ line, lines[row]? = some line :=
      ⟨_, List.getElem?_eq_getElem (by omega)⟩
    rw [markedAbove_succ hline]
    by_cases hm : marked line = true
    · rw [if_pos hm]
      constructor
      · rintro ⟨hi, hall⟩
        refine ⟨?_, hi⟩
        by_cases hrow : i = row
        · omega
        · have := (ih.mp ⟨by omega, fun j hj hjr => hall j hj (by omega)⟩).1
          omega
      · rintro ⟨hlow, hi⟩
        refine ⟨hi, fun j hj hjr => ?_⟩
        by_cases hrow : j = row
        · exact ⟨line, hrow ▸ hline, hm⟩
        · exact (ih.mpr ⟨by omega, by omega⟩).2 j hj (by omega)
    · rw [if_neg hm]
      constructor
      · rintro ⟨hi, hall⟩
        obtain ⟨last, hlast, hmarked⟩ := hall row (by omega) (by omega)
        rw [hline, Option.some.injEq] at hlast
        exact absurd (hlast ▸ hmarked) hm
      · intro hi
        omega

/-- A line that is not marked is in no run, so the run of a lower row starts below it. -/
theorem lt_startAbove {row i : Nat} {line : Text} (h : row ≤ lines.length) (hi : i < row)
    (hline : lines[i]? = some line) (hm : marked line = false) :
    i < startAbove marked lines row := by
  refine Nat.lt_of_not_le fun hle => ?_
  obtain ⟨-, hall⟩ := (inRunAbove_iff h).mpr ⟨hle, hi⟩
  obtain ⟨last, hlast, hmarked⟩ := hall i (Nat.le_refl i) hi
  rw [hline, Option.some.injEq] at hlast
  rw [← hlast, hm] at hmarked
  exact Bool.false_ne_true hmarked

/-- The line above a run is not marked. -/
theorem not_marked_above_start {row : Nat} {line : Text} (h : row ≤ lines.length)
    (hpos : 0 < startAbove marked lines row)
    (hline : lines[startAbove marked lines row - 1]? = some line) : marked line = false := by
  have hle : startAbove marked lines row ≤ row := startAbove_le h
  refine Bool.eq_false_iff.mpr fun hm => ?_
  have hrun : InRunAbove marked lines row (startAbove marked lines row - 1) := by
    refine ⟨by omega, fun j hj hjr => ?_⟩
    by_cases hrow : j = startAbove marked lines row - 1
    · exact ⟨line, hrow ▸ hline, hm⟩
    · exact ((inRunAbove_iff h).mpr ⟨Nat.le_refl _, by omega⟩).2 j (by omega) hjr
  have := ((inRunAbove_iff h).mp hrun).1
  omega

/-! ## The block above a row -/

/-- The stretch is a block above a row: a run of marked lines that touches the row and cannot start
higher. -/
structure IsBlockAbove (marked : Text → Bool) (lines : List Text) (row : Nat) (r : LineRange) :
    Prop where
  start_lt : r.start < row
  stop_eq : r.stop = row
  run : ∀ i, r.start ≤ i → i < row → ∃ line, lines[i]? = some line ∧ marked line = true
  /-- Above the block the lines begin, or a line is not marked. -/
  stops : r.start = 0 ∨ ∃ line, lines[r.start - 1]? = some line ∧ marked line = false

/-- The stretch that a block above a row can be. -/
theorem isBlockAbove_iff {row : Nat} {r : LineRange} (h : row ≤ lines.length) :
    IsBlockAbove marked lines row r ↔
      startAbove marked lines row < row ∧ r = ⟨startAbove marked lines row, row⟩ := by
  constructor
  · intro hr
    obtain ⟨start, stop⟩ := r
    obtain rfl : stop = row := hr.stop_eq
    have hle : startAbove marked lines stop ≤ start :=
      ((inRunAbove_iff h).mp ⟨hr.start_lt, hr.run⟩).1
    have hge : start ≤ startAbove marked lines stop := by
      rcases hr.stops with hzero | ⟨line, hline, hnot⟩
      · exact Nat.le_trans (Nat.le_of_eq hzero) (Nat.zero_le _)
      · have habove : start - 1 < stop := Nat.lt_of_le_of_lt (Nat.sub_le start 1) hr.start_lt
        have hbelow := lt_startAbove h habove hline hnot
        omega
    obtain rfl : start = startAbove marked lines stop := Nat.le_antisymm hge hle
    exact ⟨hr.start_lt, rfl⟩
  · rintro ⟨hlt, rfl⟩
    refine ⟨hlt, rfl, ((inRunAbove_iff h).mpr ⟨Nat.le_refl _, hlt⟩).2, ?_⟩
    refine (Nat.eq_zero_or_pos _).imp_right fun hpos => ?_
    obtain ⟨line, hline⟩ : ∃ line, lines[startAbove marked lines row - 1]? = some line :=
      ⟨_, List.getElem?_eq_getElem (by omega)⟩
    exact ⟨line, hline, not_marked_above_start h hpos hline⟩

/-- **The block that is found above a row is the one that stands there.** -/
theorem blockAbove_eq_some_iff {row : Nat} {r : LineRange} (h : row ≤ lines.length) :
    blockAbove marked lines row = some r ↔ IsBlockAbove marked lines row r := by
  have hcount := markedAbove_le marked lines row
  rw [isBlockAbove_iff h, startAbove_eq h, blockAbove]
  by_cases hnone : markedAbove marked lines row = 0
  · rw [if_pos hnone]
    refine iff_of_false (by simp) fun hsome => ?_
    omega
  · have hlt : row - markedAbove marked lines row < row := by omega
    rw [if_neg hnone, Nat.min_eq_left h, Option.some.injEq, eq_comm]
    exact (and_iff_right hlt).symm

/-! ## Lines cut at the run -/

/-- Lines cut at the run above a row: what comes before the run does not end with a marked line, and
the run touches the row. -/
theorem exists_run_split (marked : Text → Bool) {row : Nat} {anchor : Text}
    (h : lines[row]? = some anchor) :
    ∃ pre run post, lines = pre ++ (run ++ anchor :: post) ∧
      pre.length = startAbove marked lines row ∧ pre.length + run.length = row ∧
      (∀ line ∈ run, marked line = true) ∧
      ∀ line, pre.getLast? = some line → marked line = false := by
  have hrow : row < lines.length := (List.getElem?_eq_some_iff.mp h).1
  have hle : startAbove marked lines row ≤ row := startAbove_le (Nat.le_of_lt hrow)
  refine ⟨lines.take (startAbove marked lines row),
    (lines.take row).drop (startAbove marked lines row), lines.drop (row + 1), ?_, ?_, ?_, ?_, ?_⟩
  · have hpre : lines.take (startAbove marked lines row) =
        (lines.take row).take (startAbove marked lines row) := by
      rw [List.take_take, Nat.min_eq_left hle]
    have hpost : anchor :: lines.drop (row + 1) = lines.drop row := by
      have hget : lines[row] = anchor :=
        Option.some.inj ((List.getElem?_eq_getElem hrow).symm.trans h)
      rw [List.drop_eq_getElem_cons hrow, hget]
    rw [hpost, ← List.append_assoc, hpre, List.take_append_drop, List.take_append_drop]
  · rw [List.length_take]
    omega
  · rw [List.length_take, List.length_drop, List.length_take]
    omega
  · intro line hline
    obtain ⟨j, hj⟩ := List.mem_iff_getElem?.mp hline
    rw [List.getElem?_drop] at hj
    have hlt : startAbove marked lines row + j < row := by
      have := (List.getElem?_eq_some_iff.mp hj).1
      rw [List.length_take] at this
      omega
    rw [List.getElem?_take_of_lt hlt] at hj
    obtain ⟨found, hfound, hm⟩ :=
      ((inRunAbove_iff (Nat.le_of_lt hrow)).mpr ⟨Nat.le_add_right _ j, hlt⟩).2 _ (Nat.le_refl _) hlt
    rw [hj, Option.some.injEq] at hfound
    rw [hfound]
    exact hm
  · intro line hline
    rw [List.getLast?_take] at hline
    split at hline
    · exact absurd hline (by simp)
    · rename_i hpos
      refine not_marked_above_start (Nat.le_of_lt hrow) (by omega) ?_
      rw [List.getElem?_eq_getElem (by omega)] at hline ⊢
      simpa using hline

/-- The run above a row depends on the lines above the row only. -/
theorem blockAbove_append (pre run post : List Text) (decl : Text)
    (hrun : ∀ line ∈ run, marked line = true)
    (hpre : ∀ line, pre.getLast? = some line → marked line = false) :
    blockAbove marked (pre ++ (run ++ decl :: post)) (pre.length + run.length) =
      if run = [] then none else some ⟨pre.length, pre.length + run.length⟩ := by
  have hlen : pre.length + run.length ≤ (pre ++ (run ++ decl :: post)).length := by
    rw [List.length_append, List.length_append]
    omega
  have htake : (pre ++ (run ++ decl :: post)).take (pre.length + run.length) = pre ++ run := by
    rw [← List.append_assoc, ← List.length_append, List.take_left]
  have hstop : pre.reverse.takeWhile marked = [] := by
    rcases hp : pre.reverse with _ | ⟨last, first⟩
    · rfl
    · have hlast : pre.getLast? = some last := by
        rw [← List.head?_reverse, hp]
        rfl
      rw [List.takeWhile_cons, hpre last hlast]
      rfl
  have hcount : markedAbove marked (pre ++ (run ++ decl :: post)) (pre.length + run.length) =
      run.length := by
    rw [markedAbove, htake, List.reverse_append,
      List.takeWhile_append_of_pos fun line hl => hrun line (List.mem_reverse.mp hl), hstop,
      List.append_nil, List.length_reverse]
  rw [blockAbove, hcount, Nat.min_eq_left hlen, Nat.add_sub_cancel]
  simp only [List.length_eq_zero_iff]

theorem startAbove_append (pre run post : List Text) (decl : Text)
    (hrun : ∀ line ∈ run, marked line = true)
    (hpre : ∀ line, pre.getLast? = some line → marked line = false) :
    startAbove marked (pre ++ (run ++ decl :: post)) (pre.length + run.length) = pre.length := by
  rw [startAbove, blockAbove_append pre run post decl hrun hpre]
  by_cases hnil : run = []
  · simp [hnil]
  · simp [hnil]

/-- The text of the run above a row. -/
theorem text_blockAbove_append (pre run post : List Text) (decl : Text)
    (hrun : ∀ line ∈ run, marked line = true)
    (hpre : ∀ line, pre.getLast? = some line → marked line = false) :
    (blockAbove marked (pre ++ (run ++ decl :: post)) (pre.length + run.length)).map
        (·.text (pre ++ (run ++ decl :: post))) =
      if run = [] then none else some (Text.joinLines run) := by
  rw [blockAbove_append pre run post decl hrun hpre]
  by_cases hnil : run = []
  · simp [hnil]
  · have hslice : LineRange.slice ⟨pre.length, pre.length + run.length⟩
        (pre ++ (run ++ decl :: post)) = run := by
      rw [LineRange.slice, ← List.append_assoc, ← List.length_append, List.take_left,
        List.drop_left]
    rw [if_neg hnil, if_neg hnil, Option.map_some, LineRange.text, hslice]

end DocSplice
