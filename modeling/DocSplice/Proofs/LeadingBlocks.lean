import DocSplice.Block

/-!
# Blocks at the top

`leadingBlock` goes down the lines once and counts.  Where a block stands is said here without going
down: `IsLeadingBlock` asks for blank lines that open nothing, a line that opens the block, lines
that continue it, and an end behind the last line or at a line that does not continue.  The lines
determine such a block, and it is the one that is found (`leadingBlock_eq_some_iff`); where none is
found there is none (`leadingBlock_eq_none_iff`).

What a first line does to the block of the lines below it is said by one lemma for each of the three
things that it can do: open a block, be passed over, or rule a block out.
-/

namespace DocSplice

open Text (allBlank)

/-- How long a run at the start of a list is: each of its elements has the property, and behind it
the list ends or an element has not. -/
theorem length_takeWhile_eq_iff {α : Type} {p : α → Bool} {l : List α} {n : Nat} :
    (l.takeWhile p).length = n ↔ (∀ i < n, ∃ a, l[i]? = some a ∧ p a = true) ∧
      (n = l.length ∨ ∃ a, l[n]? = some a ∧ p a = false) := by
  induction l generalizing n with
  | nil =>
    constructor
    · rintro rfl
      exact ⟨fun i hi => absurd hi (Nat.not_lt_zero i), Or.inl rfl⟩
    · rintro ⟨-, hend | ⟨a, ha, -⟩⟩
      · exact hend.symm
      · exact absurd ha (by simp)
  | cons a l ih =>
    by_cases ha : p a = true
    · rw [List.takeWhile_cons_of_pos ha, List.length_cons]
      cases n with
      | zero =>
        refine iff_of_false (Nat.succ_ne_zero _) ?_
        rintro ⟨-, hend | ⟨b, hb, hnot⟩⟩
        · exact absurd hend (Nat.succ_ne_zero _).symm
        · obtain rfl : a = b := Option.some.inj hb
          exact Bool.false_ne_true (hnot.symm.trans ha)
      | succ n =>
        rw [Nat.add_right_cancel_iff, ih]
        refine and_congr ⟨fun hall i hi => ?_, fun hall i hi => hall (i + 1) (Nat.succ_lt_succ hi)⟩
          (or_congr Nat.succ_inj.symm Iff.rfl)
        cases i with
        | zero => exact ⟨a, rfl, ha⟩
        | succ i => exact hall i (Nat.lt_of_succ_lt_succ hi)
    · rw [List.takeWhile_cons_of_neg ha, List.length_nil]
      constructor
      · rintro rfl
        exact ⟨fun i hi => absurd hi (Nat.not_lt_zero i),
          Or.inr ⟨a, rfl, Bool.eq_false_iff.mpr ha⟩⟩
      · rintro ⟨hall, -⟩
        refine (Nat.eq_zero_of_not_pos fun hpos => ?_).symm
        obtain ⟨b, hb, hyes⟩ := hall 0 hpos
        obtain rfl : a = b := Option.some.inj hb
        exact ha hyes

variable {opens continues : Text → Bool} {lines below : List Text} {line : Text} {r : LineRange}

/-- The stretch is a block at the top of the lines, from the line that opens it to the last one that
continues it. -/
structure IsLeadingBlock (opens continues : Text → Bool) (lines : List Text) (r : LineRange) :
    Prop where
  /-- Above there are blank lines, and none of them opens a block. -/
  above : ∀ i < r.start, ∃ line, lines[i]? = some line ∧ allBlank line = true ∧ opens line = false
  first : ∃ line, lines[r.start]? = some line ∧ opens line = true
  /-- The line that opens the block belongs to it. -/
  start_lt_stop : r.start < r.stop
  rest : ∀ i, r.start < i → i < r.stop → ∃ line, lines[i]? = some line ∧ continues line = true
  /-- Nothing continues the block further. -/
  stops : r.stop = lines.length ∨ ∃ line, lines[r.stop]? = some line ∧ continues line = false

/-- The stretch, so many lines further down. -/
def LineRange.lower (count : Nat) (r : LineRange) : LineRange := ⟨r.start + count, r.stop + count⟩

theorem LineRange.lower_lower (count more : Nat) (r : LineRange) :
    (r.lower count).lower more = r.lower (more + count) := by
  rw [lower, lower, lower, Nat.add_assoc, Nat.add_assoc, Nat.add_comm count]

/-! ## What a first line does -/

/-- A line that opens a block is its first line, and the block goes on as far as it can. -/
theorem isLeadingBlock_cons_of_opens (h : opens line = true) :
    IsLeadingBlock opens continues (line :: below) r ↔
      r = ⟨0, (below.takeWhile continues).length + 1⟩ := by
  constructor
  · intro hr
    obtain ⟨start, stop⟩ := r
    obtain rfl : start = 0 := by
      refine Nat.eq_zero_of_not_pos fun hpos => ?_
      obtain ⟨first, hfirst, -, hnot⟩ := hr.above 0 hpos
      obtain rfl : line = first := Option.some.inj hfirst
      exact Bool.false_ne_true (hnot.symm.trans h)
    obtain ⟨count, rfl⟩ := Nat.exists_eq_add_one_of_ne_zero (Nat.ne_of_gt hr.start_lt_stop)
    have hcount : (below.takeWhile continues).length = count :=
      length_takeWhile_eq_iff.mpr
        ⟨fun i hi => hr.rest (i + 1) (Nat.succ_pos i) (Nat.succ_lt_succ hi),
          hr.stops.imp_left Nat.succ.inj⟩
    rw [hcount]
  · rintro rfl
    obtain ⟨hall, hend⟩ := length_takeWhile_eq_iff.mp (rfl : _ = (below.takeWhile continues).length)
    refine ⟨fun i hi => absurd hi (Nat.not_lt_zero i), ⟨line, rfl, h⟩, Nat.succ_pos _,
      fun i hi hlt => ?_, hend.imp_left (congrArg (· + 1))⟩
    obtain ⟨i, rfl⟩ := Nat.exists_eq_add_one_of_ne_zero (Nat.ne_of_gt hi)
    exact hall i (Nat.lt_of_succ_lt_succ hlt)

/-- A blank line that opens nothing is passed over. -/
theorem isLeadingBlock_cons_of_blank (hblank : allBlank line = true) (h : opens line = false) :
    IsLeadingBlock opens continues (line :: below) r ↔
      ∃ q, IsLeadingBlock opens continues below q ∧ r = q.lower 1 := by
  constructor
  · intro hr
    obtain ⟨start, stop⟩ := r
    obtain ⟨first, hfirst, hopens⟩ := hr.first
    cases start with
    | zero =>
      obtain rfl : line = first := Option.some.inj hfirst
      exact absurd (h.symm.trans hopens) Bool.false_ne_true
    | succ start =>
      obtain ⟨stop, rfl⟩ :=
        Nat.exists_eq_add_one_of_ne_zero (Nat.ne_of_gt (Nat.zero_lt_of_lt hr.start_lt_stop))
      exact ⟨⟨start, stop⟩, ⟨fun i hi => hr.above (i + 1) (Nat.succ_lt_succ hi),
        ⟨first, hfirst, hopens⟩, Nat.lt_of_succ_lt_succ hr.start_lt_stop,
        fun i hi hlt => hr.rest (i + 1) (Nat.succ_lt_succ hi) (Nat.succ_lt_succ hlt),
        hr.stops.imp_left Nat.succ.inj⟩, rfl⟩
  · rintro ⟨q, hq, rfl⟩
    refine ⟨fun i hi => ?_, hq.first, Nat.succ_lt_succ hq.start_lt_stop, fun i hi hlt => ?_,
      hq.stops.imp_left (congrArg (· + 1))⟩
    · cases i with
      | zero => exact ⟨line, rfl, hblank, h⟩
      | succ i => exact hq.above i (Nat.lt_of_succ_lt_succ hi)
    · obtain ⟨i, rfl⟩ := Nat.exists_eq_add_one_of_ne_zero (Nat.ne_of_gt (Nat.zero_lt_of_lt hi))
      exact hq.rest i (Nat.lt_of_succ_lt_succ hi) (Nat.lt_of_succ_lt_succ hlt)

/-- Any other line rules a block out. -/
theorem not_isLeadingBlock_cons (hblank : allBlank line = false) (h : opens line = false) :
    ¬ IsLeadingBlock opens continues (line :: below) r := by
  intro hr
  obtain ⟨start, stop⟩ := r
  cases start with
  | zero =>
    obtain ⟨first, hfirst, hopens⟩ := hr.first
    obtain rfl : line = first := Option.some.inj hfirst
    exact Bool.false_ne_true (h.symm.trans hopens)
  | succ start =>
    obtain ⟨first, hfirst, hyes, -⟩ := hr.above 0 (Nat.succ_pos start)
    obtain rfl : line = first := Option.some.inj hfirst
    exact Bool.false_ne_true (hblank.symm.trans hyes)

/-! ## What is found -/

/-- A block is found below some lines exactly where one stands, counted with those lines. -/
theorem leadingBlockFrom_eq_some_iff {row : Nat} :
    leadingBlockFrom opens continues row lines = some r ↔
      ∃ q, IsLeadingBlock opens continues lines q ∧ r = q.lower row := by
  induction lines generalizing row with
  | nil =>
    refine iff_of_false (by simp) ?_
    rintro ⟨q, hq, -⟩
    obtain ⟨line, hline, -⟩ := hq.first
    exact absurd hline (by simp)
  | cons line below ih =>
    rw [leadingBlockFrom]
    by_cases hopen : opens line = true
    · have hstop : row + 1 + (below.takeWhile continues).length =
          (below.takeWhile continues).length + 1 + row := by omega
      simp only [isLeadingBlock_cons_of_opens hopen, exists_eq_left]
      rw [if_pos hopen, LineRange.lower, Nat.zero_add, hstop, Option.some.injEq, eq_comm]
    · have hnot : opens line = false := Bool.eq_false_iff.mpr hopen
      rw [if_neg hopen]
      by_cases hblank : allBlank line = true
      · -- the line is counted with the lines above, and the block below it moves down by one
        rw [if_pos hblank, ih]
        simp only [isLeadingBlock_cons_of_blank hblank hnot]
        constructor
        · rintro ⟨q, hq, rfl⟩
          exact ⟨q.lower 1, ⟨q, hq, rfl⟩, (LineRange.lower_lower 1 row q).symm⟩
        · rintro ⟨-, ⟨q, hq, rfl⟩, rfl⟩
          exact ⟨q, hq, LineRange.lower_lower 1 row q⟩
      · rw [if_neg hblank]
        refine iff_of_false (by simp) ?_
        rintro ⟨q, hq, -⟩
        exact not_isLeadingBlock_cons (Bool.eq_false_iff.mpr hblank) hnot hq

/-- **The block that is found at the top is the one that stands there.** -/
theorem leadingBlock_eq_some_iff :
    leadingBlock opens continues lines = some r ↔ IsLeadingBlock opens continues lines r := by
  rw [leadingBlock, leadingBlockFrom_eq_some_iff]
  constructor
  · rintro ⟨q, hq, rfl⟩
    exact hq
  · exact fun hr => ⟨r, hr, rfl⟩

/-- **Where none is found, none stands.** -/
theorem leadingBlock_eq_none_iff :
    leadingBlock opens continues lines = none ↔
      ¬ ∃ r, IsLeadingBlock opens continues lines r := by
  rw [Option.eq_none_iff_forall_ne_some, not_exists]
  exact forall_congr' fun r => not_congr leadingBlock_eq_some_iff

end DocSplice
