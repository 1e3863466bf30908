import DocSplice.Proofs.Brace.Extraction
import Mathlib.Data.List.Pairwise

/-!
# The search for functions

`items` goes through a file line by line and counts down the lines that belong to the function it
found last.  Told as a loop, the search stands on a row.  From a line that declares a function it
jumps to the row below the end of the body, wherever the scan of the body says that is; from any
other line it goes on to the next one.

A body that is never closed runs off the file, and the scan may end in any of its states.  Still the
end is a row of the file and not above the declaration (`le_bodyEnd`, `bodyEnd_lt`).  So every round
moves the search down and leaves it in the file (`row_lt_of_round?`), and the search comes to an end
(`exists_ends`), with the functions that `items` gives (`Ends.found_eq`).

`Sound` is what holds of the search between two rounds: the functions that were found stand above
it, one below the other.  Where one of them ends the search goes on, outside of strings and calls, so
a function that is declared on the next line is found as well (`itemAt_mem_items`).
-/

namespace DocSplice.Brace

variable {lines : List Text} {row : Nat}

/-! ## Where a body ends -/

/-- A scan that ends a body does so on one of its lines. -/
theorem lt_of_scanBody_ended {rest : List Text} {last : Nat} {state : BodyState} {scan : ScanState}
    (h : scanBody row state scan rest = .ended last) : last < row + rest.length := by
  induction rest generalizing row state scan with
  | nil => exact absurd h (by simp [scanBody])
  | cons line rest ih =>
    rw [scanBody] at h
    dsimp only at h
    rw [List.length_cons]
    split at h
    · have hlast : row = last := BodyScan.ended.inj h
      omega
    · split at h
      · have hlast : row = last := BodyScan.ended.inj h
        omega
      · have hlater := ih h
        omega

/-- A body does not end above its declaration. -/
theorem le_bodyEnd (h : row < lines.length) : row ≤ bodyEnd lines row := by
  unfold bodyEnd
  split
  · rename_i last hscan
    exact le_of_scanBody_ended hscan
  · exact Nat.le_refl row
  · omega

/-- A body ends on a line of the file. -/
theorem bodyEnd_lt (h : row < lines.length) : bodyEnd lines row < lines.length := by
  unfold bodyEnd
  split
  · rename_i last hscan
    have hlast := lt_of_scanBody_ended hscan
    rw [List.length_drop] at hlast
    omega
  · exact h
  · omega

/-! ## Rounds -/

/-- Where the search for functions stands. -/
structure Search where
  /-- The row that is looked at next. -/
  row : Nat
  /-- Whether a string is open, outside of functions. -/
  scan : ScanState
  /-- How many brackets of calls are open. -/
  calls : Nat
  /-- The functions that were found. -/
  found : List Item
  deriving DecidableEq, Repr

namespace Search

variable {s next last : Search}

/-- Nothing was looked at yet. -/
def start : Search := ⟨0, .outside, 0, []⟩

/-- The name of the function that is found on the line. -/
def declares? (s : Search) (line : Text) : Option Text :=
  if s.calls = 0 ∧ s.scan.inString = false then declaredName? line else none

/-- A function was found: the search goes on below its body. -/
def jump (lines : List Text) (s : Search) (name : Text) : Search :=
  { s with
    row := bodyEnd lines s.row + 1
    found := s.found ++ [itemAt lines (s.row, name)] }

/-- No function was found: the search goes on below the line. -/
def pass (s : Search) (line : Text) : Search :=
  { s with
    row := s.row + 1
    scan := (s.scan.scan line).2
    calls := (s.scan.scan line).1.foldl callNesting s.calls }

/-- One round of the search; there is none below the last line. -/
def round? (lines : List Text) (s : Search) : Option Search :=
  lines[s.row]?.map fun line =>
    match s.declares? line with
    | some name => s.jump lines name
    | none => s.pass line

/-- Round after round, the search comes from one state to another one, from which there is no
further round. -/
inductive Ends (lines : List Text) : Search → Search → Prop
  | done {s : Search} (rest : s.round? lines = none) : Ends lines s s
  | round {s next last : Search} (first : s.round? lines = some next)
      (later : Ends lines next last) : Ends lines s last

/-- What a round does. -/
theorem round?_cases (h : s.round? lines = some next) : ∃ line, lines[s.row]? = some line ∧
    ((∃ name, s.declares? line = some name ∧ next = s.jump lines name) ∨
      (s.declares? line = none ∧ next = s.pass line)) := by
  obtain ⟨line, hline, hnext⟩ := Option.map_eq_some_iff.mp h
  refine ⟨line, hline, ?_⟩
  split at hnext
  · rename_i name hname
    exact Or.inl ⟨name, hname, hnext.symm⟩
  · rename_i hname
    exact Or.inr ⟨hname, hnext.symm⟩

theorem round?_eq_none_iff : s.round? lines = none ↔ lines.length ≤ s.row := by
  rw [round?, Option.map_eq_none_iff, List.getElem?_eq_none_iff]

theorem declaredName?_of_declares? {line name : Text} (h : s.declares? line = some name) :
    declaredName? line = some name := by
  unfold declares? at h
  split at h
  · exact h
  · exact absurd h (by simp)

/-- **Every round moves the search down**, and not out of the file. -/
theorem row_lt_of_round? (h : s.round? lines = some next) :
    s.row < next.row ∧ next.row ≤ lines.length := by
  obtain ⟨line, hline, ⟨name, -, rfl⟩ | ⟨-, rfl⟩⟩ := round?_cases h
  · have hrow : s.row < lines.length := (List.getElem?_eq_some_iff.mp hline).1
    have hlow := le_bodyEnd hrow
    have hhigh := bodyEnd_lt hrow
    dsimp only [jump]
    omega
  · have hrow : s.row < lines.length := (List.getElem?_eq_some_iff.mp hline).1
    dsimp only [pass]
    omega

/-- **The search comes to an end.** -/
theorem exists_ends (lines : List Text) (s : Search) : ∃ last, Ends lines s last := by
  induction hleft : lines.length - s.row using Nat.strong_induction_on generalizing s with
  | _ left ih =>
    cases hround : s.round? lines with
    | none => exact ⟨s, .done hround⟩
    | some next =>
      obtain ⟨hdown, hin⟩ := row_lt_of_round? hround
      obtain ⟨last, hends⟩ := ih (lines.length - next.row) (by omega) next rfl
      exact ⟨last, .round hround hends⟩

/-! ## What is found -/

/-- Counting down the lines of a function is jumping over them. -/
theorem itemsFrom_skip (lines : List Text) (row skip : Nat) (scan : ScanState) (calls : Nat) :
    itemsFrom lines row skip scan calls (lines.drop row) =
      itemsFrom lines (row + skip) 0 scan calls (lines.drop (row + skip)) := by
  induction skip generalizing row with
  | zero => rfl
  | succ skip ih =>
    cases hdrop : lines.drop row with
    | nil =>
      have hout := List.drop_eq_nil_iff.mp hdrop
      rw [List.drop_eq_nil_of_le (show lines.length ≤ row + (skip + 1) by omega)]
      rfl
    | cons line rest =>
      have hnext : itemsFrom lines row (skip + 1) scan calls (line :: rest) =
          itemsFrom lines (row + 1) skip scan calls rest := rfl
      rw [hnext, ← drop_succ_of_drop hdrop, ih, Nat.add_right_comm, Nat.add_assoc]

/-- The functions from a row on, when one round is looked at. -/
theorem itemsFrom_of_round? (h : s.round? lines = some next) :
    s.found ++ itemsFrom lines s.row 0 s.scan s.calls (lines.drop s.row) =
      next.found ++ itemsFrom lines next.row 0 next.scan next.calls (lines.drop next.row) := by
  obtain ⟨line, hline, hcase⟩ := round?_cases h
  have hrow : s.row < lines.length := (List.getElem?_eq_some_iff.mp hline).1
  have hdrop : lines.drop s.row = line :: lines.drop (s.row + 1) := by
    rw [List.drop_eq_getElem_cons hrow, (List.getElem?_eq_some_iff.mp hline).2]
  rw [hdrop, itemsFrom]
  dsimp only
  rcases hcase with ⟨name, hname, rfl⟩ | ⟨hname, rfl⟩
  · rw [declares?] at hname
    rw [hname]
    dsimp only
    have hlow := le_bodyEnd hrow
    have hbelow : s.row + 1 + (bodyEnd lines s.row - s.row) = bodyEnd lines s.row + 1 := by omega
    rw [itemsFrom_skip, hbelow, jump, List.append_assoc]
    rfl
  · rw [declares?] at hname
    rw [hname]
    rfl

/-- **The search finds the items**: those from its row on come behind the ones it has. -/
theorem Ends.found_eq (h : Ends lines s last) :
    last.found = s.found ++ itemsFrom lines s.row 0 s.scan s.calls (lines.drop s.row) := by
  induction h with
  | @done s rest =>
    rw [List.drop_eq_nil_of_le (round?_eq_none_iff.mp rest), itemsFrom, List.append_nil]
  | round first later ih => rw [ih, itemsFrom_of_round? first]

theorem Ends.mem_found {i : Item} (h : Ends lines s last) (hi : i ∈ s.found) : i ∈ last.found := by
  rw [h.found_eq]
  exact List.mem_append_left _ hi

/-- **Below a function the search goes on**: a function that is declared directly below one that is
found is found. -/
theorem Ends.mem_found_below {i : Item} {line name : Text} (h : Ends lines s last)
    (hi : i ∈ last.found) (hnew : i ∉ s.found) (hline : lines[i.lastLine]? = some line)
    (hname : declaredName? line = some name) : itemAt lines (i.lastLine, name) ∈ last.found := by
  induction h with
  | done rest => exact absurd hi hnew
  | @round s next last first later ih =>
    by_cases hfound : i ∈ next.found
    · -- this round found it, and the next one stands below it, outside of strings and calls
      obtain ⟨above, -, ⟨other, hother, rfl⟩ | ⟨-, rfl⟩⟩ := round?_cases first
      · obtain rfl : i = itemAt lines (s.row, other) :=
          List.mem_singleton.mp ((List.mem_append.mp hfound).resolve_left hnew)
        have hguard : s.calls = 0 ∧ s.scan.inString = false := by
          by_contra hguard
          rw [declares?, if_neg hguard] at hother
          exact absurd hother (by simp)
        have hbelow : (s.jump lines other).round? lines =
            some ((s.jump lines other).jump lines name) := by
          have hdeclares : (s.jump lines other).declares? line = some name :=
            (if_pos hguard).trans hname
          rw [round?, show lines[(s.jump lines other).row]? = some line from hline, Option.map_some,
            hdeclares]
        cases later with
        | done rest =>
          rw [hbelow] at rest
          exact absurd rest (by simp)
        | round second later =>
          rw [hbelow] at second
          refine later.mem_found ?_
          rw [← Option.some.inj second]
          exact List.mem_append_right _ List.mem_cons_self
      · exact absurd hfound hnew
    · exact ih hi hfound

/-- What holds between two rounds. -/
structure Sound (lines : List Text) (s : Search) : Prop where
  /-- What was found are functions on the lines that declare them. -/
  declared : ∀ i ∈ s.found, ∃ row line name, lines[row]? = some line ∧
    declaredName? line = some name ∧ i = itemAt lines (row, name)
  /-- They end above the search. -/
  above : ∀ i ∈ s.found, i.lastLine ≤ s.row
  /-- Each of them ends above the next. -/
  ordered : s.found.Pairwise fun i j => i.lastLine < j.firstLine

theorem sound_start (lines : List Text) : Sound lines start where
  declared _ h := absurd h List.not_mem_nil
  above _ h := absurd h List.not_mem_nil
  ordered := List.Pairwise.nil

/-- A round keeps what holds. -/
theorem Sound.round (h : Sound lines s) (hround : s.round? lines = some next) :
    Sound lines next := by
  have hdown := (row_lt_of_round? hround).1
  obtain ⟨line, hline, ⟨name, hname, rfl⟩ | ⟨-, rfl⟩⟩ := round?_cases hround
  · refine ⟨fun i hi => ?_, fun i hi => ?_, ?_⟩
    · rcases List.mem_append.mp hi with hi | hi
      · exact h.declared i hi
      · exact ⟨s.row, line, name, hline, declaredName?_of_declares? hname, List.mem_singleton.mp hi⟩
    · rcases List.mem_append.mp hi with hi | hi
      · exact Nat.le_of_lt (Nat.lt_of_le_of_lt (h.above i hi) hdown)
      · rw [List.mem_singleton.mp hi]
        exact Nat.le_refl _
    · refine List.pairwise_append.mpr ⟨h.ordered, List.pairwise_singleton _ _, fun i hi j hj => ?_⟩
      rw [List.mem_singleton.mp hj]
      exact Nat.lt_succ_of_le (h.above i hi)
  · exact ⟨h.declared, fun i hi => Nat.le_of_lt (Nat.lt_of_le_of_lt (h.above i hi) hdown), h.ordered⟩

/-- A whole search keeps what holds. -/
theorem Sound.ends (h : Sound lines s) (hends : Ends lines s last) : Sound lines last := by
  induction hends with
  | done rest => exact h
  | round first later ih => exact ih (h.round first)

end Search

/-- **The items of a file** are what a search from its top ends with. -/
theorem exists_search (text : Text) :
    ∃ last, Search.Ends (Text.splitLines text) .start last ∧
      Search.Sound (Text.splitLines text) last ∧ last.found = items text := by
  obtain ⟨last, hends⟩ := Search.exists_ends (Text.splitLines text) .start
  exact ⟨last, hends, (Search.sound_start _).ends hends, hends.found_eq⟩

/-- **A function is found where it is declared directly below another one.** -/
theorem itemAt_mem_items {text line name : Text} {i : Item} (hi : i ∈ items text)
    (hline : (Text.splitLines text)[i.lastLine]? = some line)
    (hname : declaredName? line = some name) :
    itemAt (Text.splitLines text) (i.lastLine, name) ∈ items text := by
  obtain ⟨last, hends, -, hfound⟩ := exists_search text
  rw [← hfound] at hi ⊢
  exact hends.mem_found_below hi List.not_mem_nil hline hname

/-- Of two functions that are found one ends above the other. -/
theorem lastLine_lt_or_of_mem_items {text : Text} {i j : Item} (hi : i ∈ items text)
    (hj : j ∈ items text) (hne : i ≠ j) : i.lastLine < j.firstLine ∨ j.lastLine < i.firstLine := by
  obtain ⟨last, -, hsound, hfound⟩ := exists_search text
  rw [← hfound] at hi hj
  have hsymm : Std.Symm fun i j : Item => i.lastLine < j.firstLine ∨ j.lastLine < i.firstLine :=
    ⟨fun _ _ => Or.symm⟩
  have hapart : last.found.Pairwise
      fun i j => i.lastLine < j.firstLine ∨ j.lastLine < i.firstLine := hsound.ordered.imp Or.inl
  exact hapart.forall hi hj hne

end DocSplice.Brace
