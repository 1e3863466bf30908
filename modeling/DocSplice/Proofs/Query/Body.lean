import DocSplice.Proofs.Query.Rendering

/-!
# Below the documentation

`body` says what a query file is apart from its documentation: the lines below the leading block and
below the blank line that separates the two, or all lines when there is no such block.

* `Headed`: lines cut at the block at their top.  Lines are headed or have no block, and then they
  are their own body (`exists_headed_or`).
* `exists_removed`: what new documentation replaces is everything above the body, and it consists of
  blank lines and comments.
-/

namespace DocSplice.Query

/-- The lines without the blank line that they may start with. -/
def dropSeparator : List Text → List Text
  | [] => []
  | line :: rest => if Text.allBlank line then rest else line :: rest

/-- The lines below the documentation: below the leading block, the blank lines above it and at most
one blank line under it. -/
def body (lines : List Text) : List Text :=
  match lines.dropWhile Text.allBlank with
  | [] => lines
  | first :: rest => if isOpener first then dropSeparator (rest.dropWhile isComment) else lines

/-- Lines cut at the block at their top: blank lines, the line that opens the block, the comments
that continue it, and what comes below. -/
structure Headed (lines above : List Text) (first : Text) (comments below : List Text) : Prop where
  lines_eq : lines = above ++ first :: (comments ++ below)
  blank : ∀ line ∈ above, Text.allBlank line = true
  opens : isOpener first = true
  comment : ∀ line ∈ comments, isComment line = true
  stops : ∀ line, below.head? = some line → isComment line = false

variable {lines above comments below : List Text} {first line : Text}

/-! ## The block of headed lines -/

theorem not_isOpener_of_allBlank (h : Text.allBlank line = true) : isOpener line = false := by
  refine Bool.eq_false_iff.mpr fun hopen => ?_
  have hno : isComment line = false := not_isComment_of_allBlank h
  rw [isComment_of_isOpener hopen] at hno
  exact Bool.false_ne_true hno.symm

/-- Blank lines at the top are passed over. -/
theorem leadingBlockFrom_append (rest : List Text) : ∀ {above : List Text} {row : Nat},
    (∀ line ∈ above, Text.allBlank line = true) →
    leadingBlockFrom isOpener isComment row (above ++ rest) =
      leadingBlockFrom isOpener isComment (row + above.length) rest
  | [], _, _ => rfl
  | line :: above, row, h => by
    have hline : Text.allBlank line = true := h line List.mem_cons_self
    rw [List.cons_append, leadingBlockFrom, not_isOpener_of_allBlank hline,
      if_neg Bool.false_ne_true, if_pos hline,
      leadingBlockFrom_append rest fun l hl => h l (List.mem_cons_of_mem line hl), List.length_cons,
      show row + 1 + above.length = row + (above.length + 1) by omega]

namespace Headed

theorem takeWhile_eq (h : Headed lines above first comments below) :
    (comments ++ below).takeWhile isComment = comments := by
  have hstop : below.takeWhile isComment = [] := by
    cases below with
    | nil => rfl
    | cons line rest => rw [List.takeWhile_cons, h.stops line rfl, if_neg Bool.false_ne_true]
  rw [List.takeWhile_append_of_pos h.comment, hstop, List.append_nil]

theorem dropWhile_eq (h : Headed lines above first comments below) :
    (comments ++ below).dropWhile isComment = below := by
  have hcut : (comments ++ below).takeWhile isComment ++ (comments ++ below).dropWhile isComment =
      comments ++ below := List.takeWhile_append_dropWhile
  rw [h.takeWhile_eq] at hcut
  exact List.append_cancel_left hcut

theorem block_eq (h : Headed lines above first comments below) :
    block lines = some ⟨above.length, above.length + 1 + comments.length⟩ := by
  rw [block, leadingBlock, h.lines_eq, leadingBlockFrom_append _ h.blank, leadingBlockFrom,
    if_pos h.opens, h.takeWhile_eq, Nat.zero_add]

theorem body_eq (h : Headed lines above first comments below) :
    body lines = dropSeparator below := by
  have hfirst : Text.allBlank first = false := by
    refine Bool.eq_false_iff.mpr fun hblank => ?_
    have hno : isOpener first = false := not_isOpener_of_allBlank hblank
    rw [h.opens] at hno
    exact Bool.false_ne_true hno.symm
  have hdrop : lines.dropWhile Text.allBlank = first :: (comments ++ below) := by
    rw [h.lines_eq, List.dropWhile_append_of_pos h.blank, List.dropWhile_cons, hfirst,
      if_neg Bool.false_ne_true]
  rw [body, hdrop]
  dsimp only
  rw [if_pos h.opens, h.dropWhile_eq]

end Headed

/-- Lines have a block at their top or are their own body. -/
theorem exists_headed_or (lines : List Text) :
    (∃ above first comments below, Headed lines above first comments below) ∨
      (block lines = none ∧ body lines = lines) := by
  have hcut : lines.takeWhile Text.allBlank ++ lines.dropWhile Text.allBlank = lines :=
    List.takeWhile_append_dropWhile
  have hblank : ∀ line ∈ lines.takeWhile Text.allBlank, Text.allBlank line = true :=
    fun line hline => List.mem_takeWhile_imp hline
  have hskip : block lines = leadingBlockFrom isOpener isComment
      (0 + (lines.takeWhile Text.allBlank).length) (lines.dropWhile Text.allBlank) := by
    rw [block, leadingBlock]
    conv => lhs; rw [← hcut]
    exact leadingBlockFrom_append _ hblank
  cases hrest : lines.dropWhile Text.allBlank with
  | nil =>
    refine Or.inr ⟨?_, ?_⟩
    · rw [hskip, hrest, leadingBlockFrom_nil]
    · rw [body, hrest]
  | cons first rest =>
    by_cases hopen : isOpener first = true
    · refine Or.inl ⟨lines.takeWhile Text.allBlank, first, rest.takeWhile isComment,
        rest.dropWhile isComment, ?_, hblank, hopen, fun line hline => List.mem_takeWhile_imp hline,
        fun line hline => ?_⟩
      · rw [List.takeWhile_append_dropWhile, ← hrest, hcut]
      · have hnot := List.head?_dropWhile_not isComment rest
        rw [hline] at hnot
        exact hnot
    · have hfirst : Text.allBlank first = false := by
        have hnot := List.head?_dropWhile_not Text.allBlank lines
        rw [hrest] at hnot
        exact hnot
      refine Or.inr ⟨?_, ?_⟩
      · rw [hskip, hrest, leadingBlockFrom, if_neg hopen, hfirst, if_neg Bool.false_ne_true]
      · rw [body, hrest]
        dsimp only
        rw [if_neg hopen]

/-! ## What is replaced -/

/-- What separates the body from the block is at most one line, and a blank one. -/
theorem exists_separator (below : List Text) :
    ∃ separator, below = separator ++ dropSeparator below ∧
      (∀ line ∈ separator, Text.allBlank line = true) ∧
      separator.length = if below.head?.any Text.allBlank then 1 else 0 := by
  cases below with
  | nil => exact ⟨[], rfl, fun _ h => absurd h List.not_mem_nil, rfl⟩
  | cons line rest =>
    by_cases hblank : Text.allBlank line = true
    · refine ⟨[line], ?_, fun l hl => ?_, ?_⟩
      · rw [dropSeparator, if_pos hblank]
        rfl
      · rw [List.mem_singleton.mp hl]
        exact hblank
      · rw [List.head?_cons, Option.any_some, if_pos hblank]
        rfl
    · refine ⟨[], ?_, fun _ h => absurd h List.not_mem_nil, ?_⟩
      · rw [dropSeparator, if_neg hblank]
        rfl
      · rw [List.head?_cons, Option.any_some, if_neg hblank]
        rfl

/-- **What new documentation replaces** is everything above the body: blank lines and comments. -/
theorem exists_removed (lines : List Text) :
    ∃ removed, lines = removed ++ body lines ∧ removed.length = replacedLines lines ∧
      ∀ line ∈ removed, Text.allBlank line = true ∨ isComment line = true := by
  rcases exists_headed_or lines with ⟨above, first, comments, below, h⟩ | ⟨hblock, hbody⟩
  · obtain ⟨separator, hbelow, hblank, hlength⟩ := exists_separator below
    have hstop : lines[above.length + 1 + comments.length]? = below.head? := by
      have hsplit : lines = (above ++ first :: comments) ++ below := by
        rw [h.lines_eq, List.append_assoc]
        rfl
      have hlen : (above ++ first :: comments).length = above.length + 1 + comments.length := by
        rw [List.length_append, List.length_cons]
        omega
      rw [hsplit, ← hlen, List.getElem?_append_right (Nat.le_refl _), Nat.sub_self,
        List.head?_eq_getElem?]
    refine ⟨above ++ first :: (comments ++ separator), ?_, ?_, fun line hline => ?_⟩
    · rw [h.body_eq, h.lines_eq, List.append_assoc, List.cons_append, List.append_assoc, ← hbelow]
    · rw [replacedLines, h.block_eq]
      dsimp only
      rw [hstop, List.length_append, List.length_cons, List.length_append, hlength]
      split
      · omega
      · omega
    · rw [List.mem_append, List.mem_cons, List.mem_append] at hline
      rcases hline with hline | rfl | hline | hline
      · exact Or.inl (h.blank line hline)
      · exact Or.inr (isComment_of_isOpener h.opens)
      · exact Or.inr (h.comment line hline)
      · exact Or.inl (hblank line hline)
  · refine ⟨[], ?_, ?_, fun _ h => absurd h List.not_mem_nil⟩
    · rw [hbody]
      rfl
    · rw [replacedLines, hblock]
      rfl

theorem replacedLines_le (lines : List Text) : replacedLines lines ≤ lines.length := by
  obtain ⟨removed, hlines, hcount, -⟩ := exists_removed lines
  have hlength := congrArg List.length hlines
  rw [List.length_append, hcount] at hlength
  omega

/-- What is not replaced is the body. -/
theorem drop_replacedLines (lines : List Text) : lines.drop (replacedLines lines) = body lines := by
  obtain ⟨removed, hlines, hcount, -⟩ := exists_removed lines
  rw [← hcount]
  conv => lhs; rw [hlines]
  exact List.drop_left

end DocSplice.Query
