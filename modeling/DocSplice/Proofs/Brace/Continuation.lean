import DocSplice.Proofs.Brace.BracedBodies

/-!
# Expressions that ask for more

A bare expression that stops after an operator with no bracket open is not complete, and what it
asks for may stand any number of lines below: comments and blank lines in between say nothing.  The
scan of a body waits for one line only.  Whether the body ends is decided line by line, by the code
of that line alone, and a line without code does not stop after an operator.

* `Bare.run`: the state that the code of a bare expression leads to.
* `scanBody_after_operator`: behind a line that stops after an operator the scan goes on with the
  next line, in an expression with no bracket open.
* `le_bodyEnd_after_operator_iff`: so the body reaches what continues it exactly when that stands on
  the next line; otherwise it ends on the line between.
* `comment_ends_expression`: a comment below an operator ends the body.
-/

namespace DocSplice.Brace

open Text

variable {lines below : List Text} {start k m : Nat} {line : Text} {scan : ScanState}
  {code args blanks body : List (Nat × Char)}

/-- A bare expression that is passed leaves open what its brackets leave open. -/
theorem Bare.run (h : Bare code args blanks body) {front more : List Char}
    (hopening : '(' ∉ front) (hclosing : ')' ∉ front)
    (hcode : chars args <+: front ++ '(' :: more) :
    (BodyState.arguments 0).run (chars code) =
      some (.expression ((chars body).foldl nesting 0)) := by
  obtain ⟨c, hhead, hc, hbrace⟩ := h.begins
  obtain ⟨tail, htail⟩ := List.head?_eq_some_iff.mp hhead
  rw [h.code_eq, chars_append, chars_append, BodyState.run_append,
    run_arguments hopening hclosing hcode h.args_closed, Option.bind_some, htail]
  exact BodyState.run_awaiting_bare h.blanks_blank hc hbrace tail

/-- The lines below a declaration, cut at one of them. -/
theorem exists_cut (hstart : start ≤ k) (hk : k < lines.length) :
    ∃ front line, lines.drop start = front ++ line :: lines.drop (k + 1) ∧
      start + front.length = k := by
  refine ⟨(lines.drop start).take (k - start), lines[k], ?_, ?_⟩
  · have hbelow : (lines.drop start).drop (k - start) = lines[k] :: lines.drop (k + 1) := by
      rw [List.drop_drop, Nat.add_sub_cancel' hstart, List.drop_eq_getElem_cons hk]
    rw [← hbelow, List.take_append_drop]
  · rw [List.length_take, List.length_drop]
    omega

/-- An expression with no bracket open ends on a line without code. -/
theorem scanBody_expression_blank (h : allBlank (scan.scan line).1 = true) (row : Nat) :
    scanBody row (.expression 0) scan (line :: below) = .ended row := by
  rw [scanBody]
  have hblank := List.all_eq_true.mp h
  simp [run_blank hblank, endsWithOperator_blank hblank]

/-- Code that is not empty stands on the rows it is taken from. -/
theorem Bare.le_row (h : Bare (codeThrough k (codeBelow lines start)) args blanks body) :
    start ≤ k := by
  obtain ⟨c, hhead, -, -⟩ := h.begins
  obtain ⟨x, hx, -⟩ := List.mem_map.mp (List.mem_of_head? hhead)
  have hin : x ∈ codeThrough k (codeBelow lines start) := by
    rw [h.code_eq]
    exact List.mem_append_right _ (List.mem_append_right _ hx)
  obtain ⟨hbelow, hrow⟩ := List.mem_filter.mp hin
  exact (mem_rows hbelow).1.trans (of_decide_eq_true hrow)

/-- **Below an operator** the scan goes on with the next line. -/
theorem scanBody_after_operator (hline : lines[start]? = some line)
    (hdecl : isDeclaration line = true)
    (hbare : Bare (codeThrough k (codeBelow lines start)) args blanks body) (hk : k < lines.length)
    (hend : k ≤ bodyEnd lines start) (hdepth : (chars body).foldl nesting 0 = 0)
    (hoperator : endsWithOperator (codeOn k (codeBelow lines start)) = true) :
    ∃ scan, scanBody start (.arguments 0) .outside (lines.drop start) =
        scanBody (k + 1) (.expression 0) scan (lines.drop (k + 1)) ∧
      ∀ next rest, lines.drop (k + 1) = next :: rest →
        codeOn (k + 1) (codeBelow lines start) = (scan.scan next).1 := by
  obtain ⟨front, last, hdrop, hfront⟩ := exists_cut hbare.le_row hk
  have hthrough : codeThrough k (codeBelow lines start) =
      codeFrom start .outside (front ++ [last]) := by
    rw [codeBelow, hdrop, ← hfront, codeThrough_append]
  have hon : codeOn k (codeBelow lines start) = ((scanAfter .outside front).scan last).1 := by
    rw [codeBelow, hdrop, ← hfront, codeOn_append]
  -- what the code down to the line leads to
  obtain ⟨before, more, hchars, hopening, hclosing⟩ := exists_chars_codeBelow hline hdecl
  have hargs : chars args <+: before ++ '(' :: more := by
    have hpart : args <+: codeBelow lines start := by
      have hin : args <+: codeThrough k (codeBelow lines start) := ⟨_, hbare.code_eq.symm⟩
      refine hin.trans ?_
      rw [hthrough, codeBelow, hdrop, List.append_cons front last (lines.drop (k + 1)),
        codeFrom_append (front ++ [last])]
      exact List.prefix_append _ _
    rw [← hchars]
    exact hpart.map _
  have hrun := hbare.run hopening hclosing hargs
  rw [hdepth, hthrough, codeFrom_append_cons, codeFrom, List.append_nil, chars_append, chars_map,
    BodyState.run_append] at hrun
  -- the scan comes to the line, and goes on behind it
  rcases scanBody_append start (.arguments 0) .outside front (last :: lines.drop (k + 1)) with
    ⟨early, hended, hlt⟩ | ⟨state, hstate, hscan⟩
  · rw [bodyEnd_eq_lastRow, hdrop, hended, BodyScan.lastRow] at hend
    omega
  · rw [hstate, Option.bind_some] at hrun
    refine ⟨((scanAfter .outside front).scan last).2, ?_, fun next rest hnext => ?_⟩
    · rw [hdrop, hscan, hfront, scanBody]
      rw [hon] at hoperator
      simp [hrun, hoperator]
    · have hrow : k + 1 = start + (front ++ [last]).length := by
        rw [List.length_append, List.length_singleton, ← Nat.add_assoc, hfront]
      rw [codeBelow, hdrop, hnext, List.append_cons, hrow, codeOn_append, scanAfter,
        List.foldl_append]
      rfl

/-- **A bare expression goes on past the next line only if that line holds code.**  Where a line of
the body leaves no bracket open and stops after an operator, and the lines between it and another
line hold no code, the body reaches that other line exactly when there are no lines between.
Otherwise it ends on the first of them. -/
theorem le_bodyEnd_after_operator_iff (hline : lines[start]? = some line)
    (hdecl : isDeclaration line = true)
    (hbare : Bare (codeThrough k (codeBelow lines start)) args blanks body)
    (hend : k ≤ bodyEnd lines start) (hdepth : (chars body).foldl nesting 0 = 0)
    (hoperator : endsWithOperator (codeOn k (codeBelow lines start)) = true) (hkm : k < m)
    (hm : m < lines.length)
    (hgap : ∀ r, k < r → r < m → allBlank (codeOn r (codeBelow lines start)) = true) :
    (m ≤ bodyEnd lines start ↔ m = k + 1) ∧ (m ≠ k + 1 → bodyEnd lines start = k + 1) := by
  obtain ⟨scan, hscan, hnext⟩ :=
    scanBody_after_operator hline hdecl hbare (hkm.trans hm) hend hdepth hoperator
  have hsplit : m = k + 1 ∨ k + 1 < m := by omega
  rcases hsplit with rfl | hbetween
  · refine ⟨iff_of_true ?_ rfl, fun hne => absurd rfl hne⟩
    rw [bodyEnd_eq_lastRow, hscan]
    exact le_lastRow start (scanBody_ne_awaiting trivial) (Nat.le_sub_one_of_lt hm)
  · have hrow : k + 1 < lines.length := hbetween.trans hm
    have hdrop := List.drop_eq_getElem_cons hrow
    have hblank : allBlank (scan.scan lines[k + 1]).1 = true := by
      rw [← hnext _ _ hdrop]
      exact hgap (k + 1) (Nat.lt_succ_self k) hbetween
    have hlast : bodyEnd lines start = k + 1 := by
      rw [bodyEnd_eq_lastRow, hscan, hdrop, scanBody_expression_blank hblank, BodyScan.lastRow]
    exact ⟨by omega, fun _ => hlast⟩

/-- A Roxygen line and an empty one between an operator and what it asks for. -/
theorem le_bodyEnd_after_operator_iff_two_lines :
    let lines := ["f <- function(x, s = \"+\") g(".toList, "  x) + # more".toList, "#' (".toList,
      "".toList, "  1".toList]
    bodyEnd lines 0 = 2 := by
  intro lines
  have hline : lines[0]? = some "f <- function(x, s = \"+\") g(".toList := rfl
  have hbare : Bare (codeThrough 1 (codeBelow lines 0)) ((codeBelow lines 0).take 22) [(0, ' ')]
      (((codeBelow lines 0).drop 23).take 9) :=
    ⟨by decide +kernel, by decide +kernel, by decide +kernel, 'g', by decide +kernel⟩
  have hgap : ∀ r, 1 < r → r < 4 → allBlank (codeOn r (codeBelow lines 0)) = true := by
    intro r hlow hhigh
    obtain rfl | rfl : r = 2 ∨ r = 3 := by omega
    · decide +kernel
    · decide +kernel
  exact (le_bodyEnd_after_operator_iff (m := 4) hline (by decide +kernel) hbare (by decide +kernel)
    (by decide +kernel) (by decide +kernel) (by decide) (by decide) hgap).2 (by decide)

/-- **A comment ends the body** of a function that stops after an operator: what the operator asks
for is on the third line, and the body ends on the second. -/
theorem comment_ends_expression :
    let lines := ["f <- function(x) x +".toList, "  # note".toList, "  1".toList]
    isDeclaration "f <- function(x) x +".toList = true ∧
      Bare (codeThrough 0 (codeBelow lines 0)) ((codeBelow lines 0).take 16) [(0, ' ')]
        (((codeBelow lines 0).drop 17).take 3) ∧
      (chars (((codeBelow lines 0).drop 17).take 3)).foldl nesting 0 = 0 ∧
      endsWithOperator (codeOn 0 (codeBelow lines 0)) = true ∧
      allBlank (codeOn 1 (codeBelow lines 0)) = true ∧
      allBlank (codeOn 2 (codeBelow lines 0)) = false ∧ bodyEnd lines 0 = 1 := by
  intro lines
  have hbare : Bare (codeThrough 0 (codeBelow lines 0)) ((codeBelow lines 0).take 16) [(0, ' ')]
      (((codeBelow lines 0).drop 17).take 3) :=
    ⟨by decide +kernel, by decide +kernel, by decide +kernel, 'x', by decide +kernel⟩
  exact ⟨by decide +kernel, hbare, by decide +kernel⟩

end DocSplice.Brace
