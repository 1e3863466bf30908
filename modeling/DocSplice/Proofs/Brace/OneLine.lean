import DocSplice.Proofs.Brace.DeclarationLine
import DocSplice.Proofs.Trimming

/-!
# Functions on one line

A function whose body is a bare expression often stands on one line, and a reader sees from that
line alone that it does: the argument list is closed, something follows it, and what follows has its
brackets balanced, leaves no string open and does not stop after an operator (`OneLiner`).

The scan of the body sees less than that.  String literals are taken out of the line with their
quotes before it looks, so a body of literals is no body to it, and `x == "a"` stops after an
operator.

* `EndIsSeen`: what the scan has to see on the line, and below it, to end the function there.
* `lastLine_eq_firstLine_iff`: the function ends on its line exactly when that is seen.  It is seen
  whenever the body ends with anything but a quote, and then a function that is declared on the next
  line is found.
* `literals_take_lines_below`: where it is not seen, the functions below are lost.
-/

namespace DocSplice.Brace

open Text

variable {text line args body front blanks : Text} {lines : List Text} {row : Nat} {i : Item}
  {s : ScanState} {c q : Char}

/-! ## Lines that say where they end -/

/-- The line holds a function with the argument list `args` and, up to the comment, the `body`, and
the body is a complete expression. -/
structure OneLiner (line args body : Text) : Prop where
  line_eq : ScanState.outside.beforeComment line = args ++ body
  args_ends : args.getLast? = some ')'
  args_closes : ClosesStrings args
  args_closed : FirstClosed '(' ')' (codeOf args)
  not_blank : allBlank body = false
  braceless : (trimStart body).head? ≠ some '{'
  closes : ClosesStrings body
  parens_balanced : Balanced '(' ')' (codeOf body)
  brackets_balanced : Balanced '[' ']' (codeOf body)
  braces_balanced : Balanced '{' '}' (codeOf body)
  ends : (trimEnd body).getLast?.any (continuationChars.contains ·) = false

/-- What the scan sees of a body with this code, when it ends the function on the line. -/
inductive EndIsSeen (lines : List Text) (row : Nat) (code : List Char) : Prop
  /-- There is no code, and none below. -/
  | bodiless (hcode : allBlank code = true)
      (hbelow : allBlank (chars (codeBelow lines (row + 1))) = true)
  /-- The code begins with a brace. -/
  | braced (hcode : (trimStart code).head? = some '{')
  /-- There is code, and it does not stop after an operator. -/
  | bare (hcode : allBlank code = false) (hends : endsWithOperator code = false)
  /-- There are no more lines. -/
  | atEnd (hlast : lines.length = row + 1)

/-! ## The last character -/

/-- What a line stops after is a matter of its last character that is not blank. -/
theorem endsWithOperator_append (hc : isBlank c = false) (hblanks : allBlank blanks = true)
    (front : List Char) :
    endsWithOperator (front ++ c :: blanks) = continuationChars.contains c := by
  have hfind : (front ++ [c]).reverse.find? (!isBlank ·) = some c := by
    rw [List.reverse_concat, List.find?_cons_of_pos (by rw [hc]; rfl)]
  rw [List.append_cons, endsWithOperator_append_blank (List.all_eq_true.mp hblanks),
    endsWithOperator, hfind]

/-- A text that is not blank, cut behind its last character that is not. -/
theorem exists_last (h : allBlank text = false) : ∃ front c blanks,
    text = front ++ c :: blanks ∧ isBlank c = false ∧ allBlank blanks = true ∧
      (trimEnd text).getLast? = some c := by
  obtain ⟨blanks, hblanks, htext⟩ := exists_trimEnd_append text
  rcases List.eq_nil_or_concat (trimEnd text) with hnil | ⟨front, c, hend⟩
  · rw [← allBlank_trimEnd, hnil] at h
    exact absurd h (by simp)
  · rw [List.concat_eq_append] at hend
    have hlast : (trimEnd text).getLast? = some c := by
      rw [hend]
      exact List.getLast?_concat
    refine ⟨front, c, blanks, ?_, isBlank_of_getLast?_trimEnd hlast, hblanks, hlast⟩
    rw [← htext, hend, List.append_assoc, List.singleton_append]

/-- Inside a string one character leaves the string, or it is the quote and ends it. -/
theorem quote_step_inside (h : s.quote = some q) (c : Char) :
    (s.scan [c]).2.quote = some q ∨ c = q ∧ (s.scan [c]).2.quote = none := by
  by_cases hescaped : s.escaped = true
  · exact Or.inl (by simp [ScanState.scan, h, hescaped])
  · by_cases hbackslash : c = '\\'
    · exact Or.inl (by simp [ScanState.scan, h, hescaped, hbackslash])
    · by_cases hcloses : c = q
      · subst hcloses
        exact Or.inr ⟨rfl, by simp [ScanState.scan, h, hescaped, hbackslash]⟩
      · exact Or.inl (by simp [ScanState.scan, h, hescaped, hbackslash, hcloses])

/-- Outside strings one character opens none, or it is a quote and opens its own. -/
theorem quote_step_outside (h : s.quote = none) (c : Char) :
    (s.scan [c]).2.quote = none ∨
      ScanState.isQuote c = true ∧ (s.scan [c]).2.quote = some c := by
  by_cases hcomment : c = '#'
  · exact Or.inl (by simp [ScanState.scan, h, hcomment])
  · by_cases hopens : ScanState.isQuote c = true
    · exact Or.inr ⟨hopens, by simp [ScanState.scan, h, hcomment, hopens]⟩
    · exact Or.inl (by simp [ScanState.scan, h, hcomment, hopens])

/-- A string goes on until its quote. -/
theorem quote_of_notMem (h : s.quote = some q) (hq : q ∉ text) :
    (s.scan text).2.quote = some q := by
  induction text generalizing s with
  | nil =>
    rw [ScanState.scan_nil]
    exact h
  | cons c text ih =>
    rw [List.mem_cons, not_or] at hq
    have hnot : ¬(s.quote = none ∧ c = '#') := by simp [h]
    have hfirst := (quote_step_inside h c).resolve_right fun hcloses => hq.1 hcloses.1.symm
    rw [ScanState.scan_cons hnot]
    exact ih hfirst hq.2

/-- Only quotes open strings. -/
theorem isQuote_of_scan (h : ∀ q, s.quote = some q → ScanState.isQuote q = true)
    (hq : (s.scan text).2.quote = some q) : ScanState.isQuote q = true := by
  induction text generalizing s with
  | nil =>
    rw [ScanState.scan_nil] at hq
    exact h q hq
  | cons c text ih =>
    by_cases hcomment : s.quote = none ∧ c = '#'
    · have hstays : (s.scan (c :: text)).2.quote = none := by
        simp [ScanState.scan, hcomment.1, hcomment.2]
      rw [hstays] at hq
      exact absurd hq (by simp)
    · rw [ScanState.scan_cons hcomment] at hq
      refine ih (fun r hr => ?_) hq
      cases hquote : s.quote with
      | some opened =>
        rcases quote_step_inside hquote c with hfirst | ⟨-, hfirst⟩
        · exact h r (hquote.trans (hfirst.symm.trans hr))
        · exact absurd (hfirst.symm.trans hr) (by simp)
      | none =>
        rcases quote_step_outside hquote c with hfirst | ⟨hopens, hfirst⟩
        · exact absurd (hfirst.symm.trans hr) (by simp)
        · exact Option.some.inj (hfirst.symm.trans hr) ▸ hopens

/-- **A line that does not end with a quote ends with code**, when it closes its strings. -/
theorem codeOf_append (hcloses : ClosesStrings (front ++ c :: blanks))
    (hbefore : ScanState.outside.beforeComment (front ++ c :: blanks) = front ++ c :: blanks)
    (hc : ScanState.isQuote c = false) (hblanks : allBlank blanks = true) :
    codeOf (front ++ c :: blanks) = codeOf front ++ c :: blanks := by
  have hplain : ∀ d ∈ c :: blanks, ScanState.isQuote d = false :=
    List.forall_mem_cons.mpr ⟨hc, fun d hd => isQuote_blank (List.all_eq_true.mp hblanks d hd)⟩
  have hfront := ScanState.beforeComment_of_append hbefore
  have hscan := ScanState.scan_append hfront (c :: blanks)
  have hclosed : ClosesStrings front := by
    rw [ClosesStrings, hscan] at hcloses
    rw [ClosesStrings]
    cases hquote : (ScanState.outside.scan front).2.quote with
    | none => rw [ScanState.inString, hquote, Option.isSome_none]
    | some q =>
      -- the quote that is missing is not among the characters behind
      have hopens : ScanState.isQuote q = true :=
        isQuote_of_scan (fun q hq => absurd hq (by simp [ScanState.outside])) hquote
      have hmissing : q ∉ c :: blanks := fun hmem => by
        rw [hplain q hmem] at hopens
        exact Bool.false_ne_true hopens
      rw [ScanState.inString, quote_of_notMem hquote hmissing, Option.isSome_some] at hcloses
      exact absurd hcloses (by simp)
  rw [scan_closes hclosed] at hscan
  have hcomment : c ≠ '#' := by
    rintro rfl
    rw [ScanState.beforeComment_append hfront, scan_closes hclosed] at hbefore
    have hlength := congrArg List.length (List.append_cancel_left hbefore)
    simp [ScanState.beforeComment, ScanState.outside] at hlength
  have hblank : ∀ d ∈ c :: blanks, d ≠ '#' ∧ ScanState.isQuote d = false := fun d hd => by
    refine ⟨?_, hplain d hd⟩
    rcases List.mem_cons.mp hd with rfl | hd
    · exact hcomment
    · exact ne_of_isBlank (List.all_eq_true.mp hblanks d hd) (by decide)
  rw [codeOf, hscan, (scan_plain hblank).1]

/-! ## The scan of the line -/

/-- The code of the line, from the argument list on. -/
theorem OneLiner.scan_eq (h : OneLiner line args body) :
    ScanState.outside.scan line = (codeOf args ++ codeOf body, .outside) := by
  obtain ⟨hscan, hbefore⟩ := ScanState.scan_beforeComment .outside line
  rw [h.line_eq] at hscan hbefore
  rw [← hscan, ScanState.scan_append (ScanState.beforeComment_of_append hbefore),
    scan_closes h.args_closes, scan_closes h.closes]

/-- The argument list is passed, and what follows is scanned as a body. -/
theorem OneLiner.run (h : OneLiner line args body) (hdecl : isDeclaration line = true) :
    (BodyState.arguments 0).run (codeOf args ++ codeOf body) =
      BodyState.awaiting.run (codeOf body) := by
  obtain ⟨front, more, hcode, hopening, hclosing⟩ := exists_code_of_isDeclaration hdecl
  rw [h.scan_eq] at hcode
  have hargs : codeOf args <+: front ++ '(' :: more := by
    rw [← hcode]
    exact List.prefix_append _ _
  rw [BodyState.run_append, run_arguments hopening hclosing hargs h.args_closed, Option.bind_some]

/-- A body that ends with anything but a quote ends with code, and not with an operator. -/
theorem OneLiner.endIsSeen (h : OneLiner line args body)
    (hlast : (trimEnd body).getLast?.any ScanState.isQuote = false) :
    EndIsSeen lines row (codeOf body) := by
  obtain ⟨front, c, blanks, rfl, hc, hblanks, hend⟩ := exists_last h.not_blank
  have hbefore : ScanState.outside.beforeComment (front ++ c :: blanks) = front ++ c :: blanks := by
    obtain ⟨-, hbefore⟩ := ScanState.scan_beforeComment .outside line
    have hargs := ScanState.beforeComment_of_append (h.line_eq ▸ hbefore)
    rw [h.line_eq, ScanState.beforeComment_append hargs, scan_closes h.args_closes] at hbefore
    exact List.append_cancel_left hbefore
  rw [hend] at hlast
  have hcode := codeOf_append h.closes hbefore hlast hblanks
  refine .bare ?_ ?_
  · rw [hcode, allBlank, List.all_append, List.all_cons, hc, Bool.false_and, Bool.and_false]
  · rw [hcode, endsWithOperator_append hc hblanks]
    have hends := h.ends
    rw [hend] at hends
    exact hends

theorem allBlank_indent (code : List Char) : allBlank (indent code) = true :=
  List.all_eq_true.mpr fun _ => isBlank_of_mem_indent

/-- A body with balanced braces that begins with one is closed. -/
theorem run_closed {code : List Char} (h : Balanced '{' '}' code)
    (hbrace : (trimStart code).head? = some '{') : BodyState.awaiting.run code = none := by
  obtain ⟨tail, htail⟩ := List.head?_eq_some_iff.mp hbrace
  have hcode : code = indent code ++ '{' :: tail := by rw [← htail, indent_append_trimStart]
  have hopening : '{' ∉ indent code := fun hmem => absurd (isBlank_of_mem_indent hmem) (by decide)
  have hclosing : '}' ∉ indent code := fun hmem => absurd (isBlank_of_mem_indent hmem) (by decide)
  have hcount : tail.count '}' = 1 + tail.count '{' := by
    have heq := h.count_eq
    rw [hcode, List.count_append, List.count_append, List.count_eq_zero_of_not_mem hopening,
      List.count_eq_zero_of_not_mem hclosing, List.count_cons_self,
      List.count_cons_of_ne (by decide)] at heq
    omega
  obtain ⟨inner, more, rfl, hpending, hinner⟩ :=
    (pending_or_closing counts_braced.ne Nat.one_pos tail).resolve_left fun hpending => by
      have hlt := hpending.count_lt
      omega
  obtain ⟨depth, hdepth, hrun⟩ := counts_braced.run hpending
  obtain rfl : depth = 1 := by omega
  have hcloses : (BodyState.braced 1).step '}' = none := by decide
  rw [hcode, BodyState.run_awaiting_brace (allBlank_indent code), BodyState.run_append, hrun,
    Option.bind_some, BodyState.run_cons, hcloses, Option.bind_none]

/-- A bare expression with balanced brackets leaves none open. -/
theorem run_balanced {code : List Char} (hround : Balanced '(' ')' code)
    (hsquare : Balanced '[' ']' code) (hcurly : Balanced '{' '}' code)
    (hcode : allBlank code = false) (hbrace : (trimStart code).head? ≠ some '{') :
    BodyState.awaiting.run code = some (.expression 0) := by
  obtain ⟨c, tail, htail, hc⟩ := exists_trimStart_eq_cons hcode
  have hsplit : code = indent code ++ c :: tail := by rw [← htail, indent_append_trimStart]
  have hne : c ≠ '{' := fun heq => hbrace (by rw [htail, heq]; rfl)
  have hdepth := foldl_nesting_of_balanced hround hsquare hcurly
  rw [hsplit, List.foldl_append,
    foldl_blank nesting_blank (List.all_eq_true.mp (allBlank_indent code))] at hdepth
  rw [hsplit, BodyState.run_awaiting_bare (allBlank_indent code) hc hne, hdepth]

theorem OneLiner.closesStrings (h : OneLiner line args body) : ClosesStrings line := by
  rw [ClosesStrings, h.scan_eq]
  rfl

theorem OneLiner.codeOf_eq (h : OneLiner line args body) :
    codeOf line = codeOf args ++ codeOf body := by
  rw [codeOf, h.scan_eq]

theorem OneLiner.endsWithOperator_eq (h : OneLiner line args body)
    (hcode : allBlank (codeOf body) = false) :
    endsWithOperator (codeOf line) = endsWithOperator (codeOf body) := by
  obtain ⟨front, c, blanks, hbody, hc, hblanks, -⟩ := exists_last hcode
  rw [h.codeOf_eq, hbody, ← List.append_assoc, endsWithOperator_append hc hblanks,
    endsWithOperator_append hc hblanks]

/-! ## The end of the body -/

section Body

variable (hline : lines[row]? = some line)

include hline

/-- What is left to scan below the line of the declaration. -/
theorem bodyEnd_of_bodyAfter {next : BodyState} (hcloses : ClosesStrings line)
    (hafter : bodyAfter (.arguments 0) line = some next) :
    bodyEnd lines row = (scanBody (row + 1) next .outside (lines.drop (row + 1))).lastRow row
      (lines.length - 1) := by
  obtain ⟨hrow, hat⟩ := List.getElem?_eq_some_iff.mp hline
  rw [bodyEnd_eq_lastRow, List.drop_eq_getElem_cons hrow, hat, scanBody_cons hcloses, hafter]

theorem bodyEnd_of_bodyAfter_none (hcloses : ClosesStrings line)
    (hafter : bodyAfter (.arguments 0) line = none) : bodyEnd lines row = row := by
  obtain ⟨hrow, hat⟩ := List.getElem?_eq_some_iff.mp hline
  rw [bodyEnd_eq_lastRow, List.drop_eq_getElem_cons hrow, hat, scanBody_cons hcloses, hafter]
  rfl

/-- A body without code ends on the line when there is no code below it. -/
theorem OneLiner.bodyEnd_eq_iff_of_blank (h : OneLiner line args body)
    (hdecl : isDeclaration line = true) (hcode : allBlank (codeOf body) = true) :
    bodyEnd lines row = row ↔ allBlank (chars (codeBelow lines (row + 1))) = true := by
  have hafter : bodyAfter (.arguments 0) line = some .awaiting := by
    rw [bodyAfter, h.codeOf_eq, h.run hdecl, run_blank (List.all_eq_true.mp hcode)]
    rfl
  rw [bodyEnd_of_bodyAfter hline h.closesStrings hafter, codeBelow]
  constructor
  · intro hend
    by_contra hbelow
    have hscan := mt scanBody_awaiting_iff.mp hbelow
    have hlast : row + 1 ≤ lines.length - 1 := by
      by_contra hlast
      have hnil : lines.drop (row + 1) = [] := List.drop_eq_nil_of_le (by omega)
      rw [hnil] at hbelow
      exact hbelow rfl
    have hle := le_lastRow row hscan hlast
    omega
  · intro hbelow
    rw [scanBody_awaiting_iff.mpr hbelow]
    rfl

/-- **The body ends on the line** exactly when the scan sees it. -/
theorem OneLiner.bodyEnd_eq_iff (h : OneLiner line args body) (hdecl : isDeclaration line = true) :
    bodyEnd lines row = row ↔ EndIsSeen lines row (codeOf body) := by
  by_cases hcode : allBlank (codeOf body) = true
  · rw [h.bodyEnd_eq_iff_of_blank hline hdecl hcode]
    refine ⟨.bodiless hcode, fun hseen => ?_⟩
    cases hseen with
    | bodiless hcode hbelow => exact hbelow
    | braced hbrace =>
      rw [trimStart_eq_nil hcode] at hbrace
      exact absurd hbrace (by simp)
    | bare hnot hends => exact absurd hcode (by simp [hnot])
    | atEnd hlast =>
      rw [codeBelow, List.drop_eq_nil_of_le (Nat.le_of_eq hlast)]
      rfl
  · have hcode := Bool.eq_false_iff.mpr hcode
    by_cases hbrace : (trimStart (codeOf body)).head? = some '{'
    · refine iff_of_true (bodyEnd_of_bodyAfter_none hline h.closesStrings ?_) (.braced hbrace)
      rw [bodyAfter, h.codeOf_eq, h.run hdecl, run_closed h.braces_balanced hbrace]
    · have hrun := run_balanced h.parens_balanced h.brackets_balanced h.braces_balanced hcode hbrace
      by_cases hends : endsWithOperator (codeOf body) = false
      · refine iff_of_true (bodyEnd_of_bodyAfter_none hline h.closesStrings ?_) (.bare hcode hends)
        rw [bodyAfter, h.endsWithOperator_eq hcode, h.codeOf_eq, h.run hdecl, hrun, hends]
        rfl
      · have hafter : bodyAfter (.arguments 0) line = some (.expression 0) := by
          rw [bodyAfter, h.endsWithOperator_eq hcode, h.codeOf_eq, h.run hdecl, hrun,
            Bool.of_not_eq_false hends]
          rfl
        rw [bodyEnd_of_bodyAfter hline h.closesStrings hafter]
        by_cases hlast : lines.length = row + 1
        · rw [List.drop_eq_nil_of_le (Nat.le_of_eq hlast)]
          refine iff_of_true ?_ (.atEnd hlast)
          rw [scanBody, BodyScan.lastRow, hlast, Nat.add_sub_cancel]
          simp
        · have hrow := (List.getElem?_eq_some_iff.mp hline).1
          have hbegun : (BodyState.expression 0).Begun := trivial
          have hin : row + 1 ≤ lines.length - 1 := by omega
          refine iff_of_false (fun hend => ?_) fun hseen => ?_
          · have hle := hend ▸ le_lastRow row (scanBody_ne_awaiting hbegun) hin
            exact Nat.not_succ_le_self row hle
          cases hseen with
          | bodiless hblank hbelow => exact absurd hblank (by simp [hcode])
          | braced hcode => exact hbrace hcode
          | bare hcode hseen => exact hends hseen
          | atEnd hseen => exact hlast hseen

end Body

/-! ## The item -/

/-- **When a function on one line ends on it.**  The item that is reported for such a line ends on
it exactly when the scan sees the end of the body; it does whenever the body ends with anything but
a quote.  A function that is declared on the next line is reported in just the same cases. -/
theorem lastLine_eq_firstLine_iff (hi : i ∈ items text)
    (hline : (splitLines text)[i.firstLine - 1]? = some line) (h : OneLiner line args body) :
    (i.lastLine = i.firstLine ↔ EndIsSeen (splitLines text) (i.firstLine - 1) (codeOf body)) ∧
      ((trimEnd body).getLast?.any ScanState.isQuote = false → i.lastLine = i.firstLine) ∧
      ∀ next name, (splitLines text)[i.firstLine]? = some next → declaredName? next = some name →
        ((∃ j ∈ items text, j.firstLine = i.firstLine + 1 ∧ j.name = name) ↔
          i.lastLine = i.firstLine) := by
  obtain ⟨last, -, hsound, hfound⟩ := exists_search text
  obtain ⟨row, declaring, name, hat, hname, hitem⟩ := hsound.declared i (hfound ▸ hi)
  have hfirst : i.firstLine = row + 1 := by rw [hitem]; rfl
  have hlast : i.lastLine = bodyEnd (splitLines text) row + 1 := by rw [hitem]; rfl
  rw [hfirst, Nat.add_sub_cancel] at hline ⊢
  obtain rfl : declaring = line := Option.some.inj (hat.symm.trans hline)
  have hdecl : isDeclaration declaring = true := by rw [isDeclaration, hname]; rfl
  have hend : i.lastLine = row + 1 ↔ EndIsSeen (splitLines text) row (codeOf body) := by
    rw [hlast, Nat.add_right_cancel_iff, h.bodyEnd_eq_iff hline hdecl]
  refine ⟨hend, fun hquote => hend.mpr (h.endIsSeen hquote), fun next below hnext hbelow => ?_⟩
  constructor
  · rintro ⟨j, hj, hrow, -⟩
    have hle := le_bodyEnd (List.getElem?_eq_some_iff.mp hline).1
    have hspan : j.firstLine ≤ j.lastLine := by
      obtain ⟨row', above, name', hat', -, hitem'⟩ := hsound.declared j (hfound ▸ hj)
      have hle' := le_bodyEnd (List.getElem?_eq_some_iff.mp hat').1
      rw [hitem']
      exact Nat.succ_le_succ hle'
    have hne : i ≠ j := by
      rintro rfl
      omega
    have hapart := lastLine_lt_or_of_mem_items hi hj hne
    omega
  · intro heq
    have hmem := itemAt_mem_items hi (heq ▸ hnext) hbelow
    refine ⟨_, hmem, ?_, rfl⟩
    rw [heq]
    rfl

/-- Literals and brackets in the middle of the body, and a comment with brackets of its own. -/
theorem lastLine_eq_firstLine_iff_call :
    let text := "f <- function(x = \")\") paste(\"\x7b\", x[1]) # (\ng <- function() 1\n".toList
    let i := itemAt (splitLines text) (0, "f".toList)
    i ∈ items text ∧
      OneLiner "f <- function(x = \")\") paste(\"\x7b\", x[1]) # (".toList
        "f <- function(x = \")\")".toList " paste(\"\x7b\", x[1]) ".toList ∧
      i.lastLine = i.firstLine ∧ ∃ j ∈ items text, j.firstLine = 2 ∧ j.name = "g".toList := by
  intro text i
  have hi : i ∈ items text := by decide +kernel
  have hline : (splitLines text)[i.firstLine - 1]? =
      some "f <- function(x = \")\") paste(\"\x7b\", x[1]) # (".toList := by decide +kernel
  have hone : OneLiner "f <- function(x = \")\") paste(\"\x7b\", x[1]) # (".toList
      "f <- function(x = \")\")".toList " paste(\"\x7b\", x[1]) ".toList := by
    constructor <;> decide +kernel
  obtain ⟨-, hends, hbelow⟩ := lastLine_eq_firstLine_iff hi hline hone
  have hlast : i.lastLine = i.firstLine := hends (by decide +kernel)
  have hnext : (splitLines text)[i.firstLine]? = some "g <- function() 1".toList := by
    decide +kernel
  exact ⟨hi, hone, hlast, (hbelow _ _ hnext (by decide +kernel)).mpr hlast⟩

/-- **Functions below are lost** where the end is not seen: a literal is no body, so the function
takes the next line for its body, and that line stops after an operator when its own literal is
taken out of it. -/
theorem literals_take_lines_below :
    let text := "f <- function() \"a\"\ng <- function(x) x == \"a\"\nh <- function() 1\n".toList
    OneLiner "f <- function() \"a\"".toList "f <- function()".toList " \"a\"".toList ∧
      OneLiner "g <- function(x) x == \"a\"".toList "g <- function(x)".toList
        " x == \"a\"".toList ∧
      (items text).map (fun i => (i.name, i.firstLine, i.lastLine)) = [("f".toList, 1, 3)] := by
  refine ⟨?_, ?_, by decide +kernel⟩
  · constructor <;> decide +kernel
  · constructor <;> decide +kernel

end DocSplice.Brace
