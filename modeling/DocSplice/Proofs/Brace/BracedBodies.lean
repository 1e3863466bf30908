import DocSplice.Proofs.Brace.DeclarationLine

/-!
# Bodies in braces

The scan of a body goes through four states, keeps two depths, takes strings from one line to the
next and may stop in the middle of a line; and where the lines are used up, the end depends on the
state they were used up in.  What it finds can be said without any of that, by counting in the code
below the declaration: the argument list ends where its parentheses are balanced for the first time,
and a body that begins with a brace ends with the brace that makes as many closing ones as opening
ones.

* `EndsOn`: the row on which a function ends, told by its code.  There is one clause for each way
  in which it can end, unless its body is a bare expression (`Bare`); `endsOn_or_bare` says that
  there are no other ways.
* `follow_of_endsOn`: the scan, read as a run over the code, follows the clauses.
* `bodyEnd_told_by_code`: the row that is found is the one that the code tells.
-/

namespace DocSplice.Brace

open Text

variable {lines : List Text} {start first last row stop : Nat} {line : Text}
  {code args blanks body inner tail : List (Nat × Char)}

/-- The row on which a function ends, told by the code from its declaration on, when `first` is the
row of the declaration and `last` the last row of the file. -/
inductive EndsOn (code : List (Nat × Char)) (first last : Nat) : Nat → Prop
  /-- The argument list is never closed: the function runs to the end of the file. -/
  | unclosedArguments (hopen : ∀ args, args <+: code → ¬Closed '(' ')' (chars args)) :
    EndsOn code first last last
  /-- Nothing but blanks follows the argument list: the function is the line of its declaration. -/
  | bodiless {args rest : List (Nat × Char)} (hcode : code = args ++ rest)
      (hargs : FirstClosed '(' ')' (chars args)) (hrest : allBlank (chars rest) = true) :
    EndsOn code first last first
  /-- A brace is the first thing behind the argument list that is not blank: the function ends on
  the row of the brace that closes it. -/
  | braced {args blanks inner tail : List (Nat × Char)} {row stop : Nat}
      (hcode : code = args ++ (blanks ++ (row, '{') :: (inner ++ (stop, '}') :: tail)))
      (hargs : FirstClosed '(' ')' (chars args)) (hblanks : allBlank (chars blanks) = true)
      (hbody : FirstClosed '{' '}' ('{' :: (chars inner ++ ['}']))) :
    EndsOn code first last stop
  /-- Nothing closes that brace: the function runs to the end of the file. -/
  | unclosedBody {args blanks body : List (Nat × Char)} {row : Nat}
      (hcode : code = args ++ (blanks ++ (row, '{') :: body))
      (hargs : FirstClosed '(' ')' (chars args)) (hblanks : allBlank (chars blanks) = true)
      (hopen : ∀ inner, inner <+: (row, '{') :: body → ¬Closed '{' '}' (chars inner)) :
    EndsOn code first last last

/-- The argument list, blanks, and a body that does not begin with a brace. -/
structure Bare (code args blanks body : List (Nat × Char)) : Prop where
  code_eq : code = args ++ (blanks ++ body)
  args_closed : FirstClosed '(' ')' (chars args)
  blanks_blank : allBlank (chars blanks) = true
  begins : ∃ c, (chars body).head? = some c ∧ isBlank c = false ∧ c ≠ '{'

/-! ## Following the code -/

/-- Prefixes of the characters are the characters of prefixes. -/
theorem exists_prefix_of_chars {front : List Char} (h : front <+: chars code) :
    ∃ start, start <+: code ∧ chars start = front := by
  obtain ⟨rest, hrest⟩ := h
  obtain ⟨start, tail, rfl, hstart, -⟩ := List.map_eq_append_iff.mp hrest.symm
  exact ⟨start, List.prefix_append start tail, hstart⟩

/-- A brace begins the body. -/
theorem run_blanks_brace (hblanks : allBlank (chars blanks) = true) (row : Nat) :
    BodyState.awaiting.run (chars (blanks ++ [(row, '{')])) = some (.braced 1) := by
  rw [chars_append]
  exact BodyState.run_awaiting_brace hblanks []

/-- A body that is closed ends with its brace. -/
theorem follow_braced (h : FirstClosed '{' '}' ('{' :: (chars inner ++ ['}']))) (stop : Nat) :
    (BodyState.braced 1).follow (inner ++ (stop, '}') :: tail) = .ended stop := by
  have hpart : '{' :: (chars inner ++ ['}']) <+: [] ++ '{' :: (chars inner ++ ['}']) :=
    List.prefix_refl _
  obtain ⟨same, hsame, hpending, hcount⟩ :=
    h.exists_inner counts_braced.ne List.not_mem_nil List.not_mem_nil hpart
  have heq : chars inner = same := List.append_cancel_right (List.cons.inj hsame).2
  obtain ⟨depth, hdepth, hrun⟩ := counts_braced.run (heq ▸ hpending)
  obtain rfl : depth = 1 := by
    rw [heq] at hdepth
    omega
  rw [BodyState.follow_append hrun, BodyState.follow_cons_none (by decide)]

/-- **The run over the code** comes to the row that the code tells, and not to a bare expression. -/
theorem follow_of_endsOn {front more : List Char} (hchars : chars code = front ++ '(' :: more)
    (hopening : '(' ∉ front) (hclosing : ')' ∉ front) (h : EndsOn code first last stop) :
    ((BodyState.arguments 0).follow code).lastRow first last = stop ∧
      ∀ depth, (BodyState.arguments 0).follow code ≠ .unfinished (.expression depth) := by
  have hpass : ∀ {args rest : List (Nat × Char)}, code = args ++ rest →
      FirstClosed '(' ')' (chars args) →
      (BodyState.arguments 0).follow code = BodyState.awaiting.follow rest := by
    rintro args rest rfl hargs
    have hpart : chars args <+: front ++ '(' :: more := by
      rw [← hchars, chars_append]
      exact List.prefix_append _ _
    exact BodyState.follow_append (run_arguments hopening hclosing hpart hargs) rest
  cases h with
  | unclosedArguments hopen =>
    obtain ⟨depth, hrun⟩ := run_unclosed hopening hclosing fun args hargs => by
      obtain ⟨tagged, htagged, rfl⟩ := exists_prefix_of_chars (hchars ▸ hargs)
      exact hopen tagged htagged
    rw [← hchars] at hrun
    rw [BodyState.follow_of_run hrun]
    exact ⟨rfl, by simp⟩
  | bodiless hcode hargs hrest =>
    rw [hpass hcode hargs, BodyState.follow_of_run (run_blank (List.all_eq_true.mp hrest) _)]
    exact ⟨rfl, by simp⟩
  | braced hcode hargs hblanks hbody =>
    rw [hpass hcode hargs, List.append_cons, BodyState.follow_append (run_blanks_brace hblanks _),
      follow_braced hbody]
    exact ⟨rfl, by simp⟩
  | @unclosedBody args blanks body row hcode hargs hblanks hopen =>
    have hnone : ∀ inner, inner <+: [] ++ '{' :: chars body → ¬Closed '{' '}' inner := by
      intro inner hinner
      have hin : inner <+: chars ((row, '{') :: body) := hinner
      obtain ⟨tagged, htagged, rfl⟩ := exists_prefix_of_chars hin
      exact hopen tagged htagged
    have hpending :=
      pending_of_not_closed counts_braced.ne List.not_mem_nil List.not_mem_nil hnone
    obtain ⟨depth, -, hrun⟩ := counts_braced.run hpending
    rw [hpass hcode hargs, List.append_cons, BodyState.follow_append (run_blanks_brace hblanks _),
      BodyState.follow_of_run hrun]
    exact ⟨rfl, by simp⟩

/-- The code below a declaration begins with the text in front of its argument list. -/
theorem exists_chars_codeBelow (hline : lines[start]? = some line)
    (hdecl : isDeclaration line = true) : ∃ front more,
      chars (codeBelow lines start) = front ++ '(' :: more ∧ '(' ∉ front ∧ ')' ∉ front := by
  obtain ⟨front, more, hcode, hopening, hclosing⟩ := exists_code_of_isDeclaration hdecl
  obtain ⟨hrow, hat⟩ := List.getElem?_eq_some_iff.mp hline
  have hdrop : lines.drop start = line :: lines.drop (start + 1) := by
    rw [List.drop_eq_getElem_cons hrow, hat]
  refine ⟨front, more ++ chars (codeFrom (start + 1) (ScanState.outside.scan line).2
    (lines.drop (start + 1))), ?_, hopening, hclosing⟩
  rw [codeBelow, hdrop, codeFrom, chars_append, chars_map, hcode, List.append_assoc,
    List.cons_append]

/-! ## All ways to end -/

/-- Blanks, and then the end or something that is not blank. -/
theorem exists_blanks (code : List (Nat × Char)) :
    ∃ blanks body, code = blanks ++ body ∧ allBlank (chars blanks) = true ∧
      (body = [] ∨ ∃ row c rest, body = (row, c) :: rest ∧ isBlank c = false) := by
  induction code with
  | nil => exact ⟨[], [], rfl, by simp, Or.inl rfl⟩
  | cons x code ih =>
    obtain ⟨row, c⟩ := x
    cases hc : isBlank c with
    | false => exact ⟨[], (row, c) :: code, rfl, by simp, Or.inr ⟨row, c, code, rfl, hc⟩⟩
    | true =>
      obtain ⟨blanks, body, rfl, hblanks, hbody⟩ := ih
      refine ⟨(row, c) :: blanks, body, rfl, ?_, hbody⟩
      rw [chars_cons, allBlank, List.all_cons, hc, Bool.true_and]
      exact hblanks

/-- What is closed first in code that begins with an opening bracket ends with a closing one. -/
theorem exists_inner_of_firstClosed {closed : List (Nat × Char)}
    (hclosed : closed <+: (row, '{') :: body) (h : FirstClosed '{' '}' (chars closed)) :
    ∃ inner stop tail, body = inner ++ (stop, '}') :: tail ∧
      FirstClosed '{' '}' ('{' :: (chars inner ++ ['}'])) := by
  obtain ⟨rest, hrest⟩ := hclosed
  have hpart : chars closed <+: [] ++ '{' :: chars body := ⟨chars rest, by
    rw [← chars_append, hrest]
    rfl⟩
  obtain ⟨between, hbetween, -⟩ :=
    h.exists_inner counts_braced.ne List.not_mem_nil List.not_mem_nil hpart
  rw [List.nil_append] at hbetween
  have hchars : chars body = between ++ '}' :: chars rest := by
    have hall := congrArg chars hrest
    rw [chars_append, hbetween, chars_cons, List.cons_append, List.append_assoc] at hall
    exact (List.cons.inj hall).2.symm
  obtain ⟨inner, more, rfl, rfl, hmore⟩ := List.map_eq_append_iff.mp hchars
  obtain ⟨⟨stop, c⟩, tail, rfl, rfl, -⟩ := List.map_eq_cons_iff.mp hmore
  exact ⟨inner, stop, tail, rfl, hbetween ▸ h⟩

/-- **There is no other way to end**, unless the body is a bare expression. -/
theorem endsOn_or_bare (code : List (Nat × Char)) (first last : Nat) :
    (∃ stop, EndsOn code first last stop) ∨ ∃ args blanks body, Bare code args blanks body := by
  by_cases hargs : ∃ args, args <+: code ∧ Closed '(' ')' (chars args)
  · obtain ⟨long, hlong, hclosed⟩ := hargs
    obtain ⟨least, hleast, hargs⟩ := exists_firstClosed hclosed
    obtain ⟨args, hpart, rfl⟩ := exists_prefix_of_chars hleast
    obtain ⟨rest, rfl⟩ := hpart.trans hlong
    obtain ⟨blanks, body, rfl, hblanks, rfl | ⟨row, c, body, rfl, hc⟩⟩ := exists_blanks rest
    · rw [List.append_nil]
      exact Or.inl ⟨first, .bodiless rfl hargs hblanks⟩
    · by_cases hbrace : c = '{'
      · subst hbrace
        by_cases hbody : ∃ inner, inner <+: (row, '{') :: body ∧ Closed '{' '}' (chars inner)
        · obtain ⟨long, hlong, hclosed⟩ := hbody
          obtain ⟨least, hleast, hfirst⟩ := exists_firstClosed hclosed
          obtain ⟨closed, hpart, rfl⟩ := exists_prefix_of_chars hleast
          obtain ⟨inner, stop, tail, rfl, hinner⟩ :=
            exists_inner_of_firstClosed (hpart.trans hlong) hfirst
          exact Or.inl ⟨stop, .braced rfl hargs hblanks hinner⟩
        · refine Or.inl ⟨last, .unclosedBody rfl hargs hblanks fun inner hinner hclosed => ?_⟩
          exact hbody ⟨inner, hinner, hclosed⟩
      · exact Or.inr ⟨args, blanks, (row, c) :: body, rfl, hargs, hblanks, c, rfl, hc, hbrace⟩
  · refine Or.inl ⟨last, .unclosedArguments fun args hpart hclosed => ?_⟩
    exact hargs ⟨args, hpart, hclosed⟩

/-! ## The end that is found -/

/-- **Where a function ends that has a body in braces, or none.**  From a line that declares a
function, the row that is found is the one that the code tells, and the code tells one unless the
body is a bare expression. -/
theorem bodyEnd_told_by_code (hline : lines[start]? = some line)
    (hdecl : isDeclaration line = true) :
    (∀ stop, EndsOn (codeBelow lines start) start (lines.length - 1) stop →
        bodyEnd lines start = stop) ∧
      ((∃ stop, EndsOn (codeBelow lines start) start (lines.length - 1) stop) ∨
        ∃ args blanks body, Bare (codeBelow lines start) args blanks body) := by
  refine ⟨fun stop h => ?_, endsOn_or_bare _ start (lines.length - 1)⟩
  obtain ⟨front, more, hchars, hopening, hclosing⟩ := exists_chars_codeBelow hline hdecl
  obtain ⟨hlast, hnot⟩ := follow_of_endsOn hchars hopening hclosing h
  rw [bodyEnd_eq_lastRow, scanBody_eq_follow rfl hnot]
  exact hlast

/-- Braces in a default argument, in strings and in a comment, and a body that begins on the next
line and ends in the middle of its last one. -/
theorem bodyEnd_told_by_code_many_braces :
    let lines := ["f <- function(x = \x7b 1 \x7d, y = \")\") # (".toList, "\x7b s <- \"\x7d".toList,
      "\x7d\" # \x7d".toList, "  if (x) \x7b x \x7d \x7d + g(".toList, ")".toList]
    lines[0]? = some "f <- function(x = \x7b 1 \x7d, y = \")\") # (".toList ∧
      isDeclaration "f <- function(x = \x7b 1 \x7d, y = \")\") # (".toList = true ∧
        EndsOn (codeBelow lines 0) 0 4 3 ∧ bodyEnd lines 0 = 3 := by
  intro lines
  have hline : lines[0]? = some "f <- function(x = \x7b 1 \x7d, y = \")\") # (".toList := rfl
  have hdecl : isDeclaration "f <- function(x = \x7b 1 \x7d, y = \")\") # (".toList = true := by
    decide +kernel
  have hcode : codeBelow lines 0 = (codeBelow lines 0).take 30 ++ ([(0, ' ')] ++ (1, '{') ::
      (((codeBelow lines 0).drop 32).take 22 ++ (3, '}') :: (codeBelow lines 0).drop 55)) := by
    decide +kernel
  have hends : EndsOn (codeBelow lines 0) 0 4 3 :=
    .braced hcode (by decide +kernel) (by decide +kernel) (by decide +kernel)
  exact ⟨hline, hdecl, hends, (bodyEnd_told_by_code hline hdecl).1 3 hends⟩

end DocSplice.Brace
