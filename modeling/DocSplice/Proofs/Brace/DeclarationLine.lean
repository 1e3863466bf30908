import DocSplice.Proofs.Brace.CodeStream

/-!
# The line of a declaration

Up to the parenthesis that opens the argument list, a declaration is names, an arrow and blanks: no
bracket, no quote and no comment.  So all of that is code, the parenthesis is the first one, and the
list ends where the parentheses are balanced for the first time.

* `beforeComment`: a line without its comment.  A line that is cut has the code of its parts
  (`scan_append`), unless a comment begins in the first one.
* `exists_front`: the text in front of the argument list.
* `run_arguments` and `run_unclosed`: the scan of a body through the argument list, told by
  `FirstClosed`.
-/

namespace DocSplice.Brace

open Text

variable {line name a t : Text} {s : ScanState} {c : Char}

/-! ## Parts of a line -/

namespace ScanState

/-- The text in front of the comment. -/
def beforeComment (s : ScanState) : Text → Text
  | [] => []
  | c :: rest =>
    if s.quote = none ∧ c = '#' then [] else c :: beforeComment (s.scan [c]).2 rest

theorem beforeComment_cons (h : ¬(s.quote = none ∧ c = '#')) (rest : Text) :
    s.beforeComment (c :: rest) = c :: (s.scan [c]).2.beforeComment rest := by
  rw [beforeComment, if_neg h]

/-- A character that begins no comment is scanned by itself. -/
theorem scan_cons (h : ¬(s.quote = none ∧ c = '#')) (rest : Text) :
    s.scan (c :: rest) = ((s.scan [c]).1 ++ ((s.scan [c]).2.scan rest).1,
      ((s.scan [c]).2.scan rest).2) := by
  cases hquote : s.quote with
  | some q =>
    by_cases hescaped : s.escaped = true
    · simp [scan, hquote, hescaped]
    · by_cases hbackslash : c = '\\'
      · simp [scan, hquote, hescaped, hbackslash]
      · by_cases hcloses : c = q
        · subst hcloses
          simp [scan, hquote, hescaped, hbackslash]
        · simp [scan, hquote, hescaped, hbackslash, hcloses]
  | none =>
    have hcomment : c ≠ '#' := fun heq => h ⟨hquote, heq⟩
    by_cases hopens : isQuote c = true
    · simp [scan, hquote, hcomment, hopens]
    · simp [scan, hquote, hcomment, hopens]

/-- Cutting a line cuts its code. -/
theorem scan_append (h : s.beforeComment a = a) (b : Text) :
    s.scan (a ++ b) = ((s.scan a).1 ++ ((s.scan a).2.scan b).1, ((s.scan a).2.scan b).2) := by
  induction a generalizing s with
  | nil => simp
  | cons c a ih =>
    by_cases hcomment : s.quote = none ∧ c = '#'
    · rw [beforeComment, if_pos hcomment] at h
      exact absurd h (by simp)
    · rw [beforeComment_cons hcomment] at h
      rw [List.cons_append, scan_cons hcomment, ih (List.cons.inj h).2, scan_cons hcomment a,
        List.append_assoc]

theorem beforeComment_append (h : s.beforeComment a = a) (b : Text) :
    s.beforeComment (a ++ b) = a ++ (s.scan a).2.beforeComment b := by
  induction a generalizing s with
  | nil => rw [scan_nil, List.nil_append, List.nil_append]
  | cons c a ih =>
    by_cases hcomment : s.quote = none ∧ c = '#'
    · rw [beforeComment, if_pos hcomment] at h
      exact absurd h (by simp)
    · rw [beforeComment_cons hcomment] at h
      rw [List.cons_append, beforeComment_cons hcomment, ih (List.cons.inj h).2,
        scan_cons hcomment a, List.cons_append]

theorem beforeComment_of_append {b : Text} (h : s.beforeComment (a ++ b) = a ++ b) :
    s.beforeComment a = a := by
  induction a generalizing s with
  | nil => rfl
  | cons c a ih =>
    by_cases hcomment : s.quote = none ∧ c = '#'
    · rw [List.cons_append, beforeComment, if_pos hcomment] at h
      exact absurd h (by simp)
    · rw [List.cons_append, beforeComment_cons hcomment] at h
      rw [beforeComment_cons hcomment, ih (List.cons.inj h).2]

/-- The comment of a line is not looked at, and what is left has none. -/
theorem scan_beforeComment (s : ScanState) (t : Text) :
    s.scan (s.beforeComment t) = s.scan t ∧
      s.beforeComment (s.beforeComment t) = s.beforeComment t := by
  induction t generalizing s with
  | nil => exact ⟨rfl, rfl⟩
  | cons c t ih =>
    by_cases hcomment : s.quote = none ∧ c = '#'
    · rw [beforeComment, if_pos hcomment, scan_nil]
      refine ⟨?_, rfl⟩
      rw [scan, hcomment.1, hcomment.2]
      rfl
    · obtain ⟨hscan, hbefore⟩ := ih (s.scan [c]).2
      rw [beforeComment_cons hcomment, scan_cons hcomment, hscan, ← scan_cons hcomment t,
        beforeComment_cons hcomment, hbefore]
      exact ⟨rfl, rfl⟩

end ScanState

/-- Text without quotes and comments is code. -/
theorem scan_plain (h : ∀ c ∈ t, c ≠ '#' ∧ ScanState.isQuote c = false) :
    ScanState.outside.scan t = (t, .outside) ∧ ScanState.outside.beforeComment t = t := by
  induction t with
  | nil => exact ⟨by simp, rfl⟩
  | cons c t ih =>
    obtain ⟨hcomment, hquote⟩ := h c List.mem_cons_self
    obtain ⟨hscan, hbefore⟩ := ih fun d hd => h d (List.mem_cons_of_mem c hd)
    have hnot : ¬(ScanState.outside.quote = none ∧ c = '#') := fun hboth => hcomment hboth.2
    have hfirst : ScanState.outside.scan [c] = ([c], .outside) := by
      simp [ScanState.scan, ScanState.outside, hcomment, hquote]
    rw [ScanState.scan_cons hnot, ScanState.beforeComment_cons hnot, hfirst, hscan, hbefore]
    exact ⟨rfl, rfl⟩

/-! ## In front of the argument list -/

/-- The characters that open or close something: parentheses, quotes and comments. -/
def delimiters : List Char := ['(', ')', '#', '"', '\'', '\x60']

/-- No part of a declaration holds one of them. -/
theorem delimiters_spec (h : c ∈ delimiters) : isBlank c = false ∧ startsName c = false ∧
    continuesName c = false ∧ ∀ choice ∈ assignments ++ functionWords, c ∉ choice := by
  simp only [delimiters, List.mem_cons, List.not_mem_nil, or_false] at h
  rcases h with rfl | rfl | rfl | rfl | rfl | rfl <;>
    exact ⟨by decide, by decide, by decide +kernel, by decide⟩

theorem exists_of_afterOneOf? {choices : List Text} {rest : Text}
    (h : afterOneOf? choices t = some rest) : ∃ choice ∈ choices, t = choice ++ rest := by
  obtain ⟨choice, hchoice, hstrip⟩ := List.exists_of_findSome?_eq_some h
  exact ⟨choice, hchoice, (List.isPrefixOf?_eq_some_iff_append_eq.mp hstrip).symm⟩

/-- **In front of the argument list** there are no brackets, quotes or comments. -/
theorem exists_front (h : declaredName? line = some name) :
    ∃ front more, line = front ++ '(' :: more ∧ ∀ c ∈ delimiters, c ∉ front := by
  have hindent : ∀ c ∈ delimiters, ∀ t : Text, c ∉ indent t := fun c hc t hmem =>
    Bool.false_ne_true ((delimiters_spec hc).1.symm.trans (isBlank_of_mem_indent hmem))
  unfold declaredName? at h
  split at h
  · exact absurd h (by simp)
  · rename_i first t htrim
    split at h
    · rename_i hfirst
      simp only [Option.bind_eq_bind, Option.bind_eq_some_iff] at h
      obtain ⟨value, hvalue, arguments, harguments, hname⟩ := h
      obtain ⟨arrow, harrow, htail⟩ := exists_of_afterOneOf? hvalue
      obtain ⟨word, hword, hrest⟩ := exists_of_afterOneOf? harguments
      obtain ⟨more, hmore⟩ : ∃ more, trimStart arguments = '(' :: more := by
        split at hname
        · rename_i hparen
          exact List.head?_eq_some_iff.mp hparen
        · exact absurd hname (by simp)
      refine ⟨indent line ++ first :: (t.takeWhile continuesName ++
        (indent (t.dropWhile continuesName) ++ (arrow ++ (indent value ++ (word ++
          indent arguments))))), more, ?_, fun c hc hmem => ?_⟩
      · conv => lhs; rw [← indent_append_trimStart line, htrim]
        conv => lhs; rw [← List.takeWhile_append_dropWhile (p := continuesName) (l := t)]
        conv => lhs; rw [← indent_append_trimStart (t.dropWhile continuesName), htail]
        conv => lhs; rw [← indent_append_trimStart value, hrest]
        conv => lhs; rw [← indent_append_trimStart arguments, hmore]
        simp only [List.append_assoc, List.cons_append]
      · simp only [List.mem_append, List.mem_cons] at hmem
        rcases hmem with hin | rfl | hin | hin | hin | hin | hin | hin
        · exact hindent c hc _ hin
        · rw [(delimiters_spec hc).2.1] at hfirst
          exact Bool.false_ne_true hfirst
        · have hgoes := List.all_eq_true.mp (List.all_takeWhile (p := continuesName) (l := t)) c hin
          rw [(delimiters_spec hc).2.2.1] at hgoes
          exact Bool.false_ne_true hgoes
        · exact hindent c hc _ hin
        · exact (delimiters_spec hc).2.2.2 arrow (List.mem_append_left _ harrow) hin
        · exact hindent c hc _ hin
        · exact (delimiters_spec hc).2.2.2 word (List.mem_append_right _ hword) hin
        · exact hindent c hc _ hin
    · exact absurd h (by simp)

/-- The code of a declaration begins with what stands in front of the argument list, and with the
parenthesis that opens it. -/
theorem exists_code_of_isDeclaration (h : isDeclaration line = true) : ∃ front more,
    (ScanState.outside.scan line).1 = front ++ '(' :: more ∧ '(' ∉ front ∧ ')' ∉ front := by
  obtain ⟨name, hname⟩ := Option.isSome_iff_exists.mp h
  obtain ⟨front, more, rfl, hfront⟩ := exists_front hname
  have hplain : ∀ c ∈ front ++ ['('], c ≠ '#' ∧ ScanState.isQuote c = false := by
    intro c hc
    rcases List.mem_append.mp hc with hin | hparen
    · have hnot : ∀ d ∈ delimiters, c ≠ d := by
        rintro d hd rfl
        exact hfront c hd hin
      refine ⟨hnot '#' (by decide), ?_⟩
      simp [ScanState.isQuote, hnot '"' (by decide), hnot '\'' (by decide), hnot '\x60' (by decide)]
    · rw [List.mem_singleton.mp hparen]
      decide
  obtain ⟨hscan, hbefore⟩ := scan_plain hplain
  refine ⟨front, (ScanState.outside.scan more).1, ?_, hfront _ (by decide), hfront _ (by decide)⟩
  rw [List.append_cons, ScanState.scan_append hbefore, hscan, ← List.append_cons]

/-! ## Through the argument list -/

variable {front more args : List Char}

/-- **The argument list is passed** when its parentheses are balanced for the first time. -/
theorem run_arguments (hopening : '(' ∉ front) (hclosing : ')' ∉ front)
    (hcode : args <+: front ++ '(' :: more) (h : FirstClosed '(' ')' args) :
    (BodyState.arguments 0).run args = some .awaiting := by
  obtain ⟨inner, rfl, hpending, hcount⟩ :=
    h.exists_inner counts_arguments.ne hopening hclosing hcode
  obtain ⟨last, hlast, hrun⟩ := counts_arguments.run hpending
  obtain rfl : last = 1 := by omega
  have hopens : (BodyState.arguments 0).step '(' = some (.arguments 1) := counts_arguments.opens 0
  have hcloses : (BodyState.arguments 1).run [')'] = some .awaiting := by decide
  rw [BodyState.run_append, counts_arguments.run_other hopening hclosing, Option.bind_some,
    BodyState.run_cons, hopens, Option.bind_some, BodyState.run_append, hrun, Option.bind_some,
    hcloses]

/-- An argument list that is never closed is never left. -/
theorem run_unclosed (hopening : '(' ∉ front) (hclosing : ')' ∉ front)
    (h : ∀ args, args <+: front ++ '(' :: more → ¬Closed '(' ')' args) :
    ∃ depth, (BodyState.arguments 0).run (front ++ '(' :: more) = some (.arguments depth) := by
  obtain ⟨last, -, hrun⟩ := counts_arguments.run
    (pending_of_not_closed counts_arguments.ne hopening hclosing h)
  have hopens : (BodyState.arguments 0).step '(' = some (.arguments 1) := counts_arguments.opens 0
  refine ⟨last, ?_⟩
  rw [BodyState.run_append, counts_arguments.run_other hopening hclosing, Option.bind_some,
    BodyState.run_cons, hopens, Option.bind_some, hrun]

end DocSplice.Brace
