import DocSplice.Proofs.Brace.OneLine

/-!
# Lines and the whole text

The code of a file is read line by line, and the newlines between the lines are never looked at.  A
`Lexer` reads the text as one: a comment runs to the newline, and a backslash in a string takes the
next character along, also when that is the newline.

The two differ in one place.  A backslash at the end of a line is still waiting when the next line
begins, and there it takes a character along that the lexer reads.  It matters which one: a quote
ends the string or does not, and a backslash takes one more character along or does not.

* `ScanState.settled` is a scan that has come over a newline, and `EscapesNothing` says that for the
  next line this makes no difference.
* `lex_joinLines_cons`: the lexer reads every line from where the scan stands when it has settled.
* `codeFrom_eq_lex`: so it reads `Steady` lines as the scan does.
* `steady_iff`: no other condition will do, when it is to hold whatever the lines go on with.
-/

namespace DocSplice.Brace

open Text

variable {s t : ScanState} {lines front : List Text} {line rest : Text} {row : Nat} {c q : Char}

/-! ## A reader of whole texts -/

/-- Where a reader stands that goes through a text character by character. -/
inductive Lexer where
  /-- Outside strings and comments. -/
  | code
  /-- In a comment. -/
  | comment
  /-- In a string; `escaped` says whether a backslash takes the next character along. -/
  | string (closing : Char) (escaped : Bool)
  deriving DecidableEq, Repr

namespace Lexer

/-- What one more character does. -/
def step : Lexer → Char → Lexer
  | .code, c => if c = '#' then .comment else if ScanState.isQuote c then .string c false else .code
  | .comment, c => if c = '\n' then .code else .comment
  | .string closing true, _ => .string closing false
  | .string closing false, c =>
    if c = '\\' then .string closing true else if c = closing then .code else .string closing false

/-- Whether the character is code.  A newline is not; it stands on none of the lines. -/
def isCode : Lexer → Char → Bool
  | .code, c => c != '#' && !ScanState.isQuote c && c != '\n'
  | _, _ => false

/-- Where the reader stands behind a text. -/
def after (l : Lexer) (text : Text) : Lexer := text.foldl step l

/-- The code of a text that begins on the given row, each character with its row. -/
def lex (l : Lexer) (row : Nat) : Text → List (Nat × Char)
  | [] => []
  | c :: rest =>
    (if l.isCode c then [(row, c)] else []) ++
      (l.step c).lex (if c = '\n' then row + 1 else row) rest

/-- Where the reader stands that has read what a scan has read. -/
def ofScan (s : ScanState) : Lexer :=
  match s.quote with
  | none => .code
  | some closing => .string closing s.escaped

theorem lex_cons (l : Lexer) (row : Nat) (c : Char) (rest : Text) :
    l.lex row (c :: rest) = (if l.isCode c then [(row, c)] else []) ++
      (l.step c).lex (if c = '\n' then row + 1 else row) rest := rfl

theorem isCode_newline (l : Lexer) : l.isCode '\n' = false := by
  cases l <;> rfl

/-- A line, the newline behind it and what follows. -/
theorem lex_append_newline (l : Lexer) (row : Nat) (hline : '\n' ∉ line) (rest : Text) :
    l.lex row (line ++ '\n' :: rest) =
      l.lex row line ++ ((l.after line).step '\n').lex (row + 1) rest := by
  induction line generalizing l with
  | nil =>
    rw [List.nil_append, lex_cons, isCode_newline]
    rfl
  | cons c line ih =>
    have hc : c ≠ '\n' := fun hc => hline (hc ▸ List.mem_cons_self)
    rw [List.cons_append, lex_cons, if_neg hc,
      ih _ fun hmem => hline (List.mem_cons_of_mem c hmem), lex_cons, if_neg hc, List.append_assoc]
    rfl

/-- A comment runs to the end of its line. -/
theorem lex_comment (hline : '\n' ∉ line) (row : Nat) :
    comment.lex row line = [] ∧ comment.after line = comment := by
  induction line with
  | nil => exact ⟨rfl, rfl⟩
  | cons c line ih =>
    have hc : c ≠ '\n' := fun hc => hline (hc ▸ List.mem_cons_self)
    have hstep : comment.step c = comment := if_neg hc
    obtain ⟨hlex, hafter⟩ := ih fun hmem => hline (List.mem_cons_of_mem c hmem)
    refine ⟨?_, ?_⟩
    · rw [lex_cons, hstep, if_neg hc, hlex]
      rfl
    · rw [after, List.foldl_cons, hstep]
      exact hafter

end Lexer

/-! ## States of the scan -/

namespace ScanState

/-- A scan can come to this state from outside: a backslash waits only in a string, and only quotes
open one. -/
structure Proper (s : ScanState) : Prop where
  escaped_eq : s.quote = none → s.escaped = false
  isQuote_of_quote : ∀ q, s.quote = some q → isQuote q = true

theorem proper_outside : outside.Proper where
  escaped_eq _ := rfl
  isQuote_of_quote q hq := absurd hq (by simp [outside])

theorem Proper.scan (h : s.Proper) (line : Text) : (s.scan line).2.Proper where
  escaped_eq := escaped_scan h.escaped_eq
  isQuote_of_quote _ hq := isQuote_of_scan h.isQuote_of_quote hq

theorem Proper.ne_of_quote (h : s.Proper) (hq : s.quote = some q) (hc : isQuote c = false) :
    c ≠ q := by
  rintro rfl
  rw [h.isQuote_of_quote c hq] at hc
  exact absurd hc (by simp)

theorem proper_scanAfter (h : s.Proper) (lines : List Text) : (scanAfter s lines).Proper := by
  induction lines generalizing s with
  | nil => exact h
  | cons line rest ih => exact ih (h.scan line)

/-- No backslash waits any more. -/
def settled (s : ScanState) : ScanState := { s with escaped := false }

@[simp] theorem quote_settled (s : ScanState) : s.settled.quote = s.quote := rfl

@[simp] theorem escaped_settled (s : ScanState) : s.settled.escaped = false := rfl

theorem settled_eq_self (h : s.escaped = false) : s.settled = s := by
  rw [settled, ← h]

theorem Proper.settled (h : s.Proper) : s.settled.Proper where
  escaped_eq _ := rfl
  isQuote_of_quote := h.isQuote_of_quote

/-- The backslash that waits in front of a line takes nothing along that matters: the first
character is neither the quote that ends the string nor a backslash. -/
def EscapesNothing (s : ScanState) : Text → Prop
  | [] => True
  | c :: _ => s.escaped = true → c ≠ '\\' ∧ s.quote ≠ some c

instance (s : ScanState) (line : Text) : Decidable (s.EscapesNothing line) :=
  match line with
  | [] => isTrue trivial
  | c :: _ => inferInstanceAs (Decidable (s.escaped = true → c ≠ '\\' ∧ s.quote ≠ some c))

/-- The states are the same, but that in the second one no backslash may wait. -/
def Alike (s t : ScanState) : Prop := t = s ∨ t = s.settled

theorem Alike.settled_eq (h : s.Alike t) : t.settled = s.settled := by
  rcases h with rfl | rfl
  · rfl
  · rfl

theorem Alike.quote_eq (h : s.Alike t) : t.quote = s.quote := by
  rcases h with rfl | rfl
  · rfl
  · rfl

theorem Alike.settled (h : s.Alike t) : s.Alike t.settled := Or.inr h.settled_eq

theorem Alike.proper (h : s.Alike t) (hs : s.Proper) : t.Proper := by
  rcases h with rfl | rfl
  · exact hs
  · exact hs.settled

/-- **Where the backslash takes nothing along** it makes no difference that it waits. -/
theorem scan_settled (hs : s.Proper) (h : s.EscapesNothing line) :
    (s.settled.scan line).1 = (s.scan line).1 ∧
      (s.scan line).2.Alike (s.settled.scan line).2 := by
  cases hescaped : s.escaped with
  | false =>
    rw [settled_eq_self hescaped]
    exact ⟨rfl, Or.inl rfl⟩
  | true =>
    cases line with
    | nil =>
      rw [scan_nil, scan_nil]
      exact ⟨rfl, Or.inr rfl⟩
    | cons c rest =>
      obtain ⟨hbackslash, hquote⟩ := h hescaped
      obtain ⟨q, hq⟩ : ∃ q, s.quote = some q := by
        refine Option.ne_none_iff_exists'.mp fun hnone => ?_
        rw [hs.escaped_eq hnone] at hescaped
        exact absurd hescaped (by simp)
      have hcloses : c ≠ q := fun hc => hquote (hc ▸ hq)
      have hsame : s.settled.scan (c :: rest) = s.scan (c :: rest) := by
        simp [scan, hq, hescaped, hbackslash, hcloses, settled]
      rw [hsame]
      exact ⟨rfl, Or.inl rfl⟩

end ScanState

/-! ## One line -/

open ScanState

/-- One character that begins no comment, read by both. -/
theorem step_ofScan (hs : s.Proper) (h : ¬(s.quote = none ∧ c = '#')) (hc : c ≠ '\n') (row : Nat) :
    (Lexer.ofScan s).step c = .ofScan (s.scan [c]).2 ∧
      (if (Lexer.ofScan s).isCode c then [(row, c)] else []) = (s.scan [c]).1.map (row, ·) := by
  obtain ⟨quote, escaped⟩ := s
  cases quote with
  | some q =>
    cases escaped with
    | true => simp [Lexer.ofScan, Lexer.step, Lexer.isCode, scan]
    | false =>
      by_cases hbackslash : c = '\\'
      · simp [Lexer.ofScan, Lexer.step, Lexer.isCode, scan, hbackslash]
      · by_cases hcloses : c = q
        · subst hcloses
          simp [Lexer.ofScan, Lexer.step, Lexer.isCode, scan, hbackslash]
        · simp [Lexer.ofScan, Lexer.step, Lexer.isCode, scan, hbackslash, hcloses]
  | none =>
    obtain rfl : escaped = false := hs.escaped_eq rfl
    have hcomment : c ≠ '#' := fun heq => h ⟨rfl, heq⟩
    by_cases hopens : isQuote c = true
    · simp [Lexer.ofScan, Lexer.step, Lexer.isCode, scan, hcomment, hopens]
    · simp [Lexer.ofScan, Lexer.step, Lexer.isCode, scan, hcomment, hopens, hc]

/-- Behind a newline the reader stands where the scan stands when it has settled. -/
theorem step_newline (hs : s.Proper) : (Lexer.ofScan s).step '\n' = .ofScan s.settled := by
  cases hquote : s.quote with
  | none =>
    rw [Lexer.ofScan, Lexer.ofScan, quote_settled, hquote]
    rfl
  | some q =>
    have hne : '\n' ≠ q := hs.ne_of_quote hquote (by decide)
    rw [Lexer.ofScan, Lexer.ofScan, quote_settled, hquote, escaped_settled]
    cases s.escaped with
    | true => rfl
    | false => simp [Lexer.step, hne]

/-- **One line**, read by both. -/
theorem lex_line (hs : s.Proper) (hline : '\n' ∉ line) (row : Nat) :
    (Lexer.ofScan s).lex row line = (s.scan line).1.map (row, ·) ∧
      ((Lexer.ofScan s).after line).step '\n' = .ofScan (s.scan line).2.settled := by
  induction line generalizing s with
  | nil =>
    rw [scan_nil]
    exact ⟨rfl, step_newline hs⟩
  | cons c line ih =>
    have hc : c ≠ '\n' := fun hc => hline (hc ▸ List.mem_cons_self)
    have hrest : '\n' ∉ line := fun hmem => hline (List.mem_cons_of_mem c hmem)
    by_cases hcomment : s.quote = none ∧ c = '#'
    · obtain ⟨hquote, rfl⟩ := hcomment
      obtain ⟨hlex, hafter⟩ := Lexer.lex_comment hrest row
      have hstart : Lexer.ofScan s = .code := by
        rw [Lexer.ofScan, hquote]
      have hscan : s.scan ('#' :: line) = ([], s) := by
        simp [scan, hquote]
      have hstep : Lexer.code.step '#' = .comment := rfl
      rw [hscan, hstart, Lexer.ofScan, quote_settled, hquote]
      refine ⟨?_, ?_⟩
      · rw [Lexer.lex_cons, if_neg hc, hstep, hlex]
        rfl
      · rw [Lexer.after, List.foldl_cons, hstep, ← Lexer.after, hafter]
        rfl
    · obtain ⟨hstep, hcode⟩ := step_ofScan hs hcomment hc row
      obtain ⟨hlex, hafter⟩ := ih (hs.scan [c]) hrest
      rw [scan_cons hcomment]
      refine ⟨?_, ?_⟩
      · rw [Lexer.lex_cons, if_neg hc, hstep, hcode, hlex, List.map_append]
      · rw [Lexer.after, List.foldl_cons, hstep]
        exact hafter

/-- **The lexer reads every line** from where the scan stands when it has settled. -/
theorem lex_joinLines_cons (hs : s.Proper) (hline : '\n' ∉ line) (rest : List Text) :
    (Lexer.ofScan s).lex row (joinLines (line :: rest)) = (s.scan line).1.map (row, ·) ++
      (Lexer.ofScan (s.scan line).2.settled).lex (row + 1) (joinLines rest) := by
  obtain ⟨hlex, hafter⟩ := lex_line hs hline row
  cases rest with
  | nil => rw [joinLines, joinLines, join_singleton, join_nil, hlex, Lexer.lex, List.append_nil]
  | cons next rest =>
    rw [joinLines, join_cons_cons, Lexer.lex_append_newline _ _ hline, hlex, hafter]
    rfl

/-! ## Steady lines -/

/-- No backslash at the end of a line takes anything along that matters. -/
def Steady (s : ScanState) : List Text → Prop
  | [] => True
  | line :: rest => s.EscapesNothing line ∧ Steady (s.scan line).2 rest

instance decidableSteady (s : ScanState) : (lines : List Text) → Decidable (Steady s lines)
  | [] => isTrue trivial
  | line :: rest =>
    have := decidableSteady (s.scan line).2 rest
    inferInstanceAs (Decidable (s.EscapesNothing line ∧ Steady (s.scan line).2 rest))

theorem steady_append (s : ScanState) (front below : List Text) :
    Steady s (front ++ below) ↔ Steady s front ∧ Steady (scanAfter s front) below := by
  induction front generalizing s with
  | nil => exact (and_iff_right trivial).symm
  | cons line front ih =>
    rw [List.cons_append, Steady, Steady, ih, and_assoc]
    rfl

/-- The lines, read one by one from outside of strings, have the code that a lexer finds in them. -/
def ReadsAlike (lines : List Text) : Prop :=
  codeFrom 0 .outside lines = Lexer.code.lex 0 (joinLines lines)

instance (lines : List Text) : Decidable (ReadsAlike lines) :=
  inferInstanceAs (Decidable (codeFrom 0 .outside lines = Lexer.code.lex 0 (joinLines lines)))

/-- **Steady lines** are read as the lexer reads them. -/
theorem codeFrom_eq_lex (hs : s.Proper) (hlines : ∀ line ∈ lines, '\n' ∉ line)
    (h : Steady s lines) (row : Nat) :
    codeFrom row s lines = (Lexer.ofScan s.settled).lex row (joinLines lines) := by
  induction lines generalizing s row with
  | nil => rfl
  | cons line rest ih =>
    obtain ⟨hline, hrest⟩ := List.forall_mem_cons.mp hlines
    obtain ⟨hcode, halike⟩ := scan_settled hs h.1
    rw [lex_joinLines_cons hs.settled hline, hcode, halike.settled_eq, codeFrom,
      ih (hs.scan line) hrest h.2]

theorem readsAlike_of_steady (hlines : ∀ line ∈ lines, '\n' ∉ line)
    (h : Steady .outside lines) : ReadsAlike lines := codeFrom_eq_lex proper_outside hlines h 0

/-- One more line is read alike when it has the same code from where the scan stands and from where
the scan stands when it has settled. -/
theorem codeFrom_concat_eq_lex_iff (hs : s.Proper) (hfront : ∀ line ∈ front, '\n' ∉ line)
    (hline : '\n' ∉ line) (h : Steady s front) (row : Nat) :
    codeFrom row s (front ++ [line]) =
        (Lexer.ofScan s.settled).lex row (joinLines (front ++ [line])) ↔
      ((scanAfter s front).scan line).1 = ((scanAfter s front).settled.scan line).1 := by
  induction front generalizing s row with
  | nil =>
    have hjoin : joinLines [] = [] := rfl
    rw [List.nil_append, lex_joinLines_cons hs.settled hline, codeFrom, codeFrom, hjoin, Lexer.lex,
      List.append_nil, List.append_nil]
    exact (List.map_injective_iff.mpr fun _ _ h => (Prod.mk.inj h).2).eq_iff
  | cons top front ih =>
    obtain ⟨htop, hbelow⟩ := List.forall_mem_cons.mp hfront
    obtain ⟨hcode, halike⟩ := scan_settled hs h.1
    rw [List.cons_append, lex_joinLines_cons hs.settled htop, hcode, halike.settled_eq, codeFrom,
      List.append_cancel_left_eq, ih (hs.scan top) hbelow h.2]
    rfl

/-- A backslash that takes something along is seen by what the line may go on with. -/
theorem escapesNothing_of_scan (hs : s.Proper)
    (h : ∀ tail, '\n' ∉ tail → (s.scan (c :: tail)).1 = (s.settled.scan (c :: tail)).1) :
    s.EscapesNothing (c :: rest) := by
  intro hescaped
  obtain ⟨quote, escaped⟩ := s
  obtain rfl : escaped = true := hescaped
  cases quote with
  | none => exact absurd (hs.escaped_eq rfl) (by simp)
  | some q =>
    have hq : isQuote q = true := hs.isQuote_of_quote q rfl
    have hbackslash : '\\' ≠ q := fun heq => by
      rw [← heq] at hq
      exact absurd hq (by decide)
    have hletter : 'a' ≠ q := fun heq => by
      rw [← heq] at hq
      exact absurd hq (by decide)
    have hnewline : '\n' ≠ q := fun heq => by
      rw [← heq] at hq
      exact absurd hq (by decide)
    have hplain : isQuote 'a' = false := rfl
    refine ⟨?_, ?_⟩
    · -- one reads the quote behind a second backslash, to the other it is escaped
      rintro rfl
      have htail := h [q, 'a'] (by simp [hnewline])
      simp [scan, settled, hbackslash.symm, hletter, hplain] at htail
    · -- to one the string is closed, to the other it is not
      intro heq
      obtain rfl : q = c := Option.some.inj heq
      have htail := h ['a'] (by simp)
      simp [scan, settled, hbackslash.symm, hletter, hplain] at htail

/-- **Steady lines are those that are read alike whatever they go on with** behind their first
characters. -/
theorem steady_iff (hlines : ∀ line ∈ lines, '\n' ∉ line) : Steady .outside lines ↔
    ∀ front c rest tail, front ++ [c :: rest] <+: lines → '\n' ∉ tail →
      ReadsAlike (front ++ [c :: tail]) := by
  constructor
  · intro h front c rest tail hpart htail
    obtain ⟨below, rfl⟩ := hpart
    have hmem : ∀ line ∈ front ++ [c :: rest], '\n' ∉ line :=
      fun line hline => hlines line (List.mem_append_left below hline)
    obtain ⟨hfront, hfirst, -⟩ := (steady_append _ front [c :: rest]).mp
      ((steady_append _ (front ++ [c :: rest]) below).mp h).1
    have hc : '\n' ≠ c := fun hc =>
      hmem (c :: rest) (by simp) (hc ▸ List.mem_cons_self)
    refine readsAlike_of_steady (fun line hline => ?_)
      ((steady_append _ front [c :: tail]).mpr ⟨hfront, hfirst, trivial⟩)
    rcases List.mem_append.mp hline with hline | hline
    · exact hmem line (List.mem_append_left _ hline)
    · rw [List.mem_singleton.mp hline, List.mem_cons, not_or]
      exact ⟨hc, htail⟩
  · intro h
    induction lines using List.reverseRecOn with
    | nil => trivial
    | append_singleton above line ih =>
      have habove : ∀ line ∈ above, '\n' ∉ line :=
        fun l hl => hlines l (List.mem_append_left _ hl)
      have hsteady := ih habove fun front c rest tail hpart =>
        h front c rest tail (hpart.trans (List.prefix_append above [line]))
      refine (steady_append _ above [line]).mpr ⟨hsteady, ?_, trivial⟩
      cases line with
      | nil => trivial
      | cons c rest =>
        have hc : '\n' ≠ c := fun hc =>
          hlines (c :: rest) (by simp) (hc ▸ List.mem_cons_self)
        refine escapesNothing_of_scan (proper_scanAfter proper_outside above) fun tail htail => ?_
        refine (codeFrom_concat_eq_lex_iff proper_outside habove ?_ hsteady 0).mp
          (h above c rest tail (List.prefix_refl _) htail)
        rw [List.mem_cons, not_or]
        exact ⟨hc, htail⟩

end DocSplice.Brace
