import DocSplice.Proofs.Brace.Rendering

/-!
# Extraction line by line

`items` follows strings and brackets from the top of the file, and where it finds a declaration it
looks ahead for the end of the body and skips the lines up to there.  In a file that leaves no
string open at the end of a line all of this can be done one line at a time.

* `ClosesStrings`: the strings that a line opens are closed on it, so that a scan that begins a line
  outside every string ends it outside every string (`scan_closes`).
* `Position`: where extraction stands between two lines --- between functions, or inside the body of
  the one found last.  `Position.after` takes it over one line.
* `foundFrom`: the rows and names of the functions.  The only thing it looks ahead for is whether a
  function has a body at all (`Bodiless`), since extraction goes on below the declaration of one
  that has none.
* `items_eq`: the items of such a file are the functions found, each with what its row decides.

Marked lines hardly matter.  One of them ends the body of a function that asked for more on the line
above, and that is all: `after_marked` says what it does to a position, a second one does nothing
(`pastMarked_pastMarked`), and `bodiless_iff` says that they never decide whether a function has a
body.
-/

namespace DocSplice.Brace

/-! ## Blank characters are no code -/

theorem ne_of_isBlank {c d : Char} (hc : isBlank c = true) (hd : isBlank d = false) : c ≠ d := by
  rintro rfl
  rw [hc] at hd
  exact absurd hd (by simp)

theorem nesting_blank {c : Char} (h : isBlank c = true) (depth : Nat) :
    nesting depth c = depth := by
  have hne : ∀ d : Char, isBlank d = false → c ≠ d := fun d hd => ne_of_isBlank h hd
  simp [nesting, hne '(' (by decide), hne '[' (by decide), hne '{' (by decide),
    hne ')' (by decide), hne ']' (by decide), hne '}' (by decide)]

theorem callNesting_blank {c : Char} (h : isBlank c = true) (depth : Nat) :
    callNesting depth c = depth := by
  have hne : ∀ d : Char, isBlank d = false → c ≠ d := fun d hd => ne_of_isBlank h hd
  simp [callNesting, hne '(' (by decide), hne '[' (by decide), hne ')' (by decide),
    hne ']' (by decide)]

/-- A depth that no blank changes is not changed by blanks. -/
theorem foldl_blank {f : Nat → Char → Nat}
    (hf : ∀ {c}, isBlank c = true → ∀ depth, f depth c = depth) {code : List Char}
    (h : ∀ c ∈ code, isBlank c = true) (depth : Nat) : code.foldl f depth = depth := by
  induction code with
  | nil => rfl
  | cons c code ih =>
    rw [List.foldl_cons, hf (h c List.mem_cons_self)]
    exact ih fun d hd => h d (List.mem_cons_of_mem c hd)

theorem step_blank {c : Char} (h : isBlank c = true) (state : BodyState) :
    state.step c = some state := by
  have hne : ∀ d : Char, isBlank d = false → c ≠ d := fun d hd => ne_of_isBlank h hd
  cases state with
  | arguments parens => simp [BodyState.step, hne '(' (by decide), hne ')' (by decide)]
  | awaiting => simp [BodyState.step, hne '{' (by decide), h]
  | braced depth => simp [BodyState.step, hne '{' (by decide), hne '}' (by decide)]
  | expression depth => simp [BodyState.step, nesting_blank h]

theorem run_blank {code : List Char} (h : ∀ c ∈ code, isBlank c = true) (state : BodyState) :
    state.run code = some state := by
  induction code with
  | nil => rfl
  | cons c code ih =>
    rw [BodyState.run_cons, step_blank (h c List.mem_cons_self), Option.bind_some]
    exact ih fun d hd => h d (List.mem_cons_of_mem c hd)

/-- An expression that has begun goes on, and the brackets are all that matters. -/
theorem run_expression (depth : Nat) (code : List Char) :
    (BodyState.expression depth).run code = some (.expression (code.foldl nesting depth)) := by
  induction code generalizing depth with
  | nil => rfl
  | cons c code ih => exact ih (nesting depth c)

theorem isQuote_blank {c : Char} (h : isBlank c = true) : ScanState.isQuote c = false := by
  have hne : ∀ d : Char, isBlank d = false → c ≠ d := fun d hd => ne_of_isBlank h hd
  simp [ScanState.isQuote, hne '"' (by decide), hne '\'' (by decide), hne '\x60' (by decide)]

/-- Where the code of a line stops is not a matter of the blanks behind it. -/
theorem endsWithOperator_append_blank {blanks : List Char} (h : ∀ c ∈ blanks, isBlank c = true)
    (code : List Char) : endsWithOperator (code ++ blanks) = endsWithOperator code := by
  have hnone : blanks.reverse.find? (!isBlank ·) = none := by
    rw [List.find?_eq_none]
    intro c hc
    simp [h c (List.mem_reverse.mp hc)]
  rw [endsWithOperator, endsWithOperator, List.reverse_append, List.find?_append, hnone,
    Option.none_or]

theorem endsWithOperator_blank {code : List Char} (h : ∀ c ∈ code, isBlank c = true) :
    endsWithOperator code = false := endsWithOperator_append_blank h []

/-! ## Lines that close their strings -/

/-- The strings that the line opens are closed on it. -/
def ClosesStrings (line : Text) : Prop := (ScanState.outside.scan line).2.inString = false

instance (line : Text) : Decidable (ClosesStrings line) :=
  inferInstanceAs (Decidable (_ = _))

/-- The code of a line that begins outside every string. -/
def codeOf (line : Text) : List Char := (ScanState.outside.scan line).1

/-- Outside a string no backslash takes the next character along. -/
theorem escaped_scan : ∀ {line : Text} {s : ScanState}, (s.quote = none → s.escaped = false) →
    (s.scan line).2.quote = none → (s.scan line).2.escaped = false
  | [], s, h, hquote => by
    rw [ScanState.scan_nil] at hquote ⊢
    exact h hquote
  | c :: rest, s, h, hquote => by
    unfold ScanState.scan at hquote ⊢
    cases hq : s.quote with
    | some q =>
      simp only [hq] at hquote ⊢
      split at hquote <;> rename_i hc
      · rw [if_pos hc]
        exact escaped_scan (fun _ => rfl) hquote
      · rw [if_neg hc]
        split at hquote <;> rename_i hb
        · rw [if_pos hb]
          exact escaped_scan (fun hnone => absurd hnone (by simp)) hquote
        · rw [if_neg hb]
          split at hquote <;> rename_i hend
          · rw [if_pos hend]
            exact escaped_scan (fun _ => by simpa using hc) hquote
          · rw [if_neg hend]
            exact escaped_scan h hquote
    | none =>
      simp only [hq] at hquote ⊢
      split at hquote <;> rename_i hc
      · rw [if_pos hc]
        exact h hq
      · rw [if_neg hc]
        split at hquote <;> rename_i hopen
        · rw [if_pos hopen]
          exact escaped_scan (fun hnone => absurd hnone (by simp)) hquote
        · rw [if_neg hopen]
          exact escaped_scan h hquote

/-- A scan that is in no string is outside, when no backslash is left over. -/
theorem eq_outside {s : ScanState} (hstring : s.inString = false)
    (hescaped : s.quote = none → s.escaped = false) : s = .outside := by
  obtain ⟨quote, escaped⟩ := s
  obtain rfl : quote = none := Option.isNone_iff_eq_none.mp (Option.isSome_eq_false_iff.mp hstring)
  obtain rfl : escaped = false := hescaped rfl
  rfl

/-- A line that closes its strings leaves the scan as it found it. -/
theorem scan_closes {line : Text} (h : ClosesStrings line) :
    ScanState.outside.scan line = (codeOf line, .outside) :=
  Prod.ext rfl (eq_outside h (escaped_scan fun _ => rfl))

/-- A comment ends the scan of its line, and blanks before it are all the code there is. -/
theorem scan_comment {blanks : Text} (h : ∀ c ∈ blanks, isBlank c = true) (rest : Text) :
    ScanState.outside.scan (blanks ++ '#' :: rest) = (blanks, .outside) := by
  induction blanks with
  | nil => simp [ScanState.scan, ScanState.outside]
  | cons c blanks ih =>
    have hc : isBlank c = true := h c List.mem_cons_self
    have hcomment : c ≠ '#' := ne_of_isBlank hc (by decide)
    have ih := ih fun d hd => h d (List.mem_cons_of_mem c hd)
    have hout : ScanState.outside.quote = none := rfl
    rw [List.cons_append, ScanState.scan, hout]
    simp only [isQuote_blank hc, if_neg hcomment, ih]
    simp

/-- A marked line is its indentation and a comment. -/
theorem exists_comment_of_isMarked {line : Text} (h : isMarked line = true) :
    ∃ rest, line = Text.indent line ++ '#' :: rest := by
  obtain ⟨rest, hrest⟩ := Text.startsWith_iff.mp h
  refine ⟨'\'' :: rest, ?_⟩
  conv => lhs; rw [← Text.indent_append_trimStart line, ← hrest]
  rfl

theorem scan_marked {line : Text} (h : isMarked line = true) :
    ScanState.outside.scan line = (Text.indent line, .outside) := by
  obtain ⟨rest, hline⟩ := exists_comment_of_isMarked h
  conv => lhs; rw [hline]
  exact scan_comment (fun _ => Text.isBlank_of_mem_indent) rest

theorem closesStrings_of_isMarked {line : Text} (h : isMarked line = true) :
    ClosesStrings line := by
  rw [ClosesStrings, scan_marked h]
  rfl

/-- The code of a marked line is blank. -/
theorem isBlank_of_mem_codeOf {line : Text} (h : isMarked line = true) :
    ∀ c ∈ codeOf line, isBlank c = true := by
  intro c hc
  rw [codeOf, scan_marked h] at hc
  exact Text.isBlank_of_mem_indent hc

/-! ## One line of a body -/

/-- How far the scan of a function has come after one more line; `none` when the body ends on it. -/
def bodyAfter (state : BodyState) (line : Text) : Option BodyState :=
  match state.run (codeOf line) with
  | none => none
  | some next =>
    if next = .expression 0 && !endsWithOperator (codeOf line) then none else some next

theorem scanBody_cons {line : Text} (h : ClosesStrings line) (row : Nat) (state : BodyState)
    (rest : List Text) :
    scanBody row state .outside (line :: rest) =
      match bodyAfter state line with
      | none => .ended row
      | some next => scanBody (row + 1) next .outside rest := by
  rw [scanBody, scan_closes h, bodyAfter]
  cases hrun : state.run (codeOf line) with
  | none => simp [hrun]
  | some next =>
    simp only [hrun]
    split <;> rfl

/-- A marked line ends a bare expression that has no bracket open, and does nothing else. -/
theorem bodyAfter_marked {line : Text} (h : isMarked line = true) (state : BodyState) :
    bodyAfter state line = if state = .expression 0 then none else some state := by
  have hblank := isBlank_of_mem_codeOf h
  rw [bodyAfter, run_blank hblank, endsWithOperator_blank hblank]
  simp

/-! ## Functions without a body -/

/-- Whether the function that is declared on the first line has no body: only blanks follow the
argument list up to the end of the file. -/
def Bodiless (lines : List Text) : Prop :=
  lines.foldlM bodyAfter (.arguments 0) = some .awaiting

instance (lines : List Text) : Decidable (Bodiless lines) :=
  inferInstanceAs (Decidable (_ = _))

/-- The scan of a body goes over all lines, or the body ends on one of them. -/
theorem scanBody_eq_unfinished_iff {lines : List Text} (h : ∀ line ∈ lines, ClosesStrings line)
    {row : Nat} {state last : BodyState} :
    scanBody row state .outside lines = .unfinished last ↔
      lines.foldlM bodyAfter state = some last := by
  induction lines generalizing row state with
  | nil => simp [scanBody]
  | cons line rest ih =>
    have hrest : ∀ line ∈ rest, ClosesStrings line :=
      fun l hl => h l (List.mem_cons_of_mem line hl)
    rw [scanBody_cons (h line List.mem_cons_self), List.foldlM_cons]
    cases hafter : bodyAfter state line with
    | none => simp
    | some next => simpa using ih hrest

/-- An expression has begun, so a body is there. -/
theorem foldlM_bodyAfter_expression (lines : List Text) (depth : Nat) :
    lines.foldlM bodyAfter (.expression depth) ≠ some .awaiting := by
  induction lines generalizing depth with
  | nil => simp
  | cons line rest ih =>
    rw [List.foldlM_cons, bodyAfter, run_expression]
    dsimp only
    split
    · simp
    · exact ih _

/-- **Marked lines do not decide whether a function has a body.** -/
theorem bodiless_iff (lines : List Text) :
    Bodiless lines ↔ Bodiless (lines.filter (!isMarked ·)) := by
  have hall : ∀ state : BodyState, lines.foldlM bodyAfter state = some .awaiting ↔
      (lines.filter (!isMarked ·)).foldlM bodyAfter state = some .awaiting := by
    induction lines with
    | nil => exact fun _ => Iff.rfl
    | cons line rest ih =>
      intro state
      by_cases hm : isMarked line = true
      · rw [List.foldlM_cons, bodyAfter_marked hm, List.filter_cons_of_neg (by simp [hm])]
        by_cases hstate : state = .expression 0
        · rw [if_pos hstate, hstate]
          have hnot := foldlM_bodyAfter_expression (rest.filter (!isMarked ·)) 0
          simp [hnot]
        · rw [if_neg hstate]
          exact ih state
      · rw [List.filter_cons_of_pos (by simp [hm]), List.foldlM_cons, List.foldlM_cons]
        cases bodyAfter state line with
        | none => exact Iff.rfl
        | some next => exact ih next
  exact hall (.arguments 0)

/-! ## Positions -/

/-- Where extraction stands between two lines. -/
inductive Position where
  /-- Between functions, with so many brackets of calls open. -/
  | outer (calls : Nat)
  /-- Inside the function that was found last. -/
  | inside (state : BodyState)
  deriving DecidableEq, Repr

namespace Position

/-- The position after one more line. -/
def after : Position → Text → Position
  | .outer calls, line => .outer ((codeOf line).foldl callNesting calls)
  | .inside state, line =>
    match bodyAfter state line with
    | none => .outer 0
    | some next => .inside next

/-- The name of the function that is found on the line. -/
def declares? : Position → Text → Option Text
  | .outer 0, line => declaredName? line
  | .outer _, _ => none
  | .inside _, _ => none

/-- The position after the first line of a function; `below` are the lines that follow it. -/
def afterDeclaration (line : Text) (below : List Text) : Position :=
  if Bodiless (line :: below) then .outer 0 else after (.inside (.arguments 0)) line

/-- The position below a marked line. -/
def pastMarked (p : Position) : Position :=
  if p = .inside (.expression 0) then .outer 0 else p

@[simp] theorem pastMarked_pastMarked (p : Position) : p.pastMarked.pastMarked = p.pastMarked := by
  by_cases hp : p = .inside (.expression 0)
  · simp [pastMarked, hp]
  · simp [pastMarked, hp]

theorem after_marked {line : Text} (h : isMarked line = true) (p : Position) :
    p.after line = p.pastMarked := by
  cases p with
  | outer calls => simp [after, pastMarked, foldl_blank callNesting_blank (isBlank_of_mem_codeOf h)]
  | inside state =>
    rw [after, bodyAfter_marked h]
    by_cases hstate : state = .expression 0
    · simp [hstate, pastMarked]
    · simp [hstate, pastMarked]

theorem declares?_eq_some_iff {p : Position} {line name : Text} :
    p.declares? line = some name ↔ p = .outer 0 ∧ declaredName? line = some name := by
  unfold declares?
  split <;> simp_all

theorem declares?_marked {line : Text} (h : isMarked line = true) (p : Position) :
    p.declares? line = none := by
  cases hd : p.declares? line with
  | none => rfl
  | some name =>
    have hname : isDeclaration line = true := by
      rw [isDeclaration, (declares?_eq_some_iff.mp hd).2]
      rfl
    exact absurd h (by simp [isMarked_of_isDeclaration hname])

/-- How many of the next lines belong to the function that was found last. -/
def toSkip : Position → Nat → List Text → Nat
  | .outer _, _, _ => 0
  | .inside state, row, rest =>
    match scanBody row state .outside rest with
    | .ended last => last + 1 - row
    | .unfinished _ => rest.length

/-- How many brackets of calls are open. -/
def calls : Position → Nat
  | .outer calls => calls
  | .inside _ => 0

end Position

/-! ## The functions that are found -/

/-- The rows and names of the functions in lines, the first of which has number `row`. -/
def foundFrom (p : Position) (row : Nat) : List Text → List (Nat × Text)
  | [] => []
  | line :: rest =>
    match p.declares? line with
    | some name => (row, name) :: foundFrom (.afterDeclaration line rest) (row + 1) rest
    | none => foundFrom (p.after line) (row + 1) rest

/-- The rows and names of the functions of a file. -/
def found (lines : List Text) : List (Nat × Text) := foundFrom (.outer 0) 0 lines

/-- The item for a function that was found. -/
def itemAt (lines : List Text) (f : Nat × Text) : Item :=
  .ofSpan .routine f.2 lines (f.1 + 1) (bodyEnd lines f.1 + 1)
    ((block lines f.1).map (·.text lines))

theorem foundFrom_cons_some {p : Position} {line name : Text} (h : p.declares? line = some name)
    (row : Nat) (rest : List Text) :
    foundFrom p row (line :: rest) =
      (row, name) :: foundFrom (.afterDeclaration line rest) (row + 1) rest := by
  simp [foundFrom, h]

theorem foundFrom_cons_none {p : Position} {line : Text} (h : p.declares? line = none)
    (row : Nat) (rest : List Text) :
    foundFrom p row (line :: rest) = foundFrom (p.after line) (row + 1) rest := by
  simp [foundFrom, h]

/-- Marked lines bring no function. -/
theorem foundFrom_marked {line : Text} (h : isMarked line = true) (p : Position) (row : Nat)
    (rest : List Text) :
    foundFrom p row (line :: rest) = foundFrom p.pastMarked (row + 1) rest := by
  rw [foundFrom_cons_none (Position.declares?_marked h p), Position.after_marked h]

/-- Marked lines bring no function, and more than one of them do what one does. -/
theorem foundFrom_append_marked {above : List Text} (h : ∀ line ∈ above, isMarked line = true)
    (hne : above ≠ []) (p : Position) (row : Nat) (rest : List Text) :
    foundFrom p row (above ++ rest) = foundFrom p.pastMarked (row + above.length) rest := by
  induction above generalizing p row with
  | nil => exact absurd rfl hne
  | cons line above ih =>
    have hfirst : isMarked line = true := h line List.mem_cons_self
    rw [List.cons_append, foundFrom_marked hfirst]
    by_cases hlast : above = []
    · simp [hlast]
    · have hmore : ∀ l ∈ above, isMarked l = true := fun l hl => h l (List.mem_cons_of_mem line hl)
      rw [ih hmore hlast, Position.pastMarked_pastMarked, List.length_cons,
        show row + 1 + above.length = row + (above.length + 1) by omega]

variable {f : Nat × Text} {p : Position} {row : Nat} {lines : List Text}

/-- A function that is found among lines is found on the first of them or among the others. -/
theorem mem_foundFrom_cons {line : Text} (h : f ∈ foundFrom p row (line :: lines)) :
    (f.1 = row ∧ p.declares? line = some f.2) ∨ ∃ next, f ∈ foundFrom next (row + 1) lines := by
  cases hname : p.declares? line with
  | some name =>
    rw [foundFrom_cons_some hname, List.mem_cons] at h
    rcases h with rfl | h
    · exact Or.inl ⟨rfl, rfl⟩
    · exact Or.inr ⟨_, h⟩
  | none =>
    rw [foundFrom_cons_none hname] at h
    exact Or.inr ⟨_, h⟩

theorem le_of_mem_foundFrom (h : f ∈ foundFrom p row lines) : row ≤ f.1 := by
  induction lines generalizing p row with
  | nil => simp [foundFrom] at h
  | cons line rest ih =>
    rcases mem_foundFrom_cons h with ⟨hrow, -⟩ | ⟨next, h⟩
    · exact Nat.le_of_eq hrow.symm
    · exact Nat.le_of_succ_le (ih h)

/-- Whether a function is found on the first line is a matter of the position. -/
theorem declares?_of_mem_foundFrom {line : Text} (h : f ∈ foundFrom p row (line :: lines))
    (hrow : f.1 = row) : p.declares? line = some f.2 := by
  rcases mem_foundFrom_cons h with ⟨-, hname⟩ | ⟨next, h⟩
  · exact hname
  · have hle := le_of_mem_foundFrom h
    omega

/-- A function is found on the line that declares it. -/
theorem getElem?_of_mem_foundFrom (h : f ∈ foundFrom p row lines) :
    ∃ line, lines[f.1 - row]? = some line ∧ declaredName? line = some f.2 := by
  induction lines generalizing p row with
  | nil => simp [foundFrom] at h
  | cons line rest ih =>
    rcases mem_foundFrom_cons h with ⟨hrow, hname⟩ | ⟨next, h⟩
    · refine ⟨line, ?_, (Position.declares?_eq_some_iff.mp hname).2⟩
      simp [hrow]
    · obtain ⟨found, hfound, hname⟩ := ih h
      have hle := le_of_mem_foundFrom h
      refine ⟨found, ?_, hname⟩
      rw [show f.1 - row = f.1 - (row + 1) + 1 by omega]
      exact hfound

theorem getElem?_of_mem_found (h : f ∈ found lines) :
    ∃ line, lines[f.1]? = some line ∧ declaredName? line = some f.2 :=
  getElem?_of_mem_foundFrom h

/-- Functions are found from the top down. -/
theorem foundFrom_ascending (p : Position) (row : Nat) (lines : List Text) :
    (foundFrom p row lines).Pairwise fun f g => f.1 < g.1 := by
  induction lines generalizing p row with
  | nil => exact List.Pairwise.nil
  | cons line rest ih =>
    cases hname : p.declares? line with
    | some name =>
      rw [foundFrom_cons_some hname]
      exact List.pairwise_cons.mpr ⟨fun g hg => le_of_mem_foundFrom hg, ih _ _⟩
    | none =>
      rw [foundFrom_cons_none hname]
      exact ih _ _

/-! ## The items of a file -/

theorem le_of_scanBody_ended {lines : List Text} {row last : Nat} {state : BodyState}
    {scan : ScanState} (h : scanBody row state scan lines = .ended last) : row ≤ last := by
  induction lines generalizing row state scan with
  | nil => simp [scanBody] at h
  | cons line rest ih =>
    rw [scanBody] at h
    dsimp only at h
    split at h
    · exact Nat.le_of_eq (BodyScan.ended.inj h)
    · split at h
      · exact Nat.le_of_eq (BodyScan.ended.inj h)
      · exact Nat.le_of_succ_le (ih h)

/-- Inside a function a line is skipped, and the position counts the lines that are left. -/
theorem toSkip_inside {line : Text} (h : ClosesStrings line) (state : BodyState) (row : Nat)
    (rest : List Text) :
    (Position.inside state).toSkip row (line :: rest) =
        ((Position.inside state).after line).toSkip (row + 1) rest + 1 ∧
      ((Position.inside state).after line).calls = 0 := by
  rw [Position.toSkip, scanBody_cons h, Position.after]
  cases bodyAfter state line with
  | none => simp [Position.toSkip, Position.calls]
  | some next =>
    simp only [Position.toSkip, Position.calls, and_true]
    cases hscan : scanBody (row + 1) next .outside rest with
    | ended last =>
      have hle := le_of_scanBody_ended hscan
      simp only
      omega
    | unfinished last => simp

/-- Below a declaration as many lines are skipped as the end of the body says. -/
theorem toSkip_afterDeclaration {all rest : List Text} {line : Text} {row : Nat}
    (hdrop : all.drop row = line :: rest) (h : ∀ l ∈ line :: rest, ClosesStrings l) :
    (Position.afterDeclaration line rest).toSkip (row + 1) rest = bodyEnd all row - row ∧
      (Position.afterDeclaration line rest).calls = 0 := by
  have hlength : all.length = row + (rest.length + 1) := by
    have hlength := congrArg List.length hdrop
    rw [List.length_drop, List.length_cons] at hlength
    omega
  have hbodiless : scanBody row (.arguments 0) .outside (line :: rest) = .unfinished .awaiting ↔
      Bodiless (line :: rest) := scanBody_eq_unfinished_iff h
  rw [Position.afterDeclaration, bodyEnd, hdrop]
  by_cases hb : Bodiless (line :: rest)
  · simp [hb, hbodiless.mpr hb, Position.toSkip, Position.calls]
  · have hinside := toSkip_inside (h line List.mem_cons_self) (.arguments 0) row rest
    rw [if_neg hb]
    refine ⟨?_, hinside.2⟩
    have hskip := hinside.1
    rw [Position.toSkip] at hskip
    cases hscan : scanBody row (.arguments 0) .outside (line :: rest) with
    | ended last =>
      have hle := le_of_scanBody_ended hscan
      simp only [hscan] at hskip ⊢
      omega
    | unfinished last =>
      have hlast : last ≠ .awaiting := by
        rintro rfl
        exact hb (hbodiless.mp hscan)
      simp only [hscan, List.length_cons] at hskip
      split
      · rename_i heq
        exact absurd heq (by simp)
      · rename_i heq
        exact absurd (BodyScan.unfinished.inj heq) hlast
      · omega

/-- **The items of a file are the functions that are found**, when every line closes its strings:
counting the lines of a function down from the end that was looked up comes to the same as following
its body line by line. -/
theorem itemsFrom_eq {all : List Text} (hall : ∀ line ∈ all, ClosesStrings line) :
    ∀ {rest : List Text} {row : Nat} (p : Position), all.drop row = rest →
      itemsFrom all row (p.toSkip row rest) .outside p.calls rest =
        (foundFrom p row rest).map (itemAt all)
  | [], _, _, _ => by simp [itemsFrom, foundFrom]
  | line :: rest, row, p, hdrop => by
    have hnext : all.drop (row + 1) = rest := drop_succ_of_drop hdrop
    have hmem : ∀ l ∈ line :: rest, ClosesStrings l :=
      fun l hl => hall l (List.mem_of_mem_drop (hdrop ▸ hl))
    have hline : ClosesStrings line := hmem line List.mem_cons_self
    cases p with
    | inside state =>
      have ih := itemsFrom_eq hall ((Position.inside state).after line) hnext
      obtain ⟨hskip, hcalls⟩ := toSkip_inside hline state row rest
      rw [foundFrom_cons_none rfl, hskip, itemsFrom]
      rw [hcalls] at ih
      exact ih
    | outer calls =>
      have hguard : (if calls = 0 ∧ ScanState.outside.inString = false then declaredName? line
          else none) = (Position.outer calls).declares? line := by
        cases calls with
        | zero => rfl
        | succ calls => rfl
      rw [Position.toSkip, Position.calls, itemsFrom]
      dsimp only
      rw [hguard]
      cases hname : (Position.outer calls).declares? line with
      | some name =>
        obtain ⟨hskip, hcalls⟩ := toSkip_afterDeclaration hdrop hmem
        have hzero : calls = 0 :=
          Position.outer.inj (Position.declares?_eq_some_iff.mp hname).1
        have ih := itemsFrom_eq hall (Position.afterDeclaration line rest) hnext
        rw [hskip, hcalls] at ih
        rw [foundFrom_cons_some hname, List.map_cons, ← ih, hzero]
        rfl
      | none =>
        have ih := itemsFrom_eq hall ((Position.outer calls).after line) hnext
        rw [foundFrom_cons_none hname, ← ih, scan_closes hline]
        rfl

theorem items_eq {text : Text} (h : ∀ line ∈ Text.splitLines text, ClosesStrings line) :
    items text = (found (Text.splitLines text)).map (itemAt (Text.splitLines text)) :=
  itemsFrom_eq h (.outer 0) rfl

end DocSplice.Brace
