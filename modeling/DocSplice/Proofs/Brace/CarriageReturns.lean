import DocSplice.Proofs.Brace.LeftOpen
import DocSplice.Proofs.Brace.Lexing
import Mathlib.Data.List.Forall2

/-!
# Carriage returns at the ends of lines

Where the lines of a file end with a carriage return and a newline, the carriage return is the last
character of the line.  It is blank, and so no search minds it; but a backslash in front of it takes
it along, and nothing waits for the next line.  So such a file is read as a lexer reads it, and one
without carriage returns has the same functions if no backslash at the end of a line matters.

* `SameLine`: the same line, perhaps with a carriage return behind it.  It declares the same
  function (`declaredName?_sameLine`), has the same code but for blanks behind it, and leaves the
  scan in a state that is `Alike` (`scan_sameLine`).
* `scanBody_sameLines` and `spans_itemsFrom` go from one line to the scan of a body and to the
  search of a file, as long as the lines that are read are steady (`SteadyScans`).
* `sameLines_withReturns`: the lines of a text and of its version with carriage returns.
* `reads_alike_iff` has both parts, the lexer and the version with carriage returns.
-/

namespace DocSplice

open Text

/-- The name and the lines of an item. -/
def Item.span (i : Item) : Text × Nat × Nat := (i.name, i.firstLine, i.lastLine)

namespace Text

variable {a b p t line other : Text} {c : Char}

/-! ## Lines with a carriage return -/

/-- The same line, perhaps with a carriage return behind it. -/
def SameLine (line other : Text) : Prop := other = line ∨ other = line ++ ['\r']

theorem SameLine.cons (c : Char) (h : SameLine a b) : SameLine (c :: a) (c :: b) := by
  rcases h with rfl | rfl
  · exact Or.inl rfl
  · exact Or.inr rfl

theorem SameLine.dropWhile (h : SameLine a b) (p : Char → Bool) :
    SameLine (a.dropWhile p) (b.dropWhile p) := by
  rcases h with rfl | rfl
  · exact Or.inl rfl
  · rw [List.dropWhile_append]
    split
    · rename_i hnil
      rw [List.isEmpty_iff.mp hnil, List.dropWhile_cons]
      split
      · exact Or.inl rfl
      · exact Or.inr rfl
    · exact Or.inr rfl

theorem SameLine.trimStart (h : SameLine a b) : SameLine (trimStart a) (trimStart b) :=
  h.dropWhile isBlank

theorem SameLine.takeWhile_eq (h : SameLine a b) {p : Char → Bool} (hp : p '\r' = false) :
    b.takeWhile p = a.takeWhile p := by
  rcases h with rfl | rfl
  · rfl
  · rw [List.takeWhile_append]
    split
    · rename_i hall
      rw [List.takeWhile_cons_of_neg (by simp [hp]), List.append_nil]
      exact ((List.takeWhile_prefix p).eq_of_length hall).symm
    · rfl

theorem SameLine.head?_eq_iff (h : SameLine a b) (hc : c ≠ '\r') :
    b.head? = some c ↔ a.head? = some c := by
  rcases h with rfl | rfl
  · exact Iff.rfl
  · cases a with
    | nil => simp [hc.symm]
    | cons d a => exact Iff.rfl

/-- A fixed text without a carriage return is at the start of both or of neither. -/
theorem SameLine.stripPrefix? (h : SameLine a b) (hp : '\r' ∉ p) :
    Option.Rel SameLine (stripPrefix? a p) (stripPrefix? b p) := by
  rcases h with rfl | rfl
  · cases Text.stripPrefix? b p with
    | none => exact .none
    | some rest => exact .some (Or.inl rfl)
  · cases hstrip : Text.stripPrefix? a p with
    | some rest =>
      obtain rfl : p ++ rest = a := List.isPrefixOf?_eq_some_iff_append_eq.mp hstrip
      rw [List.append_assoc, stripPrefix?_append]
      exact .some (Or.inr rfl)
    | none =>
      cases hlonger : Text.stripPrefix? (a ++ ['\r']) p with
      | none => exact .none
      | some rest =>
        have happend : p ++ rest = a ++ ['\r'] :=
          List.isPrefixOf?_eq_some_iff_append_eq.mp hlonger
        rcases List.prefix_concat_iff.mp ⟨rest, happend⟩ with rfl | ⟨rest, rfl⟩
        · exact absurd (by simp) hp
        · rw [stripPrefix?_append] at hstrip
          exact absurd hstrip (by simp)

/-! ## The version with carriage returns -/

/-- A text with a carriage return in front of every newline. -/
def withReturns (t : Text) : Text := replace t ['\n'] ['\r', '\n']

theorem withReturns_newline (t : Text) :
    withReturns ('\n' :: t) = '\r' :: '\n' :: withReturns t := by
  simp [withReturns, replace, replaceFrom]

theorem withReturns_cons (h : c ≠ '\n') (t : Text) : withReturns (c :: t) = c :: withReturns t := by
  simp [withReturns, replace, replaceFrom, h.symm]

theorem withReturns_ne_nil (h : t ≠ []) : withReturns t ≠ [] := by
  cases t with
  | nil => exact absurd rfl h
  | cons c t =>
    by_cases hc : c = '\n'
    · rw [hc, withReturns_newline]
      exact List.cons_ne_nil _ _
    · rw [withReturns_cons hc]
      exact List.cons_ne_nil _ _

theorem dropFinalNewline_cons (h : t ≠ []) (c : Char) :
    dropFinalNewline (c :: t) = c :: dropFinalNewline t := by
  cases t with
  | nil => exact absurd rfl h
  | cons d t => simp [dropFinalNewline]

/-- **The lines of the version with carriage returns** are the same. -/
theorem sameLines_withReturns (t : Text) :
    List.Forall₂ SameLine (splitLines t) (splitLines (withReturns t)) := by
  induction t with
  | nil => exact .cons (Or.inl rfl) .nil
  | cons c t ih =>
    by_cases ht : t = []
    · subst ht
      by_cases hc : c = '\n'
      · subst hc
        exact .cons (Or.inr rfl) .nil
      · rw [withReturns_cons hc]
        exact List.forall₂_same.mpr fun _ _ => Or.inl rfl
    · have hreturns := withReturns_ne_nil ht
      have hlines : splitLines (c :: t) = split '\n' (c :: dropFinalNewline t) := by
        rw [splitLines, dropFinalNewline_cons ht]
      by_cases hc : c = '\n'
      · subst hc
        have hreturn : '\n' ∉ ['\r'] := by decide
        have hcut := split_append_cons hreturn (dropFinalNewline (withReturns t))
        rw [hlines, split_cons_sep, withReturns_newline, splitLines,
          dropFinalNewline_cons (List.cons_ne_nil _ _), dropFinalNewline_cons hreturns]
        rw [List.singleton_append] at hcut
        rw [hcut]
        exact .cons (Or.inr rfl) ih
      · obtain ⟨piece, pieces, hpieces, hcut⟩ := split_cons_of_ne hc (dropFinalNewline t)
        obtain ⟨piece', pieces', hpieces', hcut'⟩ :=
          split_cons_of_ne hc (dropFinalNewline (withReturns t))
        rw [splitLines, splitLines, hpieces, hpieces'] at ih
        obtain ⟨hpiece, hrest⟩ := List.forall₂_cons.mp ih
        rw [hlines, hcut, withReturns_cons hc, splitLines, dropFinalNewline_cons hreturns, hcut']
        exact .cons (hpiece.cons c) hrest

end Text

namespace Brace

open ScanState

variable {lines others : List Text} {line other : Text} {s t : ScanState} {state next : BodyState}
  {row : Nat} {a b name : Text}

/-! ## Declarations -/

theorem afterOneOf?_sameLine (h : SameLine a b) (choices : List Text)
    (hchoices : ∀ p ∈ choices, '\r' ∉ p) :
    Option.Rel SameLine (afterOneOf? choices a) (afterOneOf? choices b) := by
  induction choices with
  | nil => exact .none
  | cons p choices ih =>
    obtain ⟨hp, hrest⟩ := List.forall_mem_cons.mp hchoices
    have hstrip := h.stripPrefix? hp
    rw [afterOneOf?, afterOneOf?, List.findSome?_cons, List.findSome?_cons]
    cases ha : stripPrefix? a p with
    | none =>
      cases hb : stripPrefix? b p with
      | none => exact ih hrest
      | some b' =>
        rw [ha, hb] at hstrip
        cases hstrip
    | some a' =>
      cases hb : stripPrefix? b p with
      | none =>
        rw [ha, hb] at hstrip
        cases hstrip
      | some b' =>
        rw [ha, hb] at hstrip
        exact hstrip

/-- What follows a match goes on with lines that are the same. -/
theorem bind_eq_of_rel {x y : Option Text} {f : Text → Option Text}
    (h : Option.Rel SameLine x y) (hf : ∀ a b, SameLine a b → f b = f a) : y.bind f = x.bind f := by
  cases h with
  | none => rfl
  | some hab => exact hf _ _ hab

/-- **A carriage return declares nothing**, and hides no declaration. -/
theorem declaredName?_sameLine (h : SameLine line other) :
    declaredName? other = declaredName? line := by
  have htrim : SameLine (trimStart line) (trimStart other) := h.trimStart
  rw [declaredName?, declaredName?]
  cases hline : trimStart line with
  | nil =>
    rw [hline] at htrim
    rcases htrim with hother | hother
    · rw [hother]
    · rw [hother]
      rfl
  | cons c t =>
    obtain ⟨t', hother, ht⟩ : ∃ t', trimStart other = c :: t' ∧ SameLine t t' := by
      rw [hline] at htrim
      rcases htrim with hother | hother
      · exact ⟨t, hother, Or.inl rfl⟩
      · exact ⟨t ++ ['\r'], hother, Or.inr rfl⟩
    have hassign := afterOneOf?_sameLine (ht.dropWhile continuesName).trimStart assignments
      (by decide)
    rw [hother]
    dsimp only
    rw [ht.takeWhile_eq (p := continuesName) rfl]
    split
    · refine bind_eq_of_rel hassign fun value value' hvalue => ?_
      have hword := afterOneOf?_sameLine hvalue.trimStart functionWords (by decide)
      refine bind_eq_of_rel hword fun arguments arguments' harguments => ?_
      simp only [harguments.trimStart.head?_eq_iff (c := '(') (by decide)]
    · rfl

/-! ## Scans -/

/-- A carriage return behind a line is blank code or nothing, and no backslash waits any more. -/
theorem scan_return (hs : s.Proper) (line : Text) : ∃ blanks, (∀ c ∈ blanks, isBlank c = true) ∧
    s.scan (line ++ ['\r']) = ((s.scan line).1 ++ blanks, (s.scan line).2.settled) := by
  induction line generalizing s with
  | nil =>
    rw [List.nil_append, scan_nil]
    cases hquote : s.quote with
    | none =>
      refine ⟨['\r'], List.forall_mem_singleton.mpr rfl, ?_⟩
      have hplain : isQuote '\r' = false := rfl
      rw [settled_eq_self (hs.escaped_eq hquote)]
      simp [scan, hquote, hplain]
    | some q =>
      refine ⟨[], by simp, ?_⟩
      have hne : '\r' ≠ q := hs.ne_of_quote hquote rfl
      cases hescaped : s.escaped with
      | true => simp [scan, hquote, hescaped, settled]
      | false =>
        rw [settled_eq_self hescaped]
        simp [scan, hquote, hescaped, hne]
  | cons c line ih =>
    by_cases hcomment : s.quote = none ∧ c = '#'
    · obtain ⟨hquote, rfl⟩ := hcomment
      refine ⟨[], by simp, ?_⟩
      have hscan : ∀ tail, s.scan ('#' :: tail) = ([], s) := by
        intro tail
        simp [scan, hquote]
      rw [List.cons_append, hscan, hscan, settled_eq_self (hs.escaped_eq hquote)]
      rfl
    · obtain ⟨blanks, hblanks, hrest⟩ := ih (hs.scan [c])
      refine ⟨blanks, hblanks, ?_⟩
      rw [List.cons_append, scan_cons hcomment, scan_cons hcomment line, hrest, List.append_assoc]

/-- **The same line** has the same code but for blanks behind it, from states that are alike, and
the states behind it are alike. -/
theorem scan_sameLine (hs : s.Proper) (halike : s.Alike t) (hline : s.EscapesNothing line)
    (hsame : SameLine line other) : ∃ blanks, (∀ c ∈ blanks, isBlank c = true) ∧
      (t.scan other).1 = (s.scan line).1 ++ blanks ∧
        (s.scan line).2.Alike (t.scan other).2 := by
  obtain ⟨hcode, hafter⟩ : (t.scan line).1 = (s.scan line).1 ∧
      (s.scan line).2.Alike (t.scan line).2 := by
    rcases halike with rfl | rfl
    · exact ⟨rfl, Or.inl rfl⟩
    · exact scan_settled hs hline
  rcases hsame with rfl | rfl
  · exact ⟨[], by simp, by rw [hcode, List.append_nil], hafter⟩
  · obtain ⟨blanks, hblanks, hscan⟩ := scan_return (halike.proper hs) line
    refine ⟨blanks, hblanks, ?_, ?_⟩
    · rw [hscan, hcode]
    · rw [hscan]
      exact hafter.settled

theorem run_append_blank {blanks : List Char} (h : ∀ c ∈ blanks, isBlank c = true)
    (code : List Char) : state.run (code ++ blanks) = state.run code := by
  rw [BodyState.run_append]
  cases state.run code with
  | none => rfl
  | some next => exact run_blank h next

/-! ## Bodies -/

/-- The lines that the scan of a body reads: all down to the last line of the body, or all there
are. -/
def linesRead (row : Nat) (state : BodyState) (scan : ScanState) (lines : List Text) : List Text :=
  match scanBody row state scan lines with
  | .ended last => lines.take (last + 1 - row)
  | .unfinished _ => lines

/-- The lines that are read for the body of the function that is declared on the row. -/
def readForBody (lines : List Text) (row : Nat) : List Text :=
  linesRead row (.arguments 0) .outside (lines.drop row)

/-- The first line is read, and if it does not end the body, so are those that are read from there
on. -/
theorem linesRead_cons (row : Nat) (state : BodyState) (scan : ScanState) (line : Text)
    (rest : List Text) : ∃ below, linesRead row state scan (line :: rest) = line :: below ∧
      ∀ next, state.run (scan.scan line).1 = some next →
        ¬(next = .expression 0 && !endsWithOperator (scan.scan line).1) = true →
          below = linesRead (row + 1) next (scan.scan line).2 rest := by
  rw [linesRead, scanBody]
  dsimp only
  have hone : (line :: rest).take (row + 1 - row) = [line] := by
    rw [Nat.add_sub_cancel_left]
    rfl
  cases hrun : state.run (scan.scan line).1 with
  | none => exact ⟨[], hone, fun next hnext => absurd hnext (by simp)⟩
  | some next =>
    dsimp only
    by_cases hends : (next = .expression 0 && !endsWithOperator (scan.scan line).1) = true
    · rw [if_pos hends]
      refine ⟨[], hone, fun other hother hnot => ?_⟩
      rw [← Option.some.inj hother] at hnot
      exact absurd hends hnot
    · rw [if_neg hends]
      refine ⟨linesRead (row + 1) next (scan.scan line).2 rest, ?_, fun other hother _ => ?_⟩
      · rw [linesRead]
        cases hscan : scanBody (row + 1) next (scan.scan line).2 rest with
        | unfinished last => rfl
        | ended last =>
          have hle := le_of_scanBody_ended hscan
          have hcount : last + 1 - row = last + 1 - (row + 1) + 1 := by omega
          dsimp only
          rw [hcount, List.take_succ_cons]
      · rw [Option.some.inj hother]

/-- **The same lines have the same body**, when the lines that are read for it are steady. -/
theorem scanBody_sameLines (hsame : List.Forall₂ SameLine lines others) (hs : s.Proper)
    (halike : s.Alike t) (hsteady : Steady s (linesRead row state s lines)) :
    scanBody row state t others = scanBody row state s lines := by
  induction hsame generalizing row state s t with
  | nil => rfl
  | @cons line other lines others hline hrest ih =>
    obtain ⟨below, hread, hbelow⟩ := linesRead_cons row state s line lines
    rw [hread] at hsteady
    obtain ⟨blanks, hblanks, hcode, hafter⟩ := scan_sameLine hs halike hsteady.1 hline
    rw [scanBody, scanBody]
    dsimp only
    rw [hcode, run_append_blank hblanks, endsWithOperator_append_blank hblanks]
    cases hrun : state.run (s.scan line).1 with
    | none => rfl
    | some next =>
      dsimp only
      split
      · rfl
      · rename_i hnot
        exact ih (hs.scan line) hafter (hbelow next hrun hnot ▸ hsteady.2)

theorem bodyEnd_sameLines (hsame : List.Forall₂ SameLine lines others)
    (hsteady : Steady .outside (readForBody lines row)) :
    bodyEnd others row = bodyEnd lines row := by
  rw [bodyEnd, bodyEnd, ← hsame.length_eq,
    scanBody_sameLines (List.forall₂_drop row hsame) proper_outside (Or.inl rfl) hsteady]

/-! ## The search -/

/-- What is read on the way through the lines from a row on is steady: the lines above each of the
functions, those that are read for its body, and the lines below the last one. -/
def SteadyScans (lines : List Text) (row : Nat) (scan : ScanState) : List Item → Prop
  | [] => Steady scan (lines.drop row)
  | i :: rest => Steady scan (stretch lines row (i.firstLine - 1)) ∧
      Steady .outside (readForBody lines (i.firstLine - 1)) ∧
        SteadyScans lines i.lastLine .outside rest

instance decidableSteadyScans (lines : List Text) (row : Nat) (scan : ScanState) :
    (found : List Item) → Decidable (SteadyScans lines row scan found)
  | [] => inferInstanceAs (Decidable (Steady scan (lines.drop row)))
  | i :: rest =>
    have := decidableSteadyScans lines i.lastLine .outside rest
    inferInstanceAs (Decidable (Steady scan (stretch lines row (i.firstLine - 1)) ∧
      Steady .outside (readForBody lines (i.firstLine - 1)) ∧
        SteadyScans lines i.lastLine .outside rest))

/-- The functions in the lines from a row on are declared there. -/
theorem row_lt_of_mem_itemsFrom {all : List Text} {i : Item} :
    ∀ {rest : List Text} {row skip : Nat} {scan : ScanState} {calls : Nat},
      i ∈ itemsFrom all row skip scan calls rest → row < i.firstLine
  | [], _, _, _, _, h => by
    unfold itemsFrom at h
    exact absurd h List.not_mem_nil
  | line :: rest, row, skip, scan, calls, h => by
    unfold itemsFrom at h
    split at h
    · exact Nat.lt_of_succ_lt (row_lt_of_mem_itemsFrom h)
    · split at h
      · rcases List.mem_cons.mp h with rfl | h
        · exact Nat.lt_succ_self row
        · exact Nat.lt_of_succ_lt (row_lt_of_mem_itemsFrom h)
      · exact Nat.lt_of_succ_lt (row_lt_of_mem_itemsFrom h)

/-- A line without a declaration is the first of those that are read next. -/
theorem SteadyScans.pass {found : List Item} (h : SteadyScans lines row s found)
    (hline : lines[row]? = some line) (hbelow : ∀ i ∈ found, row + 1 < i.firstLine) :
    s.EscapesNothing line ∧ SteadyScans lines (row + 1) (s.scan line).2 found := by
  obtain ⟨hlt, hget⟩ := List.getElem?_eq_some_iff.mp hline
  cases found with
  | nil =>
    rw [SteadyScans, List.drop_eq_getElem_cons hlt, hget] at h
    exact h
  | cons i found =>
    have hfirst := hbelow i List.mem_cons_self
    have hstretch : stretch lines row (i.firstLine - 1) =
        line :: stretch lines (row + 1) (i.firstLine - 1) := by
      rw [stretch, stretch, List.drop_take, List.drop_take, List.drop_eq_getElem_cons hlt, hget,
        show i.firstLine - 1 - row = i.firstLine - 1 - (row + 1) + 1 by omega, List.take_succ_cons]
    rw [SteadyScans, hstretch] at h
    exact ⟨h.1.1, h.1.2, h.2⟩

namespace Search

variable {search next last : Search}

theorem itemsFrom_jump (search : Search) (hline : lines[search.row]? = some line)
    (hname : search.declares? line = some name) :
    itemsFrom lines search.row 0 search.scan search.calls (lines.drop search.row) =
      itemAt lines (search.row, name) ::
        itemsFrom lines (bodyEnd lines search.row + 1) 0 search.scan search.calls
          (lines.drop (bodyEnd lines search.row + 1)) := by
  have hround : search.round? lines = some (search.jump lines name) := by
    rw [round?, hline, Option.map_some, hname]
  have hitems := itemsFrom_of_round? hround
  rw [jump, List.append_assoc] at hitems
  exact List.append_cancel_left hitems

theorem itemsFrom_pass (search : Search) (hline : lines[search.row]? = some line)
    (hname : search.declares? line = none) :
    itemsFrom lines search.row 0 search.scan search.calls (lines.drop search.row) =
      itemsFrom lines (search.row + 1) 0 (search.scan.scan line).2
        ((search.scan.scan line).1.foldl callNesting search.calls)
        (lines.drop (search.row + 1)) := by
  have hround : search.round? lines = some (search.pass line) := by
    rw [round?, hline, Option.map_some, hname]
  exact List.append_cancel_left (itemsFrom_of_round? hround)

/-- A function is looked for outside of strings. -/
theorem scan_of_declares? (hs : search.scan.Proper) (hname : search.declares? line = some name) :
    search.scan = .outside := eq_outside (free_of_declares? hname).1 hs.escaped_eq

/-- The same line declares the same function to two searches that are alike. -/
theorem declares?_sameLine (halike : search.scan.Alike t) (hsame : SameLine line other) :
    declares? { search with scan := t } other = search.declares? line := by
  rw [declares?, declares?, inString, inString, halike.quote_eq, declaredName?_sameLine hsame]

/-- **The same lines have the same functions**, by name and place, when all lines that are read are
steady. -/
theorem spans_itemsFrom (hsame : List.Forall₂ SameLine lines others)
    (hends : Ends lines search last) (hs : search.scan.Proper) (halike : search.scan.Alike t)
    (hsteady : SteadyScans lines search.row search.scan
      (itemsFrom lines search.row 0 search.scan search.calls (lines.drop search.row))) :
    (itemsFrom others search.row 0 t search.calls (others.drop search.row)).map Item.span =
      (itemsFrom lines search.row 0 search.scan search.calls (lines.drop search.row)).map
        Item.span := by
  induction hends generalizing t with
  | @done search rest =>
    have hout := round?_eq_none_iff.mp rest
    rw [List.drop_eq_nil_of_le hout, List.drop_eq_nil_of_le (hsame.length_eq ▸ hout)]
    rfl
  | @round search next last first later ih =>
    obtain ⟨line, hline, hcase⟩ := round?_cases first
    obtain ⟨other, hother, hsameLine⟩ : ∃ other, others[search.row]? = some other ∧
        SameLine line other := by
      obtain ⟨hlt, hget⟩ := List.getElem?_eq_some_iff.mp hline
      have hlt' : search.row < others.length := hsame.length_eq ▸ hlt
      exact ⟨_, List.getElem?_eq_getElem hlt', hget ▸ hsame.get hlt hlt'⟩
    have hdeclares := declares?_sameLine halike hsameLine
    rcases hcase with ⟨name, hname, rfl⟩ | ⟨hname, rfl⟩
    · rw [hname] at hdeclares
      have hscan := scan_of_declares? hs hname
      rw [itemsFrom_jump search hline hname] at hsteady ⊢
      obtain ⟨-, hbody, hrest⟩ := hsteady
      have hend : bodyEnd others search.row = bodyEnd lines search.row :=
        bodyEnd_sameLines hsame hbody
      have hitems := itemsFrom_jump { search with scan := t } hother hdeclares
      dsimp only at hitems
      rw [hitems, List.map_cons, List.map_cons, hend]
      refine congrArg₂ List.cons ?_ (ih hs halike ?_)
      · rw [Item.span, Item.span, itemAt, itemAt, hend]
        rfl
      · rw [← hscan] at hrest
        exact hrest
    · rw [hname] at hdeclares
      rw [itemsFrom_pass search hline hname] at hsteady ⊢
      obtain ⟨hnothing, hrest⟩ := hsteady.pass hline fun i hi => row_lt_of_mem_itemsFrom hi
      obtain ⟨blanks, hblanks, hcode, hafter⟩ := scan_sameLine hs halike hnothing hsameLine
      have hitems := itemsFrom_pass { search with scan := t } hother hdeclares
      dsimp only at hitems
      rw [hitems, hcode, List.foldl_append, foldl_blank callNesting_blank hblanks]
      exact ih (hs.scan line) hafter hrest

end Search

theorem spans_withReturns {text : Text}
    (h : SteadyScans (splitLines text) 0 .outside (items text)) :
    (items (withReturns text)).map Item.span = (items text).map Item.span := by
  obtain ⟨last, hends, -, -⟩ := exists_search text
  exact Search.spans_itemsFrom (sameLines_withReturns text) hends proper_outside (Or.inl rfl) h

/-- **Lines are read as the whole text is** as far as no backslash at the end of a line takes along
a quote or a backslash of a line below.  Then, and only then, the lines have the code that a lexer
finds in them whatever they go on with behind their first characters.  And if this is so of all that
is read on the way through a file, its version with carriage returns has the same functions on the
same lines. -/
theorem reads_alike_iff (lines : List Text) (hlines : ∀ line ∈ lines, '\n' ∉ line) :
    (Steady .outside lines → ReadsAlike lines) ∧
      (Steady .outside lines ↔ ∀ front c rest tail, front ++ [c :: rest] <+: lines → '\n' ∉ tail →
        ReadsAlike (front ++ [c :: tail])) ∧
      ∀ text, SteadyScans (splitLines text) 0 .outside (items text) →
        (items (withReturns text)).map Item.span = (items text).map Item.span :=
  ⟨readsAlike_of_steady hlines, steady_iff hlines, fun _ => spans_withReturns⟩

/-- A string that goes on behind a backslash, with an ordinary character. -/
theorem reads_alike_iff_ordinary :
    let text := "x <- \"a\\\n\nb\"\nf <- function() \x7b\n  \"(\\\n \"\n\x7d\n".toList
    (∀ line ∈ splitLines text, '\n' ∉ line) ∧ ReadsAlike (splitLines text) ∧
      (items (withReturns text)).map Item.span = [(['f'], 4, 7)] := by
  intro text
  have hlines : ∀ line ∈ splitLines text, '\n' ∉ line := by decide +kernel
  obtain ⟨halike, -, hspans⟩ := reads_alike_iff (splitLines text) hlines
  refine ⟨hlines, halike (by decide +kernel), (hspans text (by decide +kernel)).trans ?_⟩
  decide +kernel

/-- **A backslash at the end of a line hides the quote below it**: the string is not closed, the
code behind it is not read, and the function is found in the version with carriage returns only. -/
theorem hides_quote_below :
    let text := "x <- \"a\\\n\"\nf <- function() 1\n".toList
    ¬ReadsAlike (splitLines text) ∧ items text = [] ∧
      (items (withReturns text)).map Item.span = [(['f'], 3, 3)] := by
  decide +kernel

end Brace

end DocSplice
