import DocSplice.Proofs.Brace.CodeStream
import Mathlib.Data.List.Chain

/-!
# What functions leave open

A function is not looked for inside a string or between the brackets of a call.  Whether a line is
inside of one is told by all lines above it; the search asks only those that it did not jump over.
So it does not see what the lines of a function leave open, such as a string that begins behind the
brace that ends its body.

* `Standing` is the state of both scans, `Standing.past` what some lines make of it, and
  `Standing.Free` that nothing is open.
* `Tracked` is what holds of the search between two rounds: it stands where the lines below the
  function found last lead, when they are read as if nothing were open.
* `foldl_callNesting`: brackets that are open at first stay open, as far as they are not closed.
* `free_above_items_iff`: all functions begin where nothing is open exactly when, of any two that
  follow each other, what the first leaves open is closed above the second.
* `found_inside_string_or_call`: it may be open still.
-/

namespace DocSplice.Brace

variable {lines more : List Text} {a b : Nat} {i j : Item}

/-! ## What lines leave open -/

/-- Whether a string is open, and how many brackets of calls. -/
@[ext]
structure Standing where
  /-- The state of the scan for strings. -/
  scan : ScanState
  /-- How many brackets of calls are open. -/
  calls : Nat
  deriving DecidableEq, Repr

namespace Standing

variable {p : Standing}

/-- Nothing is open. -/
def top : Standing := ⟨.outside, 0⟩

/-- What is open after one more line. -/
def after (p : Standing) (line : Text) : Standing :=
  ⟨(p.scan.scan line).2, (p.scan.scan line).1.foldl callNesting p.calls⟩

/-- What is open after some more lines. -/
def past (p : Standing) (lines : List Text) : Standing := lines.foldl after p

/-- No string is open and no bracket of a call. -/
def Free (p : Standing) : Prop := p.scan.inString = false ∧ p.calls = 0

instance (p : Standing) : Decidable p.Free :=
  inferInstanceAs (Decidable (p.scan.inString = false ∧ p.calls = 0))

theorem past_append : p.past (lines ++ more) = (p.past lines).past more := List.foldl_append

theorem past_concat (line : Text) : p.past (lines ++ [line]) = (p.past lines).after line :=
  List.foldl_concat after p line lines

/-- The two scans, one after the other. -/
theorem past_eq (row : Nat) (p : Standing) (lines : List Text) : p.past lines =
    ⟨scanAfter p.scan lines, (chars (codeFrom row p.scan lines)).foldl callNesting p.calls⟩ := by
  induction lines generalizing row p with
  | nil => rfl
  | cons line rest ih =>
    have hrest : p.past (line :: rest) = (p.after line).past rest := rfl
    rw [hrest, ih (row + 1), codeFrom, chars_append, chars_map, List.foldl_append]
    rfl

/-- A string that is not open has no character to skip. -/
theorem escaped_past (lines : List Text) (h : (top.past lines).scan.quote = none) :
    (top.past lines).scan.escaped = false := by
  induction lines using List.reverseRecOn with
  | nil => rfl
  | append_singleton above line ih =>
    rw [past_concat] at h ⊢
    exact escaped_scan ih h

theorem scan_past_of_inString (h : (top.past lines).scan.inString = false) :
    (top.past lines).scan = .outside := eq_outside h (escaped_past lines)

/-- Where nothing is open the lines above do not matter. -/
theorem Free.past_eq_top (h : (top.past lines).Free) : top.past lines = top :=
  Standing.ext (scan_past_of_inString h.1) h.2

end Standing

/-! ## Brackets that are open at first -/

/-- The character opens a bracket of a call. -/
def isCallOpening (c : Char) : Bool := c == '(' || c == '['

/-- The character closes a bracket of a call. -/
def isCallClosing (c : Char) : Bool := c == ')' || c == ']'

theorem callNesting_eq (calls : Nat) (c : Char) : callNesting calls c =
    if isCallOpening c then calls + 1 else if isCallClosing c then calls - 1 else calls := by
  simp only [callNesting, isCallOpening, isCallClosing, Bool.or_eq_true, beq_iff_eq]

theorem isCallClosing_of_isCallOpening {c : Char} (h : isCallOpening c = true) :
    isCallClosing c = false := by
  simp only [isCallOpening, Bool.or_eq_true, beq_iff_eq] at h
  rcases h with rfl | rfl
  · rfl
  · rfl

/-- **Brackets that are open at first** stay open as far as the code does not close them. -/
theorem foldl_callNesting (code : List Char) (calls : Nat) : code.foldl callNesting calls =
    max (code.foldl callNesting 0)
      (calls + code.countP isCallOpening - code.countP isCallClosing) := by
  induction code generalizing calls with
  | nil => simp
  | cons c code ih =>
    rw [List.foldl_cons, List.foldl_cons, ih (callNesting calls c), ih (callNesting 0 c)]
    simp only [callNesting_eq, List.countP_cons]
    by_cases hopens : isCallOpening c = true
    · simp only [hopens, isCallClosing_of_isCallOpening hopens, if_true, Bool.false_eq_true,
        if_false]
      omega
    · by_cases hcloses : isCallClosing c = true
      · simp only [hopens, hcloses, if_true, if_false, Bool.false_eq_true]
        omega
      · simp only [hopens, hcloses, if_false, Bool.false_eq_true]
        omega

/-- Lines that leave nothing open when they are read alone close the brackets of calls that were
open above them exactly when they hold as many closing brackets more. -/
theorem Standing.free_past_iff (row calls : Nat) (h : (top.past lines).Free) :
    (past ⟨.outside, calls⟩ lines).Free ↔
      calls + (chars (codeFrom row .outside lines)).countP isCallOpening ≤
        (chars (codeFrom row .outside lines)).countP isCallClosing := by
  rw [past_eq row] at h
  have hclosed : (scanAfter .outside lines).inString = false := h.1
  have hnone : (chars (codeFrom row .outside lines)).foldl callNesting 0 = 0 := h.2
  rw [past_eq row, Free, foldl_callNesting, hnone, Nat.zero_max]
  dsimp only
  rw [and_iff_right hclosed]
  omega

/-! ## Stretches of lines -/

/-- The lines from row `a` to row `b`, the latter not included. -/
def stretch (lines : List Text) (a b : Nat) : List Text := (lines.take b).drop a

theorem take_append_stretch (h : a ≤ b) : lines.take a ++ stretch lines a b = lines.take b := by
  rw [stretch, ← Nat.min_eq_left h, ← List.take_take, Nat.min_eq_left h, List.take_append_drop]

theorem stretch_self (lines : List Text) (a : Nat) : stretch lines a a = [] :=
  List.drop_eq_nil_of_le (List.length_take_le a lines)

theorem stretch_succ {line : Text} (h : a ≤ b) (hline : lines[b]? = some line) :
    stretch lines a (b + 1) = stretch lines a b ++ [line] := by
  have hb : b < lines.length := (List.getElem?_eq_some_iff.mp hline).1
  rw [stretch, List.take_add_one, hline, Option.toList_some,
    List.drop_append_of_le_length (by rw [List.length_take]; omega)]
  rfl

/-- What is open above a function. -/
def standingAbove (lines : List Text) (i : Item) : Standing :=
  Standing.top.past (lines.take (i.firstLine - 1))

/-- What the lines of a function leave open. -/
def leftBy (lines : List Text) (i : Item) : Standing :=
  Standing.top.past (stretch lines (i.firstLine - 1) i.lastLine)

/-- The lines between two functions. -/
def between (lines : List Text) (i j : Item) : List Text :=
  stretch lines i.lastLine (j.firstLine - 1)

/-- What is open above a function is what the lines in between make of what the function before it
leaves open. -/
theorem standingAbove_eq (hi : i.firstLine ≤ i.lastLine) (hij : i.lastLine < j.firstLine)
    (hfree : (standingAbove lines i).Free) :
    standingAbove lines j = (leftBy lines i).past (between lines i j) := by
  have htop : Standing.top.past (lines.take (i.firstLine - 1)) = .top := hfree.past_eq_top
  rw [standingAbove, ← take_append_stretch (show i.lastLine ≤ j.firstLine - 1 by omega),
    ← take_append_stretch (show i.firstLine - 1 ≤ i.lastLine by omega), Standing.past_append,
    Standing.past_append, htop]
  rfl

/-! ## What the search knows -/

namespace Search

variable {s next last : Search}

/-- What the search takes to be open. -/
def standing (s : Search) : Standing := ⟨s.scan, s.calls⟩

/-- The row below the function found last, or the first row. -/
def resumed (s : Search) : Nat := (s.found.getLast?.map Item.lastLine).getD 0

/-- What holds between two rounds. -/
structure Tracked (lines : List Text) (s : Search) : Prop where
  resumed_le : s.resumed ≤ s.row
  /-- The search knows what the lines below the function found last leave open. -/
  standing_eq : s.standing = Standing.top.past (stretch lines s.resumed s.row)
  /-- Nothing is open above the function found first. -/
  first : ∀ i ∈ s.found.head?, (standingAbove lines i).Free
  /-- What is between two functions leaves nothing open. -/
  chain : s.found.IsChain fun i j => (Standing.top.past (between lines i j)).Free

theorem tracked_start (lines : List Text) : Tracked lines start where
  resumed_le := Nat.le_refl 0
  standing_eq := by
    rw [show stretch lines start.resumed start.row = [] from stretch_self lines 0]
    rfl
  first _ h := absurd h (by simp [start])
  chain := List.isChain_nil

theorem free_of_declares? {line name : Text} (h : s.declares? line = some name) :
    s.standing.Free := by
  unfold declares? at h
  split at h
  · rename_i hguard
    exact ⟨hguard.2, hguard.1⟩
  · exact absurd h (by simp)

/-- A round keeps what the search knows. -/
theorem Tracked.round (h : Tracked lines s) (hround : s.round? lines = some next) :
    Tracked lines next := by
  obtain ⟨line, hline, ⟨name, hname, rfl⟩ | ⟨-, rfl⟩⟩ := round?_cases hround
  · have hfree : s.standing.Free := free_of_declares? hname
    have hpast : (Standing.top.past (stretch lines s.resumed s.row)).Free := h.standing_eq ▸ hfree
    have hresumed : (s.jump lines name).resumed = (s.jump lines name).row := by
      rw [resumed, jump, List.getLast?_concat]
      rfl
    refine ⟨hresumed.le, ?_, ?_, ?_⟩
    · rw [hresumed, stretch_self]
      exact h.standing_eq.trans hpast.past_eq_top
    · cases hfound : s.found with
      | nil =>
        intro i hi
        rw [jump, hfound] at hi
        obtain rfl : itemAt lines (s.row, name) = i := Option.some.inj hi
        rw [resumed, hfound] at hpast
        exact hpast
      | cons top rest =>
        intro i hi
        refine h.first i ?_
        rw [jump, hfound] at hi
        rw [hfound]
        exact hi
    · refine List.isChain_append.mpr ⟨h.chain, List.isChain_singleton _, fun i hi j hj => ?_⟩
      obtain rfl : itemAt lines (s.row, name) = j := Option.some.inj hj
      rw [resumed, Option.mem_def.mp hi] at hpast
      exact hpast
  · have hresumed : (s.pass line).resumed = s.resumed := rfl
    refine ⟨h.resumed_le.trans (Nat.le_succ _), ?_, h.first, h.chain⟩
    rw [hresumed, show (s.pass line).row = s.row + 1 from rfl, stretch_succ h.resumed_le hline,
      Standing.past_concat, ← h.standing_eq]
    rfl

/-- A whole search keeps what it knows. -/
theorem Tracked.ends (h : Tracked lines s) (hends : Ends lines s last) : Tracked lines last := by
  induction hends with
  | done rest => exact h
  | round first later ih => exact ih (h.round first)

end Search

/-! ## All functions of a file -/

/-- Something holds of a whole list when it holds of the first member and goes on from each to the
next. -/
theorem forall_mem_iff_isChain {α : Type} {P : α → Prop} {R : α → α → Prop} {l : List α}
    (hfirst : ∀ x ∈ l.head?, P x) (hnext : l.IsChain fun x y => P x → (P y ↔ R x y)) :
    (∀ x ∈ l, P x) ↔ l.IsChain R := by
  induction l with
  | nil => simp
  | cons x rest ih =>
    have hx : P x := hfirst x rfl
    cases rest with
    | nil => simp [hx]
    | cons y rest =>
      obtain ⟨hxy, hrest⟩ := List.isChain_cons_cons.mp hnext
      rw [List.forall_mem_cons, List.isChain_cons_cons, ← hxy hx, and_iff_right hx]
      constructor
      · intro hall
        have hy : P y := hall y List.mem_cons_self
        exact ⟨hy, (ih (fun z hz => Option.some.inj hz ▸ hy) hrest).mp hall⟩
      · rintro ⟨hy, hchain⟩
        exact (ih (fun z hz => Option.some.inj hz ▸ hy) hrest).mpr hchain

/-- **All functions begin where nothing is open** exactly when, of any two that follow each other,
what the first leaves open is closed again above the second.  The lines in between leave nothing
open when they are read alone; so if no string is left open, it is a matter of counting their
brackets. -/
theorem free_above_items_iff (text : Text) :
    let lines := Text.splitLines text
    ((∀ i ∈ items text, (standingAbove lines i).Free) ↔
        (items text).IsChain fun i j => ((leftBy lines i).past (between lines i j)).Free) ∧
      ∀ i j, [i, j] <:+: items text →
        (Standing.top.past (between lines i j)).Free ∧
          ((leftBy lines i).scan.inString = false →
            (((leftBy lines i).past (between lines i j)).Free ↔
              let code := chars (codeFrom i.lastLine .outside (between lines i j))
              (leftBy lines i).calls + code.countP isCallOpening ≤ code.countP isCallClosing)) := by
  intro lines
  obtain ⟨last, hends, hsound, hfound⟩ := exists_search text
  have htracked := (Search.tracked_start lines).ends hends
  rw [← hfound]
  refine ⟨forall_mem_iff_isChain htracked.first (List.Pairwise.isChain ?_), fun i j hij => ?_⟩
  · refine hsound.ordered.imp_of_mem fun {i j} hi _ hlt hfree => ?_
    obtain ⟨row, line, name, hline, -, rfl⟩ := hsound.declared i hi
    have hle : row ≤ bodyEnd lines row := le_bodyEnd (List.getElem?_eq_some_iff.mp hline).1
    rw [standingAbove_eq (Nat.succ_le_succ hle) hlt hfree]
  · have hpair := List.IsChain.infix htracked.chain hij
    have hbetween : (Standing.top.past (between lines i j)).Free :=
      (List.isChain_cons_cons.mp hpair).1
    refine ⟨hbetween, fun hclosed => ?_⟩
    have hleft : leftBy lines i = ⟨.outside, (leftBy lines i).calls⟩ :=
      Standing.ext (Standing.scan_past_of_inString hclosed) rfl
    rw [hleft]
    exact Standing.free_past_iff i.lastLine _ hbetween

/-- **What is inside a string or a call is taken for a function**, when the string or the call is
opened behind the brace that ends a function. -/
theorem found_inside_string_or_call :
    let string := "f <- function() \x7b 1 \x7d; x <- \"abc\ng <- function() 2\n\"\n".toList
    let call := "f <- function() \x7b 1 \x7d; y <- g(1,\nh <- function() 2)\n".toList
    (∃ i ∈ items string, (standingAbove (Text.splitLines string) i).scan.inString = true) ∧
      ∃ i ∈ items call, (standingAbove (Text.splitLines call) i).calls = 1 := by
  decide +kernel

end DocSplice.Brace
