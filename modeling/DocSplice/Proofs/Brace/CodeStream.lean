import DocSplice.Proofs.Brace.Brackets
import DocSplice.Proofs.Brace.Search

/-!
# The code below a declaration

The scan of a body reads a line, keeps its code and looks at the code of that line alone.  But where
a body ends is told by all the code from the declaration on.  Here that code is one list, each
character with the row it stands on (`codeBelow`), and the scan is read as a run over the list.

* `scanBody_eq_follow`: as long as no bare expression has begun, the ends of lines mean nothing to
  the scan, and it is the run over the list.
* `scanBody_append`: whatever has begun, the scan of the first lines either ends the body or comes
  to the state that their code leads to.
* `BodyState.Begun`: a body that has begun stays begun; a body that is waited for begins in the
  lines below, unless they hold no code (`scanBody_awaiting_iff`).
* `mem_rows`, `codeOn_append` and `codeThrough_append`: the list taken apart by rows.
-/

namespace DocSplice.Brace

variable {row start : Nat} {scan : ScanState} {state next : BodyState} {lines front : List Text}
  {code : List (Nat × Char)}

/-! ## The code of many lines -/

/-- The code of lines, the first of which has number `row`, each character with its row. -/
def codeFrom (row : Nat) (scan : ScanState) : List Text → List (Nat × Char)
  | [] => []
  | line :: rest =>
    (scan.scan line).1.map (row, ·) ++ codeFrom (row + 1) (scan.scan line).2 rest

/-- The code from a row on, read from outside every string. -/
def codeBelow (lines : List Text) (start : Nat) : List (Nat × Char) :=
  codeFrom start .outside (lines.drop start)

/-- The characters, without their rows. -/
def chars (code : List (Nat × Char)) : List Char := code.map Prod.snd

/-- Where a scan stands after some lines. -/
def scanAfter (scan : ScanState) (lines : List Text) : ScanState :=
  lines.foldl (fun scan line => (scan.scan line).2) scan

@[simp] theorem chars_nil : chars [] = [] := rfl

@[simp] theorem chars_cons (x : Nat × Char) (code : List (Nat × Char)) :
    chars (x :: code) = x.2 :: chars code := rfl

@[simp] theorem chars_append (a b : List (Nat × Char)) : chars (a ++ b) = chars a ++ chars b :=
  List.map_append

@[simp] theorem chars_map (row : Nat) (code : List Char) : chars (code.map (row, ·)) = code := by
  rw [chars, List.map_map]
  exact List.map_id code

theorem codeFrom_append (a b : List Text) :
    codeFrom row scan (a ++ b) =
      codeFrom row scan a ++ codeFrom (row + a.length) (scanAfter scan a) b := by
  induction a generalizing row scan with
  | nil => rfl
  | cons line rest ih =>
    rw [List.cons_append, codeFrom, codeFrom, ih, List.append_assoc, List.length_cons,
      Nat.add_assoc, Nat.add_comm 1]
    rfl

/-- The code of lines stands on their rows. -/
theorem mem_rows {x : Nat × Char} (h : x ∈ codeFrom row scan lines) :
    row ≤ x.1 ∧ x.1 < row + lines.length := by
  induction lines generalizing row scan with
  | nil => exact absurd h List.not_mem_nil
  | cons line rest ih =>
    rw [List.length_cons]
    rcases List.mem_append.mp h with hfirst | hrest
    · obtain ⟨c, -, rfl⟩ := List.mem_map.mp hfirst
      dsimp only
      omega
    · have hrow := ih hrest
      omega

/-! ## Rows -/

/-- The code that stands on a row. -/
def codeOn (row : Nat) (code : List (Nat × Char)) : List Char := chars (code.filter (·.1 == row))

/-- The code down to a row, this one included. -/
def codeThrough (row : Nat) (code : List (Nat × Char)) : List (Nat × Char) :=
  code.filter (·.1 ≤ row)

/-- The code of a row stands between the code above it and the code below. -/
theorem codeFrom_append_cons (front : List Text) (line : Text) (below : List Text) :
    codeFrom row scan (front ++ line :: below) = codeFrom row scan front ++
      (((scanAfter scan front).scan line).1.map (row + front.length, ·) ++
        codeFrom (row + front.length + 1) ((scanAfter scan front).scan line).2 below) := by
  rw [codeFrom_append, codeFrom]

theorem codeOn_append (front : List Text) (line : Text) (below : List Text) :
    codeOn (row + front.length) (codeFrom row scan (front ++ line :: below)) =
      ((scanAfter scan front).scan line).1 := by
  have habove : (codeFrom row scan front).filter (·.1 == row + front.length) = [] := by
    refine List.filter_eq_nil_iff.mpr fun x hx hrow => ?_
    have hlt := (mem_rows hx).2
    have heq := beq_iff_eq.mp hrow
    omega
  have hbelow : (codeFrom (row + front.length + 1) ((scanAfter scan front).scan line).2
      below).filter (·.1 == row + front.length) = [] := by
    refine List.filter_eq_nil_iff.mpr fun x hx hrow => ?_
    have hle := (mem_rows hx).1
    have heq := beq_iff_eq.mp hrow
    omega
  have hon : (((scanAfter scan front).scan line).1.map (row + front.length, ·)).filter
      (·.1 == row + front.length) =
        ((scanAfter scan front).scan line).1.map (row + front.length, ·) := by
    refine List.filter_eq_self.mpr fun x hx => ?_
    obtain ⟨c, -, rfl⟩ := List.mem_map.mp hx
    exact beq_self_eq_true _
  rw [codeOn, codeFrom_append_cons, List.filter_append, List.filter_append, habove, hbelow, hon,
    List.nil_append, List.append_nil, chars_map]

theorem codeThrough_append (front : List Text) (line : Text) (below : List Text) :
    codeThrough (row + front.length) (codeFrom row scan (front ++ line :: below)) =
      codeFrom row scan (front ++ [line]) := by
  have hin : (codeFrom row scan (front ++ [line])).filter (·.1 ≤ row + front.length) =
      codeFrom row scan (front ++ [line]) := by
    refine List.filter_eq_self.mpr fun x hx => ?_
    have hlt := (mem_rows hx).2
    rw [List.length_append, List.length_singleton] at hlt
    exact decide_eq_true (by omega)
  have hbelow : (codeFrom (row + (front ++ [line]).length) (scanAfter scan (front ++ [line]))
      below).filter (·.1 ≤ row + front.length) = [] := by
    refine List.filter_eq_nil_iff.mpr fun x hx hrow => ?_
    have hle := (mem_rows hx).1
    rw [List.length_append, List.length_singleton] at hle
    have hrow := of_decide_eq_true hrow
    omega
  rw [codeThrough, List.append_cons front line below, codeFrom_append, List.filter_append, hin,
    hbelow, List.append_nil]

/-! ## Running over the code -/

namespace BodyState

theorem run_append (state : BodyState) (a b : List Char) :
    state.run (a ++ b) = (state.run a).bind (run · b) := by
  induction a generalizing state with
  | nil => rfl
  | cons c a ih =>
    rw [List.cons_append, run_cons, run_cons, Option.bind_assoc]
    exact congrArg _ (funext ih)

/-- What the code tells about the end of a body, the ends of lines apart. -/
def follow (state : BodyState) : List (Nat × Char) → BodyScan
  | [] => .unfinished state
  | (row, c) :: rest =>
    match state.step c with
    | none => .ended row
    | some next => next.follow rest

theorem follow_cons_none {c : Char} (h : state.step c = none) (row : Nat) :
    state.follow ((row, c) :: code) = .ended row := by
  rw [follow, h]

theorem follow_cons_some {c : Char} (h : state.step c = some next) (row : Nat) :
    state.follow ((row, c) :: code) = next.follow code := by
  rw [follow, h]

/-- Code that ends nothing is passed. -/
theorem follow_append (h : state.run (chars code) = some next) (rest : List (Nat × Char)) :
    state.follow (code ++ rest) = next.follow rest := by
  induction code generalizing state with
  | nil => rw [← Option.some.inj h, List.nil_append]
  | cons x code ih =>
    obtain ⟨row, c⟩ := x
    rw [chars_cons, run_cons] at h
    obtain ⟨first, hfirst, hrest⟩ := Option.bind_eq_some_iff.mp h
    rw [List.cons_append, follow_cons_some hfirst, ih hrest]

theorem follow_of_run (h : state.run (chars code) = some next) :
    state.follow code = .unfinished next := by
  have hall := follow_append h []
  rwa [List.append_nil] at hall

/-- Code that ends a body on a row. -/
theorem follow_map_none {line : List Char} (h : state.run line = none) (row : Nat) :
    state.follow (line.map (row, ·) ++ code) = .ended row := by
  induction line generalizing state with
  | nil => exact absurd h (by simp)
  | cons c line ih =>
    rw [run_cons] at h
    rw [List.map_cons, List.cons_append]
    cases hstep : state.step c with
    | none => exact follow_cons_none hstep row
    | some first =>
      rw [hstep, Option.bind_some] at h
      rw [follow_cons_some hstep, ih h]

end BodyState

/-- **The ends of lines mean nothing** to a scan that never comes to a bare expression. -/
theorem scanBody_eq_follow {last : BodyScan}
    (hfollow : state.follow (codeFrom row scan lines) = last)
    (hlast : ∀ depth, last ≠ .unfinished (.expression depth)) :
    scanBody row state scan lines = last := by
  induction lines generalizing row state scan with
  | nil => exact hfollow
  | cons line rest ih =>
    rw [codeFrom] at hfollow
    rw [scanBody]
    dsimp only
    cases hrun : state.run (scan.scan line).1 with
    | none => rw [← hfollow, BodyState.follow_map_none hrun]
    | some next =>
      rw [BodyState.follow_append (by rw [chars_map, hrun])] at hfollow
      have hnot : next ≠ .expression 0 := by
        rintro rfl
        exact hlast _ (hfollow.symm.trans
          (BodyState.follow_of_run (run_expression 0 _)))
      simp only [hnot, decide_false, Bool.false_and, Bool.false_eq_true, if_false]
      exact ih hfollow

/-- **The scan of the first lines** ends the body on one of them, or it comes to the state that
their code leads to. -/
theorem scanBody_append (row : Nat) (state : BodyState) (scan : ScanState)
    (front rest : List Text) :
    (∃ last, scanBody row state scan (front ++ rest) = .ended last ∧ last < row + front.length) ∨
      ∃ next, state.run (chars (codeFrom row scan front)) = some next ∧
        scanBody row state scan (front ++ rest) =
          scanBody (row + front.length) next (scanAfter scan front) rest := by
  induction front generalizing row state scan with
  | nil => exact Or.inr ⟨state, rfl, rfl⟩
  | cons line front ih =>
    rw [List.cons_append, scanBody, codeFrom, chars_append, chars_map, BodyState.run_append,
      List.length_cons]
    dsimp only
    cases hrun : state.run (scan.scan line).1 with
    | none => exact Or.inl ⟨row, rfl, by omega⟩
    | some next =>
      dsimp only
      split
      · exact Or.inl ⟨row, rfl, by omega⟩
      · rw [Option.bind_some, ← Nat.add_assoc, Nat.add_right_comm row]
        exact ih (row + 1) next (scan.scan line).2

/-! ## The last row -/

/-- The last row of a function, by what the scan of its body tells. -/
def BodyScan.lastRow (first last : Nat) : BodyScan → Nat
  | .ended row => row
  | .unfinished .awaiting => first
  | .unfinished _ => last

theorem bodyEnd_eq_lastRow (lines : List Text) (start : Nat) :
    bodyEnd lines start = (scanBody start (.arguments 0) .outside (lines.drop start)).lastRow start
      (lines.length - 1) := by
  rw [bodyEnd]
  cases scanBody start (.arguments 0) .outside (lines.drop start) with
  | ended row => rfl
  | unfinished state =>
    cases state with
    | awaiting => rfl
    | arguments parens => rfl
    | braced depth => rfl
    | expression depth => rfl

/-- A scan that does not end in front of a body ends no higher than it starts. -/
theorem le_lastRow (first : Nat) {last : Nat}
    (h : scanBody row state scan lines ≠ .unfinished .awaiting) (hlast : row ≤ last) :
    row ≤ (scanBody row state scan lines).lastRow first last := by
  cases hscan : scanBody row state scan lines with
  | ended stop => exact le_of_scanBody_ended hscan
  | unfinished final =>
    cases final with
    | awaiting => exact absurd hscan h
    | arguments parens => exact hlast
    | braced depth => exact hlast
    | expression depth => exact hlast

/-! ## Bodies that have begun -/

namespace BodyState

/-- The body has begun. -/
def Begun : BodyState → Prop
  | .arguments _ => False
  | .awaiting => False
  | .braced _ => True
  | .expression _ => True

theorem Begun.ne_awaiting (h : state.Begun) : state ≠ .awaiting := by
  rintro rfl
  exact h

/-- What has begun does not begin again. -/
theorem Begun.step {c : Char} (h : state.Begun) (hstep : state.step c = some next) :
    next.Begun := by
  cases state with
  | arguments parens => exact h.elim
  | awaiting => exact h.elim
  | braced depth =>
    simp only [BodyState.step] at hstep
    split at hstep
    · rw [← Option.some.inj hstep]
      trivial
    · split at hstep
      · split at hstep
        · exact absurd hstep (by simp)
        · rw [← Option.some.inj hstep]
          trivial
      · rw [← Option.some.inj hstep]
        trivial
  | expression depth =>
    rw [← Option.some.inj hstep]
    trivial

theorem Begun.run {code : List Char} (h : state.Begun) (hrun : state.run code = some next) :
    next.Begun := by
  induction code generalizing state with
  | nil => exact Option.some.inj hrun ▸ h
  | cons c code ih =>
    obtain ⟨first, hfirst, hrest⟩ := Option.bind_eq_some_iff.mp hrun
    exact ih (h.step hfirst) hrest

/-- A brace behind blanks begins a braced body. -/
theorem run_awaiting_brace {blanks : List Char} (h : Text.allBlank blanks = true)
    (tail : List Char) : awaiting.run (blanks ++ '{' :: tail) = (braced 1).run tail := by
  have hbegins : awaiting.step '{' = some (braced 1) := by decide
  rw [run_append, run_blank (List.all_eq_true.mp h), Option.bind_some, run_cons, hbegins,
    Option.bind_some]

/-- Anything else behind blanks begins a bare expression, which leaves open what its brackets leave
open. -/
theorem run_awaiting_bare {blanks : List Char} {c : Char} (h : Text.allBlank blanks = true)
    (hc : isBlank c = false) (hbrace : c ≠ '{') (tail : List Char) :
    awaiting.run (blanks ++ c :: tail) = some (.expression ((c :: tail).foldl nesting 0)) := by
  have hbegins : awaiting.step c = some (expression (nesting 0 c)) := by
    simp [BodyState.step, hbrace, hc]
  rw [run_append, run_blank (List.all_eq_true.mp h), Option.bind_some, run_cons, hbegins,
    Option.bind_some, run_expression, List.foldl_cons]

/-- A body begins with the first character that is not blank. -/
theorem run_awaiting_iff {code : List Char} :
    awaiting.run code = some .awaiting ↔ Text.allBlank code = true := by
  refine ⟨fun h => ?_, fun h => run_blank (List.all_eq_true.mp h) _⟩
  induction code with
  | nil => rfl
  | cons c code ih =>
    obtain ⟨first, hfirst, hrest⟩ := Option.bind_eq_some_iff.mp h
    by_cases hc : isBlank c = true
    · rw [step_blank hc] at hfirst
      rw [← Option.some.inj hfirst] at hrest
      rw [Text.allBlank, List.all_cons, hc, Bool.true_and]
      exact ih hrest
    · have hbegun : first.Begun := by
        simp only [BodyState.step, hc, Bool.false_eq_true, if_false] at hfirst
        split at hfirst
        · rw [← Option.some.inj hfirst]
          trivial
        · rw [← Option.some.inj hfirst]
          trivial
      exact absurd rfl (hbegun.run hrest).ne_awaiting

end BodyState

/-- The lines are used up in the state that their code leads to, or the body ends on one of them. -/
theorem run_of_scanBody_unfinished (h : scanBody row state scan lines = .unfinished next) :
    state.run (chars (codeFrom row scan lines)) = some next := by
  rcases scanBody_append row state scan lines [] with ⟨last, hended, -⟩ | ⟨final, hrun, hscan⟩
  · rw [List.append_nil, h] at hended
    exact absurd hended (by simp)
  · rw [List.append_nil, h] at hscan
    rw [hrun, BodyScan.unfinished.inj hscan]

theorem scanBody_ne_awaiting (h : state.Begun) :
    scanBody row state scan lines ≠ .unfinished .awaiting := fun hscan =>
  (h.run (run_of_scanBody_unfinished hscan)).ne_awaiting rfl

/-- **A body that is waited for** begins in the lines below, unless they hold no code. -/
theorem scanBody_awaiting_iff :
    scanBody row .awaiting scan lines = .unfinished .awaiting ↔
      Text.allBlank (chars (codeFrom row scan lines)) = true := by
  refine ⟨fun h => BodyState.run_awaiting_iff.mp (run_of_scanBody_unfinished h), fun h => ?_⟩
  exact scanBody_eq_follow (BodyState.follow_of_run (BodyState.run_awaiting_iff.mpr h)) (by simp)

end DocSplice.Brace
