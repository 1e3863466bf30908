import DocSplice.Grammar.Parser
import DocSplice.Proofs.Brace.Cut

/-!
# Injecting one at a time

A list of targets may be injected at once, or one target after the other.  In the second way every
injection moves the lines below it, so a later target has to be looked for on another line than it
was given: `injectOneByOne` shifts it by what was added above it by then.

* `length_apply_above`: what was added above a declaration is by how much its run has moved.
* `Progress`: the text after some targets holds the lines that installing these targets at once
  gives.  One injection extends the list by its target (`Progress.exists_inject`), and a run by all
  of its targets (`Progress.exists_injectOneByOne`).
* `inject_one_by_one`: on different lines, targets may be injected at once or one after the other
  in any order; and from the bottom up no line is shifted.
-/

namespace DocSplice

/-- How many lines were added above a line.  What was added is listed with the lines it was added
for. -/
def addedAbove : List (Nat × Int) → Nat → Int
  | [], _ => 0
  | (place, count) :: added, line =>
    (if place < line then count else 0) + addedAbove added line

/-- The target for a line that moved down by `lines`. -/
def Target.moved (t : Target) (lines : Int) : Target :=
  { t with item := { t.item with firstLine := (t.item.firstLine + lines).toNat } }

/-- The number of lines of a text. -/
def lineCount (text : Text) : Nat := (Text.splitLines text).length

/-- Inject targets one after the other, each on the line that it has moved to; `added` lists what
was added so far. -/
def injectOneByOne [Parser] (kind : SourceKind) (text : Text) (added : List (Nat × Int)) :
    List Target → Except Failure Text
  | [] => .ok text
  | t :: rest => do
    let next ← inject kind text [t.moved (addedAbove added t.line)]
    injectOneByOne kind next ((t.line, (lineCount next : Int) - lineCount text) :: added) rest

@[simp] theorem Target.moved_zero (t : Target) : t.moved 0 = t := by
  simp [Target.moved]

theorem addedAbove_cons (place : Nat) (count : Int) (added : List (Nat × Int)) (line : Nat) :
    addedAbove ((place, count) :: added) line =
      (if place < line then count else 0) + addedAbove added line := rfl

/-- From the bottom up nothing is added above a target that is still to come. -/
theorem injectOneByOne_of_descending [Parser] {kind : SourceKind} :
    ∀ {order : List Target} {text : Text} {added : List (Nat × Int)},
      order.Pairwise (fun t u => u.line < t.line) →
      (∀ t ∈ order, addedAbove added t.line = 0) →
      injectOneByOne kind text added order =
        order.foldlM (fun current t => inject kind current [t]) text
  | [], _, _, _, _ => rfl
  | t :: rest, text, added, hdesc, hadded => by
    obtain ⟨hfirst, hrest⟩ := List.pairwise_cons.mp hdesc
    rw [injectOneByOne, List.foldlM_cons, hadded t List.mem_cons_self, Target.moved_zero]
    cases hnext : inject kind text [t] with
    | error failure => rfl
    | ok next =>
      refine injectOneByOne_of_descending hrest fun u hu => ?_
      have hbelow : ¬ t.line < u.line := Nat.lt_asymm (hfirst u hu)
      rw [addedAbove_cons, if_neg hbelow, hadded u (List.mem_cons_of_mem t hu), Int.add_zero]

namespace Brace

variable {lines : List Text} {text current result : Text} {t : Target} {done targets : List Target}

/-! ## Where a declaration has moved to -/

/-- How many lines the installation of a target adds; a negative number when the new documentation
is shorter than the run. -/
def growth (lines : List Text) (t : Target) : Int :=
  ((installation lines t).lines.length : Int) - (t.row - startAbove isMarked lines t.row : Nat)

/-- What installing the targets has added, and where. -/
def added (lines : List Text) (done : List Target) : List (Nat × Int) :=
  done.map fun u => (u.line, growth lines u)

theorem Cut.growth_eq {pre run post : List Text} {decl : Text} (h : Cut lines t pre run decl post) :
    growth lines t = ((written run decl t.documentation).length : Int) - run.length := by
  have hrun : t.row - startAbove isMarked lines t.row = run.length := by
    rw [h.startAbove_eq, h.row_eq, Nat.add_sub_cancel_left]
  rw [growth, h.installation_eq, hrun]

/-- The run above a declaration has moved down by what was added above. -/
theorem length_apply_above (ht : Declared lines t) (hdone : ∀ u ∈ done, Declared lines u)
    (hrows : (t :: done).Pairwise fun t u => t.row ≠ u.row) :
    (((install lines done).apply (lines.take (startAbove isMarked lines t.row))).length : Int) =
      startAbove isMarked lines t.row + addedAbove (added lines done) t.line := by
  have hrow : t.row < lines.length := ht.row_lt
  have hstart : startAbove isMarked lines t.row ≤ t.row := startAbove_le (Nat.le_of_lt hrow)
  induction done with
  | nil =>
    rw [apply_install_nil, List.length_take, Nat.min_eq_left (by omega)]
    exact (Int.add_zero _).symm
  | cons u done ih =>
    obtain ⟨hne, hrest⟩ := List.pairwise_cons.mp hrows
    have hu : Declared lines u := hdone u List.mem_cons_self
    have hmore : ∀ w ∈ done, Declared lines w := fun w hw => hdone w (List.mem_cons_of_mem u hw)
    have ih := ih hmore
      (List.pairwise_cons.mpr ⟨fun w hw => hne w (List.mem_cons_of_mem u hw), hrest.of_cons⟩)
    have hut : t.row ≠ u.row := hne u List.mem_cons_self
    have hsum : addedAbove (added lines (u :: done)) t.line =
        (if u.line < t.line then growth lines u else 0) + addedAbove (added lines done) t.line :=
      addedAbove_cons _ _ _ _
    have hline : u.line < t.line ↔ u.row < t.row := by
      simp only [Target.line, Target.row] at hut ⊢
      omega
    by_cases habove : u.row < t.row
    · -- the run of `u` lies among the lines that are counted
      obtain ⟨pre, run, decl, post, hcut⟩ := hu.exists_cut
      have htake := hcut.take_eq (row_lt_startAbove hu (Nat.le_of_lt hrow) habove)
      obtain ⟨below, hbefore, hafter⟩ := hcut.apply_install hmore hrest
        (post.take (startAbove isMarked lines t.row - (u.row + 1)))
      rw [htake, hbefore] at ih
      rw [hsum, if_pos (hline.mpr habove), hcut.growth_eq, htake, hafter]
      simp only [List.length_append, List.length_cons] at ih ⊢
      omega
    · -- the run of `u` starts below all of them
      have hbelow : t.row < startAbove isMarked lines u.row :=
        row_lt_startAbove ht (Nat.le_of_lt hu.row_lt) (by omega)
      have hlength : (lines.take (startAbove isMarked lines t.row)).length <
          startAbove isMarked lines u.row := by
        rw [List.length_take]
        omega
      rw [hsum, if_neg fun h => habove (hline.mp h), apply_install_of_lt hu hrest hlength, ih,
        Int.zero_add]

/-- What comes above a run still does not end with a marked line. -/
theorem Cut.stops_install {pre run post : List Text} {decl : Text}
    (h : Cut lines t pre run decl post) (hdone : ∀ u ∈ done, Declared lines u)
    (hrows : ∀ u ∈ done, t.row ≠ u.row) :
    ∀ line, ((install lines done).apply pre).getLast? = some line → isMarked line = false := by
  have hstart : startAbove isMarked lines t.row ≤ pre.length := Nat.le_of_eq h.startAbove_eq
  have hrow : pre.length ≤ t.row := h.row_eq ▸ Nat.le_add_right _ _
  have hend : (install lines done).above pre.length = [] :=
    (quiet_of_declared h.declared hdone hrows hstart hrow).1
  by_cases hnil : pre = []
  · intro line hline
    rw [hnil] at hline hend
    rw [RowEdit.apply, RowEdit.rowsFrom_nil, hend] at hline
    exact absurd hline (by simp)
  · obtain ⟨last, hlast⟩ : ∃ last, pre.getLast? = some last :=
      ⟨_, List.getLast?_eq_some_getLast hnil⟩
    have hcode : isMarked last = false := h.stops last hlast
    have hat : lines[pre.length - 1]? = some last := by
      have hpos : 0 < pre.length := List.length_pos_iff.mpr hnil
      rw [h.lines_eq, List.getElem?_append_left (by omega), ← List.getLast?_eq_getElem?]
      exact hlast
    have hkept : (install lines done).drops (pre.length - 1) = false := by
      refine Bool.eq_false_iff.mpr fun hdrop => ?_
      rw [isMarked_of_drops hdone hat hdrop] at hcode
      exact Bool.false_ne_true hcode.symm
    rw [RowEdit.getLast?_apply hnil hkept hend]
    exact h.stops

/-! ## Some targets done -/

/-- The text after some of the targets: its lines are those that installing them at once gives. -/
structure Progress (text : Text) (done : List Target) (current : Text) : Prop where
  lines_eq : Text.splitLines current =
    (install (Text.splitLines text) done).apply (Text.splitLines text)
  final_eq : Text.endsWithNewline current = Text.endsWithNewline text

theorem Progress.start (text : Text) : Progress text [] text where
  lines_eq := (apply_install_nil _ _).symm
  final_eq := rfl

/-- The text is determined by the targets that were done. -/
theorem Progress.unique (h : Progress text done current) (h' : Progress text done result) :
    current = result :=
  LineBuffer.eq_of_splitLines_eq (h.lines_eq.trans h'.lines_eq.symm)
    (h.final_eq.trans h'.final_eq.symm)

/-- Targets on different rows may have been done in any order. -/
theorem Progress.perm {order : List Target} (h : Progress text done current)
    (hperm : order.Perm done) (hrows : done.Pairwise fun t u => t.row ≠ u.row) :
    Progress text order current where
  lines_eq := by rw [h.lines_eq, install_perm hperm hrows]
  final_eq := h.final_eq

/-- An injection of all targets at once. -/
theorem Progress.of_inject [Parser] (h : inject .patternBrace text targets = .ok result) :
    Progress text (Target.resolve targets) result := by
  obtain ⟨hdecl, rfl⟩ := inject_eq_ok_iff.mp h
  have hcount := declared_resolve_iff.mpr hdecl
  exact ⟨splitLines_rewritten hcount, endsWithNewline_rewritten hcount⟩

/-- A single injection replaces the run above its target. -/
theorem Cut.exists_inject [Parser] {pre run post : List Text} {decl : Text}
    (h : Cut (Text.splitLines text) t pre run decl post) :
    ∃ next, inject .patternBrace text [t] = .ok next ∧
      Text.splitLines next = pre ++ (written run decl t.documentation ++ decl :: post) ∧
      Text.endsWithNewline next = Text.endsWithNewline text := by
  have hdecl : ∀ u ∈ [t], Declared (Text.splitLines text) u := by
    intro u hu
    rw [List.mem_singleton.mp hu]
    exact h.declared
  obtain ⟨next, hnext⟩ : ∃ next, inject .patternBrace text [t] = .ok next :=
    ⟨_, inject_of_declared hdecl⟩
  have hstep := Progress.of_inject hnext
  obtain ⟨below, hbefore, hafter⟩ := h.apply_install (fun u hu => absurd hu List.not_mem_nil)
    (List.pairwise_singleton _ _) post
  rw [apply_install_nil, apply_install_nil] at hbefore
  have hbelow : post = below :=
    (List.cons.inj (List.append_cancel_left (List.append_cancel_left hbefore))).2
  rw [← h.lines_eq, apply_install_nil, ← hbelow] at hafter
  exact ⟨next, hnext, hstep.lines_eq.trans hafter, hstep.final_eq⟩

/-- A target that is still to come is found on the line it has moved to, below the same run. -/
theorem Progress.exists_cut (h : Progress text done current) (hline : 1 ≤ t.line)
    (hdecl : ∀ u ∈ t :: done, Declared (Text.splitLines text) u)
    (hrows : (t :: done).Pairwise fun t u => t.row ≠ u.row) :
    ∃ pre run decl below,
      Cut (Text.splitLines current)
        (t.moved (addedAbove (added (Text.splitLines text) done) t.line)) pre run decl below ∧
      growth (Text.splitLines text) t = (written run decl t.documentation).length - run.length ∧
      (install (Text.splitLines text) (t :: done)).apply (Text.splitLines text) =
        pre ++ (written run decl t.documentation ++ decl :: below) := by
  have ht : Declared (Text.splitLines text) t := hdecl t List.mem_cons_self
  have hdone : ∀ u ∈ done, Declared (Text.splitLines text) u :=
    fun u hu => hdecl u (List.mem_cons_of_mem t hu)
  obtain ⟨pre, run, decl, post, hcut⟩ := ht.exists_cut
  obtain ⟨below, hbefore, hafter⟩ := hcut.apply_install hdone hrows post
  rw [← hcut.lines_eq, ← h.lines_eq] at hbefore
  rw [← hcut.lines_eq] at hafter
  have hlength : (((install (Text.splitLines text) done).apply pre).length : Int) =
      pre.length + addedAbove (added (Text.splitLines text) done) t.line := by
    have habove := length_apply_above ht hdone hrows
    have htake : (Text.splitLines text).take pre.length = pre := by
      rw [hcut.lines_eq, List.take_left]
    rw [hcut.startAbove_eq, htake] at habove
    exact habove
  refine ⟨(install (Text.splitLines text) done).apply pre, run, decl, below,
    ⟨hbefore, ?_, hcut.declares, hcut.marked,
      hcut.stops_install hdone (List.pairwise_cons.mp hrows).1⟩, hcut.growth_eq, hafter⟩
  have hrow := hcut.row_eq
  simp only [Target.row, Target.moved, Target.line] at hrow hline hlength ⊢
  omega

/-- **One injection more.**  The target is found on the line it has moved to, its injection
succeeds, and the lines it adds are as many as its installation into the original text adds. -/
theorem Progress.exists_inject [Parser] (h : Progress text done current) (hline : 1 ≤ t.line)
    (hdecl : ∀ u ∈ t :: done, Declared (Text.splitLines text) u)
    (hrows : (t :: done).Pairwise fun t u => t.row ≠ u.row) :
    ∃ next,
      inject .patternBrace current
        [t.moved (addedAbove (added (Text.splitLines text) done) t.line)] = .ok next ∧
      Progress text (t :: done) next ∧
      (lineCount next : Int) - lineCount current = growth (Text.splitLines text) t := by
  obtain ⟨pre, run, decl, below, hcut, hgrowth, hafter⟩ := h.exists_cut hline hdecl hrows
  obtain ⟨next, hnext, hlines, hfinal⟩ := hcut.exists_inject
  refine ⟨next, hnext, ⟨hlines.trans hafter.symm, hfinal.trans h.final_eq⟩, ?_⟩
  have hbefore : lineCount current = pre.length + (run.length + (below.length + 1)) := by
    rw [lineCount, hcut.lines_eq, List.length_append, List.length_append, List.length_cons]
  have hcount : lineCount next =
      pre.length + ((written run decl t.documentation).length + (below.length + 1)) := by
    rw [lineCount, hlines, List.length_append, List.length_append, List.length_cons]
    rfl
  omega

/-- **A whole run.**  The induction is on the targets that are still to come; those done already go
over to the other list one by one. -/
theorem Progress.exists_injectOneByOne [Parser] : ∀ {order done : List Target} {current : Text},
    Progress text done current → (∀ u ∈ order ++ done, Declared (Text.splitLines text) u) →
    (order ++ done).Pairwise (fun t u => t.row ≠ u.row) → (∀ u ∈ order, 1 ≤ u.line) →
    ∃ result,
      injectOneByOne .patternBrace current (added (Text.splitLines text) done) order =
        .ok result ∧
      Progress text (order.reverse ++ done) result
  | [], _, current, h, _, _, _ => ⟨current, rfl, h⟩
  | t :: order, done, current, h, hdecl, hrows, hline => by
    have hmiddle : (order ++ t :: done).Perm (t :: order ++ done) := List.perm_middle
    have hdecl' : ∀ u ∈ order ++ t :: done, Declared (Text.splitLines text) u :=
      fun u hu => hdecl u (hmiddle.mem_iff.mp hu)
    have hrows' : (order ++ t :: done).Pairwise fun t u => t.row ≠ u.row :=
      (hmiddle.pairwise_iff fun hne => Ne.symm hne).mpr hrows
    obtain ⟨next, hnext, hprogress, hcount⟩ := h.exists_inject (hline t List.mem_cons_self)
      (fun u hu => hdecl' u (List.mem_append_right order hu)) (List.pairwise_append.mp hrows').2.1
    obtain ⟨result, hrun, hresult⟩ := Progress.exists_injectOneByOne hprogress hdecl' hrows'
      fun u hu => hline u (List.mem_cons_of_mem t hu)
    refine ⟨result, ?_, ?_⟩
    · rw [injectOneByOne, hnext]
      change injectOneByOne .patternBrace next (_ :: _) order = _
      rw [hcount]
      exact hrun
    · rw [List.reverse_cons, List.append_assoc, List.singleton_append]
      exact hresult

/-- Lines of their own are rows of their own. -/
theorem pairwise_row_ne (hdistinct : Target.Distinct targets) (hline : ∀ t ∈ targets, 1 ≤ t.line) :
    targets.Pairwise fun t u => t.row ≠ u.row := by
  refine hdistinct.imp_of_mem fun {t u} ht hu hne hrow => hne ?_
  have htline := hline t ht
  have huline := hline u hu
  simp only [Target.row, Target.line] at hrow htline huline ⊢
  omega

/-- Injecting the targets one by one, in any order, gives what injecting them at once gives. -/
theorem injectOneByOne_of_inject [Parser] {order : List Target}
    (hdistinct : Target.Distinct targets)
    (hline : ∀ t ∈ targets, 1 ≤ t.line) (h : inject .patternBrace text targets = .ok result)
    (hperm : order.Perm targets) : injectOneByOne .patternBrace text [] order = .ok result := by
  have hdecl : ∀ t ∈ order ++ [], Declared (Text.splitLines text) t := by
    intro t ht
    rw [List.append_nil] at ht
    exact (inject_eq_ok_iff.mp h).1 t (hperm.mem_iff.mp ht)
  have horder : ∀ t ∈ order, 1 ≤ t.line := fun t ht => hline t (hperm.mem_iff.mp ht)
  have hrows : order.Pairwise fun t u => t.row ≠ u.row :=
    pairwise_row_ne ((Target.Distinct.perm hperm).mpr hdistinct) horder
  obtain ⟨last, hrun, hlast⟩ := (Progress.start text).exists_injectOneByOne hdecl
    ((List.append_nil order).symm ▸ hrows) horder
  -- both ways have done the same targets
  have hatonce : Progress text order result := by
    refine (Progress.of_inject h).perm (hperm.trans (Target.resolve_perm hdistinct).symm) ?_
    refine ((Target.resolve_perm hdistinct).pairwise_iff fun hne => Ne.symm hne).mpr ?_
    exact pairwise_row_ne hdistinct hline
  have honebyone : Progress text order last := by
    rw [List.append_nil] at hlast
    exact hlast.perm (List.reverse_perm order).symm
      (List.pairwise_reverse.mpr (hrows.imp fun hne => Ne.symm hne))
  rw [honebyone.unique hatonce] at hrun
  exact hrun

/-- **At once or one by one.**  For targets on different lines, an injection succeeds exactly when
the line of every target declares a function, and otherwise it complains of a target whose line does
not.  When it succeeds, injecting the targets one after the other, each on the line it has moved to,
gives the same text in whatever order they come; and when they come from the bottom up, every target
is found on the line it was given. -/
theorem inject_one_by_one [Parser] (text : Text) (targets : List Target)
    (hdistinct : Target.Distinct targets) (hline : ∀ t ∈ targets, 1 ≤ t.line) :
    ((∃ result, inject .patternBrace text targets = .ok result) ↔
        ∀ t ∈ targets, Declared (Text.splitLines text) t) ∧
      (∀ failure, inject .patternBrace text targets = .error failure →
        ∃ t ∈ targets, ¬ Declared (Text.splitLines text) t ∧ failure = missingDeclaration t) ∧
      ∀ result, inject .patternBrace text targets = .ok result →
        ∀ order : List Target, order.Perm targets →
          injectOneByOne .patternBrace text [] order = .ok result ∧
          (order.Pairwise (fun t u => u.line < t.line) →
            order.foldlM (fun current t => inject .patternBrace current [t]) text =
              .ok result) := by
  refine ⟨⟨?_, fun hdecl => ⟨_, inject_of_declared hdecl⟩⟩, ?_, ?_⟩
  · rintro ⟨result, hresult⟩
    exact (inject_eq_ok_iff.mp hresult).1
  · intro failure hfail
    by_cases hdecl : ∀ t ∈ targets, Declared (Text.splitLines text) t
    · rw [inject_of_declared hdecl] at hfail
      exact absurd hfail (by simp)
    · obtain ⟨t, ht, hmissing, herr⟩ := inject_of_not_declared hdecl
      rw [herr, Except.error.injEq] at hfail
      exact ⟨t, ht, hmissing, hfail.symm⟩
  · intro result hresult order hperm
    have honebyone : injectOneByOne .patternBrace text [] order = .ok result :=
      injectOneByOne_of_inject hdistinct hline hresult hperm
    refine ⟨honebyone, fun hdesc => ?_⟩
    have hunmoved : injectOneByOne .patternBrace text [] order =
        order.foldlM (fun current t => inject .patternBrace current [t]) text :=
      injectOneByOne_of_descending hdesc fun _ _ => rfl
    exact hunmoved.symm.trans honebyone

/-- Three functions, two of them on adjacent lines, documented from the top down: the later targets
are found two and one lines further down. -/
theorem inject_one_by_one_three_functions :
    let text := "f <- function(a) a\n#' Old.\n#' Older.\ng <- function(b) b\n\th = \\(c) c\n".toList
    let targets : List Target := [.onLine 5 "Three.", .onLine 1 "One.\nMore.", .onLine 4 "Two."]
    let order : List Target := [.onLine 1 "One.\nMore.", .onLine 4 "Two.", .onLine 5 "Three."]
    let result := ("#' One.\n#' More.\nf <- function(a) a\n#' Two.\ng <- function(b) b\n" ++
      "\t#' Three.\n\th = \\(c) c\n").toList
    inject .patternBrace text targets = .ok result ∧
      injectOneByOne .patternBrace text [] order = .ok result := by
  intro text targets order result
  have hdistinct : Target.Distinct targets := by decide
  have hline : ∀ t ∈ targets, 1 ≤ t.line := by decide
  have hperm : order.Perm targets := by decide
  have hinject : inject .patternBrace text targets = .ok result := by decide +kernel
  obtain ⟨-, -, hsame⟩ := inject_one_by_one text targets hdistinct hline
  exact ⟨hinject, (hsame result hinject order hperm).1⟩

end Brace

end DocSplice
