import DocSplice.Proofs.Brace.Items
import DocSplice.Proofs.Brace.MovedFunctions
import DocSplice.Proofs.Brace.OneByOne
import Mathlib.Algebra.BigOperators.Group.List.Basic
import Mathlib.Algebra.Ring.Int.Defs
import Mathlib.Data.List.Pairwise

/-!
# What an injection wrote is read back

Documentation is installed for some of the functions of a file, and the functions are extracted
again.

* `rewritesBlocks_install`: an injection into a file is an edit that rewrites documentation, so the
  same functions are found after it.
* `Cut.target_moved` and `Cut.other_moved`: where the function of one target, and a function that
  no target asks about, stand after an injection, and which lines stand above it then.
* `inject_round_trip`: every function is found again, further down by what was added above it, with
  the documentation that was asked for or with the one it had.

A file qualifies when every line closes the strings it opens.  Where a string goes on to the next
line, a line of the string may look like documentation, and an injection loses it.
-/

namespace DocSplice.Brace

variable {lines pre run post : List Text} {decl : Text} {t : Target} {done targets : List Target}

/-! ## How far a function moves -/

/-- How many lines are added on a line and above it. -/
def addedThrough (lines : List Text) (targets : List Target) (line : Nat) : Int :=
  ((targets.filter (·.line ≤ line)).map (growth lines)).sum

theorem addedThrough_perm {order : List Target} (h : order.Perm targets) (line : Nat) :
    addedThrough lines order line = addedThrough lines targets line :=
  ((h.filter _).map _).sum_eq

/-- What is added above a line that no target is for is what is added on it and above. -/
theorem addedAbove_added {line : Nat} (h : ∀ u ∈ done, u.line ≠ line) :
    addedAbove (added lines done) line = addedThrough lines done line := by
  induction done with
  | nil => rfl
  | cons u done ih =>
    have hu : u.line ≠ line := h u List.mem_cons_self
    have ih := ih fun w hw => h w (List.mem_cons_of_mem u hw)
    have hsum : addedAbove (added lines (u :: done)) line =
        (if u.line < line then growth lines u else 0) + addedAbove (added lines done) line :=
      addedAbove_cons _ _ _ _
    rw [hsum, ih, addedThrough, addedThrough]
    by_cases hlt : u.line < line
    · simp [hlt, Nat.le_of_lt hlt]
    · have hnot : ¬ u.line ≤ line := by omega
      simp [hlt, hnot]

/-- The target for a line adds its own lines to what the others add above. -/
theorem addedThrough_cons (h : ∀ u ∈ done, u.line ≠ t.line) :
    addedThrough lines (t :: done) t.line =
      growth lines t + addedAbove (added lines done) t.line := by
  rw [addedAbove_added h]
  simp [addedThrough]

/-! ## The lines above a function -/

/-- What ends the lines that are written above a declaration: a carriage return when the line that
they land on has one, which is the first line of the run or the declaration itself. -/
def lineEnding (lines : List Text) (row : Nat) : Text :=
  if lines[startAbove isMarked lines row]?.any Splice.hasReturn then ['\r'] else []

theorem Cut.written_eq (h : Cut lines t pre run decl post) (documentation : Text) :
    written run decl documentation =
      (render (Text.indent decl) documentation).map (· ++ lineEnding lines t.row) := by
  have hfirst : lines[startAbove isMarked lines t.row]? = (run ++ [decl]).head? := by
    rw [h.startAbove_eq, h.lines_eq, List.getElem?_append_right (Nat.le_refl _), Nat.sub_self]
    cases run with
    | nil => rfl
    | cons line rest => rfl
  rw [written, lineEnding, hfirst]
  split
  · exact map_addReturn_render _ _
  · simp

/-- The documentation that is read above a declaration is its run. -/
theorem Cut.documentation_eq (h : Cut lines t pre run decl post) :
    (block lines t.row).map (·.text lines) =
      if run = [] then none else some (Text.joinLines run) := by
  rw [block, h.row_eq, h.lines_eq]
  exact text_blockAbove_append pre run post decl h.marked h.stops

theorem Cut.take_row (h : Cut lines t pre run decl post) : lines.take t.row = pre ++ run := by
  rw [h.lines_eq, h.row_eq, ← List.append_assoc, ← List.length_append, List.take_left]

theorem Cut.length_apply_pre (h : Cut lines t pre run decl post)
    (hdone : ∀ u ∈ done, Declared lines u)
    (hrows : (t :: done).Pairwise fun t u => t.row ≠ u.row) :
    (((install lines done).apply pre).length : Int) =
      pre.length + addedAbove (added lines done) t.line := by
  have habove := length_apply_above h.declared hdone hrows
  have htake : lines.take pre.length = pre := by rw [h.lines_eq, List.take_left]
  rw [h.startAbove_eq, htake] at habove
  exact habove

/-- A function that no target asks about keeps its run and moves by what is added above it. -/
theorem Cut.other_moved (h : Cut lines t pre run decl post) (hdone : ∀ u ∈ done, Declared lines u)
    (hrows : (t :: done).Pairwise fun t u => t.row ≠ u.row) :
    let after := (install lines done).apply lines
    let row := ((install lines done).apply (lines.take t.row)).length
    (block after row).map (·.text after) = (block lines t.row).map (·.text lines) ∧
      (row : Int) = t.row + addedAbove (added lines done) t.line := by
  intro after row
  obtain ⟨below, hbefore, -⟩ := h.apply_install hdone hrows post
  have hrow : row = ((install lines done).apply pre).length + run.length := by
    rw [← List.length_append, ← (h.apply_install_run hdone hrows).1, ← h.take_row]
  have hafter : after = (install lines done).apply pre ++ (run ++ decl :: below) := by
    rw [← hbefore, ← h.lines_eq]
  constructor
  · rw [h.documentation_eq, block, hrow, hafter]
    exact text_blockAbove_append _ run below decl h.marked
      (h.stops_install hdone (List.pairwise_cons.mp hrows).1)
  · have hlength := h.length_apply_pre hdone hrows
    have hstart := h.row_eq
    omega

/-- The function of one more target has the lines that were written above it, and moves by what is
added above it and by what its target adds. -/
theorem Cut.target_moved (h : Cut lines t pre run decl post) (hdone : ∀ u ∈ done, Declared lines u)
    (hrows : (t :: done).Pairwise fun t u => t.row ≠ u.row)
    (hdoc : Text.allBlank t.documentation = false) :
    let after := (install lines (t :: done)).apply lines
    let row := ((install lines (t :: done)).apply (lines.take t.row)).length
    (block after row).map (·.text after) =
        some (Text.joinLines (written run decl t.documentation)) ∧
      (row : Int) = t.row + (growth lines t + addedAbove (added lines done) t.line) := by
  intro after row
  obtain ⟨below, -, hwritten⟩ := h.apply_install hdone hrows post
  have hrow : row = ((install lines done).apply pre).length +
      (written run decl t.documentation).length := by
    rw [← List.length_append, ← (h.apply_install_run hdone hrows).2, ← h.take_row]
  have hafter : after = (install lines done).apply pre ++
      (written run decl t.documentation ++ decl :: below) := by
    rw [← hwritten, ← h.lines_eq]
  have hmarked : ∀ line ∈ written run decl t.documentation, isMarked line = true :=
    fun line hline => isMarked_of_mem_written hline
  have hne : written run decl t.documentation ≠ [] := written_ne_nil hdoc run decl
  constructor
  · rw [block, hrow, hafter,
      text_blockAbove_append _ _ below decl hmarked
        (h.stops_install hdone (List.pairwise_cons.mp hrows).1), if_neg hne]
  · have hlength := h.length_apply_pre hdone hrows
    have hgrowth := h.growth_eq
    have hstart := h.row_eq
    omega

/-! ## The functions after an injection -/

/-- **An injection rewrites documentation** and nothing else, when its targets are functions that
are found and no documentation is blank. -/
theorem rewritesBlocks_install (hdecl : ∀ t ∈ targets, Declared lines t)
    (hfound : ∀ t ∈ targets, ∃ name, (t.row, name) ∈ found lines)
    (hdoc : ∀ t ∈ targets, Text.allBlank t.documentation = false) :
    RewritesBlocks (install lines targets) lines where
  new_marked row line hline := by
    obtain ⟨t, ht, -, hmem⟩ := mem_above_install.mp hline
    exact isMarked_of_mem_installation (hdecl t ht) hmem
  old_marked row line hline hgone := isMarked_of_drops hdecl hline hgone
  replaced row hgone := by
    obtain ⟨t, ht, hlt, hrun⟩ := (drops_install_iff hdecl).mp hgone
    by_cases hlast : row + 1 = t.row
    · -- the row below is the one of the declaration
      obtain ⟨pre, run, decl, post, hcut⟩ := (hdecl t ht).exists_cut
      have hlines : (installation lines t).lines ≠ [] := by
        rw [hcut.installation_eq]
        exact written_ne_nil (hdoc t ht) run decl
      obtain ⟨line, hline⟩ := List.exists_mem_of_ne_nil _ hlines
      exact Or.inr (List.ne_nil_of_mem (mem_above_install.mpr ⟨t, ht, hlast.symm, hline⟩))
    · refine Or.inl ((drops_install_iff hdecl).mpr ⟨t, ht, by omega, fun j hj hjt => ?_⟩)
      exact hrun j (by omega) hjt
  above_found row habove := by
    obtain ⟨line, hline⟩ := List.exists_mem_of_ne_nil _ habove
    obtain ⟨t, ht, rfl, -⟩ := mem_above_install.mp hline
    exact hfound t ht

/-- What becomes of an item in an injection. -/
structure Carried (lines : List Text) (targets : List Target) (before after : Item) : Prop where
  name_eq : after.name = before.name
  /-- The item moves by what is added above it and for it. -/
  line_eq : (after.firstLine : Int) =
    before.firstLine + addedThrough lines targets before.firstLine
  /-- The documentation of a target is what was rendered for it, with the line ending around. -/
  documented : ∀ t ∈ targets, t.item = before → ∃ decl, lines[t.row]? = some decl ∧
    after.documentation = some (Text.joinLines
      ((render (Text.indent decl) t.documentation).map (· ++ lineEnding lines t.row)))
  /-- Where no target asks for it, nothing changes. -/
  untouched : (∀ t ∈ targets, t.item ≠ before) → after.documentation = before.documentation

section

variable {f : Nat × Text}

/-- A function is found by its row. -/
theorem eq_of_mem_found {g : Nat × Text} (hf : f ∈ found lines) (hg : g ∈ found lines)
    (hrow : f.1 = g.1) : f = g := by
  obtain ⟨line, hline, hname⟩ := getElem?_of_mem_found hf
  obtain ⟨line', hline', hname'⟩ := getElem?_of_mem_found hg
  rw [hrow, hline', Option.some.injEq] at hline
  rw [hline, hname, Option.some.injEq] at hname'
  exact Prod.ext hrow hname'

theorem declared_of_mem_found (hf : f ∈ found lines) (hrow : t.row = f.1) : Declared lines t := by
  obtain ⟨line, hline, hname⟩ := getElem?_of_mem_found hf
  refine ⟨line, hrow ▸ hline, ?_⟩
  rw [isDeclaration, hname]
  rfl

/-- The targets are functions that are found. -/
def AllFound (lines : List Text) (targets : List Target) : Prop :=
  ∀ t ∈ targets, ∃ f ∈ found lines, t.item = itemAt lines f

theorem AllFound.declared (h : AllFound lines targets) : ∀ t ∈ targets, Declared lines t := by
  intro t ht
  obtain ⟨f, hf, hitem⟩ := h t ht
  exact declared_of_mem_found hf (by rw [Target.row, hitem]; rfl)

theorem AllFound.one_le_line (h : AllFound lines targets) : ∀ t ∈ targets, 1 ≤ t.line := by
  intro t ht
  obtain ⟨f, hf, hitem⟩ := h t ht
  show 1 ≤ t.item.firstLine
  rw [hitem]
  exact Nat.le_add_left 1 f.1

/-- A target for the row of a function is for its item. -/
theorem AllFound.item_eq_iff (h : AllFound lines targets) (hf : f ∈ found lines)
    (ht : t ∈ targets) : t.item = itemAt lines f ↔ t.row = f.1 := by
  constructor
  · intro hitem
    rw [Target.row, hitem]
    rfl
  · intro hrow
    obtain ⟨g, hg, hitem⟩ := h t ht
    have hg' : t.row = g.1 := by
      rw [Target.row, hitem]
      rfl
    rw [hitem, eq_of_mem_found hf hg (hrow.symm.trans hg')]

/-- An item moves like its row. -/
theorem firstLine_movedBy {e : RowEdit} {added : Int}
    (h : ((e.apply (lines.take f.1)).length : Int) = f.1 + added) :
    ((itemAt (e.apply lines) (movedBy e lines f)).firstLine : Int) =
      (itemAt lines f).firstLine + added := by
  show (((e.apply (lines.take f.1)).length + 1 : Nat) : Int) = ((f.1 + 1 : Nat) : Int) + added
  omega

/-- A function that a target asks about is carried over. -/
theorem carried_target (h : AllFound lines targets) (hdistinct : Target.Distinct targets)
    (ht : t ∈ targets) (hdoc : Text.allBlank t.documentation = false) (hf : f ∈ found lines)
    (hrow : t.row = f.1) :
    Carried lines targets (itemAt lines f)
      (itemAt ((install lines targets).apply lines) (movedBy (install lines targets) lines f)) := by
  have hrows : targets.Pairwise fun t u => t.row ≠ u.row := pairwise_row_ne hdistinct h.one_le_line
  -- the other targets come first, and this one is one more
  have hperm : (t :: targets.erase t).Perm targets := (List.perm_cons_erase ht).symm
  have hrows' : (t :: targets.erase t).Pairwise fun t u => t.row ≠ u.row :=
    (hperm.pairwise_iff fun hne => Ne.symm hne).mpr hrows
  have hdistinct' : Target.Distinct (t :: targets.erase t) :=
    (Target.Distinct.perm hperm).mpr hdistinct
  have hitem : t.item = itemAt lines f := (h.item_eq_iff hf ht).mpr hrow
  have hline : t.line = f.1 + 1 := congrArg Item.firstLine hitem
  obtain ⟨pre, run, decl, post, hcut⟩ := (h.declared t ht).exists_cut
  obtain ⟨hdocumentation, hmoved⟩ :=
    hcut.target_moved (fun u hu => h.declared u (List.mem_of_mem_erase hu)) hrows' hdoc
  rw [install_perm hperm hrows, hrow] at hdocumentation hmoved
  have hthrough : growth lines t + addedAbove (added lines (targets.erase t)) t.line =
      addedThrough lines targets (f.1 + 1) := by
    rw [← hline, ← addedThrough_perm hperm, addedThrough_cons fun u hu => ?_]
    exact ((List.pairwise_cons.mp hdistinct').1 u hu).symm
  rw [hthrough] at hmoved
  have hsame : ∀ u ∈ targets, u.item = itemAt lines f → u = t := by
    intro u hu huitem
    have hsymm : Std.Symm fun t u : Target => t.row ≠ u.row := ⟨fun _ _ hne => Ne.symm hne⟩
    by_contra hne
    exact hrows.forall hu ht hne (((h.item_eq_iff hf hu).mp huitem).trans hrow.symm)
  refine ⟨rfl, firstLine_movedBy hmoved, fun u hu huitem => ?_,
    fun hnone => absurd hitem (hnone t ht)⟩
  obtain rfl : u = t := hsame u hu huitem
  refine ⟨decl, hcut.getElem?_row, ?_⟩
  rw [← hcut.written_eq]
  exact hdocumentation

/-- A function that no target asks about is carried over. -/
theorem carried_other (h : AllFound lines targets) (hdistinct : Target.Distinct targets)
    (hf : f ∈ found lines) (hnone : ∀ u ∈ targets, u.row ≠ f.1) :
    Carried lines targets (itemAt lines f)
      (itemAt ((install lines targets).apply lines) (movedBy (install lines targets) lines f)) := by
  have hrows : targets.Pairwise fun t u => t.row ≠ u.row := pairwise_row_ne hdistinct h.one_le_line
  -- a target of no interest stands for the function
  have hrow : (Target.onLine (f.1 + 1) "").row = f.1 := rfl
  have hline : (Target.onLine (f.1 + 1) "").line = f.1 + 1 := rfl
  have hother : ∀ u ∈ targets, (Target.onLine (f.1 + 1) "").row ≠ u.row :=
    fun u hu heq => hnone u hu heq.symm
  obtain ⟨pre, run, decl, post, hcut⟩ := (declared_of_mem_found hf hrow).exists_cut
  obtain ⟨hdocumentation, hmoved⟩ :=
    hcut.other_moved h.declared (List.pairwise_cons.mpr ⟨hother, hrows⟩)
  have hthrough : addedAbove (added lines targets) (f.1 + 1) =
      addedThrough lines targets (f.1 + 1) := by
    refine addedAbove_added fun u hu heq => hnone u hu ?_
    have hfirst : u.item.firstLine = f.1 + 1 := heq
    rw [Target.row, hfirst, Nat.add_sub_cancel]
  rw [hrow] at hdocumentation hmoved
  rw [hline, hthrough] at hmoved
  refine ⟨rfl, firstLine_movedBy hmoved, fun u hu huitem => ?_, fun _ => hdocumentation⟩
  exact absurd ((h.item_eq_iff hf hu).mp huitem) (hnone u hu)

/-- A function that is found is carried over. -/
theorem carried_movedBy (h : AllFound lines targets) (hdistinct : Target.Distinct targets)
    (hdoc : ∀ t ∈ targets, Text.allBlank t.documentation = false) (hf : f ∈ found lines) :
    Carried lines targets (itemAt lines f)
      (itemAt ((install lines targets).apply lines) (movedBy (install lines targets) lines f)) := by
  by_cases htarget : ∃ t ∈ targets, t.row = f.1
  · obtain ⟨t, ht, hrow⟩ := htarget
    exact carried_target h hdistinct ht (hdoc t ht) hf hrow
  · exact carried_other h hdistinct hf fun u hu hrow => htarget ⟨u, hu, hrow⟩

end

/-! ## The round trip -/

variable {text result : Text}

theorem allFound_of_mem_items (hclosed : ∀ line ∈ Text.splitLines text, ClosesStrings line)
    (hitems : ∀ t ∈ targets, t.item ∈ items text) : AllFound (Text.splitLines text) targets := by
  intro t ht
  have hmem := hitems t ht
  rw [items_eq hclosed, List.mem_map] at hmem
  obtain ⟨f, hf, hitem⟩ := hmem
  exact ⟨f, hf, hitem.symm⟩

/-- The items after an injection are the items before it, carried over. -/
theorem carried_of_inject [Parser] (hclosed : ∀ line ∈ Text.splitLines text, ClosesStrings line)
    (hitems : ∀ t ∈ targets, t.item ∈ items text) (hdistinct : Target.Distinct targets)
    (hdoc : ∀ t ∈ targets, Text.allBlank t.documentation = false)
    (hinject : inject .patternBrace text targets = .ok result) :
    List.Forall₂ (Carried (Text.splitLines text) targets) (items text) (items result) := by
  have hfound := allFound_of_mem_items hclosed hitems
  have hrows := pairwise_row_ne hdistinct hfound.one_le_line
  have hedit : RewritesBlocks (install (Text.splitLines text) targets) (Text.splitLines text) := by
    refine rewritesBlocks_install hfound.declared (fun t ht => ?_) hdoc
    obtain ⟨f, hf, hitem⟩ := hfound t ht
    exact ⟨f.2, (hfound.item_eq_iff hf ht).mp hitem ▸ hf⟩
  have hlines : Text.splitLines result =
      (install (Text.splitLines text) targets).apply (Text.splitLines text) := by
    rw [(Progress.of_inject hinject).lines_eq, install_perm (Target.resolve_perm hdistinct) hrows]
  have hclosed' : ∀ line ∈ Text.splitLines result, ClosesStrings line := by
    intro line hline
    rw [hlines, RowEdit.apply, above_install_length hfound.declared, List.append_nil] at hline
    rcases RowEdit.mem_rowsFrom hline with ⟨row, -, -, hnew⟩ | hold
    · exact closesStrings_of_isMarked (hedit.new_marked row line hnew)
    · exact hclosed line hold
  rw [items_eq hclosed, items_eq hclosed', hlines,
    hedit.found_apply (above_install_length hfound.declared), List.map_map,
    List.forall₂_map_left_iff, List.forall₂_map_right_iff, List.forall₂_same]
  exact fun f hf => carried_movedBy hfound hdistinct hdoc hf

/-- **Documentation that was installed is read back.**  In a file whose lines close the strings they
open, documentation that is not blank can be installed for any of the functions that are extracted.
Extraction then finds the same functions in the same order, each moved by what was added above it
and for it.  A function that was asked about has the rendered documentation, and any other one has
what it had. -/
theorem inject_round_trip [Parser] (text : Text) (targets : List Target)
    (hclosed : ∀ line ∈ Text.splitLines text, ClosesStrings line)
    (hitems : ∀ t ∈ targets, t.item ∈ items text) (hdistinct : Target.Distinct targets)
    (hdoc : ∀ t ∈ targets, Text.allBlank t.documentation = false) :
    ∃ result, inject .patternBrace text targets = .ok result ∧
      List.Forall₂ (Carried (Text.splitLines text) targets) (items text) (items result) := by
  obtain ⟨result, hinject⟩ : ∃ result, inject .patternBrace text targets = .ok result :=
    ⟨_, inject_of_declared fun t ht => declared_of_mem_items (hitems t ht)⟩
  exact ⟨result, hinject, carried_of_inject hclosed hitems hdistinct hdoc hinject⟩

/-- The body of the first function asks for more and ends on the marked line below.  Two lines take
the place of that line, and the third function is found three lines further down. -/
theorem inject_round_trip_three_functions :
    let text := "f <- function(a)\n  a +\n#' Old.\ng <- function(b) b\n\th = \\(c) \"c\"\n".toList
    let g : Item := ⟨['g'], .routine, "g <- function(b) b".toList, 4, 4, some "#' Old.".toList⟩
    let h : Item := ⟨['h'], .routine, "\th = \\(c) \"c\"".toList, 5, 5, none⟩
    let targets : List Target := [⟨h, "Three.\n@export\n".toList⟩, ⟨g, "Two.\nMore.".toList⟩]
    ((∀ line ∈ Text.splitLines text, ClosesStrings line) ∧ (∀ t ∈ targets, t.item ∈ items text) ∧
        Target.Distinct targets ∧ ∀ t ∈ targets, Text.allBlank t.documentation = false) ∧
      ∃ result, inject .patternBrace text targets = .ok result ∧
        List.Forall₂ (Carried (Text.splitLines text) targets) (items text) (items result) := by
  intro text g h targets
  have hclosed : ∀ line ∈ Text.splitLines text, ClosesStrings line := by decide +kernel
  have hitems : ∀ t ∈ targets, t.item ∈ items text := by decide +kernel
  have hdistinct : Target.Distinct targets := by decide
  have hdoc : ∀ t ∈ targets, Text.allBlank t.documentation = false := by decide
  exact ⟨⟨hclosed, hitems, hdistinct, hdoc⟩,
    inject_round_trip text targets hclosed hitems hdistinct hdoc⟩

end DocSplice.Brace
