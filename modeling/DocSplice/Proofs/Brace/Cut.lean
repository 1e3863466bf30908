import DocSplice.Proofs.Brace.Installation

/-!
# One more target

How the installation of one target stands to the installations of others.

* `Cut`: the lines of a text cut at the declaration a target is for and at the run above it.
* `Cut.installation_eq`: an installation depends on the run above the declaration and on the
  declaration, and on nothing else in the text.
* `quiet_of_declared`: the installations of other targets leave these rows alone.
* `Cut.apply_install`: hence one more target rewrites its run and nothing else, whichever targets
  came before.  `Cut.apply_install_below` says so of the lines down to anywhere, and
  `Cut.apply_install_run` of the lines down to the declaration.
-/

namespace DocSplice.Brace

variable {lines pre run post : List Text} {decl : Text} {t : Target} {done : List Target}

/-! ## What an installation depends on -/

/-- The lines that an installation writes above a declaration with a given run above. -/
def written (run : List Text) (decl documentation : Text) : List Text :=
  let new := render (Text.indent decl) documentation
  if (run ++ [decl]).head?.any Splice.hasReturn then new.map Splice.addReturn else new

/-- The lines that an installation writes are marked. -/
theorem isMarked_of_mem_written {line documentation : Text}
    (h : line ∈ written run decl documentation) : isMarked line = true := by
  have hblank : ∀ c ∈ Text.indent decl, isBlank c = true := fun c hc =>
    Text.isBlank_of_mem_indent hc
  rw [written] at h
  split at h
  · obtain ⟨given, hgiven, rfl⟩ := List.mem_map.mp h
    exact isMarked_of_startsWith hblank
      (Splice.startsWith_addReturn (startsWith_of_mem_render hgiven))
  · exact isMarked_of_startsWith hblank (startsWith_of_mem_render h)

theorem written_ne_nil {documentation : Text} (h : Text.allBlank documentation = false)
    (run : List Text) (decl : Text) : written run decl documentation ≠ [] := by
  have hrender : render (Text.indent decl) documentation ≠ [] := render_ne_nil h _
  rw [written]
  split
  · rwa [ne_eq, List.map_eq_nil_iff]
  · exact hrender

/-- The lines of a text cut at the declaration that a target is for: what comes before the run above
it, the run, the declaration, and what comes below. -/
structure Cut (lines : List Text) (t : Target) (pre run : List Text) (decl : Text)
    (post : List Text) : Prop where
  lines_eq : lines = pre ++ (run ++ decl :: post)
  row_eq : t.row = pre.length + run.length
  declares : isDeclaration decl = true
  marked : ∀ line ∈ run, isMarked line = true
  stops : ∀ line, pre.getLast? = some line → isMarked line = false

theorem Declared.exists_cut (h : Declared lines t) :
    ∃ pre run decl post, Cut lines t pre run decl post := by
  obtain ⟨decl, hline, hdecl⟩ := h
  obtain ⟨pre, run, post, hlines, -, hrow, hmarked, hstops⟩ := exists_run_split isMarked hline
  exact ⟨pre, run, decl, post, hlines, hrow.symm, hdecl, hmarked, hstops⟩

namespace Cut

/-- Where a text is cut does not depend on the documentation of the target. -/
theorem documented (h : Cut lines t pre run decl post) (documentation : Text) :
    Cut lines ⟨t.item, documentation⟩ pre run decl post :=
  ⟨h.lines_eq, h.row_eq, h.declares, h.marked, h.stops⟩

theorem getElem?_row (h : Cut lines t pre run decl post) : lines[t.row]? = some decl := by
  rw [h.lines_eq, h.row_eq, ← List.append_assoc, ← List.length_append,
    List.getElem?_append_right (Nat.le_refl _), Nat.sub_self]
  rfl

/-- The lines down to some line below the declaration are cut at the same places. -/
theorem take_eq (h : Cut lines t pre run decl post) {count : Nat} (hcount : t.row < count) :
    lines.take count = pre ++ (run ++ decl :: post.take (count - (t.row + 1))) := by
  obtain ⟨more, rfl⟩ : ∃ more, count = pre.length + (run.length + (more + 1)) := by
    have hrow := h.row_eq
    exact ⟨count - (t.row + 1), by omega⟩
  have hmore : pre.length + (run.length + (more + 1)) - (t.row + 1) = more := by
    have hrow := h.row_eq
    omega
  rw [hmore, h.lines_eq, List.take_length_add_append, List.take_length_add_append,
    List.take_succ_cons]

theorem declared (h : Cut lines t pre run decl post) : Declared lines t :=
  ⟨decl, h.getElem?_row, h.declares⟩

theorem startAbove_eq (h : Cut lines t pre run decl post) :
    startAbove isMarked lines t.row = pre.length := by
  rw [h.lines_eq, h.row_eq]
  exact startAbove_append pre run post decl h.marked h.stops

/-- An installation depends on the run above the declaration and on the declaration only; even the
line that decides about the line endings is one of these. -/
theorem installation_eq (h : Cut lines t pre run decl post) :
    installation lines t =
      ⟨pre.length, pre.length + run.length, written run decl t.documentation⟩ := by
  have hplan : plan lines t =
      ⟨pre.length, pre.length + run.length, render (Text.indent decl) t.documentation⟩ := by
    rw [plan_eq h.getElem?_row, h.startAbove_eq, h.row_eq]
  have hfirst : lines[pre.length]? = (run ++ [decl]).head? := by
    rw [h.lines_eq, List.getElem?_append_right (Nat.le_refl _), Nat.sub_self]
    cases run with
    | nil => rfl
    | cons line rest => rfl
  obtain ⟨line, hline⟩ : ∃ line, (run ++ [decl]).head? = some line := by
    cases run with
    | nil => exact ⟨decl, rfl⟩
    | cons line rest => exact ⟨line, rfl⟩
  have hanchor : Splice.anchor? lines (plan lines t) = (run ++ [decl]).head? := by
    rw [hplan, Splice.anchor?, hfirst, hline]
  rw [installation, Splice.adoptEnding, hanchor, hplan, written]
  split
  · rfl
  · rfl

end Cut

/-! ## One more target -/

/-- The installations of other targets leave a declaration and the run above it alone. -/
theorem quiet_of_declared (ht : Declared lines t) (hdone : ∀ u ∈ done, Declared lines u)
    (hrows : ∀ u ∈ done, t.row ≠ u.row) {i : Nat} (hlow : startAbove isMarked lines t.row ≤ i)
    (hi : i ≤ t.row) :
    (install lines done).above i = [] ∧ (install lines done).drops i = false := by
  have hout : ∀ u ∈ done, u.row < startAbove isMarked lines t.row ∨
      t.row < startAbove isMarked lines u.row := by
    intro u hu
    rcases Nat.lt_or_gt_of_ne (hrows u hu) with hlt | hlt
    · exact Or.inr (row_lt_startAbove ht (Nat.le_of_lt (hdone u hu).row_lt) hlt)
    · exact Or.inl (row_lt_startAbove (hdone u hu) (Nat.le_of_lt ht.row_lt) hlt)
  constructor
  · refine List.eq_nil_iff_forall_not_mem.mpr fun line hline => ?_
    obtain ⟨u, hu, hrow, -⟩ := mem_above_install.mp hline
    have hle : startAbove isMarked lines u.row ≤ u.row :=
      startAbove_le (Nat.le_of_lt (hdone u hu).row_lt)
    rcases hout u hu with h | h
    · omega
    · omega
  · refine Bool.eq_false_iff.mpr fun hdrop => ?_
    obtain ⟨u, hu, hrun⟩ := (drops_install_iff hdone).mp hdrop
    have hin := (inRunAbove_iff (Nat.le_of_lt (hdone u hu).row_lt)).mp hrun
    rcases hout u hu with h | h
    · omega
    · omega

/-- Where no target is installed nothing changes. -/
theorem apply_install_nil (lines rows : List Text) : (install lines []).apply rows = rows :=
  RowEdit.apply_eq_self fun _ => ⟨rfl, rfl⟩

/-- Lines that end above the run of one more target are written as without it. -/
theorem apply_install_of_lt {rows : List Text} (h : Declared lines t)
    (hrows : (t :: done).Pairwise fun t u => t.row ≠ u.row)
    (hlt : rows.length < startAbove isMarked lines t.row) :
    (install lines (t :: done)).apply rows = (install lines done).apply rows := by
  have hstart : startAbove isMarked lines t.row ≤ t.row := startAbove_le (Nat.le_of_lt h.row_lt)
  rw [install_eq_edit (List.Perm.refl (t :: done)) hrows,
    install_eq_edit (List.Perm.refl done) hrows.of_cons]
  refine RowEdit.apply_congr fun i hi => ⟨?_, ?_⟩
  · rw [List.map_cons, Splice.above_edit_cons, installation_stop, if_neg (by omega),
      List.nil_append]
  · rw [List.map_cons, Splice.drops_edit_cons, installation_start,
      decide_eq_false (show ¬ _ ≤ i by omega), Bool.false_and, Bool.false_or]

/-- Installations of other targets leave the rows of the run and of the declaration alone. -/
theorem Cut.quiet (h : Cut lines t pre run decl post) (hdone : ∀ u ∈ done, Declared lines u)
    (hrows : (t :: done).Pairwise fun t u => t.row ≠ u.row) {i : Nat} (hlow : pre.length ≤ i)
    (hi : i ≤ pre.length + run.length) :
    (install lines done).above i = [] ∧ (install lines done).drops i = false :=
  quiet_of_declared h.declared hdone (List.pairwise_cons.mp hrows).1 (h.startAbove_eq ▸ hlow)
    (h.row_eq ▸ hi)

/-- Nothing is added between the lines above the run and the run. -/
theorem Cut.apply_pre (h : Cut lines t pre run decl post) (hdone : ∀ u ∈ done, Declared lines u)
    (hrows : (t :: done).Pairwise fun t u => t.row ≠ u.row) :
    (install lines done).apply pre = (install lines done).rowsFrom 0 pre := by
  rw [RowEdit.apply, (h.quiet hdone hrows (Nat.le_refl _) (Nat.le_add_right _ _)).1,
    List.append_nil]

/-- Whichever targets are installed already, they leave the run above another declaration where it
is, and installing that one too replaces the run.  What comes below is the same in both cases. -/
theorem Cut.apply_install_below (h : Cut lines t pre run decl post)
    (hdone : ∀ u ∈ done, Declared lines u) (hrows : (t :: done).Pairwise fun t u => t.row ≠ u.row)
    (c : List Text) :
    (install lines done).apply (pre ++ (run ++ c)) =
        (install lines done).apply pre ++ (run ++ ((install lines done).rowsFrom t.row c ++
          (install lines done).above (t.row + c.length))) ∧
      (install lines (t :: done)).apply (pre ++ (run ++ c)) =
        (install lines done).apply pre ++ (written run decl t.documentation ++
          ((install lines done).rowsFrom t.row c ++
            (install lines done).above (t.row + c.length))) := by
  have hdone' : install lines done = Splice.edit (done.map (installation lines)) :=
    install_eq_edit (List.Perm.refl done) hrows.of_cons
  have hall : install lines (t :: done) =
      Splice.edit (installation lines t :: done.map (installation lines)) :=
    install_eq_edit (List.Perm.refl (t :: done)) hrows
  have hrun : ∀ i, pre.length ≤ i → i < pre.length + run.length →
      (install lines done).above i = [] ∧ (install lines done).drops i = false :=
    fun i hlow hi => h.quiet hdone hrows hlow (Nat.le_of_lt hi)
  rw [h.apply_pre hdone hrows, hall, h.row_eq]
  rw [hdone'] at hrun ⊢
  refine ⟨Splice.apply_edit_of_quiet hrun, ?_⟩
  rw [Splice.apply_edit_cons (by rw [h.installation_eq]) (by rw [h.installation_eq]) hrun,
    h.installation_eq]

/-- **One more target rewrites its run** and nothing else. -/
theorem Cut.apply_install (h : Cut lines t pre run decl post)
    (hdone : ∀ u ∈ done, Declared lines u) (hrows : (t :: done).Pairwise fun t u => t.row ≠ u.row)
    (rest : List Text) :
    ∃ below,
      (install lines done).apply (pre ++ (run ++ decl :: rest)) =
        (install lines done).apply pre ++ (run ++ decl :: below) ∧
      (install lines (t :: done)).apply (pre ++ (run ++ decl :: rest)) =
        (install lines done).apply pre ++ (written run decl t.documentation ++ decl :: below) := by
  have hrow := h.quiet hdone hrows (Nat.le_add_right pre.length run.length) (Nat.le_refl _)
  obtain ⟨hbefore, hafter⟩ := h.apply_install_below hdone hrows (decl :: rest)
  have hdecl : (install lines done).rowsFrom t.row (decl :: rest) =
      decl :: (install lines done).rowsFrom (t.row + 1) rest := by
    rw [RowEdit.rowsFrom_cons, h.row_eq, hrow.1, hrow.2]
    rfl
  rw [hdecl] at hbefore hafter
  exact ⟨_, hbefore, hafter⟩

/-- The same, read up to the declaration. -/
theorem Cut.apply_install_run (h : Cut lines t pre run decl post)
    (hdone : ∀ u ∈ done, Declared lines u)
    (hrows : (t :: done).Pairwise fun t u => t.row ≠ u.row) :
    (install lines done).apply (pre ++ run) = (install lines done).apply pre ++ run ∧
      (install lines (t :: done)).apply (pre ++ run) =
        (install lines done).apply pre ++ written run decl t.documentation := by
  have hrow := h.quiet hdone hrows (Nat.le_add_right pre.length run.length) (Nat.le_refl _)
  have hbelow := h.apply_install_below hdone hrows []
  rw [← h.row_eq] at hrow
  simpa [hrow.1] using hbelow

end DocSplice.Brace
