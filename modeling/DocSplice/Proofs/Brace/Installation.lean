import DocSplice.Proofs.Brace.Rendering
import DocSplice.Proofs.Runs
import DocSplice.Proofs.Session
import DocSplice.Proofs.Splicing

/-!
# Installing marked blocks

What `inject` does to a file of functions, for any list of targets.

* `Declared`: the line of a target declares a function.  This is all an injection asks for:
  `inject_of_declared` and `inject_of_not_declared` give its outcome in either case, so planned
  splices are never refused.
* `install`: the row edit of an injection.  It drops the runs of marked lines above the targeted
  rows and nothing else (`drops_install_iff`), and puts new lines above targeted rows only
  (`mem_above_install`), each starting with the indentation of the declaration and the marker
  (`startsWith_of_mem_installation`).
* `splitLines_rewritten`: the lines of the rewritten text are the edited lines, and
  `endsWithNewline_rewritten`: the final newline is as before.

Two installations never meet because the row of a declaration is not marked: the run above one
declaration ends below every declaration further up (`row_lt_startAbove`).
-/

namespace DocSplice.Brace

variable {lines : List Text} {text : Text} {targets : List Target} {t u : Target}

/-- The line of the target declares a function. -/
def Declared (lines : List Text) (t : Target) : Prop :=
  ∃ line, lines[t.row]? = some line ∧ isDeclaration line = true

/-- The splice that is planned for a target. -/
def plan (lines : List Text) (t : Target) : Splice :=
  ⟨startAbove isMarked lines t.row, t.row,
    render (Text.indent (lines.getD t.row [])) t.documentation⟩

/-- The splice that is applied for a target. -/
def installation (lines : List Text) (t : Target) : Splice :=
  Splice.adoptEnding lines (plan lines t)

@[simp] theorem installation_start (lines : List Text) (t : Target) :
    (installation lines t).start = startAbove isMarked lines t.row := Splice.adoptEnding_start _ _

@[simp] theorem installation_stop (lines : List Text) (t : Target) :
    (installation lines t).stop = t.row := Splice.adoptEnding_stop _ _

/-- What is planned on the row of a line. -/
theorem plan_eq {line : Text} (h : lines[t.row]? = some line) :
    plan lines t =
      ⟨startAbove isMarked lines t.row, t.row, render (Text.indent line) t.documentation⟩ := by
  rw [plan, List.getD_eq_getElem?_getD, h, Option.getD_some]

/-! ## Planning -/

theorem planSplice_of_declared (h : Declared lines t) :
    planSplice lines t = .ok (plan lines t) := by
  obtain ⟨line, hline, hdecl⟩ := h
  rw [planSplice, hline, plan_eq hline]
  dsimp only
  rw [if_pos hdecl, startAbove]
  rfl

theorem planSplice_of_not_declared (h : ¬ Declared lines t) :
    planSplice lines t = .error (missingDeclaration t) := by
  rw [planSplice]
  cases hline : lines[t.row]? with
  | none => rfl
  | some line =>
    dsimp only
    rw [if_neg fun hdecl => h ⟨line, hline, hdecl⟩]

theorem planSplices_of_declared (h : ∀ t ∈ targets, Declared (Text.splitLines text) t) :
    planSplices text targets = .ok (targets.map (plan (Text.splitLines text))) := by
  unfold planSplices
  induction targets with
  | nil => rfl
  | cons t rest ih =>
    rw [List.mapM_cons, planSplice_of_declared (h t List.mem_cons_self),
      ih fun u hu => h u (List.mem_cons_of_mem t hu)]
    rfl

theorem planSplices_of_not_declared (h : ¬ ∀ t ∈ targets, Declared (Text.splitLines text) t) :
    ∃ t ∈ targets, ¬ Declared (Text.splitLines text) t ∧
      planSplices text targets = .error (missingDeclaration t) := by
  unfold planSplices
  induction targets with
  | nil => exact absurd (fun t ht => absurd ht List.not_mem_nil) h
  | cons t rest ih =>
    rw [List.mapM_cons]
    by_cases ht : Declared (Text.splitLines text) t
    · have hrest : ¬ ∀ u ∈ rest, Declared (Text.splitLines text) u := by
        intro hall
        refine h fun u hu => ?_
        rcases List.mem_cons.mp hu with rfl | hu
        · exact ht
        · exact hall u hu
      obtain ⟨u, hu, hmissing, herr⟩ := ih hrest
      refine ⟨u, List.mem_cons_of_mem t hu, hmissing, ?_⟩
      rw [planSplice_of_declared ht, herr]
      rfl
    · refine ⟨t, List.mem_cons_self, ht, ?_⟩
      rw [planSplice_of_not_declared ht]
      rfl

/-! ## Installations do not meet -/

theorem Declared.row_lt (h : Declared lines t) : t.row < lines.length := by
  obtain ⟨line, hline, -⟩ := h
  exact (List.getElem?_eq_some_iff.mp hline).1

theorem Declared.not_marked (h : Declared lines t) :
    ∃ line, lines[t.row]? = some line ∧ isMarked line = false := by
  obtain ⟨line, hline, hdecl⟩ := h
  exact ⟨line, hline, isMarked_of_isDeclaration hdecl⟩

/-- The run above a declaration ends below every declaration further up. -/
theorem row_lt_startAbove (ht : Declared lines t) {row : Nat} (hrow : row ≤ lines.length)
    (hlt : t.row < row) : t.row < startAbove isMarked lines row := by
  obtain ⟨line, hline, hm⟩ := ht.not_marked
  exact lt_startAbove hrow hlt hline hm

theorem installation_within (h : Declared lines t) :
    (installation lines t).Within lines.length := by
  rw [Splice.Within, installation_start, installation_stop]
  exact ⟨startAbove_le (Nat.le_of_lt h.row_lt), Nat.le_of_lt h.row_lt⟩

/-- Installations for different lines are apart; lines `0` and `1` are the same row, and there both
are insertions. -/
theorem installation_apart (ht : Declared lines t) (hu : Declared lines u) (hlt : t.line < u.line) :
    (installation lines t).Apart (installation lines u) := by
  refine Or.inl ?_
  rw [installation_stop, installation_start]
  by_cases hrow : t.row < u.row
  · exact Nat.le_of_lt (row_lt_startAbove ht (Nat.le_of_lt hu.row_lt) hrow)
  · have hzero : t.row = 0 := by
      simp only [Target.row, Target.line] at hrow hlt ⊢
      omega
    rw [hzero]
    exact Nat.zero_le _

/-! ## The edit of an injection -/

/-- The row edit that installs the documentation of the targets. -/
def install (lines : List Text) (targets : List Target) : RowEdit :=
  Splice.edit (Splice.ascending (targets.map (installation lines)))

/-- Targets on different rows may be listed in any order. -/
theorem install_eq_edit {order : List Target} (h : order.Perm targets)
    (hrows : targets.Pairwise fun t u => t.row ≠ u.row) :
    install lines targets = Splice.edit (order.map (installation lines)) := by
  refine Splice.edit_perm ((Splice.ascending_perm _).trans (h.symm.map _)) ?_
  refine ((Splice.ascending_perm _).pairwise_iff fun hne => Ne.symm hne).mpr ?_
  refine List.pairwise_map.mpr (hrows.imp fun {t u} hne => ?_)
  rw [installation_stop, installation_stop]
  exact hne

theorem install_perm {order : List Target} (h : order.Perm targets)
    (hrows : targets.Pairwise fun t u => t.row ≠ u.row) :
    install lines order = install lines targets := by
  have horder : order.Pairwise fun t u => t.row ≠ u.row :=
    (h.pairwise_iff fun hne => Ne.symm hne).mpr hrows
  rw [install_eq_edit h hrows, install_eq_edit (List.Perm.refl order) horder]

/-- **An injection drops the runs above targeted rows.** -/
theorem drops_install_iff (h : ∀ t ∈ targets, Declared lines t) {row : Nat} :
    (install lines targets).drops row = true ↔
      ∃ t ∈ targets, InRunAbove isMarked lines t.row row := by
  rw [install, Splice.drops_edit_iff]
  constructor
  · rintro ⟨s, hs, hrow⟩
    obtain ⟨t, ht, rfl⟩ := List.mem_map.mp (Splice.mem_ascending.mp hs)
    rw [installation_start, installation_stop] at hrow
    exact ⟨t, ht, (inRunAbove_iff (Nat.le_of_lt (h t ht).row_lt)).mpr hrow⟩
  · rintro ⟨t, ht, hrun⟩
    refine ⟨installation lines t, Splice.mem_ascending.mpr (List.mem_map_of_mem ht), ?_⟩
    rw [installation_start, installation_stop]
    exact (inRunAbove_iff (Nat.le_of_lt (h t ht).row_lt)).mp hrun

/-- New lines come from the installation of a target on their row. -/
theorem mem_above_install {row : Nat} {line : Text} :
    line ∈ (install lines targets).above row ↔
      ∃ t ∈ targets, t.row = row ∧ line ∈ (installation lines t).lines := by
  rw [install, Splice.mem_above_edit]
  constructor
  · rintro ⟨s, hs, hstop, hline⟩
    obtain ⟨t, ht, rfl⟩ := List.mem_map.mp (Splice.mem_ascending.mp hs)
    exact ⟨t, ht, (installation_stop lines t).symm.trans hstop, hline⟩
  · rintro ⟨t, ht, hrow, hline⟩
    exact ⟨installation lines t, Splice.mem_ascending.mpr (List.mem_map_of_mem ht),
      (installation_stop lines t).trans hrow, hline⟩

/-- New lines start with the indentation of the declaration, verbatim, and the marker. -/
theorem startsWith_of_mem_installation {line new : Text} (hline : lines[t.row]? = some line)
    (h : new ∈ (installation lines t).lines) :
    Text.startsWith new (Text.indent line ++ marker) = true := by
  obtain ⟨given, hgiven, hnew⟩ := Splice.mem_adoptEnding h
  rw [plan_eq hline] at hgiven
  have hstart : Text.startsWith given (Text.indent line ++ marker) = true :=
    startsWith_of_mem_render hgiven
  rcases hnew with rfl | rfl
  · exact hstart
  · exact Splice.startsWith_addReturn hstart

/-- New lines are marked. -/
theorem isMarked_of_mem_installation {new : Text} (ht : Declared lines t)
    (h : new ∈ (installation lines t).lines) : isMarked new = true := by
  obtain ⟨line, hline, -⟩ := ht
  exact isMarked_of_startsWith (fun _ hc => Text.isBlank_of_mem_indent hc)
    (startsWith_of_mem_installation hline h)

/-- New lines hold no newline. -/
theorem newline_notMem_of_mem_installation {new : Text} (hclean : ∀ line ∈ lines, '\n' ∉ line)
    (ht : Declared lines t) (h : new ∈ (installation lines t).lines) : '\n' ∉ new := by
  obtain ⟨line, hline, -⟩ := ht
  obtain ⟨given, hgiven, hnew⟩ := Splice.mem_adoptEnding h
  rw [plan_eq hline] at hgiven
  have hindent : '\n' ∉ Text.indent line :=
    fun hc => hclean line (List.mem_of_getElem? hline) (Text.mem_of_mem_indent hc)
  have hgiven : '\n' ∉ given := newline_notMem_of_mem_render hindent hgiven
  rcases hnew with rfl | rfl
  · exact hgiven
  · intro hc
    rcases Splice.mem_of_mem_addReturn hc with hc | hc
    · exact hgiven hc
    · exact absurd hc (by decide)

/-- A dropped row held a marked line. -/
theorem isMarked_of_drops (h : ∀ t ∈ targets, Declared lines t) {row : Nat} {line : Text}
    (hline : lines[row]? = some line) (hdrop : (install lines targets).drops row = true) :
    isMarked line = true := by
  obtain ⟨t, -, hlt, hall⟩ := (drops_install_iff h).mp hdrop
  obtain ⟨found, hfound, hm⟩ := hall row (Nat.le_refl row) hlt
  rw [hline, Option.some.injEq] at hfound
  rw [hfound]
  exact hm

/-- Nothing is put below the last row. -/
theorem above_install_length (h : ∀ t ∈ targets, Declared lines t) :
    (install lines targets).above lines.length = [] := by
  refine List.eq_nil_iff_forall_not_mem.mpr fun line hline => ?_
  obtain ⟨t, ht, hrow, -⟩ := mem_above_install.mp hline
  have := (h t ht).row_lt
  omega

/-- The last row keeps its line: a run has a row below it. -/
theorem drops_install_last (h : ∀ t ∈ targets, Declared lines t) :
    (install lines targets).drops (lines.length - 1) = false := by
  refine Bool.eq_false_iff.mpr fun hdrop => ?_
  obtain ⟨t, ht, hlt, -⟩ := (drops_install_iff h).mp hdrop
  have hrow := (h t ht).row_lt
  omega

/-! ## The rewritten text -/

/-- The lines of a text after an injection, and its final newline. -/
def rewritten (text : Text) (targets : List Target) : LineBuffer where
  lines := (install (Text.splitLines text) (Target.resolve targets)).apply (Text.splitLines text)
  finalNewline := Text.endsWithNewline text

theorem rewritten_proper
    (h : ∀ t ∈ Target.resolve targets, Declared (Text.splitLines text) t) :
    (rewritten text targets).Proper := by
  have hsource := LineBuffer.proper_ofText text
  have hne : Text.splitLines text ≠ [] := hsource.nonempty
  have hlast : (rewritten text targets).lines.getLast? = (Text.splitLines text).getLast? :=
    RowEdit.getLast?_apply hne (drops_install_last h) (above_install_length h)
  refine ⟨?_, ?_, ?_⟩
  · intro hnil
    rw [hnil, List.getLast?_nil] at hlast
    exact hne (List.getLast?_eq_none_iff.mp hlast.symm)
  · intro line hline
    rw [rewritten, RowEdit.apply, above_install_length h, List.append_nil] at hline
    rcases RowEdit.mem_rowsFrom hline with ⟨row, -, -, hnew⟩ | hold
    · obtain ⟨t, ht, -, hmem⟩ := mem_above_install.mp hnew
      exact newline_notMem_of_mem_installation hsource.clean (h t ht) hmem
    · exact hsource.clean line hold
  · intro hfinal hempty
    rw [hlast] at hempty
    have hlines : Text.splitLines text = [[]] := hsource.closed hfinal hempty
    have hnone : Target.resolve targets = [] := by
      refine List.eq_nil_iff_forall_not_mem.mpr fun t ht => ?_
      obtain ⟨line, hline, hdecl⟩ := h t ht
      rw [hlines] at hline
      have hline : line = [] := List.mem_singleton.mp (List.mem_of_getElem? hline)
      rw [hline] at hdecl
      exact absurd hdecl (by decide)
    rw [rewritten, hnone]
    dsimp only
    rw [hlines]
    rfl

/-- The lines of the rewritten text are the edited lines. -/
theorem splitLines_rewritten
    (h : ∀ t ∈ Target.resolve targets, Declared (Text.splitLines text) t) :
    Text.splitLines (rewritten text targets).toText =
      (install (Text.splitLines text) (Target.resolve targets)).apply (Text.splitLines text) :=
  LineBuffer.splitLines_toText (rewritten_proper h)

/-- The final newline is as before. -/
theorem endsWithNewline_rewritten
    (h : ∀ t ∈ Target.resolve targets, Declared (Text.splitLines text) t) :
    Text.endsWithNewline (rewritten text targets).toText = Text.endsWithNewline text :=
  LineBuffer.endsWithNewline_toText (rewritten_proper h)

/-- The splices of targets that count are applied. -/
theorem apply_installations
    (h : ∀ t ∈ Target.resolve targets, Declared (Text.splitLines text) t) :
    (LineBuffer.ofText text).apply
        ((Target.resolve targets).map (installation (Text.splitLines text))) =
      .ok (rewritten text targets) := by
  refine LineBuffer.apply_eq_ok_iff.mpr ⟨fun s hs => ?_, ?_, rfl⟩
  · obtain ⟨t, ht, rfl⟩ := List.mem_map.mp hs
    exact installation_within (h t ht)
  · refine List.pairwise_map.mpr ((Target.resolve_pairwise targets).imp_of_mem ?_)
    exact fun ht hu hlt => installation_apart (h _ ht) (h _ hu) hlt

/-- The targets that count are declared when all are, as a declaration is a matter of the line. -/
theorem declared_resolve_iff :
    (∀ t ∈ Target.resolve targets, Declared lines t) ↔ ∀ t ∈ targets, Declared lines t := by
  constructor
  · intro h t ht
    obtain ⟨u, hu, hline⟩ := Target.exists_mem_resolve ht
    have hrow : u.row = t.row := congrArg (· - 1) hline
    have hdecl := h u hu
    rw [Declared, hrow] at hdecl
    exact hdecl
  · exact fun h t ht => h t (Target.mem_of_mem_resolve ht)

/-- **An injection whose targets are all declared succeeds.** -/
theorem inject_of_declared [Parser] (h : ∀ t ∈ targets, Declared (Text.splitLines text) t) :
    inject .patternBrace text targets = .ok (rewritten text targets).toText := by
  have hcount := declared_resolve_iff.mpr h
  by_cases hnil : targets = []
  · subst hnil
    rw [inject_nil]
    have hself : rewritten text [] = LineBuffer.ofText text := by
      have hlines : (install (Text.splitLines text) []).apply (Text.splitLines text) =
          Text.splitLines text := RowEdit.apply_eq_self fun _ => ⟨rfl, rfl⟩
      rw [rewritten, Target.resolve_nil, hlines]
      rfl
    rw [hself, LineBuffer.toText_ofText]
  · have hplan : SourceKind.planSplices .patternBrace text (Target.resolve targets) =
        .ok ((Target.resolve targets).map (plan (Text.splitLines text))) :=
      planSplices_of_declared hcount
    have hsplice : spliceText .patternBrace text
        ((Target.resolve targets).map (plan (Text.splitLines text))) =
        .ok (rewritten text targets).toText := by
      refine spliceText_eq_ok ?_
      rw [List.map_map]
      exact apply_installations hcount
    rw [inject_eq_splices _ _ hnil, hplan]
    change (spliceText .patternBrace text _ >>= _) = _
    rw [hsplice]
    rfl

/-- An injection with a target that is not declared fails, and names such a target. -/
theorem inject_of_not_declared [Parser] (h : ¬ ∀ t ∈ targets, Declared (Text.splitLines text) t) :
    ∃ t ∈ targets, ¬ Declared (Text.splitLines text) t ∧
      inject .patternBrace text targets = .error (missingDeclaration t) := by
  have hne : targets ≠ [] := by
    rintro rfl
    exact h fun t ht => absurd ht List.not_mem_nil
  obtain ⟨t, ht, hmissing, herr⟩ :=
    planSplices_of_not_declared fun hall => h (declared_resolve_iff.mp hall)
  refine ⟨t, Target.mem_of_mem_resolve ht, hmissing, ?_⟩
  have hplan : SourceKind.planSplices .patternBrace text (Target.resolve targets) =
      .error (missingDeclaration t) := herr
  rw [inject_eq_splices _ _ hne, hplan]
  rfl

/-- What is known of an injection that succeeded. -/
theorem inject_eq_ok_iff [Parser] {result : Text} :
    inject .patternBrace text targets = .ok result ↔
      (∀ t ∈ targets, Declared (Text.splitLines text) t) ∧
        result = (rewritten text targets).toText := by
  by_cases h : ∀ t ∈ targets, Declared (Text.splitLines text) t
  · rw [inject_of_declared h, Except.ok.injEq]
    exact ⟨fun heq => ⟨h, heq.symm⟩, fun heq => heq.2.symm⟩
  · obtain ⟨t, -, -, herr⟩ := inject_of_not_declared h
    rw [herr]
    exact ⟨fun heq => absurd heq (by simp), fun heq => absurd heq.1 h⟩

end DocSplice.Brace
