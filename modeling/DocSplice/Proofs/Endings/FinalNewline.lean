import DocSplice.Proofs.Brace.CodeKept
import DocSplice.Proofs.Docstring.Patching
import DocSplice.Proofs.Grammar.Laws
import DocSplice.Proofs.Injected
import DocSplice.Proofs.Query.Reinjection

/-!
# The newline at the end

Whether a newline ends a text is kept apart from its lines, and it is put back when the lines have
been edited.  That goes wrong when the edit leaves an empty line at the end: a text without a final
newline then ends with the newline above that line.

* `Filled`: the last line has something on it.  Edited lines are filled when the lines were, and
  every splice that reaches the end leaves something there (`filled_apply`).
* `Docstring.filled_spliceBody`: a docstring ends with quotes, and what is moved below it is not
  blank.  Marked lines are put above a declaration, so they never come last.
* `Query.endsWithNewline_installed_iff`: a block of comments is followed by an empty line, and where
  nothing else follows this line comes last.

`inject_endsWithNewline_iff` says that nothing else goes wrong, and `ends_with_separator` shows what
does.
-/

namespace DocSplice

open Text Splice

variable {text result : Text} {lines a b : List Text} {targets : List Target} {t : Target}
  {s : Splice} {splices : List Splice}

/-! ## Something on the last line -/

/-- The last line holds a character, and it does not end with a newline. -/
def Filled (lines : List Text) : Prop :=
  ∃ last c, lines.getLast? = some last ∧ last.getLast? = some c ∧ c ≠ '\n'

theorem Filled.endsWithNewline (h : Filled lines) : endsWithNewline (joinLines lines) = false := by
  obtain ⟨last, c, hlast, hc, hne⟩ := h
  have hnonempty : last ≠ [] := by
    rintro rfl
    exact absurd hc (by simp)
  rw [Text.endsWithNewline, getLast?_joinLines hlast hnonempty, hc]
  simpa using hne

theorem Filled.append (a : List Text) (h : Filled b) : Filled (a ++ b) := by
  obtain ⟨last, c, hlast, hc, hne⟩ := h
  exact ⟨last, c, by rw [List.getLast?_append, hlast, Option.some_or], hc, hne⟩

theorem filled_singleton {last : Text} {c : Char} (hc : last.getLast? = some c) (hne : c ≠ '\n') :
    Filled [last] := ⟨last, c, rfl, hc, hne⟩

theorem filled_flatMap {f : Splice → List Text} (hne : splices ≠ [])
    (h : ∀ s ∈ splices, Filled (f s)) : Filled (splices.flatMap f) := by
  obtain ⟨front, last, rfl⟩ := (List.eq_nil_or_concat splices).resolve_left hne
  rw [List.concat_eq_append] at h ⊢
  rw [List.flatMap_append, List.flatMap_singleton]
  exact (h last (by simp)).append _

/-- A carriage return at the end is not a newline. -/
theorem filled_adoptEnding (h : Filled s.lines) : Filled (adoptEnding lines s).lines := by
  obtain ⟨last, c, hlast, hc, hne⟩ := h
  rw [adoptEnding_lines]
  split
  · obtain ⟨d, hd, hdne⟩ : ∃ d, (addReturn last).getLast? = some d ∧ d ≠ '\n' := by
      unfold addReturn
      split
      · exact ⟨c, hc, hne⟩
      · exact ⟨'\r', List.getLast?_concat, by decide⟩
    exact ⟨addReturn last, d, by rw [List.getLast?_map, hlast]; rfl, hd, hdne⟩
  · exact ⟨last, c, hlast, hc, hne⟩

/-- The last line of a text that no newline ends has something on it, unless the text is empty. -/
theorem filled_splitLines (hne : text ≠ []) (hfinal : endsWithNewline text = false) :
    Filled (splitLines text) := by
  have hlast := List.getLast?_eq_some_getLast (splitLines_ne_nil text)
  have hclean : '\n' ∉ (splitLines text).getLast (splitLines_ne_nil text) :=
    newline_notMem_of_mem_splitLines (List.mem_of_getLast? hlast)
  cases hc : ((splitLines text).getLast (splitLines_ne_nil text)).getLast? with
  | none =>
    rw [List.getLast?_eq_none_iff.mp hc] at hlast
    have hlines : splitLines text = splitLines [] :=
      (LineBuffer.proper_ofText text).closed hfinal hlast
    exact absurd (LineBuffer.eq_of_splitLines_eq hlines hfinal) hne
  | some c =>
    refine ⟨_, c, hlast, hc, ?_⟩
    rintro rfl
    exact hclean (List.mem_of_getLast? hc)

/-- Where the splice reaches the end of so many lines, it leaves something on the last line. -/
def Splice.FillsEnd (count : Nat) (s : Splice) : Prop := s.stop = count → Filled s.lines

/-- **Edited lines are filled** when the lines were and every splice at the end leaves something. -/
theorem filled_apply (hwithin : ∀ s ∈ splices, s.Within lines.length)
    (hfills : ∀ s ∈ splices, s.FillsEnd lines.length) (h : Filled lines) :
    Filled ((adoptedEdit lines splices).apply lines) := by
  by_cases hreach : ∃ s ∈ splices, s.stop = lines.length
  · -- the last of the splices that reach the end decides
    obtain ⟨u, hu, hstop⟩ := hreach
    refine Filled.append _ (filled_flatMap ?_ fun s hs => ?_)
    · have hmem : adoptEnding lines u ∈ ascending (splices.map (adoptEnding lines)) :=
        mem_ascending.mpr (List.mem_map_of_mem hu)
      refine List.ne_nil_of_mem (List.mem_filter.mpr ⟨hmem, ?_⟩)
      rw [adoptEnding_stop, beq_iff_eq]
      exact hstop
    · rw [List.mem_filter, mem_ascending, List.mem_map, beq_iff_eq] at hs
      obtain ⟨⟨given, hgiven, rfl⟩, hend⟩ := hs
      exact filled_adoptEnding (hfills given hgiven (by rwa [adoptEnding_stop] at hend))
  · -- the last line stays where it is
    obtain ⟨last, c, hlast, hc, hne⟩ := h
    obtain ⟨front, rfl⟩ := List.getLast?_eq_some_iff.mp hlast
    have hbelow : (adoptedEdit (front ++ [last]) splices).above (front.length + 1) = [] := by
      refine List.eq_nil_iff_forall_not_mem.mpr fun line hline => hreach ?_
      obtain ⟨s, hs, hstop, -⟩ := mem_above_adoptedEdit.mp hline
      exact ⟨s, hs, by simpa using hstop⟩
    have hstays : (adoptedEdit (front ++ [last]) splices).drops front.length = false := by
      refine Bool.eq_false_iff.mpr fun hdrop => hreach ?_
      obtain ⟨s, hs, -, hlt⟩ := drops_adoptedEdit_iff.mp hdrop
      have hle := (hwithin s hs).2
      rw [List.length_append, List.length_singleton] at hle
      exact ⟨s, hs, by rw [List.length_append, List.length_singleton]; omega⟩
    rw [RowEdit.apply_concat, hbelow, hstays, if_neg Bool.false_ne_true, List.append_nil]
    exact ((filled_singleton hc hne).append _).append _

/-- An edit whose splices leave something at the end leaves the final newline as it is. -/
theorem endsWithNewline_editedText (hwithin : ∀ s ∈ splices, s.Within (splitLines text).length)
    (hfills : ∀ s ∈ splices, s.FillsEnd (splitLines text).length) (htext : text ≠ []) :
    endsWithNewline (editedText text splices) = endsWithNewline text := by
  rw [editedText, LineBuffer.toText]
  cases hfinal : endsWithNewline text with
  | true => rw [if_pos rfl, endsWithNewline_append_newline]
  | false =>
    rw [if_neg Bool.false_ne_true, List.append_nil]
    exact (filled_apply hwithin hfills (filled_splitLines htext hfinal)).endsWithNewline

/-! ## Docstrings -/

namespace Docstring


variable {documentation blanks remainder : Text} {d : Declaration} {opening : Opening}

/-- A docstring ends with quotes. -/
theorem filled_render (documentation blanks : Text) : Filled (render documentation blanks) := by
  have hquotes : ∀ front : Text, Filled [front ++ doubleFence] := fun front =>
    filled_singleton (c := '"') (List.getLast?_append_of_ne_nil _ (by decide)) (by decide)
  unfold render
  dsimp only
  split
  · exact hquotes _
  · exact (hquotes blanks).append _

/-- What is moved below a docstring does not end with a newline. -/
theorem filled_body (lines : List Text) (p : Place) :
    Filled (render documentation blanks ++ remainderLines blanks (remainderAt lines p)) := by
  rw [remainderLines]
  split
  · rw [List.append_nil]
    exact filled_render documentation blanks
  · rename_i hne
    cases hc : (remainderAt lines p).getLast? with
    | none => exact absurd (List.isEmpty_iff.mpr (List.getLast?_eq_none_iff.mp hc)) hne
    | some c =>
      have hblank : isBlank c = false := isBlank_of_getLast?_remainderAfter hc
      refine (filled_singleton (c := c) ?_ ?_).append _
      · rw [List.getLast?_append, hc, Option.some_or]
      · rintro rfl
        exact absurd hblank (by decide)

/-- **A docstring splice** leaves something on its last line. -/
theorem filled_spliceBody (lines : List Text) (d : Declaration) (opening : Opening)
    (documentation : Text) : Filled (spliceBody lines d opening documentation).lines := by
  unfold spliceBody
  split
  · cases hold : ofOpening? opening with
    | none =>
      rw [spliceOwnLine_of_none hold]
      exact filled_render documentation _
    | some old =>
      rw [spliceOwnLine_of_some hold]
      exact filled_body lines (cut opening)
  · rw [spliceSharedLine_eq]
    dsimp only
    rw [← List.singleton_append]
    exact (filled_body lines (cut opening)).append _

/-- An injection of docstrings leaves the final newline as it is. -/
theorem endsWithNewline_of_inject [Parser] (hlaws : Parser.Laws)
    (h : inject .structured text targets = .ok result) :
    endsWithNewline result = endsWithNewline text := by
  obtain ⟨hwithin, -, rfl⟩ := edited_of_inject h
  by_cases hnone : plannedSplices .structured text targets = []
  · rw [hnone, editedText_nil]
  have hplanned : ∀ s ∈ plannedSplices .structured text targets,
      Filled s.lines ∧ text ≠ [] := by
    intro s hs
    obtain ⟨splices, hplan, hs⟩ := exists_plan_of_mem_plannedSplices hs
    obtain ⟨outline, houtline, hall⟩ := planSplices_eq_ok hplan
    obtain ⟨t, ht, hplanned⟩ := exists_target_of_mem hall hs
    obtain ⟨d, opening, hd, hopening, rfl⟩ := planSplice_eq_ok_iff.mp hplanned
    refine ⟨filled_spliceBody _ d opening t.documentation, ?_⟩
    rintro rfl
    have hsolid := hlaws.opening houtline (List.mem_of_find?_eq_some hd) hopening
    have hline : lineAt (splitLines []) opening.start.row = [] :=
      List.mem_singleton.mp hsolid.lineAt_mem
    have hcode := hsolid.not_allBlank
    rw [hline] at hcode
    exact absurd hcode (by decide)
  obtain ⟨s, hs⟩ := List.exists_mem_of_ne_nil _ hnone
  exact endsWithNewline_editedText hwithin (fun s hs _ => (hplanned s hs).1) (hplanned s hs).2

end Docstring

/-! ## Comment blocks at the top -/

namespace Query

/-- Nothing but a block stands in the file, or nothing at all, and its first line does not end with
a carriage return: the line that separates a block from what follows is empty and comes last. -/
def EndsWithSeparator (text : Text) : Prop :=
  (text = [] ∨ body (splitLines text) = []) ∧
    (splitLines text).head?.any Splice.hasReturn = false

instance (text : Text) : Decidable (EndsWithSeparator text) :=
  inferInstanceAs (Decidable (_ ∧ _))

/-- After an injection the last line holds something, unless the separator comes last: it is a line
of the body, or the separator with a carriage return. -/
theorem filled_installed (hfinal : endsWithNewline text = false) (h : ¬ EndsWithSeparator text) :
    Filled (installed text t).lines := by
  rw [EndsWithSeparator, not_and_or, not_or, Bool.not_eq_false] at h
  refine Filled.append _ ?_
  by_cases hbody : body (splitLines text) = []
  · -- the separator comes last, with a carriage return
    have hreturn := h.resolve_left fun hno => hno.2 hbody
    rw [hbody, endLike, if_pos hreturn]
    exact filled_singleton (c := '\r') rfl (by decide)
  · rw [← List.singleton_append]
    refine Filled.append _ ?_
    have htext : text ≠ [] := by
      rintro rfl
      rcases h with h | h
      · exact h.1 rfl
      · exact absurd h (by decide)
    obtain ⟨last, c, hlast, hc, hne⟩ := filled_splitLines htext hfinal
    obtain ⟨removed, hlines, -, -⟩ := exists_removed (splitLines text)
    rw [hlines, List.getLast?_append_of_ne_nil _ hbody] at hlast
    exact ⟨last, c, hlast, hc, hne⟩

/-- **An injection adds a final newline** exactly where the separator comes last. -/
theorem endsWithNewline_installed_iff (text : Text) (t : Target) :
    endsWithNewline (installed text t).toText = true ↔
      endsWithNewline text = true ∨ EndsWithSeparator text := by
  cases hfinal : endsWithNewline text with
  | true =>
    rw [LineBuffer.toText, installed, hfinal, if_pos rfl, endsWithNewline_append_newline]
    exact ⟨fun _ => Or.inl rfl, fun _ => rfl⟩
  | false =>
    by_cases hends : EndsWithSeparator text
    · refine ⟨fun _ => Or.inr hends, fun _ => ?_⟩
      obtain ⟨hwhole, hfirst⟩ := hends
      obtain ⟨front, hne, hlines⟩ : ∃ front, front ≠ [] ∧
          (installed text t).lines = front ++ [[]] := by
        have hseparator : endLike (splitLines text) [] = [] := by
          rw [endLike, hfirst, if_neg Bool.false_ne_true]
        rcases hwhole with rfl | hbody
        · refine ⟨written (splitLines []) t ++ [[]], by simp, ?_⟩
          rw [installed, hseparator, List.append_assoc]
          rfl
        · refine ⟨written (splitLines text) t, written_ne_nil _ t, ?_⟩
          rw [installed, hbody, hseparator]
      have hinstalled : installed text t = ⟨front ++ [[]], false⟩ := by
        rw [← hlines, ← hfinal]
        rfl
      rw [hinstalled, LineBuffer.toText_append_nil hne, LineBuffer.toText, if_pos rfl]
      exact endsWithNewline_append_newline _
    · refine ⟨fun hnewline => ?_, fun h => absurd h (by simp [hends])⟩
      have hfilled := (filled_installed (t := t) hfinal hends).endsWithNewline
      have htext : (installed text t).toText = joinLines (installed text t).lines := by
        rw [LineBuffer.toText, installed, hfinal, if_neg Bool.false_ne_true, List.append_nil]
      rw [htext, hfilled] at hnewline
      exact absurd hnewline Bool.false_ne_true

end Query

/-! ## Any kind -/

/-- **The final newline.**  For any kind of source and any targets, what a successful injection
gives ends with a newline exactly when the text did, or when something is injected into a query file
that holds nothing besides its block and does not end its first line with a carriage return. -/
theorem inject_endsWithNewline_iff [Parser] {kind : SourceKind} (hlaws : Parser.Laws)
    (h : inject kind text targets = .ok result) :
    endsWithNewline result = true ↔ endsWithNewline text = true ∨
      (kind = .singleUnit ∧ targets ≠ [] ∧ Query.EndsWithSeparator text) := by
  cases kind with
  | structured =>
    rw [Docstring.endsWithNewline_of_inject hlaws h]
    exact ⟨Or.inl, fun hends => hends.resolve_right fun hquery => absurd hquery.1 (by decide)⟩
  | patternBrace =>
    rw [Brace.endsWithNewline_of_inject h]
    exact ⟨Or.inl, fun hends => hends.resolve_right fun hquery => absurd hquery.1 (by decide)⟩
  | singleUnit =>
    by_cases hnil : targets = []
    · rw [hnil, inject_nil, Except.ok.injEq] at h
      rw [← h]
      exact ⟨Or.inl, fun hends => hends.resolve_right fun hquery => absurd hnil hquery.2.1⟩
    · have hcount : Target.resolve targets ≠ [] := mt Target.resolve_eq_nil_iff.mp hnil
      have ht := List.getLast?_eq_some_getLast hcount
      rw [Query.inject_eq_singleton ht, Query.inject_singleton, Except.ok.injEq] at h
      rw [← h, Query.endsWithNewline_installed_iff]
      exact or_congr_right ⟨fun hends => ⟨rfl, hnil, hends⟩, fun hends => hends.2.2⟩

/-- A query without a final newline below an old block: what follows the block is still the end. -/
theorem inject_endsWithNewline_iff_old_block :
    let text := "-- # Old\n\nSELECT 1".toList
    let targets := (Query.items text).map fun i => ⟨i, "Doc.".toList⟩
    let result := "-- # SQL Query\n-- Doc.\n\nSELECT 1".toList
    inject .singleUnit text targets = .ok result ∧ endsWithNewline text = false ∧
      endsWithNewline result = false := by
  intro text targets result
  have hresult : inject .singleUnit text targets = .ok result := by decide +kernel
  have hseparator : ¬ Query.EndsWithSeparator text := by decide +kernel
  have hfinal : endsWithNewline text = false := by decide
  refine ⟨hresult, hfinal, Bool.eq_false_iff.mpr fun hnewline => ?_⟩
  rcases (inject_endsWithNewline_iff Grammar.laws hresult).mp hnewline with hends | ⟨-, -, hends⟩
  · rw [hfinal] at hends
    exact Bool.false_ne_true hends
  · exact hseparator hends

/-- **Where the separator comes last, a newline is added**: to the empty file, and to a file that is
only a block. -/
theorem ends_with_separator :
    endsWithNewline "".toList = false ∧
      Query.document "".toList "Doc.".toList = .ok "-- # SQL Query\n-- Doc.\n\n".toList ∧
      endsWithNewline "-- # SQL Query\n-- Doc.\n\n".toList = true ∧
      endsWithNewline "-- # T".toList = false ∧
      Query.document "-- # T".toList "# T".toList = .ok "-- # T\n".toList ∧
      endsWithNewline "-- # T\n".toList = true := by
  decide +kernel

end DocSplice
