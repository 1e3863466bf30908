import DocSplice.Proofs.Brace.Installation
import DocSplice.Proofs.Docstring.Planning
import DocSplice.Proofs.Endings.Rendered
import DocSplice.Proofs.Endings.Splices
import DocSplice.Proofs.Grammar.Laws
import DocSplice.Proofs.Query.RoutineNames

/-!
# Injections into texts with uniform line endings

Whatever the kind of a source, the splices that are planned for it start on a line and come without
line endings of their own (`unended_of_mem_plannedSplices`): what is rendered holds no carriage
return, and what is moved from a line of the text is trimmed at the end.

So an injection into a text with uniform line endings is known to keep them, or not to, from its
planned splices (`inject_uniform_iff`).  The only lines that can go wrong are those around a last
line that no newline closes.
-/

namespace DocSplice

open Text Splice

variable {text line : Text} {targets : List Target} {t : Target} {s : Splice}

/-! ## Comment blocks at the top -/

/-- Names of units are made of name characters, so a title brings no line ending along. -/
theorem Query.unended_of_mem_planSplices (htargets : ∀ t ∈ targets, t.item ∈ Query.items text)
    (hpaired : ∀ t ∈ targets, ReturnsPaired t.documentation)
    (hs : s ∈ Query.planSplices text targets) : s.Unended (splitLines text).length := by
  unfold Query.planSplices at hs
  split at hs
  · exact absurd hs List.not_mem_nil
  · rename_i t hlast
    have ht : t ∈ targets := List.mem_of_getLast? hlast
    have hname : t.item.name = Query.unitName (splitLines text) := by
      rw [List.mem_singleton.mp (htargets t ht)]
      rfl
    rw [List.mem_singleton.mp hs]
    refine ⟨List.length_pos_iff.mpr (splitLines_ne_nil text), fun line hline => ?_,
      fun line hline => ?_, fun _ => List.append_ne_nil_of_right_ne_nil _ (List.cons_ne_nil _ _)⟩
    · rcases List.mem_append.mp hline with hline | hline
      · refine Query.newline_notMem_of_mem_renderTitled ?_ hline
        rw [hname]
        exact Query.notMem_unitName (by decide) (by decide) _
      · rw [List.mem_singleton.mp hline]
        exact List.not_mem_nil
    · rcases List.mem_append.mp hline with hline | hline
      · rcases Query.mem_renderTitled hline with ⟨-, rfl⟩ | hline
        · rw [Query.titleLine, hname, List.mem_append, List.mem_cons, not_or, not_or]
          exact ⟨by decide, by decide, Query.notMem_unitName (by decide) (by decide) _⟩
        · exact Query.return_notMem_of_mem_render (hpaired t ht) hline
      · rw [List.mem_singleton.mp hline]
        exact List.not_mem_nil

/-! ## Marked lines above functions -/

/-- A declaration is a line that is not blank. -/
theorem Brace.not_allBlank_of_isDeclaration (h : Brace.isDeclaration line = true) :
    allBlank line = false := by
  by_contra hblank
  rw [Bool.not_eq_false] at hblank
  have htrim : trimStart line = [] :=
    List.dropWhile_eq_nil_iff.mpr fun c hc => List.all_eq_true.mp hblank c hc
  rw [Brace.isDeclaration, Brace.declaredName?, htrim] at h
  exact absurd h (by decide)

theorem Brace.unended_plan (huniform : Uniform text) (hpaired : ReturnsPaired t.documentation)
    (ht : Brace.Declared (splitLines text) t) :
    (Brace.plan (splitLines text) t).Unended (splitLines text).length := by
  obtain ⟨line, hline, hdeclares⟩ := ht
  have hrow : t.row < (splitLines text).length := (List.getElem?_eq_some_iff.mp hline).1
  have hmem : line ∈ splitLines text := List.mem_of_getElem? hline
  have hstart : startAbove Brace.isMarked (splitLines text) t.row ≤ t.row :=
    startAbove_le (Nat.le_of_lt hrow)
  rw [Brace.plan_eq hline]
  refine ⟨Nat.lt_of_le_of_lt hstart hrow, fun l hl => ?_, fun l hl => ?_, fun hstop => ?_⟩
  · exact Brace.newline_notMem_of_mem_render
      (fun hc => newline_notMem_of_mem_splitLines hmem (mem_of_mem_indent hc)) hl
  · exact Brace.return_notMem_of_mem_render hpaired
      ((returnsLast_of_uniform huniform hmem).return_notMem_indent
        (Brace.not_allBlank_of_isDeclaration hdeclares)) hl
  · dsimp only at hstop
    omega

theorem Brace.unended_of_planSplices {splices : List Splice} (huniform : Uniform text)
    (hpaired : ∀ t ∈ targets, ReturnsPaired t.documentation)
    (hplan : Brace.planSplices text targets = .ok splices) (hs : s ∈ splices) :
    s.Unended (splitLines text).length := by
  have hdeclared : ∀ t ∈ targets, Brace.Declared (splitLines text) t := by
    by_contra hno
    obtain ⟨t, -, -, herror⟩ := Brace.planSplices_of_not_declared hno
    rw [hplan] at herror
    exact absurd herror (by simp)
  rw [Brace.planSplices_of_declared hdeclared] at hplan
  rw [← Except.ok.inj hplan] at hs
  obtain ⟨t, ht, rfl⟩ := List.mem_map.mp hs
  exact Brace.unended_plan huniform (hpaired t ht) (hdeclared t ht)

/-! ## Docstrings -/

namespace Docstring


variable {lines : List Text} {outline : Outline} {d : Declaration} {opening : Opening}

/-- A line of the text, or the empty text for a row below it. -/
theorem lineAt_mem_or (lines : List Text) (row : Nat) :
    lineAt lines row ∈ lines ∨ lineAt lines row = [] := by
  rw [lineAt]
  cases hrow : lines[row]? with
  | none => exact Or.inr rfl
  | some line => exact Or.inl (List.mem_of_getElem? hrow)

/-- What is left of a line is a stretch of it, trimmed at the end. -/
theorem exists_trimEnd_remainderAfter (line : Text) (column : Nat) :
    ∃ stretch, stretch <:+: line ∧ ∀ c ∈ remainderAfter line column, c ∈ trimEnd stretch := by
  refine ⟨trimStart (line.drop column),
    (List.dropWhile_suffix _).isInfix.trans (List.drop_suffix _ _).isInfix, fun c hc => ?_⟩
  unfold remainderAfter at hc
  dsimp only at hc
  split at hc
  · rename_i separated hstrip
    have hcut : [';'] ++ separated = trim (line.drop column) :=
      List.isPrefixOf?_eq_some_iff_append_eq.mp hstrip
    have htrim : c ∈ trim (line.drop column) :=
      hcut ▸ List.mem_append_right _ (mem_of_mem_trimStart hc)
    exact htrim
  · exact hc

/-- What is moved from a line of the text has no line ending. -/
theorem unended_remainderAt (huniform : Uniform text) (p : Place) {c : Char}
    (hc : c ∈ remainderAt (splitLines text) p) : c ≠ '\n' ∧ c ≠ '\r' := by
  obtain ⟨stretch, hin, hcut⟩ := exists_trimEnd_remainderAfter
    (lineAt (splitLines text) p.row) p.column
  have hmem := hcut c hc
  rcases lineAt_mem_or (splitLines text) p.row with hline | hempty
  · refine ⟨fun hnewline => ?_, fun hreturn => ?_⟩
    · exact newline_notMem_of_mem_splitLines hline
        (hnewline ▸ hin.subset (mem_of_mem_trimEnd hmem))
    · exact ((returnsLast_of_uniform huniform hline).of_isInfix hin).return_notMem_trimEnd
        (hreturn ▸ hmem)
  · have hnil := hin.subset (mem_of_mem_trimEnd hmem)
    rw [hempty] at hnil
    exact absurd hnil List.not_mem_nil

/-- The indentation of a declaration or of a first statement has no line ending. -/
theorem unended_indent (huniform : Uniform text) {p : Place} (hp : Place.Solid text p) {c : Char}
    (hc : c ∈ indent (lineAt (splitLines text) p.row)) : c ≠ '\n' ∧ c ≠ '\r' := by
  refine ⟨fun hnewline => ?_, fun hreturn => ?_⟩
  · exact newline_notMem_of_mem_splitLines hp.lineAt_mem (mem_of_mem_indent (hnewline ▸ hc))
  · exact (returnsLast_of_uniform huniform hp.lineAt_mem).return_notMem_indent hp.not_allBlank
      (hreturn ▸ hc)

/-- The lines of a body that is opened anew: a docstring, and perhaps what is left of a line. -/
theorem unended_of_mem_body {documentation blanks remainder : Text}
    (hpaired : ReturnsPaired documentation)
    (hblanks : ∀ c ∈ blanks, c ≠ '\n' ∧ c ≠ '\r') (hremainder : ∀ c ∈ remainder, c ≠ '\n' ∧ c ≠ '\r')
    (hline : line ∈ render documentation blanks ++ remainderLines blanks remainder) :
    '\n' ∉ line ∧ '\r' ∉ line := by
  rcases List.mem_append.mp hline with hline | hline
  · exact ⟨newline_notMem_of_mem_render (fun hc => (hblanks _ hc).1 rfl) hline,
      return_notMem_of_mem_render hpaired (fun hc => (hblanks _ hc).2 rfl) hline⟩
  · unfold remainderLines at hline
    split at hline
    · exact absurd hline List.not_mem_nil
    · rw [List.mem_singleton.mp hline, List.mem_append, List.mem_append, not_or, not_or]
      exact ⟨⟨fun hc => (hblanks _ hc).1 rfl, fun hc => (hremainder _ hc).1 rfl⟩,
        fun hc => (hblanks _ hc).2 rfl, fun hc => (hremainder _ hc).2 rfl⟩

/-- The end of a header that shares its line with the body. -/
theorem unended_head (huniform : Uniform text) {p : Place} (hp : Place.Solid text p) {c : Char}
    (hc : c ∈ trimEnd ((lineAt (splitLines text) p.row).take p.column)) : c ≠ '\n' ∧ c ≠ '\r' := by
  refine ⟨fun hnewline => ?_, fun hreturn => ?_⟩
  · exact newline_notMem_of_mem_splitLines hp.lineAt_mem
      (List.take_subset _ _ (mem_of_mem_trimEnd (hnewline ▸ hc)))
  · exact ((returnsLast_of_uniform huniform hp.lineAt_mem).of_isInfix
      (List.take_prefix _ _).isInfix).return_notMem_trimEnd (hreturn ▸ hc)

theorem unended_spliceOwnLine {documentation : Text} (huniform : Uniform text)
    (hpaired : ReturnsPaired documentation) (hopening : Place.Solid text opening.start) :
    (spliceOwnLine (splitLines text) opening documentation).Unended (splitLines text).length := by
  have hrow := hopening.row_lt
  have hblanks := fun c => unended_indent huniform hopening (c := c)
  have hwritten := render_ne_nil documentation (indent (lineAt (splitLines text) opening.start.row))
  have hlines : ∀ l ∈ render documentation (indent (lineAt (splitLines text) opening.start.row)) ++
      remainderLines (indent (lineAt (splitLines text) opening.start.row))
        (remainderAt (splitLines text) (cut opening)), '\n' ∉ l ∧ '\r' ∉ l :=
    fun l hl => unended_of_mem_body hpaired hblanks
      (fun c hc => unended_remainderAt huniform (cut opening) hc) hl
  cases hold : ofOpening? opening with
  | none =>
    rw [spliceOwnLine_of_none hold]
    refine ⟨hrow, fun l hl => ?_, fun l hl => ?_, fun _ => ?_⟩
    · dsimp only at hl
      exact (hlines l (List.mem_append_left _ hl)).1
    · dsimp only at hl
      exact (hlines l (List.mem_append_left _ hl)).2
    · dsimp only
      exact hwritten
  | some old =>
    rw [spliceOwnLine_of_some hold]
    refine ⟨hrow, fun l hl => ?_, fun l hl => ?_, fun _ => ?_⟩
    · dsimp only at hl
      exact (hlines l hl).1
    · dsimp only at hl
      exact (hlines l hl).2
    · exact List.append_ne_nil_of_left_ne_nil hwritten _

theorem unended_spliceSharedLine {documentation : Text} (huniform : Uniform text)
    (hpaired : ReturnsPaired documentation) (hstart : Place.Solid text d.start)
    (hopening : Place.Solid text opening.start) :
    (spliceSharedLine (splitLines text) d opening documentation).Unended
      (splitLines text).length := by
  have hblanks : ∀ c ∈ indent (lineAt (splitLines text) d.start.row) ++ indentUnit,
      c ≠ '\n' ∧ c ≠ '\r' := by
    intro c hc
    rcases List.mem_append.mp hc with hc | hc
    · exact unended_indent huniform hstart hc
    · have hspace : c = ' ' := by simpa [indentUnit] using hc
      rw [hspace]
      exact ⟨by decide, by decide⟩
  have hlines : ∀ l ∈ render documentation
        (indent (lineAt (splitLines text) d.start.row) ++ indentUnit) ++
      remainderLines (indent (lineAt (splitLines text) d.start.row) ++ indentUnit)
        (remainderAt (splitLines text) (cut opening)), '\n' ∉ l ∧ '\r' ∉ l :=
    fun l hl => unended_of_mem_body hpaired hblanks
      (fun c hc => unended_remainderAt huniform (cut opening) hc) hl
  rw [spliceSharedLine_eq]
  refine ⟨hopening.row_lt, fun l hl => ?_, fun l hl => ?_, fun _ => List.cons_ne_nil _ _⟩
  · rcases List.mem_cons.mp hl with rfl | hl
    · exact fun hc => (unended_head huniform hopening hc).1 rfl
    · exact (hlines l hl).1
  · rcases List.mem_cons.mp hl with rfl | hl
    · exact fun hc => (unended_head huniform hopening hc).2 rfl
    · exact (hlines l hl).2

/-- **A docstring splice** starts on the line of the first statement and comes without line
endings. -/
theorem unended_spliceBody {documentation : Text} (huniform : Uniform text)
    (hpaired : ReturnsPaired documentation) (hstart : Place.Solid text d.start)
    (hopening : Place.Solid text opening.start) :
    (spliceBody (splitLines text) d opening documentation).Unended (splitLines text).length := by
  unfold spliceBody
  split
  · exact unended_spliceOwnLine huniform hpaired hopening
  · exact unended_spliceSharedLine huniform hpaired hstart hopening

theorem unended_of_planSplices [Parser] {splices : List Splice} (hlaws : Parser.Laws)
    (huniform : Uniform text) (hpaired : ∀ t ∈ targets, ReturnsPaired t.documentation)
    (hplan : planSplices text targets = .ok splices) (hs : s ∈ splices) :
    s.Unended (splitLines text).length := by
  obtain ⟨outline, houtline, hall⟩ := planSplices_eq_ok hplan
  obtain ⟨t, ht, hplanned⟩ := exists_target_of_mem hall hs
  obtain ⟨d, opening, hd, hopening, rfl⟩ := planSplice_eq_ok_iff.mp hplanned
  have hmem := List.mem_of_find?_eq_some hd
  exact unended_spliceBody huniform (hpaired t ht) (hlaws.start houtline hmem)
    (hlaws.opening houtline hmem hopening)

end Docstring

/-! ## Any kind -/

/-- **Every planned splice** starts on a line and comes without line endings, whatever the kind. -/
theorem unended_of_mem_plannedSplices [Parser] {kind : SourceKind} (hlaws : Parser.Laws)
    (huniform : Uniform text) (htargets : ∀ t ∈ targets, t.item ∈ kind.items text)
    (hpaired : ∀ t ∈ targets, ReturnsPaired t.documentation)
    (hs : s ∈ plannedSplices kind text targets) : s.Unended (splitLines text).length := by
  have htargets' : ∀ t ∈ Target.resolve targets, t.item ∈ kind.items text :=
    fun t ht => htargets t (Target.mem_of_mem_resolve ht)
  have hpaired' : ∀ t ∈ Target.resolve targets, ReturnsPaired t.documentation :=
    fun t ht => hpaired t (Target.mem_of_mem_resolve ht)
  obtain ⟨splices, hplan, hmem⟩ := exists_plan_of_mem_plannedSplices hs
  cases kind with
  | structured => exact Docstring.unended_of_planSplices hlaws huniform hpaired' hplan hmem
  | singleUnit =>
    rw [← Except.ok.inj hplan] at hmem
    exact Query.unended_of_mem_planSplices htargets' hpaired' hmem
  | patternBrace => exact Brace.unended_of_planSplices huniform hpaired' hplan hmem

/-- **Uniform line endings and injections.**  For any kind of source, a text with uniform line
endings and documentation whose carriage returns are those of its line endings, a successful
injection leaves uniform line endings exactly when a newline closes the text or every planned splice
keeps the end. -/
theorem inject_uniform_iff [Parser] {kind : SourceKind} {result : Text} (hlaws : Parser.Laws)
    (huniform : Uniform text) (htargets : ∀ t ∈ targets, t.item ∈ kind.items text)
    (hpaired : ∀ t ∈ targets, ReturnsPaired t.documentation)
    (h : inject kind text targets = .ok result) :
    Uniform result ↔ endsWithNewline text = true ∨
      ∀ s ∈ plannedSplices kind text targets, s.KeepsEnd (splitLines text).length := by
  obtain ⟨hwithin, hapart, rfl⟩ := edited_of_inject h
  exact LineBuffer.uniform_edit_iff huniform
    (fun s hs => unended_of_mem_plannedSplices hlaws huniform htargets hpaired hs) hwithin hapart

/-- A function above the last line is documented, and the endings stay uniform although no newline
closes the text. -/
theorem inject_uniform_above_last :
    let text := "f <- function() 1\r\ng <- 2".toList
    let targets := (Brace.items text).map fun i => ⟨i, "Doc.\r\nMore.".toList⟩
    let result := "#' Doc.\r\n#' More.\r\nf <- function() 1\r\ng <- 2".toList
    endsWithNewline text = false ∧ inject .patternBrace text targets = .ok result ∧
      Uniform result := by
  intro text targets result
  have hresult : inject .patternBrace text targets = .ok result := by decide +kernel
  refine ⟨by decide +kernel, hresult, ?_⟩
  refine (inject_uniform_iff Grammar.laws (by decide +kernel) ?_ ?_ hresult).mpr (Or.inr ?_)
  · decide +kernel
  · decide +kernel
  · decide +kernel

/-- **The last line has no ending to take over**: where no newline closes it, a new line above it ends
in a newline without a carriage return. -/
theorem mixes_endings_above_last :
    let text := "x <- 1\r\nf <- function() 1".toList
    let targets := (Brace.items text).map fun i => ⟨i, "Doc.".toList⟩
    let result := "x <- 1\r\n#' Doc.\nf <- function() 1".toList
    Uniform text ∧ inject .patternBrace text targets = .ok result ∧ ¬ Uniform result := by
  decide +kernel

end DocSplice
