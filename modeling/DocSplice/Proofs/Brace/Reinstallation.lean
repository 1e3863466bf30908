import DocSplice.Proofs.Brace.OneByOne
import Mathlib.Data.List.Forall2

/-!
# The last documentation wins

Documentation is injected above a function that an earlier injection has documented.  The lines that
the earlier one wrote are all marked, and what stands above them is not, so they are the run that is
found above the function now, no more and no less; and the first of them ends like the line that
decided about their endings.  So the later injection writes what it would have written at once
(`written_written`), and the text is the one that it alone gives (`Cut.inject_movedTarget`).

What is written for a line of the documentation does not depend on whether the line carries the
marker already (`renderLine_of_markedAs`).  In particular, documentation that was rendered before,
with whatever indentation, is rendered to the same lines again (`markedAs_joinLines_render`).

`inject_inject` puts these together.
-/

namespace DocSplice.Brace

variable {pre run post : List Text} {text decl line marked documentation : Text}

/-! ## Lines that carry the marker already -/

/-- A marked line is blanks, the marker and more. -/
theorem isMarked_iff : isMarked line = true ↔
    ∃ blanks rest, Text.allBlank blanks = true ∧ line = blanks ++ (marker ++ rest) := by
  constructor
  · intro h
    obtain ⟨rest, hrest⟩ := Text.startsWith_iff.mp h
    have hblank : Text.allBlank (Text.indent line) = true :=
      List.all_eq_true.mpr fun c hc => Text.isBlank_of_mem_indent hc
    exact ⟨Text.indent line, rest, hblank, by rw [hrest, Text.indent_append_trimStart]⟩
  · rintro ⟨blanks, rest, hblank, rfl⟩
    exact isMarked_of_startsWith (fun c hc => List.all_eq_true.mp hblank c hc)
      (Text.startsWith_iff.mpr ⟨rest, List.append_assoc _ _ _⟩)

theorem trimStart_append_marker {blanks : Text} (h : Text.allBlank blanks = true) (t : Text) :
    Text.trimStart (blanks ++ (marker ++ t)) = marker ++ t :=
  Text.trimStart_append_cons (fun c hc => List.all_eq_true.mp h c hc) (by decide) ('\'' :: t)

/-- Trimming at the end stops at the marker. -/
theorem exists_trimEnd_append_marker (blanks t : Text) :
    ∃ rest, Text.trimEnd (blanks ++ (marker ++ t)) = blanks ++ (marker ++ rest) := by
  have hmarker : Text.allBlank marker = false := by decide
  by_cases ht : Text.allBlank t = true
  · refine ⟨[], ?_⟩
    rw [← List.append_assoc, Text.trimEnd_append_of_allBlank _ ht,
      Text.trimEnd_append_of_not_allBlank _ hmarker]
    rfl
  · refine ⟨Text.trimEnd t, ?_⟩
    rw [← List.append_assoc, Text.trimEnd_append_of_not_allBlank _ (Bool.eq_false_iff.mpr ht),
      List.append_assoc]

/-- Whether a line is marked does not depend on the blanks at its end. -/
theorem isMarked_trimEnd (line : Text) : isMarked (Text.trimEnd line) = isMarked line := by
  rw [Bool.eq_iff_iff]
  constructor
  · intro h
    obtain ⟨front, rest, hblank, htrim⟩ := isMarked_iff.mp h
    obtain ⟨blanks, -, hline⟩ := Text.exists_trimEnd_append line
    refine isMarked_iff.mpr ⟨front, rest ++ blanks, hblank, ?_⟩
    rw [← hline, htrim, List.append_assoc, List.append_assoc]
  · intro h
    obtain ⟨front, rest, hblank, rfl⟩ := isMarked_iff.mp h
    obtain ⟨left, htrim⟩ := exists_trimEnd_append_marker front rest
    exact isMarked_iff.mpr ⟨front, left, hblank, htrim⟩

theorem not_allBlank_append_marker (blanks t : Text) :
    Text.allBlank (blanks ++ (marker ++ t)) = false := by
  have hmarker : Text.allBlank marker = false := by decide
  rw [Text.allBlank, List.all_append, List.all_append, ← Text.allBlank, ← Text.allBlank, hmarker,
    Bool.false_and, Bool.and_false]

/-- A marked line may be trimmed at either end first. -/
theorem trimStart_trimEnd (h : isMarked line = true) :
    Text.trimStart (Text.trimEnd line) = Text.trimEnd (Text.trimStart line) := by
  obtain ⟨front, rest, hblank, rfl⟩ := isMarked_iff.mp h
  obtain ⟨left, htrim⟩ := exists_trimEnd_append_marker [] rest
  have hsolid : Text.allBlank (marker ++ rest) = false := not_allBlank_append_marker [] rest
  rw [List.nil_append, List.nil_append] at htrim
  rw [Text.trimEnd_append_of_not_allBlank front hsolid, trimStart_append_marker hblank, htrim,
    trimStart_append_marker hblank]

/-- A line with the marker in front.  On a line that is marked it stands there already. -/
def withMarker (line : Text) : Text :=
  if isMarked line then Text.trimStart line else marker ++ ' ' :: line

theorem exists_withMarker (line : Text) : ∃ rest, withMarker line = marker ++ rest := by
  rw [withMarker]
  split
  · rename_i h
    obtain ⟨rest, hrest⟩ := Text.startsWith_iff.mp h
    exact ⟨rest, hrest.symm⟩
  · exact ⟨_, rfl⟩

/-- **What is written for a line**: the indentation and the line with the marker in front. -/
theorem renderLine_eq (indent line : Text) :
    renderLine indent line = indent ++ Text.trimEnd (withMarker line) := by
  rw [renderLine, withMarker, isMarked_trimEnd, Text.allBlank_trimEnd]
  by_cases hmarked : isMarked line = true
  · have hblank : Text.allBlank line = false := by
      obtain ⟨blanks, rest, -, rfl⟩ := isMarked_iff.mp hmarked
      exact not_allBlank_append_marker blanks rest
    rw [hblank, if_neg Bool.false_ne_true, if_pos hmarked, if_pos hmarked,
      trimStart_trimEnd hmarked]
  · rw [if_neg hmarked, if_neg hmarked]
    by_cases hblank : Text.allBlank line = true
    · have htail : Text.allBlank (' ' :: line) = true := by
        rw [Text.allBlank, List.all_cons, Bool.and_eq_true]
        exact ⟨by decide, hblank⟩
      rw [if_pos hblank, Text.trimEnd_append_of_allBlank marker htail]
      rfl
    · have htrim : Text.trimEnd (marker ++ ' ' :: line) = marker ++ ' ' :: Text.trimEnd line :=
        Text.trimEnd_append_of_not_allBlank (marker ++ [' ']) (Bool.eq_false_iff.mpr hblank)
      rw [if_neg hblank, htrim, List.append_assoc]

/-- The second line is the first one with the marker in front.  It does not matter which blanks come
before the marker and at the end. -/
def MarkedAs (line marked : Text) : Prop :=
  ∃ blanks, Text.allBlank blanks = true ∧
    Text.trimEnd marked = Text.trimEnd (blanks ++ withMarker line)

/-- **The marker makes no difference**: a line that carries it is written like the line without. -/
theorem renderLine_of_markedAs (h : MarkedAs line marked) (indent : Text) :
    renderLine indent marked = renderLine indent line := by
  obtain ⟨blanks, hblank, hsame⟩ := h
  obtain ⟨rest, hrest⟩ := exists_withMarker line
  have hmarked : isMarked marked = true := by
    rw [← isMarked_trimEnd, hsame, isMarked_trimEnd, hrest]
    exact isMarked_iff.mpr ⟨blanks, rest, hblank, rfl⟩
  have hboth : isMarked (blanks ++ withMarker line) = true := by
    rw [hrest]
    exact isMarked_iff.mpr ⟨blanks, rest, hblank, rfl⟩
  rw [renderLine_eq, renderLine_eq, withMarker, if_pos hmarked, ← trimStart_trimEnd hmarked, hsame,
    trimStart_trimEnd hboth, hrest, trimStart_append_marker hblank]

/-- A line that was written for a line is that line with the marker in front. -/
theorem markedAs_renderLine {blanks : Text} (h : Text.allBlank blanks = true) (line : Text) :
    MarkedAs line (renderLine blanks line) := by
  obtain ⟨closing, hclosing, hcut⟩ := Text.exists_trimEnd_append (withMarker line)
  refine ⟨blanks, h, ?_⟩
  rw [renderLine_eq]
  conv => rhs; rw [← hcut, ← List.append_assoc, Text.trimEnd_append_of_allBlank _ hclosing]

/-! ## Documentation that carries the marker already -/

/-- The lines of documentation; newlines around it open no line. -/
def documentationLines (documentation : Text) : List Text :=
  Text.terminatedLines (Text.dropAroundWhile (· == '\n') documentation)

theorem render_of_markedAs {marked : Text}
    (h : List.Forall₂ MarkedAs (documentationLines documentation) (documentationLines marked))
    (indent : Text) : render indent marked = render indent documentation := by
  have hlines : ∀ {a b : List Text}, List.Forall₂ MarkedAs a b →
      b.map (renderLine indent) = a.map (renderLine indent) := by
    intro a b hab
    induction hab with
    | nil => rfl
    | cons hline _ ih => rw [List.map_cons, List.map_cons, ih, renderLine_of_markedAs hline]
  exact hlines h

/-- What was written for documentation is read back as its lines. -/
theorem documentationLines_joinLines_render {blanks : Text} (hblank : '\n' ∉ blanks)
    (hdoc : Text.allBlank documentation = false) :
    documentationLines (Text.joinLines (render blanks documentation)) =
      render blanks documentation := by
  have hplain : ∀ line ∈ render blanks documentation, Text.Plain line :=
    fun line hline => plain_of_mem_render hblank hline
  rw [documentationLines, Text.dropAroundWhile_joinLines hplain,
    Text.terminatedLines_joinLines (fun line hline => (hplain line hline).newline_notMem)
      (render_ne_nil hdoc blanks), Text.closeLines_of_plain hplain]

/-- Documentation that was written before is, line by line, the documentation with markers. -/
theorem markedAs_joinLines_render {blanks : Text} (hblank : Text.allBlank blanks = true)
    (hclean : '\n' ∉ blanks) (hdoc : Text.allBlank documentation = false) :
    List.Forall₂ MarkedAs (documentationLines documentation)
      (documentationLines (Text.joinLines (render blanks documentation))) := by
  rw [documentationLines_joinLines_render hclean hdoc]
  refine List.forall₂_map_right_iff.mpr ?_
  exact List.forall₂_same.mpr fun line _ => markedAs_renderLine hblank line

/-! ## Two installations in a row -/

/-- The first line that an installation writes ends with a carriage return exactly when the line
that decided about it does. -/
theorem hasReturn_head?_written (h : Text.allBlank documentation = false) :
    (written run decl documentation ++ [decl]).head?.any Splice.hasReturn =
      (run ++ [decl]).head?.any Splice.hasReturn := by
  obtain ⟨first, rest, hrender⟩ : ∃ first rest,
      render (Text.indent decl) documentation = first :: rest :=
    List.exists_cons_of_ne_nil (render_ne_nil h _)
  have hfirst : Splice.hasReturn first = false := by
    have hmem : first ∈ render (Text.indent decl) documentation :=
      hrender ▸ List.mem_cons_self
    obtain ⟨source, -, rfl⟩ := List.mem_map.mp hmem
    exact hasReturn_renderLine _ source
  cases hreturn : (run ++ [decl]).head?.any Splice.hasReturn with
  | true =>
    rw [written, hreturn, if_pos rfl, hrender]
    exact Splice.hasReturn_addReturn first
  | false =>
    rw [written, hreturn, if_neg Bool.false_ne_true, hrender]
    exact hfirst

/-- **In place of what was written before**, the same is written as in place of the run. -/
theorem written_written (h : Text.allBlank documentation = false) (run : List Text)
    (decl later : Text) :
    written (written run decl documentation) decl later = written run decl later := by
  have hreturn : (written run decl documentation ++ [decl]).head?.any Splice.hasReturn =
      (run ++ [decl]).head?.any Splice.hasReturn := hasReturn_head?_written h
  rw [written, hreturn]
  rfl

/-! ## Injecting twice -/

variable {item : Item} {first once : Text}

/-- Where an item has moved when the text has become another one. -/
def movedTarget (text once : Text) (item : Item) (documentation : Text) : Target :=
  Target.moved ⟨item, documentation⟩ ((lineCount once : Int) - lineCount text)

/-- After an injection the text is cut at the same declaration, and the run is what was written. -/
theorem Cut.after_inject (h : Cut (Text.splitLines text) ⟨item, first⟩ pre run decl post)
    (hline : 1 ≤ item.firstLine)
    (hlines : Text.splitLines once = pre ++ (written run decl first ++ decl :: post))
    (later : Text) :
    Cut (Text.splitLines once) (movedTarget text once item later) pre (written run decl first) decl
      post where
  lines_eq := hlines
  row_eq := by
    have hrow : item.firstLine - 1 = pre.length + run.length := h.row_eq
    have hbefore : lineCount text = pre.length + (run.length + (post.length + 1)) := by
      rw [lineCount, h.lines_eq, List.length_append, List.length_append, List.length_cons]
    have hafter : lineCount once =
        pre.length + ((written run decl first).length + (post.length + 1)) := by
      rw [lineCount, hlines, List.length_append, List.length_append, List.length_cons]
    show ((item.firstLine : Int) + (lineCount once - lineCount text)).toNat - 1 =
      pre.length + (written run decl first).length
    omega
  declares := h.declares
  marked _ hmem := isMarked_of_mem_written hmem
  stops := h.stops

/-- **A later injection replaces an earlier one.**  It finds the lines that the earlier one wrote,
no more and no less, and gives what it gives without the earlier one. -/
theorem Cut.inject_movedTarget [Parser]
    (h : Cut (Text.splitLines text) ⟨item, first⟩ pre run decl post)
    (hline : 1 ≤ item.firstLine) (hfirst : Text.allBlank first = false)
    (honce : inject .patternBrace text [⟨item, first⟩] = .ok once) (later : Text) :
    inject .patternBrace once [movedTarget text once item later] =
      inject .patternBrace text [⟨item, later⟩] := by
  obtain ⟨next, hnext, hlines, hfinal⟩ := h.exists_inject
  rw [honce, Except.ok.injEq] at hnext
  subst hnext
  obtain ⟨direct, hdirect, hdirectlines, hdirectfinal⟩ := (h.documented later).exists_inject
  obtain ⟨twice, htwice, htwicelines, htwicefinal⟩ :=
    (h.after_inject hline hlines later).exists_inject
  have hdocumentation : (movedTarget text once item later).documentation = later := rfl
  rw [hdocumentation, written_written hfirst, ← hdirectlines] at htwicelines
  rw [hfinal, ← hdirectfinal] at htwicefinal
  rw [htwice, hdirect, LineBuffer.eq_of_splitLines_eq htwicelines htwicefinal]

/-- Documentation that carries the marker is injected like the same documentation without. -/
theorem inject_of_markedAs [Parser] {documentation marked : Text}
    (hdecl : Declared (Text.splitLines text) ⟨item, documentation⟩)
    (h : List.Forall₂ MarkedAs (documentationLines documentation) (documentationLines marked)) :
    inject .patternBrace text [⟨item, marked⟩] =
      inject .patternBrace text [⟨item, documentation⟩] := by
  obtain ⟨pre, run, decl, post, hcut⟩ := hdecl.exists_cut
  obtain ⟨a, ha, halines, hafinal⟩ := (hcut.documented marked).exists_inject
  obtain ⟨b, hb, hblines, hbfinal⟩ := hcut.exists_inject
  have hsame : written run decl marked = written run decl documentation := by
    rw [written, written, render_of_markedAs h]
  have hlines : Text.splitLines a = Text.splitLines b := by
    rw [halines, hblines]
    dsimp only
    rw [hsame]
  rw [ha, hb, LineBuffer.eq_of_splitLines_eq hlines (hafinal.trans hbfinal.symm)]

/-- **The last documentation wins.**  Above a line that declares a function, an injection of
documentation that is not blank succeeds; the declaration is then found on the line it has moved to,
and whatever is injected there gives the text that it gives when it is injected at once.  So the
same documentation again changes nothing.  Nor does it matter whether the lines of documentation
carry the marker: with markers, written by hand or rendered before with any indentation, they lead
to the same text as without. -/
theorem inject_inject [Parser] (text : Text) (item : Item) (first : Text)
    (hline : 1 ≤ item.firstLine) (hdecl : Declared (Text.splitLines text) ⟨item, first⟩)
    (hfirst : Text.allBlank first = false) :
    ∃ once, inject .patternBrace text [⟨item, first⟩] = .ok once ∧
      (Text.splitLines once).drop (movedTarget text once item first).row =
        (Text.splitLines text).drop (item.firstLine - 1) ∧
      inject .patternBrace once [movedTarget text once item first] = .ok once ∧
      ∀ second, Text.allBlank second = false →
        ∃ direct, inject .patternBrace text [⟨item, second⟩] = .ok direct ∧
          inject .patternBrace once [movedTarget text once item second] = .ok direct ∧
          (∀ marked,
            List.Forall₂ MarkedAs (documentationLines second) (documentationLines marked) →
              inject .patternBrace text [⟨item, marked⟩] = .ok direct) ∧
          ∀ blanks, Text.allBlank blanks = true → '\n' ∉ blanks →
            inject .patternBrace text [⟨item, Text.joinLines (render blanks second)⟩] =
              .ok direct := by
  obtain ⟨pre, run, decl, post, hcut⟩ := hdecl.exists_cut
  obtain ⟨once, honce, hlines, -⟩ := hcut.exists_inject
  have hlast : ∀ later, inject .patternBrace once [movedTarget text once item later] =
      inject .patternBrace text [⟨item, later⟩] := hcut.inject_movedTarget hline hfirst honce
  have hmoved := hcut.after_inject hline hlines first
  refine ⟨once, honce, ?_, (hlast first).trans honce, fun second hsecond => ?_⟩
  · have hrow : item.firstLine - 1 = pre.length + run.length := hcut.row_eq
    rw [hmoved.row_eq, hmoved.lines_eq, hrow, hcut.lines_eq, ← List.length_append,
      ← List.length_append, ← List.append_assoc, ← List.append_assoc, List.drop_left,
      List.drop_left]
  · have hdecl' : Declared (Text.splitLines text) ⟨item, second⟩ := hdecl
    obtain ⟨direct, hdirect⟩ : ∃ direct, inject .patternBrace text [⟨item, second⟩] = .ok direct :=
      ⟨_, inject_of_declared fun u hu => by rw [List.mem_singleton.mp hu]; exact hdecl'⟩
    refine ⟨direct, hdirect, (hlast second).trans hdirect, fun marked hmarked => ?_,
      fun blanks hblank hclean => ?_⟩
    · exact (inject_of_markedAs hdecl' hmarked).trans hdirect
    · have hrendered := markedAs_joinLines_render hblank hclean hsecond
      exact (inject_of_markedAs hdecl' hrendered).trans hdirect

/-- A function below an old block, with an indentation and carriage returns.  The second text is the
one that the third line of the file asks for at once, and the one that the fifth asks for after the
first text, with the marker or without. -/
theorem inject_inject_old_block :
    let text := "x <- 1\r\n  #' Old.\r\n  f <- function(a) a\r\n".toList
    let item := (Target.onLine 3 "").item
    let first := "One.\n\nMore.".toList
    let second := "Two.".toList
    let once := "x <- 1\r\n  #' One.\r\n  #'\r\n  #' More.\r\n  f <- function(a) a\r\n".toList
    let direct := "x <- 1\r\n  #' Two.\r\n  f <- function(a) a\r\n".toList
    (1 ≤ item.firstLine ∧ Declared (Text.splitLines text) ⟨item, first⟩ ∧
        Text.allBlank first = false) ∧
      inject .patternBrace text [⟨item, first⟩] = .ok once ∧
      inject .patternBrace text [⟨item, second⟩] = .ok direct ∧
      inject .patternBrace text [⟨item, "#' Two.".toList⟩] = .ok direct ∧
      movedTarget text once item second = ⟨{ item with firstLine := 5 }, second⟩ ∧
      inject .patternBrace once [⟨{ item with firstLine := 5 }, second⟩] = .ok direct := by
  intro text item first second once direct
  have hline : 1 ≤ item.firstLine := by decide
  have hdecl : Declared (Text.splitLines text) ⟨item, first⟩ :=
    ⟨"  f <- function(a) a\r".toList, by decide +kernel, by decide +kernel⟩
  have hfirst : Text.allBlank first = false := by decide
  have hsecond : Text.allBlank second = false := by decide
  have honce : inject .patternBrace text [⟨item, first⟩] = .ok once := by decide +kernel
  have hdirect : inject .patternBrace text [⟨item, second⟩] = .ok direct := by decide +kernel
  have hmoved : movedTarget text once item second = ⟨{ item with firstLine := 5 }, second⟩ := by
    decide +kernel
  obtain ⟨next, hnext, -, -, hlast⟩ := inject_inject text item first hline hdecl hfirst
  obtain ⟨other, hother, hagain, hmarked, -⟩ := hlast second hsecond
  obtain rfl : once = next := Except.ok.inj (honce.symm.trans hnext)
  obtain rfl : direct = other := Except.ok.inj (hdirect.symm.trans hother)
  have hlines : List.Forall₂ MarkedAs (documentationLines second)
      (documentationLines "#' Two.".toList) :=
    .cons ⟨[], rfl, by decide⟩ .nil
  exact ⟨⟨hline, hdecl, hfirst⟩, honce, hdirect, hmarked _ hlines, hmoved, hmoved ▸ hagain⟩

end DocSplice.Brace
