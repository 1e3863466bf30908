import DocSplice.Grammar.Parser
import DocSplice.Proofs.Query.Body
import DocSplice.Proofs.Session
import DocSplice.Proofs.Splicing
import DocSplice.Proofs.Targets

/-!
# The normal form of a documented query

An injection into a query file writes a block of comments, one blank line, and the body of the file
(`inject_singleton`).  What it writes is what the next injection finds and replaces, for any
documentation and any file: the block that was written is the block that is found
(`ReadBack.headed`), and the body below it is the body that was there (`body_installed`).

* `titleReturns`: the one way in which a new line ends differently from the first line of the file
  --- a title that is made from a name with a carriage return at its end.
* `inject_installed_iff`: when the last of two injections wins.
* `body_session`: a session leaves the body.
* `inject_normal_form`: all of this together; `replaces_indented_block` has a block that does not
  start at the beginning of its line.
-/

namespace DocSplice.Query

variable {lines : List Text} {text : Text} {t u : Target} {targets : List Target}

/-! ## What is written -/

/-- A new line, ended the way the first line of the file ends. -/
def endLike (lines : List Text) (line : Text) : Text :=
  if lines.head?.any Splice.hasReturn then Splice.addReturn line else line

/-- The block that an injection writes. -/
def written (lines : List Text) (t : Target) : List Text :=
  (renderTitled t.item.name t.documentation).map (endLike lines)

/-- The file after an injection: the block, a blank line, and the body. -/
def installed (text : Text) (t : Target) : LineBuffer where
  lines := written (Text.splitLines text) t ++
    endLike (Text.splitLines text) [] :: body (Text.splitLines text)
  finalNewline := Text.endsWithNewline text

/-- The block has a title made from a name that ends with a carriage return. -/
def titleReturns (t : Target) : Bool :=
  !bringsTitle t.documentation && Splice.hasReturn t.item.name

theorem hasReturn_endLike (lines : List Text) (line : Text) :
    Splice.hasReturn (endLike lines line) =
      (lines.head?.any Splice.hasReturn || Splice.hasReturn line) := by
  unfold endLike
  split
  · rename_i hreturn
    rw [hreturn, Splice.hasReturn_addReturn, Bool.true_or]
  · rename_i hplain
    rw [Bool.eq_false_iff.mpr hplain, Bool.false_or]

theorem startsWith_endLike {line p : Text} (h : Text.startsWith line p = true) :
    Text.startsWith (endLike lines line) p = true := by
  unfold endLike
  split
  · exact Splice.startsWith_addReturn h
  · exact h

theorem newline_notMem_endLike {line : Text} (h : '\n' ∉ line) : '\n' ∉ endLike lines line := by
  unfold endLike
  split
  · intro hc
    rcases Splice.mem_of_mem_addReturn hc with hc | hc
    · exact h hc
    · exact absurd hc (by decide)
  · exact h

/-- The line between the block and the body is blank. -/
theorem allBlank_endLike_nil (lines : List Text) : Text.allBlank (endLike lines []) = true := by
  unfold endLike
  split
  · decide
  · decide

theorem startsWith_of_mem_written {line : Text} (h : line ∈ written lines t) :
    Text.startsWith line marker = true := by
  obtain ⟨given, hgiven, rfl⟩ := List.mem_map.mp h
  exact startsWith_endLike (startsWith_of_mem_renderTitled hgiven)

/-- The first line of the block opens it, and ends with a carriage return when the first line of the
file does or when it is a title that brings one. -/
theorem exists_written_eq_cons (lines : List Text) (t : Target) :
    ∃ first rest, written lines t = first :: rest ∧ Text.startsWith first opener = true ∧
      Splice.hasReturn first = (lines.head?.any Splice.hasReturn || titleReturns t) := by
  obtain ⟨first, rest, hcons, hopen⟩ :=
    exists_renderTitled_eq_cons t.item.name t.documentation
  refine ⟨endLike lines first, rest.map (endLike lines), ?_, startsWith_endLike hopen, ?_⟩
  · rw [written, hcons, List.map_cons]
  · have hfirst : Splice.hasReturn first = titleReturns t := by
      rw [renderTitled_eq] at hcons
      unfold titleReturns
      split at hcons
      · rename_i htitle
        obtain ⟨source, -, hsource⟩ : ∃ source ∈ _, renderLine source = first :=
          List.mem_map.mp (hcons ▸ List.mem_cons_self : first ∈ render t.documentation)
        rw [← hsource, hasReturn_renderLine, htitle]
        rfl
      · rename_i htitle
        rw [← (List.cons.inj hcons).1, hasReturn_titleLine, Bool.eq_false_iff.mpr htitle]
        rfl
    rw [hasReturn_endLike, hfirst]

/-- **Line endings.**  A new line ends with a carriage return when the first line of the file does,
and only then unless it is a title made from a name that ends with one. -/
theorem hasReturn_new_iff {line : Text} (h : line ∈ written lines t ++ [endLike lines []]) :
    Splice.hasReturn line = true ↔
      lines.head?.any Splice.hasReturn = true ∨
        (titleReturns t = true ∧ line = titleLine t.item.name) := by
  obtain ⟨given, rfl, hgiven⟩ : ∃ given, line = endLike lines given ∧
      (Splice.hasReturn given = true →
        titleReturns t = true ∧ given = titleLine t.item.name) := by
    rcases List.mem_append.mp h with h | h
    · obtain ⟨given, hgiven, rfl⟩ := List.mem_map.mp h
      refine ⟨given, rfl, fun hreturn => ?_⟩
      rcases mem_renderTitled hgiven with ⟨htitle, rfl⟩ | hrender
      · rw [hasReturn_titleLine] at hreturn
        refine ⟨?_, rfl⟩
        rw [titleReturns, htitle, hreturn]
        rfl
      · obtain ⟨source, -, rfl⟩ := List.mem_map.mp hrender
        rw [hasReturn_renderLine] at hreturn
        exact absurd hreturn Bool.false_ne_true
    · exact ⟨[], List.mem_singleton.mp h, fun hreturn => absurd hreturn (by decide)⟩
  by_cases hfirst : lines.head?.any Splice.hasReturn = true
  · rw [hasReturn_endLike, hfirst, Bool.true_or]
    exact ⟨fun _ => Or.inl rfl, fun _ => rfl⟩
  · have hsame : endLike lines given = given := by rw [endLike, if_neg hfirst]
    rw [hsame]
    constructor
    · exact fun hreturn => Or.inr (hgiven hreturn)
    · rintro (hreturn | ⟨htitle, rfl⟩)
      · exact absurd hreturn hfirst
      · rw [titleReturns, Bool.and_eq_true] at htitle
        rw [hasReturn_titleLine]
        exact htitle.2

/-! ## One injection -/

/-- The splice that is planned for a target. -/
def plan (lines : List Text) (t : Target) : Splice :=
  ⟨0, replacedLines lines, renderTitled t.item.name t.documentation ++ [[]]⟩

theorem plan_within (lines : List Text) (t : Target) :
    (Splice.adoptEnding lines (plan lines t)).Within lines.length := by
  rw [Splice.Within, Splice.adoptEnding_start, Splice.adoptEnding_stop]
  exact ⟨Nat.zero_le _, replacedLines_le lines⟩

/-- The first line of the file decides how new lines end. -/
theorem plan_lines (lines : List Text) (t : Target) :
    (Splice.adoptEnding lines (plan lines t)).lines = written lines t ++ [endLike lines []] := by
  have hanchor : Splice.anchor? lines (plan lines t) = lines.head? := by
    cases lines with
    | nil => rfl
    | cons first rest => rfl
  rw [Splice.adoptEnding_lines, hanchor, written, ← List.map_singleton, ← List.map_append]
  unfold endLike
  split
  · rfl
  · exact (List.map_id _).symm

/-- Applied to the lines of the file, the planned splice leaves the body. -/
theorem applyTo_plan (lines : List Text) (t : Target) :
    Splice.applyTo lines (Splice.adoptEnding lines (plan lines t)) =
      written lines t ++ endLike lines [] :: body lines := by
  have hstop : (plan lines t).stop = replacedLines lines := rfl
  have hstart : (plan lines t).start = 0 := rfl
  rw [Splice.applyTo, plan_lines, Splice.adoptEnding_start, Splice.adoptEnding_stop, hstart, hstop,
    drop_replacedLines, List.take_zero, List.nil_append, List.append_assoc, List.singleton_append]

/-- **The normal form.**  An injection succeeds, and the file is the block, a blank line and the
body. -/
theorem inject_singleton [Parser] (text : Text) (t : Target) :
    inject .singleUnit text [t] = .ok (installed text t).toText := by
  have happly : (LineBuffer.ofText text).apply
      ([plan (Text.splitLines text) t].map (Splice.adoptEnding (Text.splitLines text))) =
      .ok (installed text t) := by
    have hwithin := plan_within (Text.splitLines text) t
    have hlines : Splice.applyTo (LineBuffer.ofText text).lines
        (Splice.adoptEnding (Text.splitLines text) (plan (Text.splitLines text) t)) =
        (installed text t).lines := applyTo_plan (Text.splitLines text) t
    rw [List.map_singleton, LineBuffer.apply_singleton (b := LineBuffer.ofText text) hwithin,
      hlines]
    rfl
  have hsplice : spliceText .singleUnit text [plan (Text.splitLines text) t] =
      .ok (installed text t).toText := spliceText_eq_ok happly
  rw [inject_eq_splices _ _ (List.cons_ne_nil t [])]
  change (spliceText .singleUnit text [plan (Text.splitLines text) t] >>= _) = _
  rw [hsplice]
  rfl

/-- Of several targets the last that counts is installed. -/
theorem inject_eq_singleton [Parser] (h : (Target.resolve targets).getLast? = some t) :
    inject .singleUnit text targets = inject .singleUnit text [t] := by
  have hne : targets ≠ [] := by
    rintro rfl
    exact absurd h (by simp)
  have hplan : SourceKind.planSplices .singleUnit text (Target.resolve targets) =
      SourceKind.planSplices .singleUnit text (Target.resolve [t]) := by
    simp only [SourceKind.planSplices, planSplices, h, Target.resolve_singleton,
      List.getLast?_singleton]
  rw [inject_eq_splices _ _ hne, inject_eq_splices _ _ (List.cons_ne_nil t []), hplan]

/-! ## What the next injection finds -/

/-- The lines of a file after an injection, read back: the block that was written, and the blank
line and the body below it.  An empty last line that no newline closed is not found again; there is
one when the body is empty, and in the empty file. -/
structure ReadBack (text : Text) (t : Target) (below : List Text) : Prop where
  lines_eq : Text.splitLines (installed text t).toText = written (Text.splitLines text) t ++ below
  blank : ∀ line, below.head? = some line → Text.allBlank line = true
  body_eq : text ≠ [] → dropSeparator below = body (Text.splitLines text)
  whole : (∃ line ∈ body (Text.splitLines text), Text.allBlank line = false) →
    below = endLike (Text.splitLines text) [] :: body (Text.splitLines text) ∧
      Text.endsWithNewline (installed text t).toText = Text.endsWithNewline text

theorem mem_of_mem_body {line : Text} (h : line ∈ body lines) : line ∈ lines := by
  obtain ⟨removed, hlines, -, -⟩ := exists_removed lines
  rw [hlines]
  exact List.mem_append_right removed h

theorem newline_notMem_of_mem_installed (hname : '\n' ∉ t.item.name) {line : Text}
    (h : line ∈ (installed text t).lines) : '\n' ∉ line := by
  rcases List.mem_append.mp h with h | h
  · obtain ⟨given, hgiven, rfl⟩ := List.mem_map.mp h
    exact newline_notMem_endLike (newline_notMem_of_mem_renderTitled hname hgiven)
  · rcases List.mem_cons.mp h with rfl | h
    · exact newline_notMem_endLike List.not_mem_nil
    · exact Text.newline_notMem_of_mem_splitLines (mem_of_mem_body h)

/-- A file whose body has an empty last line that no newline closes is empty. -/
theorem eq_nil_of_body_last (hfinal : Text.endsWithNewline text = false)
    (hlast : (body (Text.splitLines text)).getLast? = some []) : text = [] := by
  have hsource : (Text.splitLines text).getLast? = some [] := by
    obtain ⟨removed, hlines, -, -⟩ := exists_removed (Text.splitLines text)
    rw [hlines, List.getLast?_append, hlast, Option.some_or]
  have hlines : Text.splitLines text = [[]] :=
    (LineBuffer.proper_ofText text).closed hfinal hsource
  rw [← LineBuffer.toText_ofText text, LineBuffer.ofText, hlines, hfinal]
  rfl

theorem exists_readBack (text : Text) (hname : '\n' ∉ t.item.name) :
    ∃ below, ReadBack text t below := by
  have hblank : Text.allBlank (endLike (Text.splitLines text) []) = true :=
    allBlank_endLike_nil (Text.splitLines text)
  have hne : (installed text t).lines ≠ [] := List.append_ne_nil_of_right_ne_nil _ (by simp)
  rcases LineBuffer.splitLines_toText_or hne fun _ => newline_notMem_of_mem_installed hname with
    ⟨hlines, hfinal⟩ | ⟨front, hfront, hopen, hlines⟩
  · refine ⟨_, hlines, ?_, fun _ => if_pos hblank, fun _ => ⟨rfl, hfinal⟩⟩
    intro line hline
    rw [← Option.some.inj hline]
    exact hblank
  · -- the last line was not closed and is not found again
    change Text.endsWithNewline text = false at hopen
    rcases (body (Text.splitLines text)).eq_nil_or_concat with hnil | ⟨kept, last, hbody⟩
    · have hcut : written (Text.splitLines text) t ++ [endLike (Text.splitLines text) []] =
          front ++ [[]] := by
        rw [← hfront, installed, hnil]
      have hwritten : written (Text.splitLines text) t = front :=
        (List.append_inj_left' hcut rfl)
      refine ⟨[], ?_, fun line hline => absurd hline (by simp), fun _ => hnil.symm, ?_⟩
      · rw [hlines, hwritten, List.append_nil]
      · rintro ⟨line, hline, -⟩
        rw [hnil] at hline
        exact absurd hline List.not_mem_nil
    · rw [List.concat_eq_append] at hbody
      have hcut : (written (Text.splitLines text) t ++ endLike (Text.splitLines text) [] :: kept) ++
          [last] = front ++ [[]] := by
        rw [← hfront, installed, hbody, List.append_assoc]
        rfl
      obtain ⟨hkept, hlast⟩ := List.append_inj' hcut rfl
      have hempty : text = [] := by
        refine eq_nil_of_body_last hopen ?_
        rw [hbody, List.getLast?_concat, List.singleton_inj.mp hlast]
      refine ⟨_, hlines.trans hkept.symm, ?_, fun htext => absurd hempty htext, ?_⟩
      · intro line hline
        rw [← Option.some.inj hline]
        exact hblank
      · rintro ⟨line, hline, hcode⟩
        have hmem : line ∈ Text.splitLines text := mem_of_mem_body hline
        rw [hempty] at hmem
        have hline : line = [] := List.mem_singleton.mp hmem
        rw [hline] at hcode
        exact absurd hcode (by decide)

/-- **The block that was written is the block that is found.** -/
theorem ReadBack.headed {below : List Text} (h : ReadBack text t below) :
    ∃ first rest, written (Text.splitLines text) t = first :: rest ∧
      Headed (Text.splitLines (installed text t).toText) [] first rest below := by
  obtain ⟨first, rest, hwritten, hopen, -⟩ := exists_written_eq_cons (Text.splitLines text) t
  refine ⟨first, rest, hwritten, ?_, fun _ hl => absurd hl List.not_mem_nil,
    isOpener_of_startsWith hopen, fun line hline => ?_, fun line hline => ?_⟩
  · rw [h.lines_eq, hwritten]
    rfl
  · have hmem : line ∈ written (Text.splitLines text) t := by
      rw [hwritten]
      exact List.mem_cons_of_mem first hline
    exact isComment_of_startsWith (startsWith_of_mem_written hmem)
  · exact not_isComment_of_allBlank (h.blank line hline)

/-- The documentation that is read after an injection is the block that was written. -/
theorem documentation_installed (text : Text) (hname : '\n' ∉ t.item.name) :
    (items (installed text t).toText).map (·.documentation) =
      [some (Text.joinLines (written (Text.splitLines text) t))] := by
  obtain ⟨below, hread⟩ := exists_readBack text hname
  obtain ⟨first, rest, hwritten, hheaded⟩ := hread.headed
  have hslice : LineRange.slice ⟨0, 0 + 1 + rest.length⟩
      (Text.splitLines (installed text t).toText) = written (Text.splitLines text) t := by
    have hlength : 0 + 1 + rest.length = (written (Text.splitLines text) t).length := by
      rw [hwritten, List.length_cons]
      omega
    rw [LineRange.slice, hread.lines_eq, hlength, List.take_left, List.drop_zero]
  have hblock := hheaded.block_eq
  rw [List.length_nil] at hblock
  rw [items, List.map_singleton, Item.ofSpan, hblock, Option.map_some, LineRange.text, hslice]

/-- An injection leaves the body, unless the file is empty. -/
theorem body_installed (hname : '\n' ∉ t.item.name) (htext : text ≠ []) :
    body (Text.splitLines (installed text t).toText) = body (Text.splitLines text) := by
  obtain ⟨below, hread⟩ := exists_readBack text hname
  obtain ⟨first, rest, -, hheaded⟩ := hread.headed
  rw [hheaded.body_eq, hread.body_eq htext]

/-- A file with documentation is not empty. -/
theorem installed_ne_nil (text : Text) (hname : '\n' ∉ t.item.name) :
    (installed text t).toText ≠ [] := by
  obtain ⟨below, hread⟩ := exists_readBack text hname
  obtain ⟨first, rest, -, hheaded⟩ := hread.headed
  intro hnil
  have hlines := hheaded.lines_eq
  rw [hnil] at hlines
  have hfirst : [] = first := (List.cons.inj hlines).1
  have hopen := hheaded.opens
  rw [← hfirst] at hopen
  exact absurd hopen (by decide)

/-! ## Injections one after the other -/

/-- An installation depends on the body, on the final newline and on how the first line ends. -/
theorem installed_congr {other : Text}
    (hbody : body (Text.splitLines other) = body (Text.splitLines text))
    (hfinal : Text.endsWithNewline other = Text.endsWithNewline text)
    (hfirst : (Text.splitLines other).head?.any Splice.hasReturn =
      (Text.splitLines text).head?.any Splice.hasReturn) :
    installed other t = installed text t := by
  have hend : endLike (Text.splitLines other) = endLike (Text.splitLines text) := by
    funext line
    rw [endLike, endLike, hfirst]
  rw [installed, installed, written, written, hend, hbody, hfinal]

/-- After an injection the first line ends with a carriage return when it did before or when the
title brings one. -/
theorem head_installed (text : Text) (hname : '\n' ∉ t.item.name) :
    (Text.splitLines (installed text t).toText).head?.any Splice.hasReturn =
      ((Text.splitLines text).head?.any Splice.hasReturn || titleReturns t) := by
  obtain ⟨below, hread⟩ := exists_readBack text hname
  obtain ⟨first, rest, hwritten, -, hreturn⟩ :=
    exists_written_eq_cons (Text.splitLines text) t
  rw [hread.lines_eq, hwritten, List.cons_append, List.head?_cons, Option.any_some, hreturn]

/-- **The last write wins** when the body has a line that is not blank, unless the first write left
a title that ends with a carriage return on a file whose first line does not: then the second write
takes over its ending. -/
theorem inject_installed_iff [Parser] (hname : '\n' ∉ t.item.name) (hu : u.item.name = t.item.name)
    (hcode : ∃ line ∈ body (Text.splitLines text), Text.allBlank line = false) :
    inject .singleUnit (installed text t).toText [u] = inject .singleUnit text [u] ↔
      titleReturns t = false ∨ (Text.splitLines text).head?.any Splice.hasReturn = true := by
  have htext : text ≠ [] := by
    rintro rfl
    obtain ⟨line, hline, hnot⟩ := hcode
    have hline : line = [] := List.mem_singleton.mp (mem_of_mem_body hline)
    rw [hline] at hnot
    exact absurd hnot (by decide)
  have hbody : body (Text.splitLines (installed text t).toText) = body (Text.splitLines text) :=
    body_installed hname htext
  have hfirst := head_installed text hname
  rw [inject_singleton, inject_singleton, Except.ok.injEq]
  constructor
  · intro hsame
    by_contra hno
    rw [not_or, Bool.not_eq_false, Bool.not_eq_true] at hno
    -- the blank line below the block tells the two files apart
    obtain ⟨below, hread⟩ := exists_readBack text (hu ▸ hname)
    obtain ⟨below', hread'⟩ := exists_readBack (installed text t).toText (hu ▸ hname)
    have hbelow := (hread.whole hcode).1
    have hbelow' := (hread'.whole (hbody.symm ▸ hcode)).1
    have hlines := hread'.lines_eq
    rw [hsame, hread.lines_eq, hbelow, hbelow'] at hlines
    have hlength : (written (Text.splitLines text) u).length =
        (written (Text.splitLines (installed text t).toText) u).length := by
      rw [written, written, List.length_map, List.length_map]
    have hblank := (List.cons.inj (List.append_inj hlines hlength).2).1
    have hreturn := congrArg Splice.hasReturn hblank
    rw [hasReturn_endLike, hasReturn_endLike, hfirst, hno.1, hno.2] at hreturn
    exact absurd hreturn (by decide)
  · intro hends
    have hsame : (Text.splitLines (installed text t).toText).head?.any Splice.hasReturn =
        (Text.splitLines text).head?.any Splice.hasReturn := by
      rw [hfirst]
      rcases hends with hplain | hreturn
      · rw [hplain, Bool.or_false]
      · rw [hreturn, Bool.true_or]
    obtain ⟨below, hread⟩ := exists_readBack text hname
    rw [installed_congr hbody (hread.whole hcode).2 hsame]

/-- **A session leaves the body**, unless the file is empty. -/
theorem body_session [Parser] {calls : List (List Target)} (htext : text ≠ [])
    (hnames : ∀ targets ∈ calls, ∀ t ∈ targets, '\n' ∉ t.item.name) :
    body (Text.splitLines (session .singleUnit text calls)) = body (Text.splitLines text) := by
  refine (session_invariant (P := fun current => current ≠ [] ∧
    body (Text.splitLines current) = body (Text.splitLines text)) ?_ ⟨htext, rfl⟩).2
  rintro targets hcall current result ⟨hne, hbody⟩ hresult
  cases hlast : (Target.resolve targets).getLast? with
  | none =>
    have hnil : targets = [] :=
      Target.resolve_eq_nil_iff.mp (List.getLast?_eq_none_iff.mp hlast)
    rw [hnil, inject_nil, Except.ok.injEq] at hresult
    rw [← hresult]
    exact ⟨hne, hbody⟩
  | some t =>
    have hname : '\n' ∉ t.item.name :=
      hnames targets hcall t (Target.mem_of_mem_resolve (List.mem_of_getLast? hlast))
    rw [inject_eq_singleton hlast, inject_singleton, Except.ok.injEq] at hresult
    rw [← hresult]
    exact ⟨installed_ne_nil current hname, (body_installed hname hne).trans hbody⟩

/-- **Documentation at the top of a query file.**  For an item whose name holds no newline, whatever
the file and the documentation are:

* the file is rewritten to the block, a blank line and the body, and ends with a newline when it did
  before;
* the block is the rendered documentation, with the name of the item as the title when it brings
  none, and every line of it starts with the marker;
* everything above the body is replaced, and all of it is blank or a comment;
* new lines end with a carriage return when the first line of the file does, and otherwise only a
  title does that was made from a name with a carriage return at its end;
* the documentation that is read from the result is the block;
* when the body has a line that is not blank, another injection for the same name gives what it
  would have given without this one, unless this one wrote a title of that sort on a file whose
  first line does not end with a carriage return;
* no session changes the body of a file that is not empty. -/
theorem inject_normal_form [Parser] (text : Text) (t : Target) (hname : '\n' ∉ t.item.name) :
    let lines := Text.splitLines text
    let result := Text.joinLines (written lines t ++ endLike lines [] :: body lines) ++
      if Text.endsWithNewline text then ['\n'] else []
    inject .singleUnit text [t] = .ok result ∧
      written lines t = (if bringsTitle t.documentation then render t.documentation
        else titleLine t.item.name :: render t.documentation).map (endLike lines) ∧
      (∀ line ∈ written lines t, Text.startsWith line marker = true) ∧
      (∃ removed, lines = removed ++ body lines ∧ ∀ line ∈ removed,
        Text.allBlank line = true ∨ Text.startsWith (Text.trimStart line) marker = true) ∧
      (∀ line ∈ written lines t ++ [endLike lines []], Splice.hasReturn line = true ↔
        lines.head?.any Splice.hasReturn = true ∨
          (titleReturns t = true ∧ line = titleLine t.item.name)) ∧
      (items result).map (·.documentation) = [some (Text.joinLines (written lines t))] ∧
      ((∃ line ∈ body lines, Text.allBlank line = false) → ∀ u : Target,
        u.item.name = t.item.name →
          (inject .singleUnit result [u] = inject .singleUnit text [u] ↔
            titleReturns t = false ∨ lines.head?.any Splice.hasReturn = true)) ∧
      (text ≠ [] → ∀ calls : List (List Target),
        (∀ targets ∈ calls, ∀ u ∈ targets, '\n' ∉ u.item.name) →
          body (Text.splitLines (session .singleUnit text calls)) = body lines) := by
  intro lines result
  obtain ⟨removed, hlines, -, hremoved⟩ := exists_removed lines
  exact ⟨inject_singleton text t, rfl, fun _ => startsWith_of_mem_written,
    ⟨removed, hlines, hremoved⟩, fun _ => hasReturn_new_iff, documentation_installed text hname,
    fun hcode _ hu => inject_installed_iff hname hu hcode,
    fun htext _ hnames => body_session htext hnames⟩

/-- A block in place of another one, below a blank line, and the statement it belongs to. -/
theorem inject_normal_form_old_block :
    let text := "\n-- # Old\n-- text\n\n\nSELECT 1;".toList
    let t : Target := ⟨⟨"total".toList, .queryUnit, [], 1, 6, none⟩, "Sums up.".toList⟩
    '\n' ∉ t.item.name ∧
      inject .singleUnit text [t] =
        .ok "-- # total\n-- Sums up.\n\n\nSELECT 1;".toList ∧
      body (Text.splitLines text) = [[], "SELECT 1;".toList] := by
  intro text t
  have hname : '\n' ∉ t.item.name := by decide
  obtain ⟨hinject, -⟩ := inject_normal_form text t hname
  refine ⟨hname, hinject.trans ?_, by decide +kernel⟩
  decide +kernel

/-- **A block that is indented** is found and replaced.  The line that goes is not blank, and it
does not start with the marker. -/
theorem replaces_indented_block :
    let text := "  -- # Old\nSELECT 1;\n".toList
    let targets := (items text).map fun item => (⟨item, "One.".toList⟩ : Target)
    (∀ t ∈ targets, '\n' ∉ t.item.name) ∧
      inject .singleUnit text targets = .ok "-- # SQL Query\n-- One.\n\nSELECT 1;\n".toList ∧
      Text.splitLines text = "  -- # Old".toList :: body (Text.splitLines text) ∧
      Text.allBlank "  -- # Old".toList = false ∧
      Text.startsWith "  -- # Old".toList marker = false := by
  decide +kernel

end DocSplice.Query
