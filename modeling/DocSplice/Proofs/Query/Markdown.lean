import DocSplice.Proofs.Documenting.Settling
import DocSplice.Proofs.Issues
import DocSplice.Proofs.Query.Reinjection
import DocSplice.Proofs.Sections

/-!
# Markdown that is read back

Documentation of a query file has a title and four sections, and it is written as comment lines.
Each line gets a marker and loses the blanks at its end; what is read from it, without the marker
and trimmed, is the line trimmed (`classify_renderLine`).  So the title and the sections that are
read from the file are the ones that were given, up to blanks.

* `Markdown`: a title and four sections; `Markdown.Proper` says that no line of a section would be
  taken for a header or for a comment.
* `classify_split`: what the lines of the documentation say, one by one.
* `exists_render_around` and `written_eq_or`: the block in the file holds these lines, with carriage
  returns or without.  `decompose_ended` is what is read from it, and `issues_ended_eq_nil_iff` says
  when it is in order.
* `document_markdown`: all of this together; `document_markdown_order_totals` has indented lines
  and carriage returns.
-/

namespace DocSplice.Query

open Text

variable {line text : Text}

/-! ## Single lines -/

/-- **A line that is read back.**  Unless it is a comment already, what a rendered line says is what
the line says without the blanks around it. -/
theorem classify_renderLine (hcomment : startsWith (trim line) marker = false) :
    classify (renderLine line) = classifyBody (trim line) := by
  by_cases hblank : allBlank line = true
  · have hline : renderLine line = marker := by
      have hend : allBlank (trimEnd line) = true := (allBlank_trimEnd line).trans hblank
      rw [renderLine, if_pos hend]
    rw [hline, trim_eq_nil_iff.mpr hblank]
    decide
  · have hblank : allBlank line = false := Bool.eq_false_iff.mpr hblank
    have hline : renderLine line = marker ++ ' ' :: trimEnd line := by
      have hend : ¬allBlank (trimEnd line) = true := by
        rw [allBlank_trimEnd, hblank]
        exact Bool.false_ne_true
      have hno : ¬isComment (trimEnd line) = true := by
        rw [isComment, trimStart_trimEnd, hcomment]
        exact Bool.false_ne_true
      rw [renderLine, if_neg hend, if_neg hno]
    have hnone : allBlank [] = true := rfl
    obtain ⟨body, hstrip, hbody⟩ :=
      exists_stripPrefix?_marked hnone (by decide : isBlank '-' = false) ['-'] hblank
    have hstrip : stripPrefix? (trim (marker ++ ' ' :: trimEnd line)) marker = some body := hstrip
    rw [hline, classify, hstrip, ← hbody]

/-- Whether no line of a text would be taken for a header or for a comment. -/
def IsProse (t : Text) : Prop :=
  ∀ line ∈ split '\n' t,
    startsWith (trim line) ['#'] = false ∧ startsWith (trim line) marker = false

instance (t : Text) : Decidable (IsProse t) := List.decidableBAll _ _

theorem classifyBody_of_not_hash (h : startsWith line ['#'] = false) :
    classifyBody line = .content line := by
  unfold classifyBody
  split
  · simp [startsWith] at h
  · simp [startsWith] at h
  · rfl

/-- The lines of prose are content. -/
theorem classify_prose {t : Text} (h : IsProse t) :
    (split '\n' t).map (fun line => classify (renderLine line)) =
      ((split '\n' t).map trim).map .content := by
  rw [List.map_map]
  refine List.map_congr_left fun line hline => ?_
  obtain ⟨hhash, hcomment⟩ := h line hline
  rw [classify_renderLine hcomment, classifyBody_of_not_hash hhash]
  rfl

/-- The rendered lines of documentation are those of its pieces, but for empty comments at either
end. -/
theorem exists_render_around (documentation : Text) : ∃ above below,
    (split '\n' documentation).map renderLine =
      List.replicate above marker ++ render documentation ++ List.replicate below marker := by
  have hview : ∀ line, renderLine (line ++ ['\r']) = renderLine line := by
    intro line
    rw [renderLine, trimEnd_append_of_allBlank line (by decide), ← renderLine]
  exact exists_split_around hview documentation

/-! ## The title -/

/-- The line of Markdown that gives a title. -/
def titleSource (name : Text) : Text := '#' :: ' ' :: name

theorem trim_titleSource {name : Text} (hname : allBlank name = false) :
    trim (titleSource name) = titleSource (trimEnd name) := by
  have htrim := trim_eq_trimEnd (by decide : isBlank '#' = false) (' ' :: name)
  have hend := trimEnd_append_of_not_allBlank ['#', ' '] hname
  exact htrim.trans hend

theorem renderLine_titleSource {name : Text} (hname : allBlank name = false) :
    renderLine (titleSource name) = opener ++ ' ' :: trimEnd name := by
  have hend : trimEnd (titleSource name) = titleSource (trimEnd name) :=
    trimEnd_append_of_not_allBlank ['#', ' '] hname
  have hblank : isBlank '#' = false := by decide
  rw [renderLine, hend]
  simp [titleSource, allBlank, hblank, isComment, trimStart, startsWith, marker, opener]

theorem classify_titleSource {name : Text} (hname : allBlank name = false) :
    classify (renderLine (titleSource name)) = .title (trim name) := by
  have hcomment : startsWith (trim (titleSource name)) marker = false := by
    rw [trim_titleSource hname]
    rfl
  rw [classify_renderLine hcomment, trim_titleSource hname, ← trim_space_trimEnd name]
  rfl

/-! ## A title and four sections -/

/-- Documentation of a query file. -/
structure Markdown where
  title : Text
  description : Text
  parameters : Text
  returns : Text
  examples : Text

namespace Markdown

variable {m : Markdown} {ended : List Text}

/-- The lines that open the sections. -/
def headers : List Text :=
  ["## Description".toList, "## Parameters".toList, "## Returns".toList, "## Example".toList]

/-- The title, and the headers with what stands below them. -/
def parts (m : Markdown) : List Text :=
  [titleSource m.title, "## Description".toList, m.description, "## Parameters".toList,
    m.parameters, "## Returns".toList, m.returns, "## Example".toList, m.examples]

theorem headers_subset_parts (m : Markdown) : headers ⊆ m.parts := by
  intro header hheader
  simp only [headers, List.mem_cons, List.not_mem_nil, or_false] at hheader
  rcases hheader with rfl | rfl | rfl | rfl
  · simp [parts]
  · simp [parts]
  · simp [parts]
  · simp [parts]

/-- The documentation as one text. -/
def documentation (m : Markdown) : Text := joinLines m.parts

/-- The title is one line and not blank, and the sections are prose. -/
structure Proper (m : Markdown) : Prop where
  title_line : '\n' ∉ m.title
  title_nonblank : allBlank m.title = false
  description_prose : IsProse m.description
  parameters_prose : IsProse m.parameters
  returns_prose : IsProse m.returns
  examples_prose : IsProse m.examples

/-- The sections as they are read. -/
def chapters (m : Markdown) : List Chapter :=
  [⟨.description, none, (split '\n' m.description).map trim⟩,
    ⟨.parameters, none, (split '\n' m.parameters).map trim⟩,
    ⟨.returns, none, (split '\n' m.returns).map trim⟩,
    ⟨.examples, none, (split '\n' m.examples).map trim⟩]

/-- The record that is read from a block. -/
def record (m : Markdown) (raw : Text) : Documentation where
  kind := .singleUnit
  name := some (trim m.title)
  description := some (tidied (split '\n' m.description))
  parameters := some (tidied (split '\n' m.parameters))
  returns := some (tidied (split '\n' m.returns))
  examples := some (tidied (split '\n' m.examples))
  raw := raw

theorem split_documentation (m : Markdown) :
    split '\n' m.documentation = m.parts.flatMap (split '\n') :=
  split_join_eq_flatMap (List.cons_ne_nil _ _)

theorem newline_notMem_titleSource (h : m.Proper) : '\n' ∉ titleSource m.title := by
  rw [titleSource, List.mem_cons, List.mem_cons, not_or, not_or]
  exact ⟨by decide, by decide, h.title_line⟩

/-- **What the lines say**: the title, and then the sections one after the other. -/
theorem classify_split (h : m.Proper) :
    (split '\n' m.documentation).map (fun line => classify (renderLine line)) =
      .title (trim m.title) :: m.chapters.flatMap Chapter.docLines := by
  have htitle : (split '\n' (titleSource m.title)).map (fun line => classify (renderLine line)) =
      [.title (trim m.title)] := by
    rw [split_of_notMem (newline_notMem_titleSource h), List.map_singleton,
      classify_titleSource h.title_nonblank]
  have hheaders : headers.map (fun header =>
      (split '\n' header).map fun line => classify (renderLine line)) =
      [[.header .description none], [.header .parameters none], [.header .returns none],
        [.header .examples none]] := by
    decide
  simp only [headers, List.map_cons, List.cons.injEq] at hheaders
  rw [split_documentation, List.map_flatMap]
  simp only [parts, chapters, List.flatMap_cons, List.flatMap_nil, htitle, hheaders,
    classify_prose h.description_prose, classify_prose h.parameters_prose,
    classify_prose h.returns_prose, classify_prose h.examples_prose, Chapter.docLines,
    List.nil_append, List.cons_append, List.append_nil]

/-! ### The block -/

/-- The block opens with the title, so it gets no other one. -/
theorem head?_render (h : m.Proper) :
    (render m.documentation).head? = some (renderLine (titleSource m.title)) := by
  obtain ⟨above, below, hlines⟩ := exists_render_around m.documentation
  have hfirst : ((split '\n' m.documentation).map renderLine).head? =
      some (renderLine (titleSource m.title)) := by
    rw [split_documentation, parts, List.flatMap_cons,
      split_of_notMem (newline_notMem_titleSource h)]
    rfl
  have hne : marker ≠ renderLine (titleSource m.title) := by
    rw [renderLine_titleSource h.title_nonblank]
    simp [opener, marker]
  rw [hlines, List.append_assoc] at hfirst
  cases above with
  | succ above => exact absurd (Option.some.inj hfirst) hne
  | zero =>
    rw [List.replicate_zero, List.nil_append] at hfirst
    cases hrender : render m.documentation with
    | cons first rest =>
      rw [hrender] at hfirst
      exact hfirst
    | nil =>
      rw [hrender, List.nil_append] at hfirst
      cases below with
      | zero => exact absurd hfirst (by simp)
      | succ below => exact absurd (Option.some.inj hfirst) hne

theorem renderTitled_documentation (h : m.Proper) (name : Text) :
    renderTitled name m.documentation = render m.documentation := by
  have htitle : isTitle (renderLine (titleSource m.title)) = true := by
    rw [isTitle, classify_titleSource h.title_nonblank, renderLine_titleSource h.title_nonblank,
      Bool.and_eq_true]
    exact ⟨isOpener_of_startsWith (startsWith_titleLine _), rfl⟩
  have hbrings : bringsTitle m.documentation = true := by
    rw [bringsTitle, head?_render h]
    exact htitle
  rw [renderTitled_eq, if_pos hbrings]

/-- Every line of the documentation that says something is in the block. -/
theorem renderLine_mem_render {line : Text} (hline : line ∈ split '\n' m.documentation)
    (hne : renderLine line ≠ marker) : renderLine line ∈ render m.documentation := by
  obtain ⟨above, below, hlines⟩ := exists_render_around m.documentation
  have hmem : renderLine line ∈ (split '\n' m.documentation).map renderLine :=
    List.mem_map_of_mem hline
  rw [hlines] at hmem
  exact mem_of_mem_around hne hmem

/-! ### What is read -/

variable (hended : ended = render m.documentation ∨ ended = returned (render m.documentation))

include hended

/-- **The record that is read** from the block. -/
theorem decompose_ended (h : m.Proper) :
    decompose (joinLines ended) = m.record (joinLines ended) := by
  have hplain : ∀ line ∈ render m.documentation, Plain line := by
    intro line hline
    rw [← renderTitled_documentation h []] at hline
    exact plain_of_mem_renderTitled List.not_mem_nil List.not_mem_nil hline
  obtain ⟨above, below, hlines⟩ := exists_render_around m.documentation
  have hread : ((split '\n' m.documentation).map renderLine).map classify =
      .title (trim m.title) :: m.chapters.flatMap Chapter.docLines := by
    rw [← classify_split h, List.map_map]
    rfl
  have hrun : SectionScan.closed.run ((terminatedLines (joinLines ended)).map classify) = _ :=
    SectionScan.run_written classify_append_return (by decide) hplain hended hlines
  have htitle : (trim (trim m.title)).isEmpty = false := by
    rw [trim_trim, List.isEmpty_eq_false_iff]
    intro hnil
    rw [trim_eq_nil_iff, h.title_nonblank] at hnil
    exact Bool.false_ne_true hnil
  have hsection : ∀ (s : Section) (own : List Chapter), m.chapters.filter (·.opened == s) = own →
      own ≠ [] → sectionOf s none ([.title (trim m.title)] ++ m.chapters.flatMap Chapter.docLines) =
        some (trim (joinLines (own.flatMap Chapter.texts))) :=
    fun s own hown hne => sectionOf_chapters rfl hown hne
  have hsections := SectionScan.run_eq none
    ([.title (trim m.title)] ++ m.chapters.flatMap Chapter.docLines)
  rw [hsection .description [⟨_, _, _⟩] rfl (List.cons_ne_nil _ _),
    hsection .parameters [⟨_, _, _⟩] rfl (List.cons_ne_nil _ _),
    hsection .returns [⟨_, _, _⟩] rfl (List.cons_ne_nil _ _),
    hsection .examples [⟨_, _, _⟩] rfl (List.cons_ne_nil _ _), List.singleton_append,
    List.findSome?_cons, DocLine.title?, htitle, trim_trim] at hsections
  rw [decompose, hrun, hread, hsections]
  simp [record, Chapter.texts, tidied]

/-- The block shows every header that validation looks for. -/
theorem header_infix_ended (h : m.Proper) {header : Text}
    (hheader : header ∈ Validation.commentHeaders) :
    header <:+: Text.lowerAscii (joinLines ended) := by
  have hclean : '\n' ∉ header ∧ header ≠ [] := by
    revert header
    decide
  -- the line of the documentation that shows the header
  obtain ⟨source, hsource, hline, hne, hshows⟩ : ∃ source ∈ m.parts, '\n' ∉ source ∧
      renderLine source ≠ marker ∧ header <:+: Text.lowerAscii (renderLine source) := by
    rcases List.mem_cons.mp hheader with rfl | hheader
    · refine ⟨titleSource m.title, List.mem_cons_self, ?_, ?_⟩
      · exact newline_notMem_titleSource h
      · rw [renderLine_titleSource h.title_nonblank]
        exact ⟨by simp [opener, marker], List.IsPrefix.isInfix ⟨_, rfl⟩⟩
    · have hrest : ∀ header ∈ Validation.commentHeaders.tail, ∃ source ∈ headers,
          '\n' ∉ source ∧ renderLine source ≠ marker ∧
            header <:+: Text.lowerAscii (renderLine source) := by
        decide
      obtain ⟨source, hsource, hshows⟩ := hrest header hheader
      exact ⟨source, headers_subset_parts m hsource, hshows⟩
  have hmem : source ∈ split '\n' m.documentation := by
    rw [split_documentation, List.mem_flatMap]
    exact ⟨source, hsource, by rw [split_of_notMem hline]; exact List.mem_singleton.mpr rfl⟩
  have hlower : ended.map Text.lowerAscii = (render m.documentation).map Text.lowerAscii ∨
      ended.map Text.lowerAscii = returned ((render m.documentation).map Text.lowerAscii) := by
    rcases hended with rfl | rfl
    · exact Or.inl rfl
    · exact Or.inr (lowerAscii_returned _)
  rw [lowerAscii_joinLines]
  exact Validation.infix_joinLines_ended hlower hclean.1 hclean.2
    (List.mem_map_of_mem (renderLine_mem_render hmem hne)) hshows

/-- **The checks** are passed when the description is long enough and the other sections are not
blank. -/
theorem issues_ended_eq_nil_iff (h : m.Proper) :
    (decompose (joinLines ended)).issues = [] ↔
      10 ≤ (tidied (split '\n' m.description)).length ∧ allBlank m.parameters = false ∧
        allBlank m.returns = false ∧ allBlank m.examples = false := by
  have hname : Validation.isBlankSection (some (trim m.title)) = false :=
    (allBlank_trim m.title).trans h.title_nonblank
  have hblank : ∀ t : Text,
      Validation.isBlankSection (some (tidied (split '\n' t))) = allBlank t := by
    intro t
    rw [Validation.isBlankSection_tidied, joinLines, join_split]
  have hdescription : trim (tidied (split '\n' m.description)) =
      tidied (split '\n' m.description) := trim_trim _
  have hchecks := Validation.commentIssues_eq_nil_iff (m.record (joinLines ended))
  simp only [record, hname, hblank, hdescription, Option.getD_some, true_and] at hchecks
  rw [decompose_ended hended h]
  refine hchecks.trans (and_iff_right fun header hheader => ?_)
  exact header_infix_ended hended h hheader

end Markdown

/-! ## Markdown in a file -/

/-- **Sections of a query file.**  Injected documentation is read back with its title and with every
section tidied, and it is in order exactly when the description is long enough and no other section
is blank. -/
theorem document_markdown [Parser] (text : Text) {m : Markdown} (h : m.Proper) :
    ∃ out item raw, document text m.documentation = .ok out ∧ items out = [item] ∧
      SourceKind.documentation? .singleUnit item = some
        { kind := .singleUnit
          name := some (trim m.title)
          description := some (tidied (split '\n' m.description))
          parameters := some (tidied (split '\n' m.parameters))
          returns := some (tidied (split '\n' m.returns))
          examples := some (tidied (split '\n' m.examples))
          raw := raw } ∧
      (validate (SourceKind.documentation? .singleUnit item) = [] ↔
        10 ≤ (tidied (split '\n' m.description)).length ∧ allBlank m.parameters = false ∧
          allBlank m.returns = false ∧ allBlank m.examples = false) := by
  have hnewline : '\n' ∉ unitName (splitLines text) := newline_notMem_unitName text
  have hreturn : '\r' ∉ unitName (splitLines text) := notMem_unitName (by decide) (by decide) _
  obtain ⟨t, ht, hname, hdocumentation⟩ : ∃ t, t = unitTarget text m.documentation ∧
      t.item.name = unitName (splitLines text) ∧ t.documentation = m.documentation :=
    ⟨_, rfl, rfl, rfl⟩
  rw [← hname] at hnewline hreturn
  have hended := written_eq_or (splitLines text) hnewline hreturn
  rw [hdocumentation, Markdown.renderTitled_documentation h] at hended
  obtain ⟨item, hitem⟩ : ∃ item, items (installed text t).toText = [item] := ⟨_, rfl⟩
  have hread : item.documentation = some (joinLines (written (splitLines text) t)) := by
    have hinstalled := documentation_installed text hnewline
    rw [hitem] at hinstalled
    exact (List.cons.inj hinstalled).1
  have hrecord : SourceKind.documentation? .singleUnit item =
      some (decompose (joinLines (written (splitLines text) t))) := by
    rw [SourceKind.documentation?, hread]
    rfl
  refine ⟨_, item, joinLines (written (splitLines text) t), ?_, hitem, ?_, ?_⟩
  · rw [ht]
    exact document_eq text m.documentation
  · rw [hrecord, Markdown.decompose_ended hended h]
    rfl
  · rw [hrecord]
    exact Markdown.issues_ended_eq_nil_iff hended h

/-- Documentation with blanks at the ends of its lines, carriage returns and an empty line. -/
def orderTotals : Markdown where
  title := " Order totals \r".toList
  description := "Adds up the orders\r\n\r\n  of one day.  ".toList
  parameters := "\tday : date".toList
  returns := "\nnumeric\n".toList
  examples := "SELECT order_total('2024-01-01');".toList

/-- In a file with carriage returns it is read back without the blanks, and it is in order. -/
theorem document_markdown_order_totals :
    ∃ out item raw, document "SELECT 1;\r\n".toList orderTotals.documentation = .ok out ∧
      items out = [item] ∧
      SourceKind.documentation? .singleUnit item = some
        { kind := .singleUnit
          name := some "Order totals".toList
          description := some "Adds up the orders\n\nof one day.".toList
          parameters := some "day : date".toList
          returns := some "numeric".toList
          examples := some "SELECT order_total('2024-01-01');".toList
          raw := raw } ∧
      validate (SourceKind.documentation? .singleUnit item) = [] := by
  have hproper : orderTotals.Proper :=
    ⟨by decide +kernel, by decide +kernel, by decide +kernel, by decide +kernel, by decide +kernel,
      by decide +kernel⟩
  obtain ⟨out, item, raw, hout, hitem, hrecord, hissues⟩ :=
    document_markdown "SELECT 1;\r\n".toList hproper
  refine ⟨out, item, raw, hout, hitem, ?_, hissues.mpr (by decide +kernel)⟩
  rw [hrecord, Option.some.injEq, Documentation.mk.injEq]
  exact ⟨rfl, by decide +kernel, by decide +kernel, by decide +kernel, by decide +kernel,
    by decide +kernel, rfl⟩

end DocSplice.Query
