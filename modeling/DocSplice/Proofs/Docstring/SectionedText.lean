import DocSplice.Proofs.Docstring.Underlines
import DocSplice.Proofs.Endings.Uniform
import DocSplice.Proofs.Sections

/-!
# Docstrings with both sections

A docstring that is laid out as the convention asks for has a description, then the parameters and
the returns, each below its header and a line of dashes.  Whatever lines stand in the three parts,
they are found again, as long as none of them is a heading: the dashes that a header takes along are
those directly below it, so dashes at the top of a section are content, and so are blank lines.

* `Sectioned`: the lines of the three parts, and `Sectioned.docstring`, the text they make.
* `classifyLines_of_notHeading` and `classifyLines_lines`: what the lines say, the parts one after
  the other.
* `run_terminatedLines`: a docstring may end with a line break too many.
* `judged_sectioned`: the parts are read back trimmed, and what the checks ask of such a docstring
  is a description that is long enough, a type or `None`, and something about the returns.
-/

namespace DocSplice.Docstring

open Text Validation

variable {given : List Text} {line : Text} {start : Option Section}

/-- The headings that open a section. -/
def headings : List Text := [parametersWord, returnsWord, "Examples".toList, "Example".toList]

theorem sectionHeader?_eq_none_iff : sectionHeader? line = none ↔ trim line ∉ headings := by
  constructor
  · intro h hmem
    have hall : ∀ word ∈ headings, sectionHeader? word ≠ none := by decide
    rw [sectionHeader?_congr (trim_trim line).symm] at h
    exact hall _ hmem h
  · intro h
    have hne : ∀ word ∈ headings, trim line ≠ word := by
      rintro word hword rfl
      exact h hword
    have hparameters : trim line ≠ "Parameters".toList := hne parametersWord (by simp [headings])
    have hreturns : trim line ≠ "Returns".toList := hne returnsWord (by simp [headings])
    have hexamples : ["Examples".toList, "Example".toList].contains (trim line) = false := by
      rw [List.contains_eq_mem, decide_eq_false_iff_not]
      intro hmem
      exact h (List.mem_cons_of_mem _ (List.mem_cons_of_mem _ hmem))
    rw [sectionHeader?, if_neg hparameters, if_neg hreturns, hexamples]
    rfl

/-! ## What the lines say -/

theorem classifyLines_of_notHeading (h : ∀ line ∈ given, trim line ∉ headings) :
    classifyLines given = given.map .content := by
  induction given with
  | nil => rfl
  | cons line rest ih =>
    rw [classifyLines_content (sectionHeader?_eq_none_iff.mpr (h line List.mem_cons_self)),
      ih fun other hother => h other (List.mem_cons_of_mem line hother), List.map_cons]

/-- Lines without a heading, a header with its dashes, and what is below. -/
theorem classifyLines_section {header rule : Text} {opened : Section}
    (h : ∀ line ∈ given, trim line ∉ headings) (hheader : sectionHeader? header = some opened)
    (hrule : isUnderline rule = true) (below : List Text) :
    classifyLines (given ++ header :: rule :: below) =
      given.map .content ++ .header opened none :: classifyLines below := by
  rw [classifyLines_append (isUnderline_of_header hheader), classifyLines_of_notHeading h,
    classifyLines_header hheader, belowHeader_cons hrule]

/-- Lines without carriage returns lose nothing when they are closed but an empty one at the end. -/
theorem exists_closeLines (h : ∀ line ∈ given, '\r' ∉ line) :
    ∃ below, given = closeLines given ++ List.replicate below [] := by
  induction given with
  | nil => exact ⟨0, rfl⟩
  | cons line rest ih =>
    obtain ⟨below, hrest⟩ := ih fun other hother => h other (List.mem_cons_of_mem line hother)
    cases rest with
    | nil =>
      by_cases hempty : line = []
      · exact ⟨1, by simp [closeLines, hempty]⟩
      · exact ⟨0, by simp [closeLines, hempty]⟩
    | cons next rest =>
      have hline : dropFinalReturn line = line :=
        dropFinalReturn_of_not_hasReturn (hasReturn_of_notMem (h line List.mem_cons_self))
      refine ⟨below, ?_⟩
      rw [closeLines_cons_cons, hline, List.cons_append, ← hrest]

/-- **Lines are read as they were joined**, although the docstring does not show whether it ends
with an empty one. -/
theorem run_terminatedLines (hnewline : ∀ line ∈ given, '\n' ∉ line)
    (hreturn : ∀ line ∈ given, '\r' ∉ line) :
    (SectionScan.fresh start).run (classifyLines (terminatedLines (joinLines given))) =
      (SectionScan.fresh start).run (classifyLines given) := by
  by_cases hne : given = []
  · rw [hne]
    rfl
  · obtain ⟨below, hclose⟩ := exists_closeLines hreturn
    have hlines : classifyLines given = around 0 below (classifyLines (closeLines given)) := by
      rw [around, List.replicate_zero, List.map_nil, List.nil_append]
      cases below with
      | zero =>
        rw [List.replicate_zero, List.append_nil] at hclose
        rw [← hclose, List.replicate_zero, List.map_nil, List.append_nil]
      | succ below =>
        have hempty : ∀ line ∈ List.replicate (below + 1) ([] : Text), trim line ∉ headings := by
          intro line hline
          rw [List.eq_of_mem_replicate hline]
          decide
        conv => lhs; rw [hclose]
        rw [List.replicate_succ, classifyLines_append (by decide), ← List.replicate_succ,
          classifyLines_of_notHeading hempty]
    rw [terminatedLines_joinLines hnewline hne, hlines, SectionScan.run_around]

/-! ## A description and two sections -/

/-- The lines of a docstring that has a description and both sections. -/
structure Sectioned where
  description : List Text
  parameters : List Text
  returns : List Text

namespace Sectioned

variable {s : Sectioned}

/-- The lines as they stand in the docstring. -/
def lines (s : Sectioned) : List Text :=
  s.description ++ parametersWord :: parametersRule ::
    (s.parameters ++ returnsWord :: returnsRule :: s.returns)

/-- The docstring. -/
def docstring (s : Sectioned) : Text := joinLines s.lines

/-- No line of a part would be taken for a heading or for several lines. -/
structure Proper (s : Sectioned) : Prop where
  heading_notMem : ∀ line ∈ s.description ++ s.parameters ++ s.returns, trim line ∉ headings
  newline_notMem : ∀ line ∈ s.description ++ s.parameters ++ s.returns, '\n' ∉ line
  return_notMem : ∀ line ∈ s.description ++ s.parameters ++ s.returns, '\r' ∉ line

/-- The chapters below the description. -/
def chapters (s : Sectioned) : List Chapter :=
  [⟨.parameters, none, s.parameters⟩, ⟨.returns, none, s.returns⟩]

/-- A line of the docstring is one of a part, or it is a header or its dashes. -/
theorem mem_lines_cases (h : line ∈ s.lines) :
    line ∈ s.description ++ s.parameters ++ s.returns ∨
      line ∈ [parametersWord, parametersRule, returnsWord, returnsRule] := by
  simp only [lines, List.mem_append, List.mem_cons, List.not_mem_nil, or_false] at h ⊢
  tauto

/-- A character that stands neither in a header nor in dashes stands in no line, if it does not
stand in the parts. -/
theorem notMem_of_mem_lines {c : Char}
    (hparts : ∀ line ∈ s.description ++ s.parameters ++ s.returns, c ∉ line)
    (hframe : ∀ line ∈ [parametersWord, parametersRule, returnsWord, returnsRule], c ∉ line) :
    ∀ line ∈ s.lines, c ∉ line := by
  intro line hline
  rcases mem_lines_cases hline with hpart | hother
  · exact hparts line hpart
  · exact hframe line hother

/-- The description is content, and a chapter follows for either section. -/
theorem classifyLines_lines (h : s.Proper) :
    classifyLines s.lines = s.description.map .content ++ s.chapters.flatMap Chapter.docLines := by
  have hdescription : ∀ line ∈ s.description, trim line ∉ headings := fun line hline =>
    h.heading_notMem line (List.mem_append_left _ (List.mem_append_left _ hline))
  have hparameters : ∀ line ∈ s.parameters, trim line ∉ headings := fun line hline =>
    h.heading_notMem line (List.mem_append_left _ (List.mem_append_right _ hline))
  have hreturns : ∀ line ∈ s.returns, trim line ∉ headings := fun line hline =>
    h.heading_notMem line (List.mem_append_right _ hline)
  have hopens : sectionHeader? parametersWord = some .parameters := by decide
  have hfollows : sectionHeader? returnsWord = some .returns := by decide
  rw [lines, classifyLines_section hdescription hopens (by decide),
    classifyLines_section hparameters hfollows (by decide),
    classifyLines_of_notHeading hreturns]
  simp [chapters, Chapter.docLines]

/-- **The sections of the docstring.** -/
theorem run_docstring (h : s.Proper) :
    (SectionScan.openedAt .description).run (classifyLines (terminatedLines s.docstring)) =
      { title := none
        description :=
          if allBlank (joinLines s.description) then none
          else some (trim (joinLines s.description))
        parameters := some (trim (joinLines s.parameters))
        returns := some (trim (joinLines s.returns))
        examples := none } := by
  have hstart : SectionScan.openedAt .description = .fresh (some .description) := rfl
  have hfront : ∀ other : Section, other ≠ .description →
      contentOf other (some .description) (s.description.map .content) = [] := by
    intro other hother
    rw [contentOf_map_content, if_neg fun heq => hother (Option.some.inj heq).symm]
  have hparameters : s.chapters.filter (·.opened == .parameters) =
      [⟨.parameters, none, s.parameters⟩] := rfl
  have hreturns : s.chapters.filter (·.opened == .returns) = [⟨.returns, none, s.returns⟩] := rfl
  have hdescription : s.chapters.filter (·.opened == .description) = [] := rfl
  have hexamples : s.chapters.filter (·.opened == .examples) = [] := rfl
  rw [hstart, docstring, run_terminatedLines (notMem_of_mem_lines h.newline_notMem (by decide))
    (notMem_of_mem_lines h.return_notMem (by decide)), classifyLines_lines h, SectionScan.run_eq,
    List.findSome?_append, findSome?_title?_map_content, findSome?_title?_chapters,
    sectionOf_chapters (hfront .parameters (by decide)) hparameters (by simp),
    sectionOf_chapters (hfront .returns (by decide)) hreturns (by simp),
    sectionOf_append_chapters _ hdescription, sectionOf_append_chapters _ hexamples]
  rw [sectionOf_map_content, sectionOf_map_content_of_ne (by simp)]
  simp [Chapter.texts]

/-- What stands in a header, or in the dashes below it, is found in the docstring. -/
theorem infix_docstring {word : Text} (hclean : '\n' ∉ word) (hne : word ≠ [])
    (hword : word ∈ [parametersWord, parametersRule, returnsWord, returnsRule]) :
    word <:+: s.docstring := by
  rw [docstring, infix_joinLines_iff hclean hne]
  refine ⟨word, ?_, List.infix_refl word⟩
  simp only [lines, List.mem_append, List.mem_cons, List.not_mem_nil, or_false] at hword ⊢
  tauto

end Sectioned

/-- **A docstring with both sections** is taken apart into the parts it was laid out from, trimmed,
and it is in order exactly when the description has ten characters, the parameters name a type or
say that there are none, and the returns are not blank. -/
theorem judged_sectioned (i : Item) {s : Sectioned} (hname : allBlank i.name = false)
    (h : s.Proper) (hdocumentation : i.documentation = some s.docstring) :
    ∃ raw, SourceKind.documentation? .structured i = some
        { kind := .structured
          name := some i.name
          description :=
            if allBlank (joinLines s.description) then none
            else some (trim (joinLines s.description))
          parameters := some (trim (joinLines s.parameters))
          returns := some (trim (joinLines s.returns))
          examples := none
          raw := raw } ∧
      (validate (SourceKind.documentation? .structured i) = [] ↔
        10 ≤ (trim (joinLines s.description)).length ∧
          (':' ∈ trim (joinLines s.parameters) ∨ "None".toList <:+: trim (joinLines s.parameters)) ∧
          allBlank (trim (joinLines s.returns)) = false) := by
  have hread : SourceKind.documentation? .structured i = some (decompose i.name s.docstring) := by
    rw [SourceKind.documentation?, hdocumentation]
    rfl
  have hissues : validate (some (decompose i.name s.docstring)) =
      (decompose i.name s.docstring).issues := rfl
  refine ⟨(decompose i.name s.docstring).raw, ?_, ?_⟩
  · rw [hread, decompose, Sectioned.run_docstring h]
  · have hshape : parametersWord <:+: s.docstring ∧ returnsWord <:+: s.docstring ∧
        parametersRule <:+: s.docstring :=
      ⟨Sectioned.infix_docstring (by decide) (by decide) (by simp),
        Sectioned.infix_docstring (by decide) (by decide) (by simp),
        Sectioned.infix_docstring (by decide) (by decide) (by simp)⟩
    have hlength : trim ((decompose i.name s.docstring).description.getD []) =
        trim (joinLines s.description) := by
      rw [decompose, Sectioned.run_docstring h]
      dsimp only
      split
      · rename_i hblank
        rw [trim_eq_nil_iff.mpr hblank]
        rfl
      · exact trim_trim _
    have hnamed : isBlankSection (some i.name) = false := hname
    rw [hread, hissues, issues_decompose_eq_nil_iff, and_iff_right hshape, and_iff_right hnamed,
      hlength, decompose, Sectioned.run_docstring h]
    simp [leastDescriptionLength, isBlankSection, noneWord]

/-- Dashes below the dashes of a header are content, and so are dashes in the description and an
empty line at the end. -/
theorem judged_sectioned_more_dashes :
    let s : Sectioned := ⟨["----------".toList, [], " Adds one. ".toList],
      ["---".toList, "x : int".toList], ["-------".toList, "int".toList, []]⟩
    let f : Item := ⟨['f'], .routine, [], 1, 1, some s.docstring⟩
    allBlank f.name = false ∧ s.Proper ∧ ∃ raw, SourceKind.documentation? .structured f = some
        { kind := .structured
          name := some ['f']
          description := some "----------\n\n Adds one.".toList
          parameters := some "---\nx : int".toList
          returns := some "-------\nint".toList
          examples := none
          raw := raw } ∧
      validate (SourceKind.documentation? .structured f) = [] := by
  intro s f
  have hname : allBlank f.name = false := by decide
  have hproper : s.Proper := ⟨by decide, by decide, by decide⟩
  obtain ⟨raw, hread, hissues⟩ := judged_sectioned f hname hproper rfl
  refine ⟨hname, hproper, raw, ?_, hissues.mpr (by decide +kernel)⟩
  rw [hread, Option.some.injEq, Documentation.mk.injEq]
  exact ⟨rfl, rfl, by decide +kernel, by decide +kernel, by decide +kernel, rfl, rfl⟩

end DocSplice.Docstring
