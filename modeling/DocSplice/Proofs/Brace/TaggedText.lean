import DocSplice.Proofs.Brace.Tags
import DocSplice.Proofs.Documenting.Settling
import DocSplice.Proofs.Issues

/-!
# Tagged documentation that is read back

Documentation of a function describes it first, and then come the tags: the parameters one by one,
what is returned, and examples.  When it is installed and the function is extracted again, the
description and the sections are the ones that were given, up to blanks around the lines.

* `TaggedText`: a description and the tags; `TaggedText.Proper` says that no other line would be
  taken for a tag or for a marked line.
* `TaggedText.map_classifyBody_lines` and `TaggedText.run_lines`: what the lines say, and the
  sections that they make.
* `TaggedText.decompose_ended` and `TaggedText.issues_ended_eq_nil_iff`: what is read from the block
  in the file, with carriage returns or without, and when it is in order.
* `inject_tagged`: all of this together; `inject_tagged_indented` has an indented function.
-/

namespace DocSplice.Brace

open Text

variable {indent line text name : Text}

/-! ## A description and the tags -/

/-- Documentation of a function. -/
structure TaggedText where
  description : List Text
  parameters : List Tagged
  returns : Tagged
  examples : List Tagged

namespace TaggedText

variable {m : TaggedText} {ended : List Text}

/-- The lines of the documentation. -/
def lines (m : TaggedText) : List Text :=
  m.description ++ m.parameters.flatMap (Tagged.lines "@param".toList) ++
    m.returns.lines "@return".toList ++ m.examples.flatMap (Tagged.lines "@examples".toList)

/-- The documentation as one text. -/
def documentation (m : TaggedText) : Text := joinLines m.lines

/-- There are parameters, the parameters and what is returned are described, and no other line would
be taken for a tag or for a marked line. -/
structure Proper (m : TaggedText) : Prop where
  description_content : ∀ line ∈ m.description, IsContent line
  parameters_ne_nil : m.parameters ≠ []
  parameters_proper : ∀ e ∈ m.parameters, e.Proper
  parameters_nonblank : ∀ e ∈ m.parameters, allBlank e.text = false
  returns_proper : m.returns.Proper
  returns_nonblank : allBlank m.returns.text = false
  examples_proper : ∀ e ∈ m.examples, e.Proper

/-- The tags as they are read. -/
def chapters (m : TaggedText) : List Chapter :=
  m.parameters.map Tagged.parameterChapter ++ m.returns.chapter .returns ::
    m.examples.map (Tagged.chapter .examples)

/-- The record that is read from a block above a function of the given name. -/
def record (name : Text) (m : TaggedText) (raw : Text) : Documentation where
  kind := .patternBrace
  name := some name
  description := if (tidied m.description).isEmpty then none else some (tidied m.description)
  parameters := some (tidied (m.parameters.flatMap (Tagged.lines "@param".toList)))
  returns := some (tidied (m.returns.text :: m.returns.below))
  examples :=
    if m.examples.isEmpty then none else some (tidied (m.examples.flatMap Tagged.content))
  raw := raw

/-! ### The lines -/

theorem lines_ne_nil (m : TaggedText) : m.lines ≠ [] := by
  simp [lines, Tagged.lines]

/-- A line of a tag holds no newline, and it would not be taken for a marked line. -/
theorem clean_of_mem_tagged (name : Text) (hname : name.any isBlank = false) {e : Tagged}
    (h : e.Proper) (hline : line ∈ e.lines ('@' :: name)) :
    '\n' ∉ line ∧ startsWith (trim line) marker = false := by
  rcases List.mem_cons.mp hline with rfl | hbelow
  · obtain ⟨tagged, htrim, -⟩ := exists_trim_tagLine name hname e.text
    refine ⟨?_, by rw [htrim]; rfl⟩
    have htag : '\n' ∉ '@' :: name := by
      rw [List.mem_cons, not_or]
      refine ⟨by decide, fun hc => ?_⟩
      exact absurd (isBlank_eq_false_of_mem hname hc) (by decide)
    unfold tagLine
    split
    · exact htag
    · intro hc
      rcases List.mem_append.mp hc with hc | hc
      · exact htag hc
      · rcases List.mem_cons.mp hc with hc | hc
        · exact absurd hc (by decide)
        · exact h.text_line hc
  · exact ⟨(h.below_content line hbelow).newline_notMem, (h.below_content line hbelow).unmarked⟩

/-- No line of the documentation holds a newline or would be taken for a marked line. -/
theorem clean_of_mem_lines (h : m.Proper) (hline : line ∈ m.lines) :
    '\n' ∉ line ∧ startsWith (trim line) marker = false := by
  rw [lines, List.mem_append, List.mem_append, List.mem_append, List.mem_flatMap,
    List.mem_flatMap] at hline
  rcases hline with ((hline | ⟨e, he, hline⟩) | hline) | ⟨e, he, hline⟩
  · exact ⟨(h.description_content line hline).newline_notMem,
      (h.description_content line hline).unmarked⟩
  · exact clean_of_mem_tagged "param".toList (by decide) (h.parameters_proper e he) hline
  · exact clean_of_mem_tagged "return".toList (by decide) h.returns_proper hline
  · exact clean_of_mem_tagged "examples".toList (by decide) (h.examples_proper e he) hline

/-- The lines of the documentation are the pieces between its newlines. -/
theorem split_documentation (h : m.Proper) : split '\n' m.documentation = m.lines :=
  split_join m.lines_ne_nil fun _ hline => (clean_of_mem_lines h hline).1

/-- **What the lines say**: the description, and then the tags one after the other. -/
theorem map_classifyBody_lines (h : m.Proper) :
    m.lines.map (fun line => classifyBody (trim line)) =
      (m.description.map trim).map .content ++ m.chapters.flatMap Chapter.docLines := by
  have hparameters : (m.parameters.flatMap (Tagged.lines "@param".toList)).map
      (fun line => classifyBody (trim line)) =
      (m.parameters.map Tagged.parameterChapter).flatMap Chapter.docLines :=
    Tagged.map_classifyBody_flatMap h.parameters_proper
      (fun e => Tagged.classifyBody_parameter e.text) fun _ => rfl
  have hreturns : (m.returns.lines "@return".toList).map (fun line => classifyBody (trim line)) =
      (m.returns.chapter .returns).docLines :=
    Tagged.map_classifyBody_lines h.returns_proper
      (Tagged.classifyBody_sectionTag "return".toList .returns (by decide) _) rfl
  have hexamples : (m.examples.flatMap (Tagged.lines "@examples".toList)).map
      (fun line => classifyBody (trim line)) =
      (m.examples.map (Tagged.chapter .examples)).flatMap Chapter.docLines :=
    Tagged.map_classifyBody_flatMap h.examples_proper
      (fun _ => Tagged.classifyBody_sectionTag "examples".toList .examples (by decide) _)
      fun _ => rfl
  rw [lines, List.map_append, List.map_append, List.map_append, hparameters, hreturns, hexamples,
    map_classifyBody_content h.description_content, chapters, List.flatMap_append,
    List.flatMap_cons, List.append_assoc, List.append_assoc]

/-! ### The sections -/

/-- The tags of a section. -/
theorem filter_chapters (m : TaggedText) (s : Section) : m.chapters.filter (·.opened == s) =
    match s with
    | .description => []
    | .parameters => m.parameters.map Tagged.parameterChapter
    | .returns => [m.returns.chapter .returns]
    | .examples => m.examples.map (Tagged.chapter .examples) := by
  have hparameters : ∀ e : Tagged, e.parameterChapter.opened = .parameters := fun _ => rfl
  have hexamples : ∀ e : Tagged, (e.chapter .examples).opened = .examples := fun _ => rfl
  rw [chapters, List.filter_append, List.filter_cons, filter_map_opened hparameters,
    filter_map_opened hexamples]
  cases s with
  | description => rfl
  | parameters => exact List.append_nil _
  | returns => rfl
  | examples => rfl

/-- The description gives nothing to the other sections. -/
theorem contentOf_description {s : Section} (hs : s ≠ .description) (m : TaggedText) :
    contentOf s (some .description) ((m.description.map trim).map .content) = [] := by
  rw [contentOf_map_content]
  exact if_neg fun heq => hs (Option.some.inj heq).symm

theorem sectionOf_description (m : TaggedText) :
    sectionOf .description (some .description)
        ((m.description.map trim).map .content ++ m.chapters.flatMap Chapter.docLines) =
      if (tidied m.description).isEmpty then none else some (tidied m.description) := by
  rw [sectionOf_append_chapters _ (m.filter_chapters .description), sectionOf, opens_map_content,
    contentOf_map_content, if_pos rfl]
  rfl

/-- Without a tag for examples there is no such section. -/
theorem sectionOf_examples (m : TaggedText) :
    sectionOf .examples (some .description)
        ((m.description.map trim).map .content ++ m.chapters.flatMap Chapter.docLines) =
      if m.examples.isEmpty then none
      else some (tidied (m.examples.flatMap Tagged.content)) := by
  have hown := m.filter_chapters .examples
  have hnone := contentOf_description (s := .examples) (by decide) m
  by_cases hempty : m.examples = []
  · rw [hempty, List.map_nil] at hown
    rw [sectionOf_append_chapters _ hown, sectionOf, hnone, opens_map_content, hempty]
    rfl
  · have hne : m.examples.map (Tagged.chapter .examples) ≠ [] := by
      rw [ne_eq, List.map_eq_nil_iff]
      exact hempty
    rw [sectionOf_chapters hnone hown hne,
      Tagged.flatMap_texts (Tagged.texts_chapter .examples), List.isEmpty_eq_false_iff.mpr hempty]
    rfl

/-- The sections that are read from the documentation. -/
theorem run_lines (h : m.Proper) :
    (SectionScan.fresh (some .description)).run
        ((m.description.map trim).map .content ++ m.chapters.flatMap Chapter.docLines) =
      { title := none
        description :=
          if (tidied m.description).isEmpty then none else some (tidied m.description)
        parameters := some (tidied (m.parameters.flatMap (Tagged.lines "@param".toList)))
        returns := some (tidied (m.returns.text :: m.returns.below))
        examples :=
          if m.examples.isEmpty then none
          else some (tidied (m.examples.flatMap Tagged.content)) } := by
  have hparameters : m.parameters.map Tagged.parameterChapter ≠ [] := by
    rw [ne_eq, List.map_eq_nil_iff]
    exact h.parameters_ne_nil
  have hreturns : ([m.returns.chapter .returns] : List Chapter).flatMap Chapter.texts =
      (m.returns.text :: m.returns.below).map trim := by
    have hnonblank : ¬allBlank m.returns.text = true := Bool.eq_false_iff.mp h.returns_nonblank
    rw [List.flatMap_singleton, Tagged.texts_chapter, Tagged.content, if_neg hnonblank]
  rw [SectionScan.run_eq, sectionOf_description, sectionOf_examples,
    sectionOf_chapters (contentOf_description (by decide) m) (m.filter_chapters .parameters)
      hparameters,
    sectionOf_chapters (contentOf_description (by decide) m) (m.filter_chapters .returns)
      (List.cons_ne_nil _ _),
    Tagged.flatMap_texts Tagged.texts_parameterChapter, hreturns, List.findSome?_append,
    findSome?_title?_map_content, findSome?_title?_chapters]
  rfl

/-! ### The block -/

/-- The rendered lines are those of the documentation, but for marks at either end that say
nothing. -/
theorem exists_render_around (indent : Text) (h : m.Proper) : ∃ above below,
    m.lines.map (renderLine indent) = List.replicate above (indent ++ marker) ++
      render indent m.documentation ++ List.replicate below (indent ++ marker) := by
  have hview : ∀ line, renderLine indent (line ++ ['\r']) = renderLine indent line := by
    intro line
    rw [renderLine, trimEnd_append_of_allBlank line (by decide), ← renderLine]
  obtain ⟨above, below, hlines⟩ := exists_split_around hview m.documentation
  rw [split_documentation h] at hlines
  exact ⟨above, below, hlines⟩

variable (hindent : allBlank indent = true) (hnewline : '\n' ∉ indent)
  (hended : ended = render indent m.documentation ∨
    ended = returned (render indent m.documentation))

include hindent hnewline hended

/-- **The record that is read** from the block. -/
theorem decompose_ended (h : m.Proper) (hname : name ≠ []) :
    decompose name (joinLines ended) = m.record name (joinLines ended) := by
  have hplain : ∀ line ∈ render indent m.documentation, Plain line :=
    fun line hline => plain_of_mem_render hnewline hline
  obtain ⟨above, below, hlines⟩ := exists_render_around indent h
  have hempty : classify (indent ++ marker) = .content [] := by
    rw [classify, trim_append_left hindent]
    decide
  have hread : (m.lines.map (renderLine indent)).map classify =
      (m.description.map trim).map .content ++ m.chapters.flatMap Chapter.docLines := by
    rw [← map_classifyBody_lines h, List.map_map]
    exact List.map_congr_left fun line hline =>
      classify_renderLine hindent (clean_of_mem_lines h hline).2
  have hrun : (SectionScan.openedAt .description).run
      ((terminatedLines (joinLines ended)).map classify) = _ :=
    SectionScan.run_written classify_append_return hempty hplain hended hlines
  rw [decompose, hrun, hread, run_lines h, List.isEmpty_eq_false_iff.mpr hname]
  rfl

omit hnewline hended in
/-- The block shows every tag, behind a marker. -/
theorem exists_mem_render_tag (name : Text) (hname : name.any isBlank = false) (h : m.Proper)
    (hline : tagLine ('@' :: name) text ∈ m.lines) :
    ∃ line ∈ render indent m.documentation, marker <:+: line ∧ '@' :: name <:+: line := by
  obtain ⟨above, below, hlines⟩ := exists_render_around indent h
  have htag : '@' :: name <:+: renderLine indent (tagLine ('@' :: name) text) :=
    (tag_prefix_trim_tagLine name hname text).isInfix.trans
      (trim_suffix_renderLine indent (tagLine ('@' :: name) text)).isInfix
  have hmark : marker <:+: renderLine indent (tagLine ('@' :: name) text) := by
    obtain ⟨rest, hrest⟩ := startsWith_iff.mp (startsWith_renderLine indent (tagLine _ text))
    exact ⟨indent, rest, hrest⟩
  have hne : renderLine indent (tagLine ('@' :: name) text) ≠ indent ++ marker := by
    intro heq
    have hat : '@' ∈ indent ++ marker := heq ▸ htag.subset List.mem_cons_self
    rcases List.mem_append.mp hat with hat | hat
    · exact absurd (List.all_eq_true.mp hindent '@' hat) (by decide)
    · exact absurd hat (by decide)
  have hmem : renderLine indent (tagLine ('@' :: name) text) ∈ m.lines.map (renderLine indent) :=
    List.mem_map_of_mem hline
  rw [hlines] at hmem
  exact ⟨_, mem_of_mem_around hne hmem, hmark, htag⟩

omit hnewline in
/-- The block shows every tag that validation looks for. -/
theorem tag_infix_ended (h : m.Proper) {tag : Text} (htag : tag ∈ Validation.requiredTags) :
    tag <:+: joinLines ended := by
  have hclean : '\n' ∉ tag ∧ tag ≠ [] := by
    revert tag
    decide
  obtain ⟨line, hline, hshows⟩ : ∃ line ∈ render indent m.documentation, tag <:+: line := by
    obtain ⟨e, he⟩ := List.exists_mem_of_ne_nil m.parameters h.parameters_ne_nil
    have hparameter : tagLine "@param".toList e.text ∈ m.lines := by
      simp only [lines, List.mem_append, List.mem_flatMap]
      exact Or.inl (Or.inl (Or.inr ⟨e, he, List.mem_cons_self⟩))
    have hreturn : tagLine "@return".toList m.returns.text ∈ m.lines := by
      simp only [lines, List.mem_append]
      exact Or.inl (Or.inr List.mem_cons_self)
    obtain ⟨first, hfirst, hmarker, hparam⟩ :=
      exists_mem_render_tag hindent "param".toList (by decide) h hparameter
    obtain ⟨second, hsecond, -, hreturns⟩ :=
      exists_mem_render_tag hindent "return".toList (by decide) h hreturn
    simp only [Validation.requiredTags, List.mem_cons, List.not_mem_nil, or_false] at htag
    rcases htag with rfl | rfl | rfl
    · exact ⟨first, hfirst, hmarker⟩
    · exact ⟨first, hfirst, hparam⟩
    · exact ⟨second, hsecond, hreturns⟩
  exact Validation.infix_joinLines_ended hended hclean.1 hclean.2 hline hshows

/-- Every line of the block is marked. -/
theorem not_isUnmarked_of_mem_ended (hline : line ∈ terminatedLines (joinLines ended)) :
    Validation.isUnmarked line = false := by
  have hplain : ∀ line ∈ render indent m.documentation, Plain line :=
    fun line hline => plain_of_mem_render hnewline hline
  have hsame := map_terminatedLines_joinLines Validation.isUnmarked_append_return hplain hended
  have hmem : Validation.isUnmarked line ∈
      (terminatedLines (joinLines ended)).map Validation.isUnmarked := List.mem_map_of_mem hline
  rw [hsame] at hmem
  obtain ⟨rendered, hrendered, hunmarked⟩ := List.mem_map.mp hmem
  have hmarked : isMarked rendered = true :=
    isMarked_of_startsWith (fun c hc => List.all_eq_true.mp hindent c hc)
      (startsWith_of_mem_render hrendered)
  rw [← hunmarked]
  exact Validation.not_isUnmarked_of_isMarked hmarked

/-- **The checks** are passed when the description is long enough. -/
theorem issues_ended_eq_nil_iff (h : m.Proper) (hname : allBlank name = false) :
    (decompose name (joinLines ended)).issues = [] ↔ 10 ≤ (tidied m.description).length := by
  have hne : name ≠ [] := by
    rintro rfl
    exact Bool.false_ne_true hname.symm
  have hdescription : trim ((m.record name (joinLines ended)).description.getD []) =
      tidied m.description := by
    rw [record]
    dsimp only
    split
    · rename_i hempty
      rw [List.isEmpty_iff.mp hempty]
      rfl
    · exact trim_trim _
  have hparameters : Validation.parameterTag <:+:
      tidied (m.parameters.flatMap (Tagged.lines "@param".toList)) := by
    obtain ⟨e, rest, hcons⟩ := List.exists_cons_of_ne_nil h.parameters_ne_nil
    have htag := tag_prefix_trim_tagLine "param".toList (by decide) e.text
    rw [hcons, List.flatMap_cons, Tagged.lines, tidied, List.map_append, List.map_cons,
      List.cons_append]
    exact (prefix_trim (by decide) (htag.trans (prefix_joinLines_cons _ _))).isInfix
  have hreturns : Validation.isBlankSection (some (tidied (m.returns.text :: m.returns.below))) =
      false := by
    rw [Validation.isBlankSection_tidied, allBlank_joinLines, List.all_cons, h.returns_nonblank,
      Bool.false_and]
  rw [decompose_ended hindent hnewline hended h hne]
  refine (Validation.markedLineIssues_eq_nil_iff (m.record name (joinLines ended))).trans ?_
  rw [hdescription]
  constructor
  · rintro ⟨-, -, -, hlength, -⟩
    exact hlength
  · intro hlength
    exact ⟨fun tag htag => tag_infix_ended hindent hended h htag,
      fun line hline => not_isUnmarked_of_mem_ended hindent hnewline hended hline, hname, hlength,
      ⟨_, rfl, hparameters⟩, hreturns⟩

end TaggedText

/-! ## Tags in a file -/

theorem isBlank_of_startsName {c : Char} (h : startsName c = true) : isBlank c = false := by
  by_contra hblank
  have hnone : blanks.any startsName = false := by decide +kernel
  exact List.any_eq_false.mp hnone c (mem_blanks (Bool.not_eq_false _ ▸ hblank)) h

/-- A declared name is not blank. -/
theorem not_allBlank_of_declaredName? (h : declaredName? line = some name) :
    allBlank name = false := by
  unfold declaredName? at h
  split at h
  · exact absurd h (by simp)
  · rename_i c t htrim
    split at h
    · rename_i hstart
      simp only [Option.bind_eq_bind, Option.bind_eq_some_iff] at h
      obtain ⟨value, -, arguments, -, hname⟩ := h
      split at hname
      · rw [← Option.some.inj hname, allBlank, List.all_cons, isBlank_of_startsName hstart,
          Bool.false_and]
      · exact absurd hname (by simp)
    · exact absurd h (by simp)

/-- The name of an extracted function is not blank. -/
theorem not_allBlank_name (hclosed : ∀ line ∈ splitLines text, ClosesStrings line) {i : Item}
    (h : i ∈ items text) : allBlank i.name = false := by
  rw [items_eq hclosed, List.mem_map] at h
  obtain ⟨f, hf, rfl⟩ := h
  obtain ⟨line, -, hdeclared⟩ := getElem?_of_mem_found hf
  exact not_allBlank_of_declaredName? hdeclared

/-- Documentation with tags is not blank. -/
theorem TaggedText.not_allBlank_documentation (m : TaggedText) :
    allBlank m.documentation = false := by
  have hmem : tagLine "@return".toList m.returns.text ∈ m.lines := by
    simp only [lines, List.mem_append]
    exact Or.inl (Or.inr List.mem_cons_self)
  have hat : '@' ∈ trim (tagLine ('@' :: "return".toList) m.returns.text) :=
    (tag_prefix_trim_tagLine "return".toList (by decide) m.returns.text).subset List.mem_cons_self
  rw [documentation, allBlank_joinLines, List.all_eq_false]
  refine ⟨_, hmem, fun hblank => ?_⟩
  have hnil : trim (tagLine ('@' :: "return".toList) m.returns.text) = [] :=
    trim_eq_nil_iff.mpr hblank
  rw [hnil] at hat
  exact List.not_mem_nil hat

/-- The functions of a file are found again, in the same places, when one of them is documented. -/
theorem exists_carried [Parser] (hclosed : ∀ line ∈ splitLines text, ClosesStrings line) {i : Item}
    {k : Nat} (hitem : (items text)[k]? = some i) {documentation : Text}
    (hdocumentation : allBlank documentation = false) :
    ∃ result j, inject .patternBrace text [⟨i, documentation⟩] = .ok result ∧
      (items result)[k]? = some j ∧ Carried (splitLines text) [⟨i, documentation⟩] i j := by
  have htarget : ∀ t ∈ [(⟨i, documentation⟩ : Target)], t.item ∈ items text := by
    intro t ht
    rw [List.mem_singleton.mp ht]
    exact List.mem_of_getElem? hitem
  have hnonblank : ∀ t ∈ [(⟨i, documentation⟩ : Target)], allBlank t.documentation = false := by
    intro t ht
    rw [List.mem_singleton.mp ht]
    exact hdocumentation
  have hinject := inject_of_declared fun t ht => declared_of_mem_items (htarget t ht)
  have hcarried := carried_of_inject hclosed htarget (List.pairwise_singleton _ _) hnonblank hinject
  obtain ⟨hk, rfl⟩ := List.getElem?_eq_some_iff.mp hitem
  have hk' := hk
  rw [hcarried.length_eq] at hk'
  exact ⟨_, _, hinject, List.getElem?_eq_getElem hk', hcarried.get hk hk'⟩

/-- **Tags above a function.**  Injected documentation is read back with the declared name, with the
description and every section tidied, and it is in order exactly when the description is long
enough. -/
theorem inject_tagged [Parser] (text : Text) {i : Item} {k : Nat} {m : TaggedText}
    (hclosed : ∀ line ∈ splitLines text, ClosesStrings line) (hitem : (items text)[k]? = some i)
    (h : m.Proper) :
    ∃ result j raw, inject .patternBrace text [⟨i, m.documentation⟩] = .ok result ∧
      (items result)[k]? = some j ∧
      SourceKind.documentation? .patternBrace j = some
        { kind := .patternBrace
          name := some i.name
          description :=
            if (tidied m.description).isEmpty then none else some (tidied m.description)
          parameters := some (tidied (m.parameters.flatMap (Tagged.lines "@param".toList)))
          returns := some (tidied (m.returns.text :: m.returns.below))
          examples :=
            if m.examples.isEmpty then none else some (tidied (m.examples.flatMap Tagged.content))
          raw := raw } ∧
      (validate (SourceKind.documentation? .patternBrace j) = [] ↔
        10 ≤ (tidied m.description).length) := by
  obtain ⟨result, j, hinject, hj, hij⟩ :=
    exists_carried hclosed hitem m.not_allBlank_documentation
  obtain ⟨decl, hdecl, hdocumentation⟩ := hij.documented _ (List.mem_singleton.mpr rfl) rfl
  have hindent : allBlank (indent decl) = true :=
    List.all_eq_true.mpr fun c hc => isBlank_of_mem_indent hc
  have hnewline : '\n' ∉ indent decl := fun hc =>
    newline_notMem_of_mem_splitLines (List.mem_of_getElem? hdecl) (mem_of_mem_indent hc)
  have hname : allBlank i.name = false := not_allBlank_name hclosed (List.mem_of_getElem? hitem)
  have hne : i.name ≠ [] := by
    intro hnil
    rw [hnil] at hname
    exact Bool.false_ne_true hname.symm
  obtain ⟨ended, hended, hread⟩ : ∃ ended, (ended = render (indent decl) m.documentation ∨
      ended = returned (render (indent decl) m.documentation)) ∧
      j.documentation = some (joinLines ended) :=
    ⟨_, map_lineEnding_eq_or _ _ _, hdocumentation⟩
  have hrecord : SourceKind.documentation? .patternBrace j =
      some (decompose i.name (joinLines ended)) := by
    rw [SourceKind.documentation?, hread, hij.name_eq]
    rfl
  refine ⟨result, j, joinLines ended, hinject, hj, ?_, ?_⟩
  · rw [hrecord, TaggedText.decompose_ended hindent hnewline hended h hne]
    rfl
  · rw [hrecord]
    exact TaggedText.issues_ended_eq_nil_iff hindent hnewline hended h hname

/-- Documentation of a function with two parameters, with blanks at the ends of lines. -/
def scaled : TaggedText where
  description := ["  Scales a vector.".toList, [], "Missing values stay. \r".toList]
  parameters :=
    [⟨"x A vector.".toList, ["  It may be empty.".toList]⟩, ⟨" by A number. ".toList, []⟩]
  returns := ⟨" The vector.".toList, [[]]⟩
  examples := [⟨[], ["scale(1:3, by = 2)".toList]⟩]

/-- Above an indented function, in a file with carriage returns, it is read back without the
blanks, and it is in order. -/
theorem inject_tagged_indented :
    let text := "if (fast) \x7b\r\n  scale <- function(x, by) x * by\r\n\x7d\r\n".toList
    let scale : Item :=
      ⟨"scale".toList, .routine, "  scale <- function(x, by) x * by\r".toList, 2, 2, none⟩
    ∃ result j raw, inject .patternBrace text [⟨scale, scaled.documentation⟩] = .ok result ∧
      (items result)[0]? = some j ∧
      SourceKind.documentation? .patternBrace j = some
        { kind := .patternBrace
          name := some "scale".toList
          description := some "Scales a vector.\n\nMissing values stay.".toList
          parameters := some "@param x A vector.\nIt may be empty.\n@param  by A number.".toList
          returns := some "The vector.".toList
          examples := some "scale(1:3, by = 2)".toList
          raw := raw } ∧
      validate (SourceKind.documentation? .patternBrace j) = [] := by
  intro text scale
  have hclosed : ∀ line ∈ splitLines text, ClosesStrings line := by decide +kernel
  have hitem : (items text)[0]? = some scale := by decide +kernel
  have hproper : scaled.Proper :=
    ⟨by decide +kernel, by decide, by decide +kernel, by decide +kernel, by decide +kernel,
      by decide +kernel, by decide +kernel⟩
  obtain ⟨result, j, raw, hinject, hj, hrecord, hissues⟩ :=
    inject_tagged text hclosed hitem hproper
  refine ⟨result, j, raw, hinject, hj, ?_, hissues.mpr (by decide +kernel)⟩
  rw [hrecord, Option.some.injEq, Documentation.mk.injEq]
  exact ⟨rfl, rfl, by decide +kernel, by decide +kernel, by decide +kernel, by decide +kernel, rfl⟩

end DocSplice.Brace
