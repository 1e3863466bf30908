import DocSplice.Brace.MarkedLines
import DocSplice.Proofs.Sections

/-!
# Tags of documentation

A tag stands at the start of a line, perhaps with a text behind it, and below it there may be more
lines, up to the next tag.  In the file every line gets the indentation of the declaration and the
marker, and what is read from it is the line without the blanks around it (`classify_renderLine`).

* `IsContent`: a line that would be taken neither for a tag nor for a marked line.
* `exists_trim_tagLine`: the line of a tag is split into the tag and the text behind it.
* `Tagged`: a tag with the lines below it.  What is read from it is a chapter, `Tagged.chapter` or
  `Tagged.parameterChapter` (`Tagged.map_classifyBody_lines`).
-/

namespace DocSplice.Brace

open Text

variable {indent line name : Text}

/-! ## Single lines -/

/-- **A line that is read back.**  Unless it is marked already, what a rendered line says is what
the line says without the blanks around it. -/
theorem classify_renderLine (hindent : allBlank indent = true)
    (hmarked : startsWith (trim line) marker = false) :
    classify (renderLine indent line) = classifyBody (trim line) := by
  by_cases hblank : allBlank line = true
  · have hline : renderLine indent line = indent ++ marker := by
      have hend : allBlank (trimEnd line) = true := (allBlank_trimEnd line).trans hblank
      rw [renderLine, if_pos hend]
    have htrim : trim (indent ++ marker) = marker := trim_append_left hindent marker
    rw [hline, classify, htrim, trim_eq_nil_iff.mpr hblank]
    decide
  · have hblank : allBlank line = false := Bool.eq_false_iff.mpr hblank
    have hline : renderLine indent line = indent ++ (marker ++ ' ' :: trimEnd line) := by
      have hend : ¬allBlank (trimEnd line) = true := by
        rw [allBlank_trimEnd, hblank]
        exact Bool.false_ne_true
      have hno : ¬isMarked (trimEnd line) = true := by
        rw [isMarked, Text.trimStart_trimEnd, hmarked]
        exact Bool.false_ne_true
      rw [renderLine, if_neg hend, if_neg hno, List.append_assoc]
    obtain ⟨body, hstrip, hbody⟩ :=
      exists_stripPrefix?_marked hindent (by decide : isBlank '#' = false) ['\''] hblank
    have hstrip : stripPrefix? (trim (indent ++ (marker ++ ' ' :: trimEnd line))) marker =
        some body := hstrip
    rw [hline, classify, hstrip, ← hbody]

/-- A rendered line ends with the line, trimmed. -/
theorem trim_suffix_renderLine (indent line : Text) : trim line <:+ renderLine indent line := by
  rw [← Text.trimStart_trimEnd]
  unfold renderLine
  dsimp only
  split
  · rename_i hblank
    rw [trimStart_eq_nil hblank]
    exact List.nil_suffix
  · split
    · exact List.suffix_append _ _
    · have hend : trimStart (trimEnd line) <:+ trimEnd line := List.dropWhile_suffix _
      exact (hend.trans (List.suffix_cons ' ' _)).trans (List.suffix_append _ _)

/-- A line that would not be taken for a tag, nor for a marked line. -/
structure IsContent (line : Text) : Prop where
  newline_notMem : '\n' ∉ line
  untagged : startsWith (trim line) ['@'] = false
  unmarked : startsWith (trim line) marker = false

instance (line : Text) : Decidable (IsContent line) :=
  decidable_of_iff ('\n' ∉ line ∧ startsWith (trim line) ['@'] = false ∧
      startsWith (trim line) marker = false)
    ⟨fun h => ⟨h.1, h.2.1, h.2.2⟩, fun h => ⟨h.newline_notMem, h.untagged, h.unmarked⟩⟩

theorem IsContent.classifyBody_eq (h : IsContent line) :
    classifyBody (trim line) = .content (trim line) := by
  have huntagged := h.untagged
  unfold classifyBody
  split
  · rename_i heq
    rw [heq] at huntagged
    simp [startsWith] at huntagged
  · rfl

/-- Lines of content are read back as content. -/
theorem map_classifyBody_content {lines : List Text} (h : ∀ line ∈ lines, IsContent line) :
    lines.map (fun line => classifyBody (trim line)) = (lines.map trim).map .content := by
  rw [List.map_map]
  exact List.map_congr_left fun line hline => (h line hline).classifyBody_eq

/-! ## A tag with the lines below it -/

/-- The line of a tag, with the text that stands behind it. -/
def tagLine (tag text : Text) : Text := if text = [] then tag else tag ++ ' ' :: text

/-- The text behind a tag, and the lines below it. -/
structure Tagged where
  text : Text
  below : List Text

namespace Tagged

variable {e : Tagged}

/-- The lines, from the tag on. -/
def lines (tag : Text) (e : Tagged) : List Text := tagLine tag e.text :: e.below

/-- The lines without the tag. -/
def content (e : Tagged) : List Text := if allBlank e.text then e.below else e.text :: e.below

/-- The text is a single line, and the lines below it are content. -/
structure Proper (e : Tagged) : Prop where
  text_line : '\n' ∉ e.text
  below_content : ∀ line ∈ e.below, IsContent line

instance (e : Tagged) : Decidable e.Proper :=
  decidable_of_iff ('\n' ∉ e.text ∧ ∀ line ∈ e.below, IsContent line)
    ⟨fun h => ⟨h.1, h.2⟩, fun h => ⟨h.text_line, h.below_content⟩⟩

end Tagged

theorem forall_not_isBlank (hname : name.any isBlank = false) :
    ∀ c ∈ name, (!isBlank c) = true := by
  intro c hc
  rw [isBlank_eq_false_of_mem hname hc]
  rfl

theorem splitTag_append (hname : name.any isBlank = false) (rest : Text) :
    splitTag (name ++ ' ' :: rest) = (name, trim rest) := by
  have hnone : ∀ c ∈ name, (!isBlank c) = true := forall_not_isBlank hname
  have hspace : (!isBlank ' ') = false := by decide
  rw [splitTag, List.takeWhile_append_of_pos hnone, List.dropWhile_append_of_pos hnone,
    List.takeWhile_cons_of_neg (by rw [hspace]; exact Bool.false_ne_true),
    List.dropWhile_cons_of_neg (by rw [hspace]; exact Bool.false_ne_true), List.append_nil]
  rfl

theorem any_isBlank_tag (hname : name.any isBlank = false) :
    ('@' :: name).any isBlank = false := by
  rw [List.any_cons, hname]
  rfl

/-- **The line of a tag**, trimmed, is split into the name of the tag and the text. -/
theorem exists_trim_tagLine (name : Text) (hname : name.any isBlank = false) (text : Text) :
    ∃ tagged, trim (tagLine ('@' :: name) text) = '@' :: tagged ∧
      splitTag tagged = (name, trim text) := by
  have hat : isBlank '@' = false := by decide
  have htag : ('@' :: name).any isBlank = false := any_isBlank_tag hname
  by_cases hblank : allBlank text = true
  · have hline : trim (tagLine ('@' :: name) text) = trim ('@' :: name) := by
      unfold tagLine
      split
      · rfl
      · refine trim_append _ ?_
        rw [allBlank, List.all_cons, Bool.and_eq_true]
        exact ⟨by decide, hblank⟩
    have hend : trim ('@' :: name) = '@' :: name :=
      (trim_eq_trimEnd hat name).trans (trimEnd_eq_self htag)
    have hsplit : splitTag name = (name, []) := by
      have hnone : ∀ c ∈ name, (!isBlank c) = true := forall_not_isBlank hname
      rw [splitTag, List.takeWhile_eq_self_iff.mpr hnone, List.dropWhile_eq_nil_iff.mpr hnone]
      rfl
    exact ⟨name, hline.trans hend, by rw [hsplit, trim_eq_nil_iff.mpr hblank]⟩
  · have hblank : allBlank text = false := Bool.eq_false_iff.mpr hblank
    have hne : text ≠ [] := by
      rintro rfl
      exact Bool.false_ne_true hblank.symm
    refine ⟨name ++ ' ' :: trimEnd text, ?_, ?_⟩
    · have hcut := trim_eq_trimEnd hat (name ++ ' ' :: text)
      have hend := trimEnd_append_of_not_allBlank ('@' :: name ++ [' ']) hblank
      rw [List.append_assoc, List.append_assoc] at hend
      rw [tagLine, if_neg hne]
      exact hcut.trans hend
    · rw [splitTag_append hname, trim_trimEnd]

/-- The line of a tag starts with the tag. -/
theorem tag_prefix_trim_tagLine (name : Text) (hname : name.any isBlank = false)
    (text : Text) :
    '@' :: name <+: trim (tagLine ('@' :: name) text) := by
  refine prefix_trim (any_isBlank_tag hname) ?_
  unfold tagLine
  split
  · exact List.prefix_refl _
  · exact List.prefix_append _ _

namespace Tagged

variable {e : Tagged}

/-- What is read from a tag that may have a text behind it. -/
def chapter (opened : Section) (e : Tagged) : Chapter :=
  ⟨opened, if (trim e.text).isEmpty then none else some (trim e.text), e.below.map trim⟩

/-- What is read from the tag of a parameter: the tag is kept. -/
def parameterChapter (e : Tagged) : Chapter :=
  ⟨.parameters, some (trim (tagLine "@param".toList e.text)), e.below.map trim⟩

/-- A tag opens its section. -/
theorem map_classifyBody_lines (h : e.Proper) {tag : Text} {c : Chapter}
    (hopen : classifyBody (trim (tagLine tag e.text)) = .header c.opened c.inline)
    (hbelow : c.below = e.below.map trim) :
    (e.lines tag).map (fun line => classifyBody (trim line)) = c.docLines := by
  rw [lines, List.map_cons, hopen, map_classifyBody_content h.below_content, Chapter.docLines,
    hbelow]

/-- Tags open their sections one after the other. -/
theorem map_classifyBody_flatMap {es : List Tagged} (h : ∀ e ∈ es, e.Proper) {tag : Text}
    {c : Tagged → Chapter}
    (hopen : ∀ e, classifyBody (trim (tagLine tag e.text)) = .header (c e).opened (c e).inline)
    (hbelow : ∀ e, (c e).below = e.below.map trim) :
    (es.flatMap (lines tag)).map (fun line => classifyBody (trim line)) =
      (es.map c).flatMap Chapter.docLines := by
  rw [List.map_flatMap, List.flatMap_map]
  exact List.flatMap_congr fun e he => map_classifyBody_lines (h e he) (hopen e) (hbelow e)

theorem flatMap_texts {c : Tagged → Chapter} {own : Tagged → List Text}
    (h : ∀ e, (c e).texts = (own e).map trim) (es : List Tagged) :
    (es.map c).flatMap Chapter.texts = (es.flatMap own).map trim := by
  rw [List.flatMap_map, List.map_flatMap]
  exact List.flatMap_congr fun e _ => h e

theorem classifyBody_parameter (text : Text) :
    classifyBody (trim (tagLine "@param".toList text)) =
      .header .parameters (some (trim (tagLine "@param".toList text))) := by
  obtain ⟨tagged, htrim, hsplit⟩ := exists_trim_tagLine "param".toList (by decide) text
  have htrim : trim (tagLine "@param".toList text) = '@' :: tagged := htrim
  rw [htrim, classifyBody, hsplit]
  rfl

/-- The other tags that documentation may have, and the sections that they open. -/
def sectionTags : List (Text × Section) :=
  [("return".toList, .returns), ("examples".toList, .examples)]

theorem classifyBody_sectionTag (name : Text) (opened : Section)
    (htag : (name, opened) ∈ sectionTags) (text : Text) :
    classifyBody (trim (tagLine ('@' :: name) text)) =
      .header opened (if (trim text).isEmpty then none else some (trim text)) := by
  have hname : name.any isBlank = false := by
    have hall : ∀ tag ∈ sectionTags, tag.1.any isBlank = false := by decide
    exact hall (name, opened) htag
  obtain ⟨tagged, htrim, hsplit⟩ := exists_trim_tagLine name hname text
  rw [htrim, classifyBody, hsplit]
  simp only [sectionTags, List.mem_cons, List.not_mem_nil, or_false, Prod.mk.injEq] at htag
  rcases htag with ⟨rfl, rfl⟩ | ⟨rfl, rfl⟩
  · rfl
  · rfl

/-- A chapter holds the content of its tag. -/
theorem texts_chapter (opened : Section) (e : Tagged) :
    (e.chapter opened).texts = e.content.map trim := by
  rw [chapter, Chapter.texts, content]
  by_cases hblank : allBlank e.text = true
  · rw [if_pos hblank, trim_eq_nil_iff.mpr hblank]
    rfl
  · have hne : (trim e.text).isEmpty = false := by
      rw [List.isEmpty_eq_false_iff, ne_eq, trim_eq_nil_iff]
      exact hblank
    rw [if_neg hblank, hne]
    rfl

/-- The chapter of a parameter holds its lines. -/
theorem texts_parameterChapter (e : Tagged) :
    e.parameterChapter.texts = (e.lines "@param".toList).map trim := rfl

end Tagged

end DocSplice.Brace
