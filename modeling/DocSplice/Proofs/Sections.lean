import DocSplice.Proofs.Trimming
import DocSplice.Section

/-!
# What a scan gathers

A scan keeps the lines of every section as it meets them.  What it has gathered can be said of the
lines alone: a line of content goes to the section whose header came last, or to the section that
was open from the start, and the inline text of a header goes to the section that it opens
(`contentOf`).

* `SectionScan.Holds`: the scan is what the lines seen so far make it.  One more line keeps this
  (`Holds.feed`), so it is so after all lines (`holds_foldl`).
* `run_eq`: the title and the sections in the end, told by the lines.
* `run_around`: empty lines at either end change nothing.
* `Chapter`: a header with the content below it; `contentOf_chapters` gathers the chapters of one
  section.
-/

namespace DocSplice

open Text

variable {s : Section} {start current : Option Section} {line : DocLine} {lines seen : List DocLine}

namespace DocLine

/-- The section that a line opens. -/
def opened? : DocLine → Option Section
  | .header opened _ => some opened
  | _ => none

/-- The title that a line gives. -/
def title? : DocLine → Option Text
  | .title name => if (trim name).isEmpty then none else some (trim name)
  | _ => none

/-- What a line gives to a section, when `current` is open. -/
def gives (s : Section) (current : Option Section) : DocLine → List Text
  | .header opened inline => if opened = s then inline.toList else []
  | .content text => if current = some s then [text] else []
  | _ => []

end DocLine

/-- The section that is open after some lines, when `current` is open before. -/
def openAfter (current : Option Section) (lines : List DocLine) : Option Section :=
  lines.foldl (fun current line => line.opened?.or current) current

/-- What some lines give to a section, when `current` is open before. -/
def contentOf (s : Section) : Option Section → List DocLine → List Text
  | _, [] => []
  | current, line :: rest => line.gives s current ++ contentOf s (line.opened?.or current) rest

/-- Whether one of the lines is a header of the section. -/
def opens (s : Section) (lines : List DocLine) : Bool := lines.any (·.opened? == some s)

/-- A section in the end: without a header it counts only if there is something in it. -/
def sectionOf (s : Section) (start : Option Section) (lines : List DocLine) : Option Text :=
  let text := trim (joinLines (contentOf s start lines))
  if !opens s lines && text.isEmpty then none else some text

/-! ## More lines -/

theorem openAfter_append (a b : List DocLine) :
    openAfter current (a ++ b) = openAfter (openAfter current a) b := List.foldl_append

theorem contentOf_append (a b : List DocLine) :
    contentOf s current (a ++ b) =
      contentOf s current a ++ contentOf s (openAfter current a) b := by
  induction a generalizing current with
  | nil => rfl
  | cons line rest ih =>
    rw [List.cons_append, contentOf, ih, contentOf, List.append_assoc]
    rfl

theorem contentOf_concat :
    contentOf s current (lines ++ [line]) =
      contentOf s current lines ++ line.gives s (openAfter current lines) := by
  rw [contentOf_append, contentOf, contentOf, List.append_nil]

theorem opens_append (a b : List DocLine) : opens s (a ++ b) = (opens s a || opens s b) :=
  List.any_append

theorem opens_concat : opens s (lines ++ [line]) = (opens s lines || line.opened? == some s) := by
  rw [opens_append]
  exact congrArg (opens s lines || ·) (Bool.or_false _)

/-- Only a section with a header, or one that was open from the start, is given something. -/
theorem opens_or_of_contentOf (h : contentOf s current lines ≠ []) :
    opens s lines = true ∨ current = some s := by
  induction lines generalizing current with
  | nil => exact absurd rfl h
  | cons line rest ih =>
    by_cases hopened : line.opened? = some s
    · refine Or.inl ?_
      rw [opens, List.any_cons, hopened]
      simp
    · by_cases hgives : line.gives s current = []
      · rw [contentOf, hgives, List.nil_append] at h
        rcases ih h with hrest | hcurrent
        · refine Or.inl ?_
          rw [opens, List.any_cons]
          exact Bool.or_eq_true_iff.mpr (Or.inr hrest)
        · cases hnone : line.opened? with
          | none =>
            rw [hnone, Option.none_or] at hcurrent
            exact Or.inr hcurrent
          | some opened =>
            rw [hnone, Option.some_or] at hcurrent
            exact absurd (hnone.trans hcurrent) hopened
      · -- a line that is no header of the section gives only to the section that is open
        refine Or.inr ?_
        cases line with
        | header opened inline =>
          have hne : opened ≠ s := fun heq => hopened (heq ▸ rfl)
          exact absurd (if_neg hne) hgives
        | content text =>
          by_contra hcurrent
          exact hgives (if_neg hcurrent)
        | title name => exact absurd rfl hgives
        | skip => exact absurd rfl hgives

/-! ## The scan -/

namespace SectionScan

/-- Nothing is gathered yet, and a section may be open. -/
def fresh (start : Option Section) : SectionScan := ⟨start, start, none, fun _ => none⟩

/-- The scan is what the lines seen so far make it. -/
structure Holds (start : Option Section) (seen : List DocLine) (scan : SectionScan) : Prop where
  current_eq : scan.current = openAfter start seen
  implicit_eq : scan.implicit = start.filter fun s => !opens s seen
  title_eq : scan.title = seen.findSome? DocLine.title?
  gathered_eq : ∀ s, scan.gathered s =
    if opens s seen || !(contentOf s start seen).isEmpty then some (contentOf s start seen)
    else none

variable {scan : SectionScan}

theorem holds_fresh (start : Option Section) : Holds start [] (fresh start) where
  current_eq := rfl
  implicit_eq := by
    cases start with
    | none => rfl
    | some s => rfl
  title_eq := rfl
  gathered_eq _ := rfl

/-- What is gathered for a section, whether it was opened or not. -/
theorem Holds.getD_gathered (h : Holds start seen scan) (s : Section) :
    (scan.gathered s).getD [] = contentOf s start seen := by
  rw [h.gathered_eq]
  split
  · rfl
  · rename_i hnone
    rw [Bool.or_eq_true_iff, not_or, Bool.not_eq_true', Bool.not_eq_false] at hnone
    exact (List.isEmpty_iff.mp hnone.2).symm

/-! ### One more line -/

theorem feed_current (scan : SectionScan) (line : DocLine) :
    (scan.feed line).current = line.opened?.or scan.current := by
  cases line with
  | title name =>
    simp only [feed]
    split <;> rfl
  | header opened inline => rfl
  | content text =>
    simp only [feed]
    split <;> rfl
  | skip => rfl

/-- A header of the section that was open from the start announces it after all. -/
theorem feed_implicit (scan : SectionScan) (line : DocLine) :
    (scan.feed line).implicit = scan.implicit.filter fun s => !(line.opened? == some s) := by
  have hkeep : ∀ found : Option Section, found = found.filter fun _ => true := by
    intro found
    cases found <;> rfl
  cases line with
  | title name =>
    simp only [feed]
    split <;> exact hkeep _
  | header opened inline =>
    have himplicit : (scan.feed (.header opened inline)).implicit =
        if scan.implicit = some opened then none else scan.implicit := rfl
    rw [himplicit]
    cases scan.implicit with
    | none => rfl
    | some s =>
      by_cases hs : s = opened
      · simp [hs, DocLine.opened?, Option.filter]
      · simp [hs, Ne.symm hs, DocLine.opened?, Option.filter]
  | content text =>
    simp only [feed]
    split <;> exact hkeep _
  | skip => exact hkeep _

theorem feed_title (scan : SectionScan) (line : DocLine) :
    (scan.feed line).title = scan.title.or line.title? := by
  cases line with
  | title name =>
    simp only [feed, DocLine.title?]
    cases htitle : scan.title with
    | some first => simp [htitle]
    | none =>
      by_cases hname : (trim name).isEmpty = true
      · simp [hname, htitle]
      · simp [hname]
  | header opened inline => exact Option.or_none.symm
  | content text =>
    simp only [feed]
    split <;> exact Option.or_none.symm
  | skip => exact Option.or_none.symm

/-- A section is written to when the line opens it or gives it something. -/
theorem feed_gathered (scan : SectionScan) (line : DocLine) (s : Section) :
    (scan.feed line).gathered s =
      if line.opened? = some s ∨ line.gives s scan.current ≠ [] then
        some ((scan.gathered s).getD [] ++ line.gives s scan.current)
      else scan.gathered s := by
  cases line with
  | title name =>
    simp only [feed, DocLine.opened?, DocLine.gives]
    split <;> simp
  | header opened inline =>
    by_cases hs : s = opened
    · subst hs
      simp [feed, write, DocLine.opened?, DocLine.gives]
    · simp [feed, write, DocLine.opened?, DocLine.gives, hs, Ne.symm hs]
  | content text =>
    cases hcurrent : scan.current with
    | none => simp [feed, DocLine.opened?, DocLine.gives, hcurrent]
    | some opened =>
      by_cases hs : s = opened
      · subst hs
        simp [feed, write, DocLine.opened?, DocLine.gives, hcurrent]
      · simp [feed, write, DocLine.opened?, DocLine.gives, hcurrent, hs, Ne.symm hs]
  | skip => simp [DocLine.opened?, DocLine.gives]

/-- **One more line** keeps what the scan holds. -/
theorem Holds.feed (h : Holds start seen scan) (line : DocLine) :
    Holds start (seen ++ [line]) (scan.feed line) where
  current_eq := by
    rw [feed_current, h.current_eq, openAfter_append]
    rfl
  implicit_eq := by
    rw [feed_implicit, h.implicit_eq]
    cases start with
    | none => rfl
    | some s =>
      cases hseen : opens s seen with
      | true => simp [opens_concat, hseen, Option.filter]
      | false => simp [opens_concat, hseen, Option.filter]
  title_eq := by
    rw [feed_title, h.title_eq, List.findSome?_append]
    simp
  gathered_eq s := by
    rw [feed_gathered, h.current_eq, h.getD_gathered, h.gathered_eq, contentOf_concat,
      opens_concat]
    by_cases hopened : line.opened? = some s
    · simp [hopened]
    · by_cases hgives : line.gives s (openAfter start seen) = []
      · simp [hopened, hgives]
      · simp [hopened, hgives]

/-- All lines. -/
theorem holds_foldl (h : Holds start seen scan) (lines : List DocLine) :
    Holds start (seen ++ lines) (lines.foldl SectionScan.feed scan) := by
  induction lines generalizing seen scan with
  | nil =>
    rw [List.append_nil]
    exact h
  | cons line rest ih =>
    have hrest := ih (h.feed line)
    rw [List.append_assoc, List.singleton_append] at hrest
    exact hrest

theorem Holds.result_eq (h : Holds start seen scan) (s : Section) :
    scan.result s = sectionOf s start seen := by
  rw [result, h.gathered_eq, h.implicit_eq, sectionOf]
  by_cases hopens : opens s seen = true
  · have hnot : start.filter (fun s => !opens s seen) ≠ some s := by
      intro hfilter
      have hkept := (Option.filter_eq_some_iff.mp hfilter).2
      rw [hopens] at hkept
      exact Bool.false_ne_true hkept
    simp [hopens, hnot]
  · have hopens : opens s seen = false := Bool.eq_false_iff.mpr hopens
    by_cases hcontent : contentOf s start seen = []
    · simp [hopens, hcontent, joinLines]
    · obtain rfl : start = some s := by
        rcases opens_or_of_contentOf hcontent with htrue | hstart
        · rw [hopens] at htrue
          exact absurd htrue Bool.false_ne_true
        · exact hstart
      simp [hopens, hcontent, Option.filter]

/-- **The title and the sections of a block**, told by its lines. -/
theorem run_eq (start : Option Section) (lines : List DocLine) :
    (fresh start).run lines =
      ⟨lines.findSome? DocLine.title?, sectionOf .description start lines,
        sectionOf .parameters start lines, sectionOf .returns start lines,
        sectionOf .examples start lines⟩ := by
  have h := holds_foldl (holds_fresh start) lines
  rw [List.nil_append] at h
  rw [run, finish, h.title_eq, h.result_eq, h.result_eq, h.result_eq, h.result_eq]

end SectionScan

/-! ## Empty lines at either end -/

theorem contentOf_map_content (texts : List Text) :
    contentOf s current (texts.map .content) = if current = some s then texts else [] := by
  induction texts with
  | nil => simp [contentOf]
  | cons text rest ih =>
    have hnone : (DocLine.content text).opened? = none := rfl
    rw [List.map_cons, contentOf, hnone, Option.none_or, ih, DocLine.gives]
    split
    · rfl
    · rfl

theorem openAfter_map_content (texts : List Text) :
    openAfter current (texts.map .content) = current := by
  induction texts with
  | nil => rfl
  | cons text rest ih => exact ih

theorem opens_map_content (texts : List Text) : opens s (texts.map .content) = false := by
  rw [opens, List.any_eq_false]
  intro line hline
  obtain ⟨text, -, rfl⟩ := List.mem_map.mp hline
  simp [DocLine.opened?]

/-- Content alone fills the section that was open from the start, unless it is blank. -/
theorem sectionOf_map_content (texts : List Text) :
    sectionOf s (some s) (texts.map .content) =
      if allBlank (joinLines texts) then none else some (trim (joinLines texts)) := by
  rw [sectionOf, opens_map_content, contentOf_map_content, if_pos rfl]
  by_cases hblank : allBlank (joinLines texts) = true
  · rw [if_pos hblank, trim_eq_nil_iff.mpr hblank]
    rfl
  · have hsome : trim (joinLines texts) ≠ [] := fun hnil => hblank (trim_eq_nil_iff.mp hnil)
    rw [if_neg hblank, List.isEmpty_eq_false_iff.mpr hsome]
    rfl

theorem sectionOf_map_content_of_ne (h : start ≠ some s) (texts : List Text) :
    sectionOf s start (texts.map .content) = none := by
  rw [sectionOf, opens_map_content, contentOf_map_content, if_neg h]
  rfl

/-- The title is not told by lines of content. -/
theorem findSome?_title?_map_content (texts : List Text) :
    (texts.map DocLine.content).findSome? DocLine.title? = none := by
  rw [List.findSome?_eq_none_iff]
  intro line hline
  obtain ⟨text, -, rfl⟩ := List.mem_map.mp hline
  rfl

/-- Empty lines at either end. -/
def around (above below : Nat) (lines : List DocLine) : List DocLine :=
  (List.replicate above []).map .content ++ lines ++ (List.replicate below []).map .content

theorem sectionOf_around (above below : Nat) (lines : List DocLine) :
    sectionOf s start (around above below lines) = sectionOf s start lines := by
  have hopens : opens s (around above below lines) = opens s lines := by
    rw [around, opens_append, opens_append, opens_map_content, opens_map_content, Bool.false_or,
      Bool.or_false]
  obtain ⟨a, b, hcontent⟩ : ∃ a b, contentOf s start (around above below lines) =
      List.replicate a [] ++ contentOf s start lines ++ List.replicate b [] := by
    rw [around, contentOf_append, contentOf_append, contentOf_map_content, contentOf_map_content,
      openAfter_map_content]
    refine ⟨if start = some s then above else 0, if openAfter start
      ((List.replicate above []).map .content ++ lines) = some s then below else 0, ?_⟩
    congr 1
    · congr 1
      split <;> rfl
    · split <;> rfl
  rw [sectionOf, sectionOf, hopens, hcontent, trim_joinLines_around]

/-- **Empty lines around a block change nothing** of what is read. -/
theorem SectionScan.run_around (start : Option Section) (above below : Nat)
    (lines : List DocLine) : (fresh start).run (around above below lines) =
      (fresh start).run lines := by
  have htitle : (around above below lines).findSome? DocLine.title? =
      lines.findSome? DocLine.title? := by
    rw [around, List.findSome?_append, List.findSome?_append, findSome?_title?_map_content,
      findSome?_title?_map_content, Option.none_or, Option.or_none]
  rw [run_eq, run_eq, htitle, sectionOf_around, sectionOf_around, sectionOf_around,
    sectionOf_around]

/-- **A block that was written** is read as its lines are, although each of them may have got a
carriage return, and although empty ones at either end were not written. -/
theorem SectionScan.run_written {classify : Text → DocLine} {mark : Text}
    {block ended all : List Text} {above below : Nat}
    (hview : ∀ line, classify (line ++ ['\r']) = classify line)
    (hmark : classify mark = .content [])
    (hplain : ∀ line ∈ block, Plain line) (hended : ended = block ∨ ended = returned block)
    (hall : all = List.replicate above mark ++ block ++ List.replicate below mark) :
    (fresh start).run ((terminatedLines (joinLines ended)).map classify) =
      (fresh start).run (all.map classify) := by
  have haround : all.map classify = around above below (block.map classify) := by
    rw [hall, List.map_append, List.map_append, List.map_replicate, List.map_replicate, hmark,
      around, List.map_replicate, List.map_replicate]
  rw [map_terminatedLines_joinLines hview hplain hended, haround, run_around]

/-! ## Chapters -/

/-- A header with the content below it. -/
structure Chapter where
  opened : Section
  inline : Option Text
  below : List Text

namespace Chapter

/-- The lines of a chapter. -/
def docLines (c : Chapter) : List DocLine := .header c.opened c.inline :: c.below.map .content

/-- What a chapter gives to its section. -/
def texts (c : Chapter) : List Text := c.inline.toList ++ c.below

end Chapter

/-- **Chapters are gathered by their sections**, whatever is open before them. -/
theorem contentOf_chapters (chapters : List Chapter) :
    contentOf s current (chapters.flatMap Chapter.docLines) =
      (chapters.filter (·.opened == s)).flatMap Chapter.texts := by
  induction chapters generalizing current with
  | nil => rfl
  | cons c rest ih =>
    have hcontent : contentOf s current c.docLines = if c.opened = s then c.texts else [] := by
      rw [Chapter.docLines, contentOf, DocLine.opened?, Option.some_or, contentOf_map_content,
        DocLine.gives]
      by_cases hs : c.opened = s
      · rw [if_pos hs, if_pos hs, if_pos (congrArg some hs), Chapter.texts]
      · rw [if_neg hs, if_neg hs, if_neg fun heq => hs (Option.some.inj heq)]
        rfl
    rw [List.flatMap_cons, contentOf_append, ih, hcontent]
    by_cases hs : c.opened = s
    · have hpick : (c.opened == s) = true := beq_iff_eq.mpr hs
      rw [if_pos hs, List.filter_cons, if_pos hpick, List.flatMap_cons]
    · have hpick : ¬ (c.opened == s) = true := fun heq => hs (beq_iff_eq.mp heq)
      rw [if_neg hs, List.filter_cons, if_neg hpick, List.nil_append]

theorem opens_chapters (chapters : List Chapter) :
    opens s (chapters.flatMap Chapter.docLines) = chapters.any (·.opened == s) := by
  induction chapters with
  | nil => rfl
  | cons c rest ih =>
    have hlines : opens s c.docLines = (c.opened == s) := by
      have hbelow : opens s (c.below.map .content) = false := opens_map_content c.below
      rw [opens] at hbelow
      rw [Chapter.docLines, opens, List.any_cons, hbelow, Bool.or_false]
      simp [DocLine.opened?]
    rw [List.flatMap_cons, opens_append, ih, hlines, List.any_cons]

/-- Chapters of one section are all there is of it, and nothing of another. -/
theorem filter_map_opened {α : Type} {chapter : α → Chapter} {opened : Section}
    (hopened : ∀ a, (chapter a).opened = opened) (as : List α) :
    (as.map chapter).filter (·.opened == s) = if opened = s then as.map chapter else [] := by
  split
  · rename_i heq
    refine List.filter_eq_self.mpr fun c hc => ?_
    obtain ⟨a, -, rfl⟩ := List.mem_map.mp hc
    rw [hopened, heq]
    exact beq_self_eq_true s
  · rename_i hne
    refine List.filter_eq_nil_iff.mpr fun c hc => ?_
    obtain ⟨a, -, rfl⟩ := List.mem_map.mp hc
    rw [hopened, beq_iff_eq]
    exact hne

/-- The title is not told by chapters. -/
theorem findSome?_title?_chapters (chapters : List Chapter) :
    (chapters.flatMap Chapter.docLines).findSome? DocLine.title? = none := by
  induction chapters with
  | nil => rfl
  | cons c rest ih =>
    rw [List.flatMap_cons, List.findSome?_append, ih, Option.or_none, Chapter.docLines,
      List.findSome?_cons, findSome?_title?_map_content]
    rfl

/-- A section that has chapters holds what they give. -/
theorem sectionOf_chapters {front : List DocLine} {chapters own : List Chapter}
    (hfront : contentOf s start front = []) (hown : chapters.filter (·.opened == s) = own)
    (hne : own ≠ []) :
    sectionOf s start (front ++ chapters.flatMap Chapter.docLines) =
      some (trim (joinLines (own.flatMap Chapter.texts))) := by
  have hopen : chapters.any (·.opened == s) = true := by
    obtain ⟨c, hc⟩ := List.exists_mem_of_ne_nil own hne
    rw [← hown, List.mem_filter] at hc
    exact List.any_eq_true.mpr ⟨c, hc⟩
  have hopens : opens s (front ++ chapters.flatMap Chapter.docLines) = true := by
    rw [opens_append, opens_chapters, hopen, Bool.or_true]
  rw [sectionOf, hopens, contentOf_append, contentOf_chapters, hfront, List.nil_append, hown]
  rfl

/-- A section that has no chapters is not changed by those of the others. -/
theorem sectionOf_append_chapters {chapters : List Chapter} (front : List DocLine)
    (hown : chapters.filter (·.opened == s) = []) :
    sectionOf s start (front ++ chapters.flatMap Chapter.docLines) = sectionOf s start front := by
  have hopens : opens s (front ++ chapters.flatMap Chapter.docLines) = opens s front := by
    rw [opens_append, opens_chapters, List.any_eq_false.mpr (List.filter_eq_nil_iff.mp hown),
      Bool.or_false]
  rw [sectionOf, sectionOf, hopens, contentOf_append, contentOf_chapters, hown, List.flatMap_nil,
    List.append_nil]

end DocSplice
