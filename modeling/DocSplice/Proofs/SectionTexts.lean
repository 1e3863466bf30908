import DocSplice.Analysis
import DocSplice.Proofs.Endings.Rendered
import DocSplice.Proofs.Sections
import Mathlib.Data.List.Forall2

/-!
# Where the texts of a block go

A scan over the lines of a block keeps one section open and forgets what came before.  What has
become of the lines in the end is told here without a scan: a text goes to the section whose header
stands last above it or beside it, and before any header to the section that was open from the
start.

* `addressed`: the texts of a block, each with the section it goes to.  They are the texts of the
  lines, in order; only what stands above the first header is missing, when no section was open from
  the start (`map_snd_addressed`).
* `sharesOf`: the texts that go to one section.  Together the four sections have all that is
  addressed, each text once (`perm_addressed`), and the scan gathers just these (`contentOf_eq`).
* `Drawn`: each line of a text is a stretch of a line of its own of another text, in the same order.
  Cutting a stretch out of a text draws its lines (`drawn_of_infix`), and so does taking
  documentation apart, whatever its kind.
* `sections_account`: the account of a whole block.
-/

namespace DocSplice

open Text

variable {s : Section} {start current : Option Section} {line : DocLine} {lines : List DocLine}
  {source t u : Text} {sources inner outer : List Text}

/-! ## Addresses -/

namespace DocLine

/-- The text that a line has for a section. -/
def text? : DocLine → Option Text
  | .header _ inline => inline
  | .content text => some text
  | _ => none

/-- The name that a line gives to the documented unit. -/
def name? : DocLine → Option Text
  | .title name => some name
  | _ => none

end DocLine

/-- The section that was opened last, when `start` was open before. -/
def lastOpened (start : Option Section) (lines : List DocLine) : Option Section :=
  (lines.reverse.findSome? DocLine.opened?).or start

/-- The texts of the lines, each with the section that was opened last when it came. -/
def addressed (start : Option Section) (lines : List DocLine) : List (Section × Text) :=
  (List.range lines.length).filterMap fun row =>
    (lines[row]?.bind DocLine.text?).bind fun text =>
      (lastOpened start (lines.take (row + 1))).map (·, text)

/-- The texts that go to one section. -/
def sharesOf (s : Section) (start : Option Section) (lines : List DocLine) : List Text :=
  ((addressed start lines).filter (·.1 == s)).map Prod.snd

/-- All sections. -/
def Section.all : List Section := [.description, .parameters, .returns, .examples]

/-- What stands under one of the sections. -/
def Sections.get? (sections : Sections) : Section → Option Text
  | .description => sections.description
  | .parameters => sections.parameters
  | .returns => sections.returns
  | .examples => sections.examples

/-- What stands under one of the sections of taken-apart documentation. -/
def Documentation.get? (doc : Documentation) : Section → Option Text
  | .description => doc.description
  | .parameters => doc.parameters
  | .returns => doc.returns
  | .examples => doc.examples

theorem lastOpened_concat :
    lastOpened start (lines ++ [line]) = line.opened?.or (lastOpened start lines) := by
  rw [lastOpened, List.reverse_append, List.reverse_singleton, List.singleton_append,
    List.findSome?_cons, lastOpened]
  cases line.opened? with
  | none => rfl
  | some opened => rfl

theorem lastOpened_eq (start : Option Section) (lines : List DocLine) :
    lastOpened start lines = openAfter start lines := by
  induction lines using List.reverseRecOn with
  | nil => rfl
  | append_singleton above line ih =>
    rw [lastOpened_concat, openAfter_append, ih]
    rfl

theorem addressed_concat : addressed start (lines ++ [line]) = addressed start lines ++
    (line.text?.bind fun text =>
      (line.opened?.or (lastOpened start lines)).map (·, text)).toList := by
  have habove : ∀ row ∈ List.range lines.length,
      (((lines ++ [line])[row]?.bind DocLine.text?).bind fun text =>
          (lastOpened start ((lines ++ [line]).take (row + 1))).map (·, text)) =
        (lines[row]?.bind DocLine.text?).bind fun text =>
          (lastOpened start (lines.take (row + 1))).map (·, text) := by
    intro row hrow
    have hlt := List.mem_range.mp hrow
    rw [List.getElem?_append_left hlt, List.take_append_of_le_length (by omega)]
  have hat : (lines ++ [line])[lines.length]? = some line := List.getElem?_concat_length
  have hall : (lines ++ [line]).take (lines.length + 1) = lines ++ [line] :=
    List.take_of_length_le (by simp)
  rw [addressed, List.length_append, List.length_singleton, List.range_succ, List.filterMap_append,
    List.filterMap_congr habove, ← addressed, List.filterMap_cons, hat, hall,
    lastOpened_concat, Option.bind_some]
  cases line.text?.bind fun text => (line.opened?.or (lastOpened start lines)).map (·, text) with
  | none => rfl
  | some share => rfl

/-- **The scan gathers the shares** of a section. -/
theorem contentOf_eq (s : Section) (start : Option Section) (lines : List DocLine) :
    contentOf s start lines = sharesOf s start lines := by
  induction lines using List.reverseRecOn with
  | nil => rfl
  | append_singleton above line ih =>
    rw [contentOf_concat, ih, sharesOf, sharesOf, addressed_concat, List.filter_append,
      List.map_append, ← lastOpened_eq]
    refine congrArg (_ ++ ·) ?_
    cases line with
    | title name => rfl
    | skip => rfl
    | header opened inline =>
      cases inline with
      | none => simp [DocLine.gives, DocLine.text?]
      | some text =>
        by_cases hs : opened = s
        · simp [DocLine.gives, DocLine.text?, DocLine.opened?, hs]
        · simp [DocLine.gives, DocLine.text?, DocLine.opened?, hs]
    | content text =>
      cases hopen : lastOpened start above with
      | none => simp [DocLine.gives, DocLine.text?, DocLine.opened?]
      | some opened =>
        by_cases hs : opened = s
        · simp [DocLine.gives, DocLine.text?, DocLine.opened?, hs]
        · simp [DocLine.gives, DocLine.text?, DocLine.opened?, hs]

/-- The four sections share all that is addressed. -/
theorem perm_addressed (start : Option Section) (lines : List DocLine) :
    (Section.all.flatMap fun s => sharesOf s start lines).Perm
      ((addressed start lines).map Prod.snd) := by
  have hparts : ∀ shares : List (Section × Text),
      (Section.all.flatMap fun s => shares.filter (·.1 == s)).Perm shares := by
    intro shares
    refine List.perm_iff_count.mpr fun share => ?_
    have hcount : ∀ s, (shares.filter (·.1 == s)).count share =
        if share.1 = s then shares.count share else 0 := by
      intro s
      by_cases hs : share.1 = s
      · rw [if_pos hs, List.count_filter (by simpa using hs)]
      · rw [if_neg hs, List.count_eq_zero]
        intro hmem
        exact hs (beq_iff_eq.mp (List.mem_filter.mp hmem).2)
    simp only [Section.all, List.flatMap_cons, List.flatMap_nil, List.append_nil,
      List.count_append, hcount]
    cases share.1 <;> simp
  have hmap := (hparts (addressed start lines)).map Prod.snd
  rw [List.map_flatMap] at hmap
  exact hmap

theorem lastOpened_eq_none_iff :
    lastOpened start lines = none ↔ start = none ∧ ∀ line ∈ lines, line.opened? = none := by
  rw [lastOpened, Option.or_eq_none_iff, List.findSome?_eq_none_iff]
  simp only [List.mem_reverse]
  exact and_comm

/-- The texts are addressed in order, and none is missing but those above the first header of a
block in which nothing was open from the start. -/
theorem map_snd_addressed (start : Option Section) (lines : List DocLine) :
    (addressed start lines).map Prod.snd =
      (if start.isSome then lines else lines.dropWhile (·.opened?.isNone)).filterMap
        DocLine.text? := by
  induction lines using List.reverseRecOn with
  | nil => cases start <;> rfl
  | append_singleton above line ih =>
    rw [addressed_concat, List.map_append, ih]
    cases hopen : line.opened?.or (lastOpened start above) with
    | none =>
      obtain ⟨hline, habove⟩ := Option.or_eq_none_iff.mp hopen
      obtain ⟨rfl, hnone⟩ := lastOpened_eq_none_iff.mp habove
      have hdrop : (above ++ [line]).dropWhile (·.opened?.isNone) = [] := by
        refine List.dropWhile_eq_nil_iff.mpr fun l hl => ?_
        rcases List.mem_append.mp hl with hl | hl
        · rw [hnone l hl]
          rfl
        · rw [List.mem_singleton.mp hl, hline]
          rfl
      have habove : above.dropWhile (·.opened?.isNone) = [] :=
        List.dropWhile_eq_nil_iff.mpr fun l hl => by
          rw [hnone l hl]
          rfl
      rw [hdrop, habove]
      cases line.text? with
      | none => rfl
      | some text => rfl
    | some opened =>
      have hlast : (line.text?.bind fun text => (some opened).map (·, text)).toList.map Prod.snd =
          [line].filterMap DocLine.text? := by
        rw [List.filterMap_cons]
        cases line.text? with
        | none => rfl
        | some text => rfl
      rw [hlast, ← List.filterMap_append]
      refine congrArg (List.filterMap DocLine.text?) ?_
      cases start with
      | some first => rfl
      | none =>
        -- a header stands above the line, or the line is one
        rw [if_neg (by simp), if_neg (by simp), List.dropWhile_append]
        split
        · rename_i hnil
          have hnone := List.dropWhile_eq_nil_iff.mp (List.isEmpty_iff.mp hnil)
          have hline : line.opened?.isNone = false := by
            refine Bool.eq_false_iff.mpr fun hline => ?_
            have habove : lastOpened none above = none := lastOpened_eq_none_iff.mpr
              ⟨rfl, fun l hl => Option.isNone_iff_eq_none.mp (hnone l hl)⟩
            rw [habove, Option.isNone_iff_eq_none.mp hline] at hopen
            exact absurd hopen (by simp)
          rw [List.isEmpty_iff.mp hnil, List.dropWhile_cons_of_neg (by simp [hline])]
          rfl
        · rfl

/-! ## The account of a scan -/

theorem SectionScan.fresh_eq (start : Option Section) :
    fresh start = start.elim closed openedAt := by
  cases start with
  | none => rfl
  | some s => rfl

theorem opens_iff : opens s lines = true ↔ ∃ inline, DocLine.header s inline ∈ lines := by
  rw [opens, List.any_eq_true]
  constructor
  · rintro ⟨line, hline, hopened⟩
    cases line with
    | header opened inline =>
      obtain rfl : opened = s := Option.some.inj (beq_iff_eq.mp hopened)
      exact ⟨inline, hline⟩
    | title name => exact absurd hopened (by simp [DocLine.opened?])
    | content text => exact absurd hopened (by simp [DocLine.opened?])
    | skip => exact absurd hopened (by simp [DocLine.opened?])
  · rintro ⟨inline, hmem⟩
    exact ⟨_, hmem, beq_self_eq_true _⟩

/-- **A section is there** when it has a header, or was open from the start and is not blank. -/
theorem sectionOf_eq_some_iff : sectionOf s start lines = some t ↔
    ((∃ inline, DocLine.header s inline ∈ lines) ∨
        start = some s ∧ allBlank (joinLines (sharesOf s start lines)) = false) ∧
      t = trim (joinLines (sharesOf s start lines)) := by
  rw [sectionOf, ← contentOf_eq, ← opens_iff, eq_comm (a := t)]
  cases hopens : opens s lines with
  | true => simp
  | false =>
    cases hblank : allBlank (joinLines (contentOf s start lines)) with
    | true => simp [trim_eq_nil_iff.mpr hblank]
    | false =>
      have hne : contentOf s start lines ≠ [] := fun hnil => by
        rw [hnil] at hblank
        exact absurd hblank (by decide)
      have hstart : start = some s :=
        (opens_or_of_contentOf hne).resolve_left (by simp [hopens])
      have hempty : (trim (joinLines (contentOf s start lines))).isEmpty = false := by
        refine Bool.eq_false_iff.mpr fun hnil => ?_
        rw [trim_eq_nil_iff.mp (List.isEmpty_iff.mp hnil)] at hblank
        exact absurd hblank (by decide)
      rw [hempty]
      simp [hstart]

/-- The title is the first name that is not blank. -/
theorem findSome?_title? (lines : List DocLine) : lines.findSome? DocLine.title? =
    ((lines.filterMap DocLine.name?).find? (!allBlank ·)).map trim := by
  induction lines with
  | nil => rfl
  | cons line rest ih =>
    rw [List.findSome?_cons]
    cases line with
    | title name =>
      cases hblank : allBlank name with
      | true =>
        simp only [DocLine.title?, trim_eq_nil_iff.mpr hblank, List.isEmpty_nil, if_true, ih,
          List.filterMap_cons, DocLine.name?, List.find?_cons, hblank, Bool.not_true]
      | false =>
        have hne : trim name ≠ [] := fun hnil => by
          rw [trim_eq_nil_iff.mp hnil] at hblank
          exact absurd hblank (by decide)
        simp [DocLine.title?, DocLine.name?, hne, hblank]
    | header opened inline => exact ih
    | content text => exact ih
    | skip => exact ih

theorem SectionScan.get?_run (start : Option Section) (lines : List DocLine) (s : Section) :
    ((fresh start).run lines).get? s = sectionOf s start lines := by
  rw [run_eq]
  cases s <;> rfl

/-! ## Drawn lines -/

/-- Each of the lines `inner` is a stretch of one of the lines `outer`, of another one for each and
in the same order. -/
def Drawn (inner outer : List Text) : Prop := List.SublistForall₂ (· <:+: ·) inner outer

theorem Drawn.trans {a b c : List Text} (hab : Drawn a b) (hbc : Drawn b c) : Drawn a c :=
  List.SublistForall₂.is_trans.trans a b c hab hbc

theorem drawn_refl (lines : List Text) : Drawn lines lines :=
  List.SublistForall₂.is_refl.refl lines

theorem Drawn.exists_mem (h : Drawn inner outer) (hu : u ∈ inner) : ∃ t ∈ outer, u <:+: t := by
  induction h with
  | nil => exact absurd hu List.not_mem_nil
  | @cons a b inner outer hab hrest ih =>
    rcases List.mem_cons.mp hu with rfl | hu
    · exact ⟨b, List.mem_cons_self, hab⟩
    · obtain ⟨t, ht, hut⟩ := ih hu
      exact ⟨t, List.mem_cons_of_mem b ht, hut⟩
  | cons_right hrest ih =>
    obtain ⟨t, ht, hut⟩ := ih hu
    exact ⟨t, List.mem_cons_of_mem _ ht, hut⟩

/-- Cutting two texts that are put together: the last piece of the first one and the first piece of
the second one are one. -/
theorem exists_split_append (sep : Char) (a b : Text) : ∃ front last first back,
    split sep a = front ++ [last] ∧ split sep b = first :: back ∧
      split sep (a ++ b) = front ++ (last ++ first) :: back := by
  obtain ⟨first, back, hb⟩ := List.exists_cons_of_ne_nil (split_ne_nil sep b)
  induction a with
  | nil => exact ⟨[], [], first, back, rfl, hb, hb⟩
  | cons c a ih =>
    obtain ⟨front, last, first', back', ha, hb', hboth⟩ := ih
    by_cases hc : c = sep
    · subst hc
      refine ⟨[] :: front, last, first', back', ?_, hb', ?_⟩
      · rw [split_cons_sep, ha, List.cons_append]
      · rw [List.cons_append, split_cons_sep, hboth, List.cons_append]
    · obtain ⟨piece, pieces, hs, hcut⟩ := split_cons_of_ne hc a
      obtain ⟨piece', pieces', hs', hcut'⟩ := split_cons_of_ne hc (a ++ b)
      rw [ha] at hs
      rw [hboth] at hs'
      cases front with
      | nil =>
        obtain ⟨rfl, rfl⟩ := List.cons.inj hs
        obtain ⟨rfl, rfl⟩ := List.cons.inj hs'
        exact ⟨[], c :: last, first', back', hcut, hb', hcut'⟩
      | cons top front =>
        obtain ⟨rfl, rfl⟩ := List.cons.inj hs
        obtain ⟨rfl, rfl⟩ := List.cons.inj hs'
        exact ⟨(c :: top) :: front, last, first', back', hcut, hb', hcut'⟩

theorem Drawn.append_both (front : List Text) (h : Drawn inner outer) :
    Drawn (front ++ inner) (front ++ outer) := by
  induction front with
  | nil => exact h
  | cons top front ih => exact .cons List.infix_rfl ih

theorem Drawn.append_outer (front : List Text) (h : Drawn inner outer) :
    Drawn inner (front ++ outer) := by
  induction front with
  | nil => exact h
  | cons top front ih => exact .cons_right ih

/-- **The lines of a stretch are drawn** from the lines of the text. -/
theorem drawn_of_infix (sep : Char) (h : u <:+: t) : Drawn (split sep u) (split sep t) := by
  obtain ⟨a, b, rfl⟩ := h
  have hfront : Drawn (split sep u) (split sep (u ++ b)) := by
    obtain ⟨front, last, first, back, hu, -, hboth⟩ := exists_split_append sep u b
    rw [hu, hboth]
    exact Drawn.append_both front (.cons (List.prefix_append last first).isInfix .nil)
  refine hfront.trans ?_
  obtain ⟨front, last, first, back, -, hback, hboth⟩ := exists_split_append sep a (u ++ b)
  rw [List.append_assoc, hback, hboth]
  exact Drawn.append_outer front
    (.cons (List.suffix_append last first).isInfix (drawn_refl back))

/-! ## Sections of documentation -/

/-- What the line has for a section is a stretch of the source line. -/
def Says (line : DocLine) (source : Text) : Prop :=
  ∀ text, line.text? = some text → text <:+: source

theorem gives_eq_or (s : Section) (current : Option Section) (line : DocLine) :
    line.gives s current = [] ∨ ∃ text, line.text? = some text ∧ line.gives s current = [text] := by
  cases line with
  | title name => exact Or.inl rfl
  | skip => exact Or.inl rfl
  | header opened inline =>
    by_cases hs : opened = s
    · cases inline with
      | none => exact Or.inl (if_pos hs)
      | some text => exact Or.inr ⟨text, rfl, if_pos hs⟩
    · exact Or.inl (if_neg hs)
  | content text =>
    by_cases hs : current = some s
    · exact Or.inr ⟨text, rfl, if_pos hs⟩
    · exact Or.inl (if_neg hs)

theorem drawn_contentOf (h : List.SublistForall₂ Says lines sources) :
    Drawn (contentOf s current lines) sources := by
  induction h generalizing current with
  | nil => exact .nil
  | @cons line source lines sources hsaid hrest ih =>
    rw [contentOf]
    rcases gives_eq_or s current line with hnone | ⟨text, htext, hgives⟩
    · rw [hnone, List.nil_append]
      exact .cons_right ih
    · rw [hgives, List.singleton_append]
      exact .cons (hsaid text htext) ih
  | cons_right hrest ih => exact .cons_right ih

/-- The lines of a section are drawn from the source. -/
theorem drawn_sectionOf (h : List.SublistForall₂ Says lines sources)
    (hclean : ∀ source ∈ sources, '\n' ∉ source) (ht : sectionOf s start lines = some t) :
    Drawn (split '\n' t) sources := by
  obtain ⟨hthere, rfl⟩ := sectionOf_eq_some_iff.mp ht
  rw [← contentOf_eq] at hthere ⊢
  have hdrawn : Drawn (contentOf s start lines) sources := drawn_contentOf h
  by_cases hnil : contentOf s start lines = []
  · -- an empty section has a header, and the header has a line
    rw [hnil] at hthere ⊢
    obtain ⟨inline, hmem⟩ := hthere.resolve_right fun hblank => absurd hblank.2 (by decide)
    cases sources with
    | nil =>
      cases h with
      | nil => exact absurd hmem List.not_mem_nil
    | cons source sources => exact .cons List.nil_infix .nil
  · have hpieces : split '\n' (joinLines (contentOf s start lines)) = contentOf s start lines := by
      refine split_join hnil fun text htext hnewline => ?_
      obtain ⟨source, hsource, hin⟩ := hdrawn.exists_mem htext
      exact hclean source hsource (hin.subset hnewline)
    have htrim := drawn_of_infix '\n' (trim_isInfix (joinLines (contentOf s start lines)))
    rw [hpieces] at htrim
    exact htrim.trans hdrawn

theorem isInfix_of_stripPrefix? {p body : Text} (h : stripPrefix? t p = some body) : body <:+: t :=
  List.IsSuffix.isInfix ⟨p, List.isPrefixOf?_eq_some_iff_append_eq.mp h⟩

theorem Brace.says_classifyBody (body : Text) : Says (classifyBody body) body := by
  intro text htext
  unfold classifyBody at htext
  split at htext
  · rename_i tagged
    have hinline : ∀ text, (if (splitTag tagged).2.isEmpty then none
        else some (splitTag tagged).2) = some text → text <:+: '@' :: tagged := by
      intro text htext
      split at htext
      · exact absurd htext (by simp)
      · obtain rfl := Option.some.inj htext
        exact ((trim_isInfix _).trans ((List.drop_suffix 1 _).trans
          (List.dropWhile_suffix _)).isInfix).trans (List.suffix_cons '@' tagged).isInfix
    dsimp only at htext
    split at htext
    · exact Option.some.inj htext ▸ List.infix_rfl
    · split at htext
      · exact hinline text htext
      · split at htext
        · exact hinline text htext
        · split at htext
          · exact hinline text htext
          · split at htext
            · exact absurd htext (by simp [DocLine.text?])
            · exact Option.some.inj htext ▸ List.infix_rfl
  · exact Option.some.inj htext ▸ List.infix_rfl

theorem Query.says_classifyBody (body : Text) : Says (classifyBody body) body := by
  intro text htext
  unfold classifyBody at htext
  split at htext
  · split at htext
    · exact absurd htext (by simp [DocLine.text?])
    · exact Option.some.inj htext ▸ List.infix_rfl
  · exact absurd htext (by simp [DocLine.text?])
  · exact Option.some.inj htext ▸ List.infix_rfl

/-- A line behind a marker says what stands there; a line without one says what it is. -/
theorem says_marked {classifyBody : Text → DocLine} (hbody : ∀ body, Says (classifyBody body) body)
    (marker : Text) (source : Text) :
    Says (match stripPrefix? (trim source) marker with
      | some body => classifyBody (trim body)
      | none => .content (trim source)) source := by
  intro text htext
  split at htext
  · rename_i body hstrip
    exact (hbody (trim body) text htext).trans ((trim_isInfix body).trans
      ((isInfix_of_stripPrefix? hstrip).trans (trim_isInfix source)))
  · exact Option.some.inj htext ▸ trim_isInfix source

theorem sublistForall₂_map (classify : Text → DocLine) (h : ∀ source, Says (classify source) source)
    (sources : List Text) : List.SublistForall₂ Says (sources.map classify) sources := by
  induction sources with
  | nil => exact .nil
  | cons source sources ih => exact .cons (h source) ih

/-- A header of a docstring says nothing, and neither do the dashes that it takes along. -/
theorem Docstring.sublistForall₂_classifyLines (sources : List Text) :
    List.SublistForall₂ Says (classifyLines sources) sources := by
  have hheader : ∀ opened source, Says (.header opened none) source :=
    fun _ _ text htext => absurd htext (by simp [DocLine.text?])
  have hcontent : ∀ source, Says (.content source) source :=
    fun source text htext => Option.some.inj htext ▸ List.infix_rfl
  fun_induction classifyLines sources with
  | case1 => exact .nil
  | case2 source =>
    refine .cons ?_ .nil
    rw [classifyLine]
    split
    · exact hheader _ source
    · exact hcontent source
  | case3 source dashes rest opened hopened ihrest ihnext =>
    refine .cons (hheader opened source) ?_
    split
    · exact .cons_right ihrest
    · exact ihnext
  | case4 source next rest hnone ih => exact .cons (hcontent source) ih

theorem newline_notMem_of_mem_terminatedLines (h : source ∈ terminatedLines t) : '\n' ∉ source := by
  intro hnewline
  obtain ⟨piece, hpiece, hstart⟩ := prefix_of_mem_closeLines h
  exact notMem_of_mem_split hpiece (hstart.subset hnewline)

/-- Documentation of every kind is taken apart by a scan over what its lines say. -/
theorem exists_scan (kind : SourceKind) (name documentation : Text) : ∃ start lines,
    List.SublistForall₂ Says lines (terminatedLines documentation) ∧
      ∀ s, (kind.decompose name documentation).get? s = sectionOf s start lines := by
  cases kind with
  | structured =>
    refine ⟨some .description, _, Docstring.sublistForall₂_classifyLines _, fun s => ?_⟩
    rw [← SectionScan.get?_run]
    cases s <;> rfl
  | singleUnit =>
    refine ⟨none, _, sublistForall₂_map Query.classify
      (says_marked Query.says_classifyBody Query.marker) _, fun s => ?_⟩
    rw [← SectionScan.get?_run]
    cases s <;> rfl
  | patternBrace =>
    refine ⟨some .description, _, sublistForall₂_map Brace.classify
      (says_marked Brace.says_classifyBody Brace.marker) _, fun s => ?_⟩
    rw [← SectionScan.get?_run]
    cases s <;> rfl

/-- **Nothing is lost, said twice or made up.**  A scan that starts with nothing open or with one
section open gives the texts of the lines to the sections opened last, each text to one section and
in order, and leaves out only what comes before any section.  A section is there when it has a
header, or was open from the start and is not blank; the title is the first name that is not blank.
So each line of a section of documentation is a stretch of another line of the documentation, in the
same order. -/
theorem sections_account (start : Option Section) (lines : List DocLine) (kind : SourceKind)
    (name documentation : Text) :
    let sections := (start.elim SectionScan.closed SectionScan.openedAt).run lines
    (∀ s t, sections.get? s = some t ↔
        ((∃ inline, DocLine.header s inline ∈ lines) ∨
            start = some s ∧ allBlank (joinLines (sharesOf s start lines)) = false) ∧
          t = trim (joinLines (sharesOf s start lines))) ∧
      (Section.all.flatMap fun s => sharesOf s start lines).Perm
        ((addressed start lines).map Prod.snd) ∧
      (addressed start lines).map Prod.snd =
        (if start.isSome then lines else lines.dropWhile (·.opened?.isNone)).filterMap
          DocLine.text? ∧
      sections.title = ((lines.filterMap DocLine.name?).find? (!allBlank ·)).map trim ∧
      ∀ s t, (kind.decompose name documentation).get? s = some t →
        Drawn (split '\n' t) (terminatedLines documentation) := by
  intro sections
  have hsections : sections = (SectionScan.fresh start).run lines := by
    rw [SectionScan.fresh_eq]
  refine ⟨fun s t => ?_, perm_addressed start lines, map_snd_addressed start lines, ?_,
    fun s t ht => ?_⟩
  · rw [hsections, SectionScan.get?_run, sectionOf_eq_some_iff]
  · rw [hsections, SectionScan.run_eq, findSome?_title?]
  · obtain ⟨start, lines, hsaid, hget⟩ := exists_scan kind name documentation
    rw [hget] at ht
    exact drawn_sectionOf hsaid (fun _ => newline_notMem_of_mem_terminatedLines) ht

end DocSplice
