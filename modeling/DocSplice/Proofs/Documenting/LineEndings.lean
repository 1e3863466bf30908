import DocSplice.Documenting
import DocSplice.Proofs.Lines
import Mathlib.Data.List.Infix

/-!
# Line endings and validation

Documentation is validated when the generator has written it, and again when it is read from a file.
In between its lines may have got carriage returns, since new lines end like the lines around them.
This file says that validation does not mind.

* `infix_joinLines_iff`: a text without a newline occurs in joined lines when it occurs in one of
  them, so what validation looks for is still there.
* `map_terminatedLines_returned`: read as documentation, a block with carriage returns has the same
  lines as the one without, up to the end of the last one, which nobody looks at.
* `issues_returned`: a block without issues has none with carriage returns either.

Nothing is said here of docstrings, which are written in another way.
-/

namespace DocSplice

variable {needle line : Text} {lines : List Text} {c : Char}

namespace Text

/-! ## Texts inside a join -/

theorem contains_iff {t : Text} : contains needle t = true ↔ needle <:+: t := by
  induction t with
  | nil => simp [contains]
  | cons d t ih =>
    rw [contains_cons, Bool.or_eq_true, ih, List.isPrefixOf_iff_prefix, List.infix_cons_iff]

/-- A beginning without the separator ends before the separator. -/
theorem prefix_of_prefix_append_cons {a b : Text} (hc : c ∉ needle) (h : needle <+: a ++ c :: b) :
    needle <+: a := by
  induction a generalizing needle with
  | nil =>
    cases needle with
    | nil => exact List.nil_prefix
    | cons d needle =>
      rw [List.nil_append, List.cons_prefix_cons] at h
      exact absurd (h.1 ▸ List.mem_cons_self) hc
  | cons e a ih =>
    cases needle with
    | nil => exact List.nil_prefix
    | cons d needle =>
      rw [List.cons_append, List.cons_prefix_cons] at h
      rw [List.cons_prefix_cons]
      exact ⟨h.1, ih (fun hd => hc (List.mem_cons_of_mem d hd)) h.2⟩

/-- A text without the separator occurs before the separator or behind it. -/
theorem infix_append_cons_iff {a b : Text} (hc : c ∉ needle) :
    needle <:+: a ++ c :: b ↔ needle <:+: a ∨ needle <:+: b := by
  constructor
  · intro h
    induction a with
    | nil =>
      rw [List.nil_append, List.infix_cons_iff] at h
      rcases h with h | h
      · exact Or.inl (prefix_of_prefix_append_cons (a := []) hc h).isInfix
      · exact Or.inr h
    | cons d a ih =>
      rw [List.cons_append, List.infix_cons_iff] at h
      rcases h with h | h
      · exact Or.inl (prefix_of_prefix_append_cons (a := d :: a) hc h).isInfix
      · exact (ih h).imp_left fun h => List.infix_cons_iff.mpr (Or.inr h)
  · rintro (h | h)
    · exact h.trans (List.prefix_append a (c :: b)).isInfix
    · exact h.trans ((List.suffix_cons c b).trans (List.suffix_append a (c :: b))).isInfix

/-- A text without a newline occurs in joined lines when it occurs in one of them. -/
theorem infix_joinLines_iff (hc : '\n' ∉ needle) (hne : needle ≠ []) :
    needle <:+: joinLines lines ↔ ∃ line ∈ lines, needle <:+: line := by
  induction lines with
  | nil => simp [joinLines, hne]
  | cons a rest ih =>
    by_cases hrest : rest = []
    · simp [hrest, joinLines]
    · rw [joinLines, join_cons_of_ne_nil '\n' a hrest, infix_append_cons_iff hc]
      have ih : needle <:+: join '\n' rest ↔ ∃ line ∈ rest, needle <:+: line := ih
      rw [ih]
      simp

theorem map_join {f : Char → Char} {sep : Char} (h : f sep = sep) (pieces : List Text) :
    (join sep pieces).map f = join sep (pieces.map (List.map f)) := by
  induction pieces with
  | nil => rfl
  | cons a rest ih =>
    by_cases hrest : rest = []
    · simp [hrest]
    · have hrest' : rest.map (List.map f) ≠ [] := by simpa using hrest
      rw [join_cons_of_ne_nil sep a hrest, List.map_cons, join_cons_of_ne_nil sep _ hrest',
        List.map_append, List.map_cons, h, ih]

/-! ## Lines that end with a carriage return -/

/-- The lines with a carriage return at the end of each. -/
def returned (lines : List Text) : List Text := lines.map (· ++ ['\r'])

theorem dropFinalReturn_append (line : Text) : dropFinalReturn (line ++ ['\r']) = line := by
  induction line with
  | nil => rfl
  | cons c line ih =>
    cases line with
    | nil => simp [dropFinalReturn]
    | cons d line => simpa [dropFinalReturn] using ih

/-- **Carriage returns go unnoticed** by whoever does not look at the end of a line: all but the
last are taken off, and the last one is at the end of its line. -/
theorem map_terminatedLines_returned {α : Type} {view : Text → α}
    (hview : ∀ line, view (line ++ ['\r']) = view line) (h : ∀ line ∈ lines, Plain line) :
    (terminatedLines (joinLines (returned lines))).map view =
      (terminatedLines (joinLines lines)).map view := by
  by_cases hne : lines = []
  · simp [hne, returned]
  have hclean : ∀ line ∈ returned lines, '\n' ∉ line := by
    intro line hline
    obtain ⟨given, hgiven, rfl⟩ := List.mem_map.mp hline
    simpa using (h given hgiven).newline_notMem
  rw [terminatedLines_joinLines hclean (by simpa [returned] using hne),
    terminatedLines_joinLines (fun line hline => (h line hline).newline_notMem) hne]
  clear hclean hne
  induction lines with
  | nil => rfl
  | cons a rest ih =>
    have ha : Plain a := h a List.mem_cons_self
    have ih := ih fun line hline => h line (List.mem_cons_of_mem a hline)
    cases rest with
    | nil => simp [returned, closeLines, ha.nonempty, hview]
    | cons b rest =>
      rw [returned, List.map_cons] at ih
      simp only [returned, List.map_cons, closeLines, dropFinalReturn_append,
        dropFinalReturn_of_not_hasReturn ha.hasReturn_eq]
      rw [ih]

theorem contains_returned (hc : '\n' ∉ needle) (hne : needle ≠ [])
    (h : contains needle (joinLines lines) = true) :
    contains needle (joinLines (returned lines)) = true := by
  rw [contains_iff, infix_joinLines_iff hc hne] at h ⊢
  obtain ⟨line, hline, hoccurs⟩ := h
  exact ⟨_, List.mem_map_of_mem hline, hoccurs.trans (List.prefix_append line ['\r']).isInfix⟩

theorem lowerAscii_joinLines (lines : List Text) :
    lowerAscii (joinLines lines) = joinLines (lines.map lowerAscii) :=
  map_join (by decide) lines

theorem lowerAscii_returned (lines : List Text) :
    (returned lines).map lowerAscii = returned (lines.map lowerAscii) := by
  have hreturn : DocSplice.lowerAscii '\r' = '\r' := by decide
  simp [returned, lowerAscii, hreturn]

/-- A carriage return at the end is trimmed. -/
theorem trim_append_return (line : Text) : trim (line ++ ['\r']) = trim line := by
  have hblank : isBlank '\r' = true := by decide
  by_cases h : ∀ c ∈ line, isBlank c = true
  · have hnil : trimStart line = [] := List.dropWhile_eq_nil_iff.mpr h
    rw [trim, trim, hnil, trimStart, List.dropWhile_append_of_pos h, List.dropWhile_cons, hblank]
    rfl
  · have hstart : trimStart (line ++ ['\r']) = trimStart line ++ ['\r'] := by
      rw [trimStart, trimStart, List.dropWhile_append, if_neg]
      simpa using h
    rw [trim, trim, hstart, trimEnd_append_of_allBlank _ (by decide)]

theorem allBlank_append_return (line : Text) : allBlank (line ++ ['\r']) = allBlank line := by
  have hblank : isBlank '\r' = true := by decide
  simp [allBlank, hblank]

end Text

open Text

/-! ## Documentation read with carriage returns -/

theorem Brace.classify_append_return (line : Text) :
    Brace.classify (line ++ ['\r']) = Brace.classify line := by
  rw [Brace.classify, Brace.classify, trim_append_return]

theorem Query.classify_append_return (line : Text) :
    Query.classify (line ++ ['\r']) = Query.classify line := by
  rw [Query.classify, Query.classify, trim_append_return]

/-- Carriage returns change the raw text of marked lines and nothing that is read from it. -/
theorem Brace.decompose_returned (name : Text) (h : ∀ line ∈ lines, Plain line) :
    Brace.decompose name (joinLines (returned lines)) =
      { Brace.decompose name (joinLines lines) with raw := joinLines (returned lines) } := by
  simp only [Brace.decompose, map_terminatedLines_returned Brace.classify_append_return h]

/-- Carriage returns change the raw text of comments and nothing that is read from it. -/
theorem Query.decompose_returned (h : ∀ line ∈ lines, Plain line) :
    Query.decompose (joinLines (returned lines)) =
      { Query.decompose (joinLines lines) with raw := joinLines (returned lines) } := by
  simp only [Query.decompose, map_terminatedLines_returned Query.classify_append_return h]

namespace Validation

theorem flagIf_eq_nil_iff {condition : Bool} {issue : Issue} :
    flagIf condition issue = [] ↔ condition = false := by
  cases condition with
  | true => simp
  | false => simp

theorem isUnmarked_append_return (line : Text) :
    isUnmarked (line ++ ['\r']) = isUnmarked line := by
  rw [isUnmarked, isUnmarked, trim_append_return, allBlank_append_return]

/-- No line without a marker is to be reported when there is none. -/
theorem markerIssues_eq_nil_iff {lines : List Text} :
    markerIssues lines = [] ↔ lines.any isUnmarked = false := by
  unfold markerIssues
  cases hfind : lines.findIdx? isUnmarked with
  | none => simpa using List.findIdx?_eq_none_iff.mp hfind
  | some row =>
    obtain ⟨hlt, hrow, -⟩ := List.findIdx?_eq_some_iff_getElem.mp hfind
    have hany : lines.any isUnmarked = true :=
      List.any_eq_true.mpr ⟨lines[row], List.getElem_mem hlt, hrow⟩
    simp [hany]

/-- Marked lines without issues have none with carriage returns. -/
theorem markedLineIssues_returned {doc : Documentation} (h : ∀ line ∈ lines, Plain line)
    (hraw : doc.raw = joinLines lines) (hissues : markedLineIssues doc = []) :
    markedLineIssues { doc with raw := joinLines (returned lines) } = [] := by
  have hany : (terminatedLines (joinLines (returned lines))).any isUnmarked =
      (terminatedLines (joinLines lines)).any isUnmarked := by
    have hmap := map_terminatedLines_returned isUnmarked_append_return h
    have hid := congrArg (List.any · id) hmap
    simpa [List.any_map] using hid
  have hclean : ∀ tag ∈ requiredTags, '\n' ∉ tag ∧ tag ≠ [] := by decide
  simp only [markedLineIssues, List.append_eq_nil_iff, flagIf_eq_nil_iff, markerIssues_eq_nil_iff,
    hraw] at hissues ⊢
  obtain ⟨⟨⟨⟨⟨hshape, hname⟩, hdescription⟩, hparameters⟩, hreturns⟩, hmarkers⟩ := hissues
  refine ⟨⟨⟨⟨⟨?_, hname⟩, hdescription⟩, hparameters⟩, hreturns⟩, hany.trans hmarkers⟩
  simp only [Bool.not_eq_false', Bool.and_eq_true, List.all_eq_true, hany] at hshape ⊢
  refine ⟨fun tag htag => ?_, hshape.2⟩
  exact contains_returned (hclean tag htag).1 (hclean tag htag).2 (hshape.1 tag htag)

/-- A comment block without issues has none with carriage returns. -/
theorem commentIssues_returned {doc : Documentation} (hraw : doc.raw = joinLines lines)
    (hissues : commentIssues doc = []) :
    commentIssues { doc with raw := joinLines (returned lines) } = [] := by
  have hclean : ∀ header ∈ commentHeaders, '\n' ∉ header ∧ header ≠ [] := by decide
  simp only [commentIssues, List.append_eq_nil_iff, flagIf_eq_nil_iff, hraw] at hissues ⊢
  obtain ⟨⟨⟨⟨⟨hshape, hname⟩, hdescription⟩, hparameters⟩, hreturns⟩, hexamples⟩ := hissues
  refine ⟨⟨⟨⟨⟨?_, hname⟩, hdescription⟩, hparameters⟩, hreturns⟩, hexamples⟩
  simp only [Bool.not_eq_false', List.all_eq_true] at hshape ⊢
  intro header hheader
  have hoccurs := hshape header hheader
  rw [lowerAscii_joinLines] at hoccurs ⊢
  rw [lowerAscii_returned]
  exact contains_returned (hclean header hheader).1 (hclean header hheader).2 hoccurs

end Validation

/-! ## Issues -/

/-- The issues of an item are a matter of its name and of its documentation. -/
theorem issues_congr {kind : SourceKind} {i j : Item} (hname : i.name = j.name)
    (hdocumentation : i.documentation = j.documentation) : kind.issues i = kind.issues j := by
  simp only [SourceKind.issues, SourceKind.documentation?, hname, hdocumentation]

/-- **Validation does not mind carriage returns.**  An item whose documentation is rendered lines
and has no issues has none when every line gets a carriage return. -/
theorem issues_returned {kind : SourceKind} (hkind : kind ≠ .structured) {i : Item}
    (h : ∀ line ∈ lines, Plain line)
    (hissues : kind.issues { i with documentation := some (joinLines lines) } = []) :
    kind.issues { i with documentation := some (joinLines (returned lines)) } = [] := by
  cases kind with
  | structured => exact absurd rfl hkind
  | singleUnit =>
    have hread : Query.decompose (joinLines (returned lines)) =
        { Query.decompose (joinLines lines) with raw := joinLines (returned lines) } :=
      Query.decompose_returned h
    show (Query.decompose (joinLines (returned lines))).issues = []
    rw [hread]
    exact Validation.commentIssues_returned rfl hissues
  | patternBrace =>
    have hread : Brace.decompose i.name (joinLines (returned lines)) =
        { Brace.decompose i.name (joinLines lines) with raw := joinLines (returned lines) } :=
      Brace.decompose_returned i.name h
    show (Brace.decompose i.name (joinLines (returned lines))).issues = []
    rw [hread]
    exact Validation.markedLineIssues_returned h rfl hissues

end DocSplice
