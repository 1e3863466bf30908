import DocSplice.Grammar.Parser
import DocSplice.Proofs.Issues

/-!
# Underlines of docstring headers

A header of a docstring takes the line of dashes below it along, and it counts without one as well:
what is read is the same (`decompose_underlined`).  So a missing underline has to be found in the
raw block.  But there only ten dashes in a row are looked for, and seven, wherever they stand; seven
stand in every ten.

* `classifyLines_append` cuts the lines above a line that is no underline, and
  `classifyLines_header` reads a header with its underline or without.
* `classifyLines_terminatedLines` reads a text that was cut above the line of a header.
* `issues_underlined_iff`: a docstring with a bare header is in order when ten dashes stand
  somewhere in it and it is in order with the underline.  In `returns_not_underlined` the dashes
  stand below the other header.
-/

namespace DocSplice.Docstring

open Text Validation

variable {above below : List Text} {header line d d' : Text}

/-! ## Reading a header -/

/-- A header is no line of dashes. -/
theorem isUnderline_of_header {opened : Section} (h : sectionHeader? line = some opened) :
    isUnderline line = false := by
  unfold sectionHeader? at h
  dsimp only at h
  rw [isUnderline]
  split at h
  · rename_i heq
    rw [heq]
    decide
  · split at h
    · rename_i heq
      rw [heq]
      decide
    · split at h
      · rename_i hmem
        simp only [List.contains_eq_mem, List.mem_cons, List.not_mem_nil, or_false,
          decide_eq_true_eq] at hmem
        rcases hmem with heq | heq
        · rw [heq]
          decide
        · rw [heq]
          decide
      · exact absurd h (by simp)

theorem classifyLines_content (h : sectionHeader? line = none) (next : List Text) :
    classifyLines (line :: next) = .content line :: classifyLines next := by
  cases next with
  | nil => simp [classifyLines, classifyLine, h]
  | cons first rest => rw [classifyLines, h]

/-- What is left below a header when it takes the dashes along. -/
def belowHeader (lines : List Text) : List Text :=
  if lines.head?.any isUnderline then lines.tail else lines

theorem belowHeader_cons (h : isUnderline line = true) (rest : List Text) :
    belowHeader (line :: rest) = rest := if_pos h

theorem belowHeader_cons_of_not (h : ¬isUnderline line = true) (rest : List Text) :
    belowHeader (line :: rest) = line :: rest := if_neg h

/-- **A header** is read with the dashes below it, or without. -/
theorem classifyLines_header {opened : Section} (h : sectionHeader? line = some opened)
    (next : List Text) :
    classifyLines (line :: next) = .header opened none :: classifyLines (belowHeader next) := by
  cases next with
  | nil => simp [classifyLines, classifyLine, h, belowHeader]
  | cons first rest =>
    rw [classifyLines, h]
    by_cases hfirst : isUnderline first = true
    · rw [belowHeader_cons hfirst]
      simp only [hfirst, if_true]
    · rw [belowHeader_cons_of_not hfirst]
      simp only [hfirst]
      rfl

/-- Lines are read apart from those above, unless they begin with dashes. -/
theorem classifyLines_append (h : isUnderline line = false) (rest : List Text) :
    ∀ above : List Text,
      classifyLines (above ++ line :: rest) = classifyLines above ++ classifyLines (line :: rest)
  | [] => rfl
  | [last] => by
    rw [List.singleton_append]
    cases hlast : sectionHeader? last with
    | none =>
      rw [classifyLines_content hlast, classifyLines_content hlast]
      rfl
    | some opened =>
      rw [classifyLines_header hlast, classifyLines_header hlast,
        belowHeader_cons_of_not (Bool.eq_false_iff.mp h)]
      rfl
  | first :: next :: more => by
    rw [List.cons_append]
    cases hfirst : sectionHeader? first with
    | none =>
      rw [classifyLines_content hfirst, classifyLines_content hfirst,
        classifyLines_append h rest (next :: more), List.cons_append]
    | some opened =>
      rw [classifyLines_header hfirst, classifyLines_header hfirst]
      by_cases hnext : isUnderline next = true
      · rw [List.cons_append, belowHeader_cons hnext, belowHeader_cons hnext,
          classifyLines_append h rest more, List.cons_append]
      · rw [List.cons_append, belowHeader_cons_of_not hnext, belowHeader_cons_of_not hnext,
          ← List.cons_append, classifyLines_append h rest (next :: more), List.cons_append]

/-! ## The lines of a docstring -/

/-- The pieces above another one end with newlines. -/
theorem closeLines_append (above : List Text) (piece : Text) (below : List Text) :
    closeLines (above ++ piece :: below) =
      above.map dropFinalReturn ++ closeLines (piece :: below) := by
  induction above with
  | nil => rfl
  | cons first rest ih =>
    cases rest with
    | nil => rfl
    | cons second rest =>
      rw [List.cons_append] at ih
      rw [List.cons_append, List.cons_append, closeLines_cons_cons, ih]
      rfl

/-- A piece that is not empty is a line, perhaps without a carriage return at its end. -/
theorem exists_closeLines_cons {piece : Text} (h : piece ≠ []) (below : List Text) :
    ∃ closed, trim closed = trim piece ∧
      closeLines (piece :: below) = closed :: closeLines below := by
  cases below with
  | nil => exact ⟨piece, rfl, by simp [closeLines, h]⟩
  | cons next rest =>
    exact ⟨dropFinalReturn piece, view_dropFinalReturn trim_append_return piece, rfl⟩

theorem isUnderline_congr (h : trim line = trim header) :
    isUnderline line = isUnderline header := by
  rw [isUnderline, isUnderline, h]

theorem sectionHeader?_congr (h : trim line = trim header) :
    sectionHeader? line = sectionHeader? header := by
  rw [sectionHeader?, sectionHeader?, h]

theorem belowHeader_closeLines (pieces : List Text) :
    belowHeader (closeLines pieces) = closeLines (belowHeader pieces) := by
  cases pieces with
  | nil => rfl
  | cons piece rest =>
    by_cases hempty : piece = []
    · subst hempty
      cases rest with
      | nil => rfl
      | cons next rest => rfl
    · obtain ⟨closed, htrim, hclosed⟩ := exists_closeLines_cons hempty rest
      by_cases hdashes : isUnderline piece = true
      · rw [hclosed, belowHeader_cons ((isUnderline_congr htrim).trans hdashes),
          belowHeader_cons hdashes]
      · have hclosed' : ¬isUnderline closed = true := by
          rw [isUnderline_congr htrim]
          exact hdashes
        rw [belowHeader_cons_of_not hdashes, hclosed, belowHeader_cons_of_not hclosed']

/-- **A docstring that is cut at a header** is read above it, and below its dashes. -/
theorem classifyLines_terminatedLines {opened : Section}
    (hheader : sectionHeader? header = some opened)
    (hlines : split '\n' d = above ++ header :: below) :
    classifyLines (terminatedLines d) = classifyLines (above.map dropFinalReturn) ++
      .header opened none :: classifyLines (closeLines (belowHeader below)) := by
  have hne : header ≠ [] := by
    rintro rfl
    exact absurd hheader (by decide +revert)
  obtain ⟨closed, htrim, hclosed⟩ := exists_closeLines_cons hne below
  have hsame : sectionHeader? closed = some opened := (sectionHeader?_congr htrim).trans hheader
  rw [terminatedLines, hlines, closeLines_append, hclosed,
    classifyLines_append (isUnderline_of_header hsame), classifyLines_header hsame,
    belowHeader_closeLines]

/-! ## The checks -/

/-- The raw block shows what stands in the docstring, if the quotes do not show it. -/
theorem infix_raw_iff (name : Text) {word : Text} (hclean : '\n' ∉ word)
    (hquotes : ¬word <:+: doubleFence) : word <:+: (decompose name d).raw ↔ word <:+: d := by
  have hraw : (decompose name d).raw = doubleFence ++ '\n' :: (d ++ '\n' :: doubleFence) := rfl
  rw [hraw, infix_append_cons_iff hclean, infix_append_cons_iff hclean]
  constructor
  · rintro (h | h | h)
    · exact absurd h hquotes
    · exact h
    · exact absurd h hquotes
  · exact fun h => Or.inr (Or.inl h)

/-- **The shape of a docstring**: both headers and ten dashes in a row stand somewhere in it.  The
seven dashes for the second header are among the ten. -/
theorem docstringShape_iff (name d : Text) :
    DocstringShape (decompose name d).raw ↔
      parametersWord <:+: d ∧ returnsWord <:+: d ∧ parametersRule <:+: d := by
  have hseven : returnsRule <:+: parametersRule := by decide
  constructor
  · intro h
    exact ⟨(infix_raw_iff name (by decide) (by decide)).mp h.parametersWord_infix,
      (infix_raw_iff name (by decide) (by decide)).mp h.returnsWord_infix,
      (infix_raw_iff name (by decide) (by decide)).mp h.parametersRule_infix⟩
  · rintro ⟨hparameters, hreturns, hten⟩
    have hrule := (infix_raw_iff name (by decide) (by decide)).mpr hten
    exact
      { quoted := rfl
        parametersWord_infix := (infix_raw_iff name (by decide) (by decide)).mpr hparameters
        parametersRule_infix := hrule
        returnsWord_infix := (infix_raw_iff name (by decide) (by decide)).mpr hreturns
        returnsRule_infix := hseven.trans hrule }

/-- The issues of a docstring, when its sections are in order. -/
theorem issues_decompose_eq_nil_iff (name d : Text) :
    (decompose name d).issues = [] ↔
      (parametersWord <:+: d ∧ returnsWord <:+: d ∧ parametersRule <:+: d) ∧
        isBlankSection (some name) = false ∧
        leastDescriptionLength ≤ (trim ((decompose name d).description.getD [])).length ∧
        (∃ text, (decompose name d).parameters = some text ∧ (':' ∈ text ∨ noneWord <:+: text)) ∧
        isBlankSection (decompose name d).returns = false := by
  rw [← docstringShape_iff name d]
  exact docstringIssues_eq_nil_iff (decompose name d)

/-! ## A bare header -/

/-- The docstring with ten dashes below a header. -/
def underlined (above : List Text) (header : Text) (below : List Text) : Text :=
  joinLines (above ++ header :: parametersRule :: below)

/-- With dashes below a header that had none, the same sections are read. -/
theorem decompose_underlined (name : Text) {opened : Section}
    (hheader : sectionHeader? header = some opened)
    (hlines : split '\n' d = above ++ header :: below)
    (hbare : below.head?.any isUnderline = false) :
    decompose name (underlined above header below) =
      { decompose name d with raw := (decompose name (underlined above header below)).raw } := by
  have hold : ∀ piece ∈ above ++ header :: below, '\n' ∉ piece := by
    intro piece hpiece
    rw [← hlines] at hpiece
    exact notMem_of_mem_split hpiece
  have hclean : ∀ piece ∈ above ++ header :: parametersRule :: below, '\n' ∉ piece := by
    intro piece hpiece
    simp only [List.mem_append, List.mem_cons] at hpiece hold
    rcases hpiece with habove | rfl | rfl | hbelow
    · exact hold piece (Or.inl habove)
    · exact hold piece (Or.inr (Or.inl rfl))
    · decide
    · exact hold piece (Or.inr (Or.inr hbelow))
  have hunderlined : split '\n' (underlined above header below) =
      above ++ header :: parametersRule :: below := split_join (by simp) hclean
  have hdashes : isUnderline parametersRule = true := by decide
  have hread : classifyLines (terminatedLines (underlined above header below)) =
      classifyLines (terminatedLines d) := by
    rw [classifyLines_terminatedLines hheader hlines,
      classifyLines_terminatedLines hheader hunderlined, belowHeader_cons hdashes, belowHeader,
      if_neg (Bool.eq_false_iff.mp hbare)]
  rw [decompose, hread]
  rfl

/-- Apart from the dashes, the underlined docstring shows what the docstring shows. -/
theorem infix_underlined_iff {word : Text} (hclean : '\n' ∉ word) (hne : word ≠ [])
    (hlines : split '\n' d = above ++ header :: below) :
    word <:+: underlined above header below ↔ word <:+: d ∨ word <:+: parametersRule := by
  have hd : word <:+: d ↔ ∃ line ∈ above ++ header :: below, word <:+: line := by
    rw [← hlines, ← infix_joinLines_iff hclean hne, joinLines, join_split]
  rw [hd, underlined, infix_joinLines_iff hclean hne]
  simp only [List.mem_append, List.mem_cons]
  constructor
  · rintro ⟨line, habove | rfl | rfl | hbelow, hword⟩
    · exact Or.inl ⟨line, Or.inl habove, hword⟩
    · exact Or.inl ⟨line, Or.inr (Or.inl rfl), hword⟩
    · exact Or.inr hword
    · exact Or.inl ⟨line, Or.inr (Or.inr hbelow), hword⟩
  · rintro (⟨line, habove | rfl | hbelow, hword⟩ | hword)
    · exact ⟨line, Or.inl habove, hword⟩
    · exact ⟨line, Or.inr (Or.inl rfl), hword⟩
    · exact ⟨line, Or.inr (Or.inr (Or.inr hbelow)), hword⟩
    · exact ⟨parametersRule, Or.inr (Or.inr (Or.inl rfl)), hword⟩

/-- **A missing underline.**  A docstring in which a header of the parameters or of the returns has
no dashes below it is in order exactly when ten dashes in a row stand in one of its lines, and it is
in order with dashes below the header. -/
theorem issues_underlined_iff (i : Item) (hdocumentation : i.documentation = some d)
    (hlines : split '\n' d = above ++ header :: below)
    (hheader : trim header = parametersWord ∨ trim header = returnsWord)
    (hbare : below.head?.any isUnderline = false) :
    validate (SourceKind.documentation? .structured i) = [] ↔
      (∃ line ∈ above ++ header :: below, parametersRule <:+: line) ∧
        validate (SourceKind.documentation? .structured { i with
          documentation := some (joinLines (above ++ header :: parametersRule :: below)) }) = [] := by
  obtain ⟨opened, hopened⟩ : ∃ opened, sectionHeader? header = some opened := by
    rcases hheader with hword | hword
    · exact ⟨.parameters, by rw [sectionHeader?, hword]; decide⟩
    · exact ⟨.returns, by rw [sectionHeader?, hword]; decide⟩
  have hissues : validate (SourceKind.documentation? .structured i) =
      (decompose i.name d).issues := by
    rw [SourceKind.documentation?, hdocumentation]
    rfl
  have hwith : validate (SourceKind.documentation? .structured
      { i with documentation := some (joinLines (above ++ header :: parametersRule :: below)) }) =
      (decompose i.name (underlined above header below)).issues := rfl
  have hten : (∃ line ∈ above ++ header :: below, parametersRule <:+: line) ↔
      parametersRule <:+: d := by
    rw [← hlines, ← infix_joinLines_iff (by decide) (by decide), joinLines, join_split]
  have hparameters : parametersWord <:+: underlined above header below ↔ parametersWord <:+: d :=
    (infix_underlined_iff (by decide) (by decide) hlines).trans
      (or_iff_left (by decide : ¬parametersWord <:+: parametersRule))
  have hreturns : returnsWord <:+: underlined above header below ↔ returnsWord <:+: d :=
    (infix_underlined_iff (by decide) (by decide) hlines).trans
      (or_iff_left (by decide : ¬returnsWord <:+: parametersRule))
  have hrule : parametersRule <:+: underlined above header below :=
    (infix_underlined_iff (by decide) (by decide) hlines).mpr (Or.inr (List.infix_refl _))
  rw [hissues, hwith, hten, issues_decompose_eq_nil_iff, issues_decompose_eq_nil_iff, hparameters,
    hreturns, decompose_underlined i.name hopened hlines hbare]
  constructor
  · rintro ⟨⟨hp, hr, hdashes⟩, hsections⟩
    exact ⟨hdashes, ⟨hp, hr, hrule⟩, hsections⟩
  · rintro ⟨hdashes, ⟨hp, hr, -⟩, hsections⟩
    exact ⟨⟨hp, hr, hdashes⟩, hsections⟩

/-- A docstring with dashes below the first header only is in order, since it is in order with
dashes below the second one. -/
theorem issues_bare_returns :
    let above := ["Adds one to a number.".toList, [], parametersWord, parametersRule,
      "x : int".toList, []]
    let f : Item := ⟨['f'], .routine, [], 1, 1, some (joinLines (above ++ [returnsWord, ['i']]))⟩
    validate (SourceKind.documentation? .structured f) = [] := by
  intro above f
  have hlines : split '\n' (joinLines (above ++ [returnsWord, ['i']])) =
      above ++ returnsWord :: [['i']] := by decide
  refine (issues_underlined_iff f rfl hlines (Or.inr (by decide)) (by decide)).mpr ⟨?_, ?_⟩
  · exact ⟨parametersRule, by decide, List.infix_refl _⟩
  · decide +kernel

/-- **A function whose returns are not underlined** and whose docstring is in order all the same. -/
theorem returns_not_underlined :
    let text := ("def f():\n \"\"\"Gives one.\n\n Parameters\n ----------\n None\n\n" ++
      " Returns\n int\"\"\"\n").toList
    ∃ i ∈ SourceKind.items .structured text, ∃ d above header below,
      i.documentation = some d ∧ split '\n' d = above ++ header :: below ∧
        trim header = returnsWord ∧ below.head?.any isUnderline = false ∧
        validate (SourceKind.documentation? .structured i) = [] := by
  intro text
  have hitems : (SourceKind.items .structured text).map (fun i => (i.name, i.documentation)) =
      [(['f'], some "Gives one.\n\nParameters\n----------\nNone\n\nReturns\nint".toList)] := by
    decide +kernel
  obtain ⟨i, hi, hread⟩ := List.map_eq_singleton_iff.mp hitems
  obtain ⟨hname, hdocumentation⟩ := Prod.mk.inj hread
  refine ⟨i, hi ▸ List.mem_singleton.mpr rfl, _,
    ["Gives one.".toList, [], parametersWord, parametersRule, noneWord, []], returnsWord,
    ["int".toList], hdocumentation, by decide, by decide, by decide, ?_⟩
  rw [SourceKind.documentation?, hname, hdocumentation]
  decide +kernel

end DocSplice.Docstring
