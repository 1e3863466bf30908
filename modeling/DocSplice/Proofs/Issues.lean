import DocSplice.Proofs.Trimming

/-!
# Documentation without issues

Validation makes a list of checks, each of which may report an issue.  Documentation has none
exactly when every check is passed, and what passing a check means is said here without the list:
which texts the raw block must show, which sections must hold something, and how long the
description must be.

* `docstringIssues_eq_nil_iff`, `commentIssues_eq_nil_iff`, `markedLineIssues_eq_nil_iff`: the three
  conventions.
* `cases_of_mem_markedLineIssues`: what an issue of marked lines can be about.
* `infix_joinLines_ended`: a text in one of the lines is found in the block, with carriage returns
  or without.

The checks of the two underlines of a docstring are not in the list: a docstring of the right shape
passes them.
-/

namespace DocSplice

open Text

variable {doc : Documentation} {s : Option Text} {lines ended : List Text} {needle line : Text}

namespace Validation

/-! ## Single checks -/

/-- A description must be long enough, so it must not be missing. -/
theorem descriptionIssues_eq_nil_iff (doc : Documentation) :
    descriptionIssues doc = [] ↔
      leastDescriptionLength ≤ (trim (doc.description.getD [])).length := by
  unfold descriptionIssues
  cases doc.description with
  | none => simp [leastDescriptionLength]
  | some text =>
    rw [Option.map_some, Option.getD_some]
    dsimp only
    split
    · rename_i hempty
      rw [List.isEmpty_iff] at hempty
      simp [hempty, leastDescriptionLength]
    · rw [flagIf_eq_nil_iff, decide_eq_false_iff_not, Nat.not_lt]

/-- A section must be there and hold something. -/
theorem presenceIssues_eq_nil_iff (missing empty : Issue) (s : Option Text) :
    presenceIssues missing empty s = [] ↔ isBlankSection s = false := by
  cases s with
  | none => simp [presenceIssues, isBlankSection]
  | some text => exact flagIf_eq_nil_iff

/-- Parameters must name a type, or say that there are none. -/
theorem parameterTypeIssues_eq_nil_iff (s : Option Text) :
    parameterTypeIssues s = [] ↔ ∃ text, s = some text ∧ (':' ∈ text ∨ noneWord <:+: text) := by
  cases s with
  | none => simp [parameterTypeIssues]
  | some text =>
    rw [parameterTypeIssues, flagIf_eq_nil_iff, Bool.and_eq_false_iff, Bool.not_eq_false',
      Bool.not_eq_false', contains_iff]
    simp

/-- Parameters must show a tag. -/
theorem parameterTagIssues_eq_nil_iff (s : Option Text) :
    parameterTagIssues s = [] ↔ ∃ text, s = some text ∧ parameterTag <:+: text := by
  cases s with
  | none => simp [parameterTagIssues]
  | some text =>
    rw [parameterTagIssues, flagIf_eq_nil_iff, Bool.not_eq_false', contains_iff]
    simp

theorem all_contains_iff (needles : List Text) (t : Text) :
    needles.all (contains · t) = true ↔ ∀ needle ∈ needles, needle <:+: t := by
  rw [List.all_eq_true]
  exact forall₂_congr fun needle _ => contains_iff

/-! ## The conventions -/

/-- A docstring is quoted and shows both headers and both underlines. -/
structure DocstringShape (raw : Text) : Prop where
  quoted : startsWith (trimStart raw) tripleQuote = true
  parametersWord_infix : parametersWord <:+: raw
  parametersRule_infix : parametersRule <:+: raw
  returnsWord_infix : returnsWord <:+: raw
  returnsRule_infix : returnsRule <:+: raw

theorem hasDocstringShape_iff (raw : Text) : hasDocstringShape raw = true ↔ DocstringShape raw := by
  rw [hasDocstringShape, Bool.and_eq_true, all_contains_iff]
  simp only [List.forall_mem_cons, List.not_mem_nil, false_implies, implies_true, and_true]
  constructor
  · rintro ⟨hquoted, hparameters, hrule, hreturns, hrule'⟩
    exact ⟨hquoted, hparameters, hrule, hreturns, hrule'⟩
  · rintro ⟨hquoted, hparameters, hrule, hreturns, hrule'⟩
    exact ⟨hquoted, hparameters, hrule, hreturns, hrule'⟩

/-- **Docstrings.**  What the shape demands is found anywhere in the block, and a block of the right
shape lacks no underline. -/
theorem docstringIssues_eq_nil_iff (doc : Documentation) :
    docstringIssues doc = [] ↔ DocstringShape doc.raw ∧ isBlankSection doc.name = false ∧
      leastDescriptionLength ≤ (trim (doc.description.getD [])).length ∧
      (∃ text, doc.parameters = some text ∧ (':' ∈ text ∨ noneWord <:+: text)) ∧
      isBlankSection doc.returns = false := by
  simp only [docstringIssues, List.append_eq_nil_iff, flagIf_eq_nil_iff, Bool.not_eq_false',
    hasDocstringShape_iff, descriptionIssues_eq_nil_iff, parameterTypeIssues_eq_nil_iff,
    presenceIssues_eq_nil_iff, Bool.and_eq_false_iff, Bool.not_eq_false', contains_iff]
  constructor
  · rintro ⟨⟨⟨⟨⟨⟨hshape, hname⟩, hdescription⟩, hparameters⟩, hreturns⟩, -⟩, -⟩
    exact ⟨hshape, hname, hdescription, hparameters, hreturns⟩
  · rintro ⟨hshape, hname, hdescription, hparameters, hreturns⟩
    exact ⟨⟨⟨⟨⟨⟨hshape, hname⟩, hdescription⟩, hparameters⟩, hreturns⟩,
      Or.inr hshape.parametersRule_infix⟩, Or.inr hshape.returnsRule_infix⟩

/-- **Comment blocks.** -/
theorem commentIssues_eq_nil_iff (doc : Documentation) :
    commentIssues doc = [] ↔ (∀ header ∈ commentHeaders, header <:+: Text.lowerAscii doc.raw) ∧
      isBlankSection doc.name = false ∧
      leastDescriptionLength ≤ (trim (doc.description.getD [])).length ∧
      isBlankSection doc.parameters = false ∧ isBlankSection doc.returns = false ∧
      isBlankSection doc.examples = false := by
  simp only [commentIssues, List.append_eq_nil_iff, flagIf_eq_nil_iff, Bool.not_eq_false',
    all_contains_iff, descriptionIssues_eq_nil_iff, presenceIssues_eq_nil_iff, and_assoc]

/-- **Marked lines.** -/
theorem markedLineIssues_eq_nil_iff (doc : Documentation) :
    markedLineIssues doc = [] ↔ (∀ tag ∈ requiredTags, tag <:+: doc.raw) ∧
      (∀ line ∈ terminatedLines doc.raw, isUnmarked line = false) ∧
      isBlankSection doc.name = false ∧
      leastDescriptionLength ≤ (trim (doc.description.getD [])).length ∧
      (∃ text, doc.parameters = some text ∧ parameterTag <:+: text) ∧
      isBlankSection doc.returns = false := by
  have hnone : (terminatedLines doc.raw).any isUnmarked = false ↔
      ∀ line ∈ terminatedLines doc.raw, isUnmarked line = false := by
    simp
  simp only [markedLineIssues, List.append_eq_nil_iff, flagIf_eq_nil_iff, Bool.not_eq_false',
    Bool.and_eq_true, Bool.not_eq_true', all_contains_iff, descriptionIssues_eq_nil_iff,
    presenceIssues_eq_nil_iff, parameterTagIssues_eq_nil_iff, markerIssues_eq_nil_iff, hnone]
  constructor
  · rintro ⟨⟨⟨⟨⟨⟨htags, hmarked⟩, hname⟩, hdescription⟩, hparameters⟩, hreturns⟩, -⟩
    exact ⟨htags, hmarked, hname, hdescription, hparameters, hreturns⟩
  · rintro ⟨htags, hmarked, hname, hdescription, hparameters, hreturns⟩
    exact ⟨⟨⟨⟨⟨⟨htags, hmarked⟩, hname⟩, hdescription⟩, hparameters⟩, hreturns⟩, hmarked⟩

/-! ## What is reported of marked lines -/

/-- A marked line is none without the marker. -/
theorem not_isUnmarked_of_isMarked (h : Brace.isMarked line = true) : isUnmarked line = false := by
  have hstart : startsWith (trim line) lineMarker = true := by
    rw [startsWith, List.isPrefixOf_iff_prefix, ← trim_trimStart]
    exact prefix_trim (by decide) (List.isPrefixOf_iff_prefix.mp h)
  rw [isUnmarked, hstart, Bool.not_true, Bool.and_false]

theorem mem_flagIf {condition : Bool} {flag issue : Issue} :
    issue ∈ flagIf condition flag ↔ condition = true ∧ issue = flag := by
  cases condition with
  | true => simp
  | false => simp

theorem descriptionIssues_subset (doc : Documentation) :
    descriptionIssues doc ⊆ [.missingDescription doc.kind, .shortDescription] := by
  intro issue h
  unfold descriptionIssues at h
  split at h
  · exact List.mem_cons.mpr (Or.inl (List.mem_singleton.mp h))
  · split at h
    · exact List.mem_cons.mpr (Or.inl (List.mem_singleton.mp h))
    · exact List.mem_cons_of_mem _ (List.mem_singleton.mpr (mem_flagIf.mp h).2)

theorem presenceIssues_subset (missing empty : Issue) (s : Option Text) :
    presenceIssues missing empty s ⊆ [missing, empty] := by
  intro issue h
  cases s with
  | none => exact List.mem_cons.mpr (Or.inl (List.mem_singleton.mp h))
  | some text => exact List.mem_cons_of_mem _ (List.mem_singleton.mpr (mem_flagIf.mp h).2)

theorem parameterTagIssues_subset (s : Option Text) :
    parameterTagIssues s ⊆ [.missingParameters .patternBrace, .untaggedParameters] := by
  intro issue h
  cases s with
  | none => exact List.mem_cons.mpr (Or.inl (List.mem_singleton.mp h))
  | some text => exact List.mem_cons_of_mem _ (List.mem_singleton.mpr (mem_flagIf.mp h).2)

/-- The issues of marked lines that are about the name or about one section. -/
def sectionIssues (kind : SourceKind) : List Issue :=
  [.missingName .patternBrace] ++ [.missingDescription kind, .shortDescription]
    ++ [.missingParameters .patternBrace, .untaggedParameters]
    ++ [.missingReturns .patternBrace, .emptyReturns .patternBrace]

/-- What is reported is about the shape of the block, about a section, or about a line. -/
theorem cases_of_mem_markedLineIssues {issue : Issue} (h : issue ∈ markedLineIssues doc) :
    (issue = .shape .patternBrace ∧ ¬ ((∀ tag ∈ requiredTags, tag <:+: doc.raw) ∧
        ∀ line ∈ terminatedLines doc.raw, isUnmarked line = false)) ∨
      issue ∈ sectionIssues doc.kind ∨ issue ∈ markerIssues (terminatedLines doc.raw) := by
  simp only [markedLineIssues, List.mem_append, mem_flagIf] at h
  simp only [sectionIssues, List.mem_append]
  rcases h with ((((⟨hshape, rfl⟩ | ⟨-, rfl⟩) | hdescription) | hparameters) | hreturns) | hmarker
  · refine Or.inl ⟨rfl, ?_⟩
    rintro ⟨htags, hmarked⟩
    have hany : (terminatedLines doc.raw).any isUnmarked = false := by simpa using hmarked
    rw [(all_contains_iff _ _).mpr htags, hany] at hshape
    exact Bool.false_ne_true hshape
  · exact Or.inr (Or.inl (Or.inl (Or.inl (Or.inl (List.mem_singleton.mpr rfl)))))
  · exact Or.inr (Or.inl (Or.inl (Or.inl (Or.inr (descriptionIssues_subset doc hdescription)))))
  · exact Or.inr (Or.inl (Or.inl (Or.inr (parameterTagIssues_subset _ hparameters))))
  · exact Or.inr (Or.inl (Or.inr (presenceIssues_subset _ _ _ hreturns)))
  · exact Or.inr (Or.inr hmarker)

/-- A block that lacks a tag does not have the shape of its convention. -/
theorem shape_mem_markedLineIssues {tag : Text} (htag : tag ∈ requiredTags)
    (h : ¬ tag <:+: doc.raw) : .shape .patternBrace ∈ markedLineIssues doc := by
  have hall : requiredTags.all (contains · doc.raw) = false :=
    Bool.eq_false_iff.mpr fun hall => h ((all_contains_iff _ _).mp hall tag htag)
  simp [markedLineIssues, hall]

/-! ## What is found in a block -/

/-- A text without a newline that stands in a line is found in the block, also when each line got a
carriage return. -/
theorem infix_joinLines_ended (hended : ended = lines ∨ ended = returned lines)
    (hclean : '\n' ∉ needle) (hne : needle ≠ []) (hline : line ∈ lines) (h : needle <:+: line) :
    needle <:+: joinLines ended := by
  rw [infix_joinLines_iff hclean hne]
  rcases hended with rfl | rfl
  · exact ⟨line, hline, h⟩
  · exact ⟨line ++ ['\r'], List.mem_map_of_mem hline, h.trans (List.prefix_append line _).isInfix⟩

/-- A section of tidied lines is blank when all of them are. -/
theorem isBlankSection_tidied (lines : List Text) :
    isBlankSection (some (tidied lines)) = allBlank (joinLines lines) := by
  show allBlank (tidied lines) = allBlank (joinLines lines)
  rw [tidied, allBlank_trim, allBlank_joinLines, allBlank_joinLines, List.all_map]
  exact congrArg lines.all (funext allBlank_trim)

end Validation

end DocSplice
