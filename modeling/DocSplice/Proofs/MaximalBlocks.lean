import DocSplice.Documenting
import DocSplice.Proofs.Issues
import DocSplice.Proofs.ItemSpans
import DocSplice.Proofs.LeadingBlocks

/-!
# Blocks that cannot be longer

A scan for documentation stops at the first line that does not belong to it.  So what it finds is
all of the block and nothing else: its lines belong to it, and the lines on both sides do not.  That
holds of the block at the top of a file and of the block above a row, whatever the lines are and
whatever is asked of a line.

For functions it has a consequence.  The documentation of an extracted function is a run of marked
lines (`Brace.exists_marked_run`), and marked they are also when they are read without the carriage
returns at their ends.  So validation complains about no line of it, and about its shape only where
a tag is missing (`Brace.cases_of_mem_issues`).
-/

namespace DocSplice

open Text Validation

namespace Brace

variable {text d line : Text} {i : Item}

/-- The documentation of an extracted function is a run of marked lines of the file. -/
theorem exists_marked_run (hi : i ∈ items text) (hd : i.documentation = some d) :
    ∃ run, run ≠ [] ∧ (∀ l ∈ run, l ∈ splitLines text ∧ isMarked l = true) ∧
      d = joinLines run := by
  obtain ⟨last, -, hsound, hitems⟩ := exists_search text
  obtain ⟨row, declaration, name, hdeclaration, -, rfl⟩ := hsound.declared i (hitems ▸ hi)
  obtain ⟨above, below, hlines, -, -, hrun⟩ := documentation_itemAt hdeclaration
  obtain ⟨pre, run, rfl, hne, hmarked, -, hjoin⟩ := hrun d hd
  refine ⟨run, hne, fun l hl => ⟨?_, hmarked l hl⟩, hjoin⟩
  rw [hlines]
  exact List.mem_append_left _ (List.mem_append_right _ hl)

/-- No line that is read from the documentation of an extracted function lacks the marker. -/
theorem not_isUnmarked_of_mem_documentation (hi : i ∈ items text) (hd : i.documentation = some d)
    (hline : line ∈ terminatedLines d) : isUnmarked line = false := by
  obtain ⟨run, hne, hrun, rfl⟩ := exists_marked_run hi hd
  have hclean : ∀ l ∈ run, '\n' ∉ l := fun l hl => newline_notMem_of_mem_splitLines (hrun l hl).1
  rw [terminatedLines_joinLines hclean hne] at hline
  obtain ⟨piece, hpiece, hread⟩ := exists_piece_of_mem_closeLines hline
  have hmarked : isUnmarked piece = false := not_isUnmarked_of_isMarked (hrun piece hpiece).2
  rcases hread with rfl | rfl
  · exact hmarked
  · rw [view_dropFinalReturn isUnmarked_append_return, hmarked]

/-- The issues of an extracted function that has documentation. -/
theorem issues_eq (hd : i.documentation = some d) :
    SourceKind.issues .patternBrace i = markedLineIssues (decompose i.name d) := by
  rw [SourceKind.issues, SourceKind.documentation?, hd]
  rfl

/-- An issue of an extracted function says that there is no documentation, what is wrong with a
section, or that a tag is missing. -/
theorem cases_of_mem_issues {issue : Issue} (hi : i ∈ items text)
    (h : issue ∈ SourceKind.issues .patternBrace i) :
    issue ∈ .noDocumentation :: sectionIssues .patternBrace ∨
      issue = .shape .patternBrace ∧
        ∃ d, i.documentation = some d ∧ ∃ tag ∈ requiredTags, ¬ tag <:+: d := by
  cases hd : i.documentation with
  | none =>
    rw [SourceKind.issues, SourceKind.documentation?, hd] at h
    exact Or.inl (List.mem_cons.mpr (Or.inl (List.mem_singleton.mp h)))
  | some d =>
    have hall : ∀ l ∈ terminatedLines d, isUnmarked l = false :=
      fun l hl => not_isUnmarked_of_mem_documentation hi hd hl
    rw [issues_eq hd] at h
    rcases cases_of_mem_markedLineIssues h with ⟨hshape, hlacks⟩ | hsection | hmarker
    · refine Or.inr ⟨hshape, d, rfl, ?_⟩
      by_contra hnone
      refine hlacks ⟨fun tag htag => ?_, hall⟩
      by_contra hlack
      exact hnone ⟨tag, htag, hlack⟩
    · exact Or.inl (List.mem_cons_of_mem _ hsection)
    · have hnil : markerIssues (terminatedLines d) = [] :=
        markerIssues_eq_nil_iff.mpr (by simpa using hall)
      rw [decompose, hnil] at hmarker
      exact absurd hmarker List.not_mem_nil

/-- The sentence about a line without the marker starts like no other sentence about a function. -/
theorem message_ne_of_mem {issue : Issue} (n : Nat)
    (h : issue ∈ .shape .patternBrace :: .noDocumentation :: sectionIssues .patternBrace) :
    issue.message ≠ "Line " ++ toString n ++ " does not start with #' marker" := by
  -- the first letter tells it apart, whatever the number of the line is
  have hfirst : ∀ issue ∈ .shape .patternBrace :: .noDocumentation :: sectionIssues .patternBrace,
      issue.message.toList.head? ≠ some 'L' := by decide +kernel
  intro hmessage
  refine hfirst issue h ?_
  rw [hmessage, String.toList_append, String.toList_append]
  rfl

end Brace

/-- **What is found is the maximal block.**  At the top of the lines a block is found exactly when
it stands there, and none exactly when none stands there; above a row that is not past the last line
a block is found exactly when it stands there.  So no sentence about an extracted function says that
a line lacks the marker, and the shape of its documentation is wrong only where a tag is missing. -/
theorem found_blocks_maximal [Parser] (opens continues marked : Text → Bool) (lines : List Text)
    (text : Text) :
    (∀ r, leadingBlock opens continues lines = some r ↔ IsLeadingBlock opens continues lines r) ∧
    (leadingBlock opens continues lines = none ↔
      ¬ ∃ r, IsLeadingBlock opens continues lines r) ∧
    (∀ row ≤ lines.length, ∀ r,
      blockAbove marked lines row = some r ↔ IsBlockAbove marked lines row r) ∧
    ∀ i ∈ SourceKind.items .patternBrace text,
      (∀ issue ∈ SourceKind.issues .patternBrace i, ∀ n : Nat,
        issue.message ≠ "Line " ++ toString n ++ " does not start with #' marker") ∧
      (Issue.shape .patternBrace ∈ SourceKind.issues .patternBrace i ↔
        ∃ d, i.documentation = some d ∧ ∃ tag ∈ requiredTags, ¬ tag <:+: d) := by
  refine ⟨fun r => leadingBlock_eq_some_iff, leadingBlock_eq_none_iff,
    fun row hrow r => blockAbove_eq_some_iff hrow, fun i hi => ⟨fun issue hissue n => ?_, ?_, ?_⟩⟩
  · rcases Brace.cases_of_mem_issues hi hissue with hother | ⟨hshape, -⟩
    · exact Brace.message_ne_of_mem n (List.mem_cons_of_mem _ hother)
    · exact Brace.message_ne_of_mem n (List.mem_cons.mpr (Or.inl hshape))
  · intro hshape
    rcases Brace.cases_of_mem_issues hi hshape with hother | ⟨-, hlacks⟩
    · exact absurd hother (by decide)
    · exact hlacks
  · rintro ⟨d, hd, tag, htag, hlacks⟩
    rw [Brace.issues_eq hd]
    exact shape_mem_markedLineIssues htag hlacks

/-- A block of one line at the top, and one of lines that end in carriage returns and lack a tag. -/
theorem found_blocks_maximal_two_blocks :
    let text := ("#' Numbers.\n\n#' Doubles.\r\n  #' @param x A number.\r\n" ++
      "f <- function(x) 2 * x").toList
    IsLeadingBlock Brace.isMarked Brace.isMarked (splitLines text) ⟨0, 1⟩ ∧
      4 ≤ (splitLines text).length ∧ IsBlockAbove Brace.isMarked (splitLines text) 4 ⟨2, 4⟩ ∧
      ∃ i ∈ SourceKind.items .patternBrace text,
        i.documentation = some "#' Doubles.\r\n  #' @param x A number.\r".toList ∧
        (∀ issue ∈ SourceKind.issues .patternBrace i, ∀ n : Nat,
          issue.message ≠ "Line " ++ toString n ++ " does not start with #' marker") ∧
        Issue.shape .patternBrace ∈ SourceKind.issues .patternBrace i := by
  intro text
  obtain ⟨htop, -, habove, hissues⟩ :=
    found_blocks_maximal Brace.isMarked Brace.isMarked Brace.isMarked (splitLines text) text
  have hrow : 4 ≤ (splitLines text).length := by decide +kernel
  have hdocumentation : (SourceKind.items .patternBrace text).map (·.documentation) =
      [some "#' Doubles.\r\n  #' @param x A number.\r".toList] := by decide +kernel
  obtain ⟨i, hi, hd⟩ := List.map_eq_singleton_iff.mp hdocumentation
  have hmem : i ∈ SourceKind.items .patternBrace text := hi ▸ List.mem_singleton.mpr rfl
  obtain ⟨hmessages, hshape⟩ := hissues i hmem
  have hlacks : ¬ "@return".toList <:+: "#' Doubles.\r\n  #' @param x A number.\r".toList := by
    decide +kernel
  exact ⟨(htop _).mp (by decide +kernel), hrow, (habove 4 hrow _).mp (by decide +kernel), i, hmem,
    hd, hmessages, hshape.mpr ⟨_, hd, _, by decide, hlacks⟩⟩

end DocSplice
