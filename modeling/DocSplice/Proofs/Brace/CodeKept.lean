import DocSplice.Grammar.Parser
import DocSplice.Proofs.Brace.Installation

/-!
# Code lines stay

The lines of a file of functions that are not marked are its code.  An injection keeps them all, in
their order and with their characters, whatever the targets are: it drops marked lines only and adds
marked lines only (`codeLines_of_inject`).  With it a whole session keeps the code of the text that
it started from, and what each of its injections does to marked lines is known row by row
(`session_keeps_code`).
-/

namespace DocSplice.Brace

variable {text result : Text} {targets : List Target}

/-- The lines that are not marked. -/
def codeLines (text : Text) : List Text := (Text.splitLines text).filter (!isMarked ·)

/-- An injection keeps the code lines. -/
theorem codeLines_of_inject [Parser] (h : inject .patternBrace text targets = .ok result) :
    codeLines result = codeLines text := by
  obtain ⟨hdecl, rfl⟩ := inject_eq_ok_iff.mp h
  have hcount := declared_resolve_iff.mpr hdecl
  rw [codeLines, splitLines_rewritten hcount, RowEdit.apply, above_install_length hcount,
    List.append_nil]
  refine RowEdit.filter_rowsFrom (fun row new hnew => ?_) fun row line hline hdrop => ?_
  · obtain ⟨t, ht, -, hmem⟩ := mem_above_install.mp hnew
    rw [isMarked_of_mem_installation (hcount t ht) hmem]
    rfl
  · rw [Nat.zero_add] at hdrop
    rw [isMarked_of_drops hcount hline hdrop]
    rfl

/-- An injection keeps the final newline. -/
theorem endsWithNewline_of_inject [Parser] (h : inject .patternBrace text targets = .ok result) :
    Text.endsWithNewline result = Text.endsWithNewline text := by
  obtain ⟨hdecl, rfl⟩ := inject_eq_ok_iff.mp h
  exact endsWithNewline_rewritten (declared_resolve_iff.mpr hdecl)

/-- A session keeps the code lines and the final newline of the text it started from. -/
theorem codeLines_session [Parser] (text : Text) (calls : List (List Target)) :
    codeLines (session .patternBrace text calls) = codeLines text ∧
      Text.endsWithNewline (session .patternBrace text calls) = Text.endsWithNewline text := by
  refine session_invariant (P := fun current => codeLines current = codeLines text ∧
    Text.endsWithNewline current = Text.endsWithNewline text) ?_ ⟨rfl, rfl⟩
  rintro targets - current result ⟨hcode, hfinal⟩ h
  exact ⟨(codeLines_of_inject h).trans hcode, (endsWithNewline_of_inject h).trans hfinal⟩

/-- **A session keeps the code.**  However many injections came before, an injection that succeeds
leaves the code lines and the final newline of the text that the session started from.  The rows
that lose their line are the runs of marked lines directly above targeted declarations, and new
lines stand directly above targeted declarations only, each starting with the indentation of the
declaration and the marker. -/
theorem session_keeps_code [Parser] (text : Text) (calls : List (List Target))
    (targets : List Target) (result : Text)
    (h : inject .patternBrace (session .patternBrace text calls) targets = .ok result) :
    codeLines result = codeLines text ∧
      Text.endsWithNewline result = Text.endsWithNewline text ∧
      ∃ edit : RowEdit,
        Text.splitLines result =
          edit.apply (Text.splitLines (session .patternBrace text calls)) ∧
        (∀ row, edit.drops row = true ↔ ∃ t ∈ targets,
          InRunAbove isMarked (Text.splitLines (session .patternBrace text calls)) t.row row) ∧
        ∀ row, ∀ new ∈ edit.above row, ∃ t ∈ targets, t.row = row ∧
          ∃ line, (Text.splitLines (session .patternBrace text calls))[row]? = some line ∧
            isDeclaration line = true ∧
            Text.startsWith new (Text.indent line ++ marker) = true := by
  obtain ⟨hcode, hfinal⟩ := codeLines_session text calls
  refine ⟨(codeLines_of_inject h).trans hcode, (endsWithNewline_of_inject h).trans hfinal, ?_⟩
  obtain ⟨hdecl, rfl⟩ := inject_eq_ok_iff.mp h
  have hcount := declared_resolve_iff.mpr hdecl
  refine ⟨install _ (Target.resolve targets), splitLines_rewritten hcount, fun row => ?_,
    fun row new hnew => ?_⟩
  · rw [drops_install_iff hcount]
    constructor
    · rintro ⟨t, ht, hrun⟩
      exact ⟨t, Target.mem_of_mem_resolve ht, hrun⟩
    · rintro ⟨t, ht, hrun⟩
      obtain ⟨u, hu, hline⟩ := Target.exists_mem_resolve ht
      have hrow : u.row = t.row := congrArg (· - 1) hline
      exact ⟨u, hu, hrow.symm ▸ hrun⟩
  · obtain ⟨t, ht, rfl, hmem⟩ := mem_above_install.mp hnew
    obtain ⟨line, hline, hd⟩ := hcount t ht
    exact ⟨t, Target.mem_of_mem_resolve ht, rfl, line, hline, hd,
      startsWith_of_mem_installation hline hmem⟩

/-- Two functions, one of them indented and without documentation, documented in three calls, of
which one is refused. -/
theorem session_keeps_code_two_functions :
    let text := "x <- 1\n#' Old.\nf <- function(a) a\n  g = \\(b) b".toList
    let calls := [[.onLine 4 "Two.", .onLine 9 "Lost."], [.onLine 3 "One."]]
    let result := "x <- 1\n#' One.\nf <- function(a) a\n  #' Two.\n  g = \\(b) b".toList
    inject .patternBrace (session .patternBrace text calls)
        [.onLine 4 "Two.", .onLine 3 "One."] = .ok result ∧
      codeLines result = codeLines text ∧
      codeLines text =
        ["x <- 1".toList, "f <- function(a) a".toList, "  g = \\(b) b".toList] := by
  intro text calls result
  have hinject : inject .patternBrace (session .patternBrace text calls)
      [.onLine 4 "Two.", .onLine 3 "One."] = .ok result := by decide +kernel
  obtain ⟨hcode, -, -⟩ := session_keeps_code text calls _ result hinject
  exact ⟨hinject, hcode, by decide +kernel⟩

end DocSplice.Brace
