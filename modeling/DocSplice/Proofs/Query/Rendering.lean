import DocSplice.Proofs.Lines
import DocSplice.Query.Comment

/-!
# Rendered comments

What `renderTitled` writes: lines that start with the marker, of which the first opens a block, so
that a block that was written is a block that is found.  No line holds a newline when the name of
the item holds none.

Rendered lines do not end with a carriage return (`hasReturn_renderLine`).  The title that is made
from the name of the item does when the name does.
-/

namespace DocSplice.Query

variable {line name documentation : Text}

/-! ## Comments and openers -/

theorem isComment_of_startsWith (h : Text.startsWith line marker = true) :
    isComment line = true := by
  rw [isComment, Text.trimStart_eq_self (by decide) h]
  exact h

theorem isOpener_of_startsWith (h : Text.startsWith line opener = true) :
    isOpener line = true := by
  rw [isOpener, Text.trimStart_eq_self (by decide) h]
  exact h

theorem startsWith_marker_of_opener (h : Text.startsWith line opener = true) :
    Text.startsWith line marker = true := by
  obtain ⟨rest, rfl⟩ := Text.startsWith_iff.mp h
  exact Text.startsWith_iff.mpr ⟨' ' :: '#' :: rest, rfl⟩

/-- An opener that is not indented starts with the characters that open a block. -/
theorem startsWith_opener (hopen : isOpener line = true)
    (hstart : Text.startsWith line marker = true) : Text.startsWith line opener = true := by
  rw [isOpener, Text.trimStart_eq_self (by decide) hstart] at hopen
  exact hopen

/-- A blank line is no comment. -/
theorem not_isComment_of_allBlank (h : Text.allBlank line = true) : isComment line = false := by
  have hnil : Text.trimStart line = [] :=
    List.dropWhile_eq_nil_iff.mpr fun c hc => List.all_eq_true.mp h c hc
  rw [isComment, hnil]
  rfl

/-- An opener is a comment. -/
theorem isComment_of_isOpener (h : isOpener line = true) : isComment line = true :=
  startsWith_marker_of_opener h

/-! ## Rendered lines -/

/-- A rendered line starts with the marker. -/
theorem startsWith_renderLine (line : Text) : Text.startsWith (renderLine line) marker = true := by
  unfold renderLine
  dsimp only
  split
  · decide
  · split
    · rename_i hcomment
      exact hcomment
    · exact Text.startsWith_iff.mpr ⟨_, rfl⟩

/-- A rendered line does not end with a carriage return: its end was trimmed. -/
theorem hasReturn_renderLine (line : Text) : Splice.hasReturn (renderLine line) = false := by
  unfold renderLine
  dsimp only
  split
  · decide
  · rename_i hblank
    have hblank : Text.allBlank (Text.trimEnd line) = false := Bool.eq_false_iff.mpr hblank
    split
    · exact Text.hasReturn_of_getLast?_trimEnd (Text.getLast?_trimStart hblank)
    · have hne : Text.trimEnd line ≠ [] := by
        intro hnil
        rw [hnil] at hblank
        exact Bool.false_ne_true hblank.symm
      refine Text.hasReturn_of_getLast?_trimEnd (t := line) ?_
      rw [List.getLast?_append_of_ne_nil _ (List.cons_ne_nil _ _), List.getLast?_cons_of_ne_nil hne]

/-- Apart from the marker and a space, a rendered line has the characters of the line without the
blanks at its end. -/
theorem notMem_renderLine {c : Char} (hmarker : c ∉ ' ' :: marker) (hl : c ∉ Text.trimEnd line) :
    c ∉ renderLine line := by
  rw [List.mem_cons, not_or] at hmarker
  unfold renderLine
  dsimp only
  split
  · exact hmarker.2
  · split
    · exact fun hc => hl (Text.mem_of_mem_trimStart hc)
    · rw [List.mem_append, List.mem_cons, not_or, not_or]
      exact ⟨hmarker.2, hmarker.1, hl⟩

theorem newline_notMem_renderLine (h : '\n' ∉ line) : '\n' ∉ renderLine line :=
  notMem_renderLine (by decide) fun hc => h (Text.mem_of_mem_trimEnd hc)

/-! ## The title -/

/-- The title line for a name. -/
def titleLine (name : Text) : Text := opener ++ ' ' :: name

/-- Whether documentation brings a title of its own. -/
def bringsTitle (documentation : Text) : Bool := (render documentation).head?.any isTitle

theorem renderTitled_eq (name documentation : Text) :
    renderTitled name documentation =
      if bringsTitle documentation then render documentation
      else titleLine name :: render documentation := rfl

theorem startsWith_titleLine (name : Text) : Text.startsWith (titleLine name) opener = true :=
  Text.startsWith_iff.mpr ⟨' ' :: name, rfl⟩

theorem hasReturn_titleLine (name : Text) :
    Splice.hasReturn (titleLine name) = Splice.hasReturn name := by
  rw [Splice.hasReturn, Splice.hasReturn, titleLine,
    List.getLast?_append_of_ne_nil _ (List.cons_ne_nil _ _)]
  cases name with
  | nil => decide
  | cons c name => rw [List.getLast?_cons_of_ne_nil (List.cons_ne_nil c name)]

theorem startsWith_of_mem_render (h : line ∈ render documentation) :
    Text.startsWith line marker = true := by
  obtain ⟨source, -, rfl⟩ := List.mem_map.mp h
  exact startsWith_renderLine source

/-- A line of the block is the title made from the name, or a rendered line of the documentation. -/
theorem mem_renderTitled (h : line ∈ renderTitled name documentation) :
    (bringsTitle documentation = false ∧ line = titleLine name) ∨ line ∈ render documentation := by
  rw [renderTitled_eq] at h
  split at h
  · exact Or.inr h
  · rename_i hno
    rcases List.mem_cons.mp h with rfl | h
    · exact Or.inl ⟨Bool.eq_false_iff.mpr hno, rfl⟩
    · exact Or.inr h

/-- Every line of the block starts with the marker. -/
theorem startsWith_of_mem_renderTitled (h : line ∈ renderTitled name documentation) :
    Text.startsWith line marker = true := by
  rcases mem_renderTitled h with ⟨-, rfl⟩ | h
  · exact startsWith_marker_of_opener (startsWith_titleLine name)
  · exact startsWith_of_mem_render h

/-- The first line of the block opens it. -/
theorem exists_renderTitled_eq_cons (name documentation : Text) :
    ∃ first rest, renderTitled name documentation = first :: rest ∧
      Text.startsWith first opener = true := by
  by_cases htitle : bringsTitle documentation = true
  · rw [renderTitled_eq, if_pos htitle]
    unfold bringsTitle at htitle
    cases hrender : render documentation with
    | nil =>
      rw [hrender] at htitle
      exact absurd htitle Bool.false_ne_true
    | cons first rest =>
      rw [hrender] at htitle
      have hopen : isOpener first = true := by
        have htitle : isTitle first = true := htitle
        rw [isTitle, Bool.and_eq_true] at htitle
        exact htitle.1
      have hfirst : first ∈ render documentation := hrender ▸ List.mem_cons_self
      exact ⟨first, rest, rfl, startsWith_opener hopen (startsWith_of_mem_render hfirst)⟩
  · rw [renderTitled_eq, if_neg htitle]
    exact ⟨titleLine name, render documentation, rfl, startsWith_titleLine name⟩

/-- No line of the block holds a newline when the name holds none. -/
theorem newline_notMem_of_mem_renderTitled (hname : '\n' ∉ name)
    (h : line ∈ renderTitled name documentation) : '\n' ∉ line := by
  rcases mem_renderTitled h with ⟨-, rfl⟩ | h
  · rw [titleLine, List.mem_append, List.mem_cons, not_or, not_or]
    exact ⟨by decide, by decide, hname⟩
  · obtain ⟨source, hsource, rfl⟩ := List.mem_map.mp h
    refine newline_notMem_renderLine fun hnl => ?_
    obtain ⟨piece, hpiece, hc⟩ := Text.mem_of_mem_closeLines hnl hsource
    exact Text.notMem_of_mem_split hpiece hc

end DocSplice.Query
