import DocSplice.Brace.MarkedLines
import DocSplice.Proofs.Lines

/-!
# Rendered marked lines

What `render` writes: every line starts with the indentation it was given, verbatim, and with the
marker (`startsWith_of_mem_render`), so it is a marked line, and no line holds a newline.

A line that declares a function is never marked (`isMarked_of_isDeclaration`), which is what keeps
the runs above two declarations apart.
-/

namespace DocSplice.Brace

/-! ## Marked lines -/

/-- Blanks and then the marker make a marked line. -/
theorem isMarked_of_startsWith {blanks line : Text} (hblank : ∀ c ∈ blanks, isBlank c = true)
    (h : Text.startsWith line (blanks ++ marker) = true) : isMarked line = true := by
  obtain ⟨rest, rfl⟩ := Text.startsWith_iff.mp h
  have htrim : Text.trimStart (blanks ++ marker ++ rest) = '#' :: '\'' :: rest := by
    rw [List.append_assoc]
    exact Text.trimStart_append_cons hblank (by decide) ('\'' :: rest)
  rw [isMarked, htrim]
  exact Text.startsWith_iff.mpr ⟨rest, rfl⟩

/-- **A declaration is not marked**: its first character that is no blank begins a name. -/
theorem isMarked_of_isDeclaration {line : Text} (h : isDeclaration line = true) :
    isMarked line = false := by
  unfold isDeclaration declaredName? at h
  refine Bool.eq_false_iff.mpr fun hm => ?_
  obtain ⟨rest, hrest⟩ := Text.startsWith_iff.mp hm
  have htrim : Text.trimStart line = '#' :: '\'' :: rest := hrest.symm
  have hname : startsName '#' = false := by decide
  rw [htrim] at h
  simp [hname] at h

/-- A rendered line starts with the indentation and the marker. -/
theorem startsWith_renderLine (indent line : Text) :
    Text.startsWith (renderLine indent line) (indent ++ marker) = true := by
  unfold renderLine
  dsimp only
  split
  · exact Text.startsWith_iff.mpr ⟨[], List.append_nil _⟩
  · split
    · rename_i hm
      obtain ⟨rest, hrest⟩ := Text.startsWith_iff.mp hm
      rw [← hrest]
      exact Text.startsWith_iff.mpr ⟨rest, List.append_assoc _ _ _⟩
    · exact Text.startsWith_iff.mpr ⟨_, rfl⟩

/-- Apart from the marker and a space, a rendered line has the characters of the indentation and of
the line without the blanks at its end. -/
theorem notMem_renderLine {c : Char} {indent line : Text} (hmarker : c ∉ ' ' :: marker)
    (hi : c ∉ indent) (hl : c ∉ Text.trimEnd line) : c ∉ renderLine indent line := by
  rw [List.mem_cons, not_or] at hmarker
  unfold renderLine
  dsimp only
  split
  · rw [List.mem_append, not_or]
    exact ⟨hi, hmarker.2⟩
  · split
    · rw [List.mem_append, not_or]
      exact ⟨hi, fun h => hl (Text.mem_of_mem_trimStart h)⟩
    · rw [List.mem_append, List.mem_append, List.mem_cons, not_or, not_or, not_or]
      exact ⟨⟨hi, hmarker.2⟩, hmarker.1, hl⟩

theorem newline_notMem_renderLine {indent line : Text} (hi : '\n' ∉ indent) (hl : '\n' ∉ line) :
    '\n' ∉ renderLine indent line :=
  notMem_renderLine (by decide) hi fun h => hl (Text.mem_of_mem_trimEnd h)

/-- A rendered line does not end with a carriage return: its end was trimmed. -/
theorem hasReturn_renderLine (indent line : Text) :
    Splice.hasReturn (renderLine indent line) = false := by
  unfold renderLine
  dsimp only
  split
  · simp [Splice.hasReturn, marker]
  · rename_i hblank
    have hblank : Text.allBlank (Text.trimEnd line) = false := Bool.eq_false_iff.mpr hblank
    have hne : ∀ t : Text, t.getLast? = (Text.trimEnd line).getLast? → t ≠ [] := by
      rintro t hlast rfl
      rw [List.getLast?_nil, eq_comm, List.getLast?_eq_none_iff] at hlast
      rw [hlast] at hblank
      exact Bool.false_ne_true hblank.symm
    split
    · have hlast := Text.getLast?_trimStart hblank
      refine Text.hasReturn_of_getLast?_trimEnd (t := line) ?_
      rw [List.getLast?_append_of_ne_nil _ (hne _ hlast), hlast]
    · refine Text.hasReturn_of_getLast?_trimEnd (t := line) ?_
      rw [List.getLast?_append_of_ne_nil _ (List.cons_ne_nil _ _),
        List.getLast?_cons_of_ne_nil (hne _ rfl)]

/-- Every rendered line starts with the indentation, verbatim, and the marker. -/
theorem startsWith_of_mem_render {indent documentation line : Text}
    (h : line ∈ render indent documentation) :
    Text.startsWith line (indent ++ marker) = true := by
  obtain ⟨source, -, rfl⟩ := List.mem_map.mp h
  exact startsWith_renderLine indent source

/-- No rendered line holds a newline. -/
theorem newline_notMem_of_mem_render {indent documentation line : Text} (hi : '\n' ∉ indent)
    (h : line ∈ render indent documentation) : '\n' ∉ line := by
  obtain ⟨source, hsource, rfl⟩ := List.mem_map.mp h
  refine newline_notMem_renderLine hi fun hnl => ?_
  obtain ⟨piece, hpiece, hc⟩ := Text.mem_of_mem_closeLines hnl hsource
  exact Text.notMem_of_mem_split hpiece hc

/-- Rendered lines hold something and have no endings. -/
theorem plain_of_mem_render {indent documentation line : Text} (hi : '\n' ∉ indent)
    (h : line ∈ render indent documentation) : Text.Plain line where
  nonempty := by
    rintro rfl
    have hstart := startsWith_of_mem_render h
    simp [Text.startsWith, marker] at hstart
  newline_notMem := newline_notMem_of_mem_render hi h
  hasReturn_eq := by
    obtain ⟨source, -, rfl⟩ := List.mem_map.mp h
    exact hasReturn_renderLine indent source

/-- A carriage return is added to every rendered line. -/
theorem map_addReturn_render (indent documentation : Text) :
    (render indent documentation).map Splice.addReturn =
      (render indent documentation).map (· ++ ['\r']) := by
  refine List.map_congr_left fun line hline => ?_
  obtain ⟨source, -, rfl⟩ := List.mem_map.mp hline
  simp [Splice.addReturn, hasReturn_renderLine]

/-- Documentation that is not blank is written as one line at least. -/
theorem render_ne_nil {documentation : Text} (h : Text.allBlank documentation = false)
    (indent : Text) : render indent documentation ≠ [] := by
  have hnot : ¬ ∀ c ∈ documentation, isBlank c = true := by
    rw [← List.all_eq_true]
    simpa [Text.allBlank] using h
  simp only [not_forall] at hnot
  obtain ⟨c, hc, hblank⟩ := hnot
  have hnewline : (c == '\n') = false := by
    refine beq_eq_false_iff_ne.mpr ?_
    rintro rfl
    exact hblank (by decide)
  have hleft := Text.dropAroundWhile_ne_nil (p := (· == '\n')) hc hnewline
  rw [render, ne_eq, List.map_eq_nil_iff]
  exact Text.terminatedLines_ne_nil hleft

end DocSplice.Brace
