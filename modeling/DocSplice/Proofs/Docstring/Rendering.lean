import DocSplice.Docstring.Literal
import DocSplice.Proofs.Lines

/-!
# Rendered docstrings

What stands on the lines that `Docstring.render` writes: the indentation they were given, quotes, the
letter of a raw literal, and the characters of the documentation (`mem_render`).  No line holds a
newline, and there is always a line.
-/

namespace DocSplice

namespace Text

/-- Replacing adds no character but those of the new text. -/
theorem mem_of_mem_replaceFrom {old new : Text} {c : Char} : ∀ {skip : Nat} {t : Text},
    c ∈ replaceFrom old new skip t → c ∈ new ∨ c ∈ t
  | _, [], h => absurd h List.not_mem_nil
  | skip + 1, d :: t, h => by
    have hrest : c ∈ replaceFrom old new skip t := h
    exact (mem_of_mem_replaceFrom hrest).imp_right fun ht => List.mem_cons_of_mem d ht
  | 0, d :: t, h => by
    unfold replaceFrom at h
    dsimp only at h
    split at h
    · rcases List.mem_append.mp h with h | h
      · exact Or.inl h
      · exact (mem_of_mem_replaceFrom h).imp_right fun ht => List.mem_cons_of_mem d ht
    · rcases List.mem_cons.mp h with rfl | h
      · exact Or.inr List.mem_cons_self
      · exact (mem_of_mem_replaceFrom h).imp_right fun ht => List.mem_cons_of_mem d ht

end Text

namespace Docstring

variable {documentation indent line : Text} {c : Char}

/-- The characters that the literal adds to the documentation. -/
def literalSigns : Text := ['r', '"', '\\']

theorem mem_signs_of_mem_rawPrefix {text : Text} (h : c ∈ rawPrefix text) : c ∈ literalSigns := by
  unfold rawPrefix at h
  split at h
  · rw [List.mem_singleton.mp h]
    decide
  · exact absurd h List.not_mem_nil

theorem mem_signs_of_mem_doubleFence (h : c ∈ doubleFence) : c ∈ literalSigns := by
  simp only [doubleFence, List.mem_cons, List.not_mem_nil, or_false, or_self] at h
  rw [h]
  decide

/-- Quotes that are escaped add backslashes. -/
theorem mem_escaped {text : Text} (h : c ∈ Text.replace text doubleFence escapedFence) :
    c ∈ literalSigns ∨ c ∈ text := by
  rcases Text.mem_of_mem_replaceFrom h with h | h
  · left
    simp only [escapedFence, List.mem_cons, List.not_mem_nil, or_false] at h
    rcases h with rfl | rfl | rfl | rfl | rfl | rfl <;> decide
  · exact Or.inr h

theorem mem_renderLine (h : c ∈ renderLine indent line) : c ∈ indent ∨ c ∈ line := by
  unfold renderLine at h
  split at h
  · exact absurd h List.not_mem_nil
  · exact List.mem_append.mp h

/-- **The characters of a rendered line** are those of the indentation and of the literal's quotes,
or belong to the documentation and are no newlines. -/
theorem mem_render (hline : line ∈ render documentation indent) (hc : c ∈ line) :
    c ∈ indent ∨ c ∈ literalSigns ∨ (c ∈ documentedText documentation ∧ c ≠ '\n') := by
  have hopening : c ∈ indent ++ rawPrefix (documentedText documentation) ++ doubleFence →
      c ∈ indent ∨ c ∈ literalSigns := by
    intro h
    rw [List.mem_append, List.mem_append] at h
    rcases h with (h | h) | h
    · exact Or.inl h
    · exact Or.inr (mem_signs_of_mem_rawPrefix h)
    · exact Or.inr (mem_signs_of_mem_doubleFence h)
  unfold render at hline
  dsimp only at hline
  split at hline
  · rename_i hfits
    rw [List.mem_singleton.mp hline, List.mem_append, List.mem_append] at hc
    rcases hc with (hc | hc) | hc
    · exact (hopening hc).imp_right Or.inl
    · have hne : c ≠ '\n' := by
        rintro rfl
        rw [fitsOneLine, List.contains_iff_mem.mpr hc] at hfits
        exact Bool.false_ne_true hfits
      exact Or.inr ((mem_escaped hc).imp_right fun h => ⟨h, hne⟩)
    · exact Or.inr (Or.inl (mem_signs_of_mem_doubleFence hc))
  · rw [List.mem_append, List.mem_cons, List.mem_singleton] at hline
    rcases hline with (rfl | hline) | rfl
    · exact (hopening hc).imp_right Or.inl
    · obtain ⟨source, hsource, rfl⟩ := List.mem_map.mp hline
      rcases mem_renderLine hc with hc | hc
      · exact Or.inl hc
      · obtain ⟨piece, hpiece, hmem⟩ := Text.mem_of_mem_closeLines hc hsource
        have hne : c ≠ '\n' := fun h => Text.notMem_of_mem_split hpiece (h ▸ hmem)
        have hescaped : c ∈ Text.replace (documentedText documentation) doubleFence escapedFence := by
          rw [← Text.join_split '\n' (Text.replace _ _ _)]
          exact Text.mem_join hmem hpiece
        exact Or.inr ((mem_escaped hescaped).imp_right fun h => ⟨h, hne⟩)
    · rcases List.mem_append.mp hc with hc | hc
      · exact Or.inl hc
      · exact Or.inr (Or.inl (mem_signs_of_mem_doubleFence hc))

theorem render_ne_nil (documentation indent : Text) : render documentation indent ≠ [] := by
  unfold render
  dsimp only
  split
  · exact List.cons_ne_nil _ _
  · exact List.append_ne_nil_of_right_ne_nil _ (List.cons_ne_nil _ _)

/-- No rendered line holds a newline. -/
theorem newline_notMem_of_mem_render (hindent : '\n' ∉ indent)
    (h : line ∈ render documentation indent) : '\n' ∉ line := by
  intro hc
  rcases mem_render h hc with hc | hc | ⟨-, hne⟩
  · exact hindent hc
  · exact absurd hc (by decide)
  · exact hne rfl

end Docstring

end DocSplice
