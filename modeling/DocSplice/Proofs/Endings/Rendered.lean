import DocSplice.Proofs.Brace.Rendering
import DocSplice.Proofs.Docstring.Rendering
import DocSplice.Proofs.Endings.Uniform
import DocSplice.Proofs.Query.Rendering

/-!
# Rendered documentation and carriage returns

Documentation may itself have carriage returns, as long as a newline follows each of them.  Then they
stand at the ends of its lines, and every renderer trims the ends of lines; so what is rendered holds
no carriage return, whatever the kind of the source.

`ReturnsLast` says of a line that it has none but at its end.  The lines of documentation of that
sort have the property (`returnsLast_of_isInfix`), and so do the lines of a text with uniform endings
(`returnsLast_of_uniform`), whose indentation therefore holds none (`return_notMem_indent`).
-/

namespace DocSplice

namespace Text

variable {t u line : Text}

/-- There is no carriage return on the line but perhaps at its end. -/
def ReturnsLast (line : Text) : Prop := '\r' ∉ line.dropLast

theorem returnsLast_of_notMem (h : '\r' ∉ line) : ReturnsLast line :=
  fun hc => h (List.dropLast_subset line hc)

theorem Returned.returnsLast (h : Returned line) : ReturnsLast line := by
  obtain ⟨core, rfl, hcore⟩ := h
  rw [ReturnsLast, List.dropLast_concat]
  exact hcore

/-- A carriage return that stands before another character is no line's last one. -/
theorem returnsLast_iff : ReturnsLast line ↔ ∀ a b, line = a ++ '\r' :: b → b = [] := by
  constructor
  · rintro h a b rfl
    by_contra hb
    refine h ?_
    rw [List.dropLast_append_of_ne_nil (List.cons_ne_nil _ _), List.dropLast_cons_of_ne_nil hb]
    exact List.mem_append_right a List.mem_cons_self
  · intro h hc
    obtain ⟨a, b, hsplit⟩ := List.append_of_mem hc
    have hne : line ≠ [] := by
      rintro rfl
      exact absurd hc List.not_mem_nil
    have hline : line = a ++ '\r' :: (b ++ [line.getLast hne]) := by
      conv => lhs; rw [← List.dropLast_concat_getLast hne, hsplit]
      rw [List.append_assoc, List.cons_append]
    exact absurd (h a _ hline) (List.append_ne_nil_of_right_ne_nil b (List.cons_ne_nil _ _))

/-- A stretch of a line has no carriage returns but at its end either. -/
theorem ReturnsLast.of_isInfix (h : ReturnsLast line) (hin : t <:+: line) : ReturnsLast t := by
  obtain ⟨before, after, rfl⟩ := hin
  refine returnsLast_iff.mpr fun a b ht => ?_
  have hnil := returnsLast_iff.mp h (before ++ a) (b ++ after) (by rw [ht]; simp)
  exact (List.append_eq_nil_iff.mp hnil).1

theorem ReturnsLast.return_notMem_trimEnd (h : ReturnsLast line) : '\r' ∉ trimEnd line := by
  intro hc
  rcases List.eq_nil_or_concat line with rfl | ⟨core, last, rfl⟩
  · exact absurd hc List.not_mem_nil
  · rw [List.concat_eq_append] at h hc
    rw [ReturnsLast, List.dropLast_concat] at h
    have hlast : last = '\r' := by
      rcases List.mem_append.mp (mem_of_mem_trimEnd hc) with hcore | hlast
      · exact absurd hcore h
      · exact (List.mem_singleton.mp hlast).symm
    have htrim : trimEnd (core ++ [last]) = trimEnd core := by
      rw [hlast, trimEnd, dropEndWhile, List.reverse_concat, List.dropWhile_cons_of_pos (by decide)]
      rfl
    rw [htrim] at hc
    exact h (mem_of_mem_trimEnd hc)

/-- The indentation of a line that is not blank holds no carriage return. -/
theorem ReturnsLast.return_notMem_indent (h : ReturnsLast line) (hblank : allBlank line = false) :
    '\r' ∉ indent line := by
  intro hc
  obtain ⟨a, b, hsplit⟩ := List.append_of_mem hc
  have hline : line = a ++ '\r' :: (b ++ trimStart line) := by
    conv => lhs; rw [← indent_append_trimStart line, hsplit]
    rw [List.append_assoc, List.cons_append]
  have hnil := (List.append_eq_nil_iff.mp (returnsLast_iff.mp h _ _ hline)).2
  have hall : allBlank line = true :=
    List.all_eq_true.mpr fun c hmem => List.dropWhile_eq_nil_iff.mp hnil c hmem
  rw [hblank] at hall
  exact Bool.false_ne_true hall

/-- A line of a text with uniform endings. -/
theorem returnsLast_of_uniform (h : Uniform t) (hline : line ∈ splitLines t) : ReturnsLast line := by
  obtain ⟨front, last, hlines⟩ : ∃ front last, splitLines t = front ++ [last] :=
    ⟨_, _, (List.dropLast_concat_getLast (splitLines_ne_nil t)).symm⟩
  have hclean : ∀ l ∈ front ++ [last], '\n' ∉ l :=
    fun l hl => newline_notMem_of_mem_splitLines (hlines ▸ hl)
  have hread : t = LineBuffer.toText ⟨front ++ [last], endsWithNewline t⟩ := by
    rw [← hlines]
    exact (LineBuffer.toText_ofText t).symm
  obtain ⟨hfront, hlast⟩ := (LineBuffer.uniform_toText_iff hclean).mp (hread ▸ h)
  rw [hlines] at hline
  rcases List.mem_append.mp hline with hline | hline
  · exact (hfront line hline).returnsLast
  · rw [List.mem_singleton.mp hline]
    unfold LineBuffer.LastUniform at hlast
    split at hlast
    · exact hlast.returnsLast
    · exact returnsLast_of_notMem hlast

/-! ## Stretches of documentation -/

/-- A stretch of paired documentation without a newline has a carriage return only at its end. -/
theorem returnsLast_of_isInfix (hpaired : ReturnsPaired u) (hin : t <:+: u) (hclean : '\n' ∉ t) :
    ReturnsLast t := by
  obtain ⟨before, after, rfl⟩ := hin
  refine returnsLast_iff.mpr fun a b ht => ?_
  cases b with
  | nil => rfl
  | cons c b =>
    subst ht
    have hnext := hpaired (before.length + a.length) (by simp)
    rw [List.append_assoc, List.append_assoc, List.getElem?_append_right (by omega),
      List.getElem?_append_right (by omega),
      show before.length + a.length + 1 - before.length - a.length = 1 by omega] at hnext
    have hc : c = '\n' := by simpa using hnext
    exact absurd (hc ▸ List.mem_append_right a (List.mem_cons_of_mem _ List.mem_cons_self)) hclean

theorem dropAroundWhile_isInfix (p : Char → Bool) (t : Text) : dropAroundWhile p t <:+: t :=
  (dropEndWhile_isPrefix p _).isInfix.trans (List.dropWhile_suffix p).isInfix

theorem trim_isInfix (t : Text) : trim t <:+: t :=
  (dropEndWhile_isPrefix isBlank _).isInfix.trans (List.dropWhile_suffix isBlank).isInfix

theorem dropFinalReturn_isPrefix : ∀ t : Text, dropFinalReturn t <+: t
  | [] => List.nil_prefix
  | [c] => by
    by_cases hc : c = '\r'
    · subst hc
      exact List.nil_prefix
    · simp [dropFinalReturn, hc]
  | c :: d :: t => by
    have hcut : dropFinalReturn (c :: d :: t) = c :: dropFinalReturn (d :: t) := by
      simp [dropFinalReturn]
    rw [hcut, List.prefix_cons_inj]
    exact dropFinalReturn_isPrefix (d :: t)

/-- A piece is a stretch of what was cut. -/
theorem infix_of_mem_split {sep : Char} : ∀ {t p : Text}, p ∈ split sep t → p <:+: t
  | [], p, h => by
    rw [split_nil, List.mem_singleton] at h
    exact h ▸ List.nil_infix
  | c :: t, p, h => by
    have hrest : ∀ {q : Text}, q ∈ split sep t → q <:+: c :: t :=
      fun hq => (infix_of_mem_split hq).trans (List.suffix_cons c t).isInfix
    by_cases hc : c = sep
    · rw [hc, split_cons_sep, List.mem_cons] at h
      rcases h with rfl | h
      · exact List.nil_infix
      · exact hc ▸ hrest h
    · obtain ⟨piece, pieces, hs, hcut⟩ := split_cons_of_ne hc t
      rw [hcut, List.mem_cons] at h
      rcases h with rfl | h
      · -- the first piece is the text up to the first separator
        have hjoin := join_split sep t
        rw [hs] at hjoin
        refine List.IsPrefix.isInfix ((List.prefix_cons_inj c).mpr ?_)
        rw [← hjoin]
        cases pieces with
        | nil => exact List.prefix_refl _
        | cons next rest => exact List.prefix_append _ _
      · exact hrest (hs ▸ List.mem_cons_of_mem piece h)

theorem prefix_of_mem_closeLines {pieces : List Text} (h : line ∈ closeLines pieces) :
    ∃ piece ∈ pieces, line <+: piece := by
  obtain ⟨piece, hpiece, rfl | rfl⟩ := exists_piece_of_mem_closeLines h
  · exact ⟨line, hpiece, List.prefix_refl line⟩
  · exact ⟨piece, hpiece, dropFinalReturn_isPrefix piece⟩

/-- The lines of paired documentation, trimmed, hold no carriage return. -/
theorem return_notMem_of_mem_terminatedLines (hpaired : ReturnsPaired u) (hin : t <:+: u)
    (hline : line ∈ terminatedLines t) : '\r' ∉ trimEnd line := by
  obtain ⟨piece, hpiece, hstart⟩ := prefix_of_mem_closeLines hline
  have hlast : ReturnsLast piece :=
    returnsLast_of_isInfix hpaired ((infix_of_mem_split hpiece).trans hin) (notMem_of_mem_split hpiece)
  exact (hlast.of_isInfix hstart.isInfix).return_notMem_trimEnd

end Text

open Text

variable {documentation indent line : Text}

/-! ## The three renderers -/

theorem Brace.return_notMem_of_mem_render (hpaired : ReturnsPaired documentation)
    (hindent : '\r' ∉ indent) (h : line ∈ Brace.render indent documentation) : '\r' ∉ line := by
  obtain ⟨source, hsource, rfl⟩ := List.mem_map.mp h
  exact Brace.notMem_renderLine (by decide) hindent
    (return_notMem_of_mem_terminatedLines hpaired (dropAroundWhile_isInfix _ _) hsource)

theorem Query.return_notMem_of_mem_render (hpaired : ReturnsPaired documentation)
    (h : line ∈ Query.render documentation) : '\r' ∉ line := by
  obtain ⟨source, hsource, rfl⟩ := List.mem_map.mp h
  exact Query.notMem_renderLine (by decide)
    (return_notMem_of_mem_terminatedLines hpaired (dropAroundWhile_isInfix _ _) hsource)

namespace Docstring

/-- Quotes are taken off at the ends. -/
theorem infix_of_between? {quote t inner : Text} (h : between? quote t = some inner) :
    inner <:+: t := by
  obtain ⟨rest, hrest, hinner⟩ := Option.bind_eq_some_iff.mp h
  have hbefore : quote ++ rest = t := List.isPrefixOf?_eq_some_iff_append_eq.mp hrest
  have hafter : inner ++ quote = rest := List.isSuffixOf?_eq_some_iff_append_eq.mp hinner
  exact ⟨quote, quote, by rw [List.append_assoc, hafter, hbefore]⟩

theorem unwrapQuotes_isInfix (t : Text) : unwrapQuotes t <:+: t := by
  have hinner : ∀ body : Text, body <:+ t →
      (([doubleFence, singleFence].findSome? (between? · body)).getD t) <:+: t := by
    intro body hbody
    cases hfound : [doubleFence, singleFence].findSome? (between? · body) with
    | none => exact List.infix_refl t
    | some inner =>
      obtain ⟨quote, -, hquote⟩ := List.exists_of_findSome?_eq_some hfound
      exact (infix_of_between? hquote).trans hbody.isInfix
  unfold unwrapQuotes
  dsimp only
  split
  · exact hinner _ (List.suffix_cons _ _)
  · exact hinner _ (List.suffix_cons _ _)
  · exact hinner _ (List.suffix_refl _)

/-- Expanding tabs moves no carriage return away from the end. -/
theorem returnsLast_expandTabsFrom : ∀ {column : Nat} {line : Text}, ReturnsLast line →
    ReturnsLast (expandTabsFrom column line)
  | _, [], h => h
  | column, c :: line, h => by
    have hrest : ReturnsLast line := h.of_isInfix (List.suffix_cons c line).isInfix
    have hline : c = '\r' → line = [] := fun hc => returnsLast_iff.mp h [] line (by rw [hc]; rfl)
    unfold expandTabsFrom
    split
    · refine returnsLast_iff.mpr fun a b hsplit => ?_
      rcases List.append_eq_append_iff.mp hsplit with ⟨front, rfl, hfront⟩ | ⟨front, hblanks, hfront⟩
      · exact returnsLast_iff.mp (returnsLast_expandTabsFrom hrest) front b hfront
      · cases front with
        | nil => exact returnsLast_iff.mp (returnsLast_expandTabsFrom hrest) [] b hfront.symm
        | cons d front =>
          have hd : '\r' = d := (List.cons.inj hfront).1
          have hmem : d ∈ List.replicate (8 - column % 8) ' ' :=
            hblanks ▸ List.mem_append_right a List.mem_cons_self
          rw [← hd] at hmem
          exact absurd (List.eq_of_mem_replicate hmem) (by decide)
    · refine returnsLast_iff.mpr fun a b hsplit => ?_
      cases a with
      | nil =>
        obtain ⟨hc, hb⟩ := List.cons.inj hsplit
        rw [hline hc] at hb
        exact hb.symm
      | cons d a =>
        exact returnsLast_iff.mp (returnsLast_expandTabsFrom hrest) a b (List.cons.inj hsplit).2

/-- The text of a docstring holds no carriage return. -/
theorem return_notMem_clean {value : Text} (hpaired : ReturnsPaired documentation)
    (hin : value <:+: documentation) : '\r' ∉ clean value := by
  have hexpanded : ∀ l ∈ (split '\n' value).map expandTabs, ReturnsLast l := by
    intro l hl
    obtain ⟨piece, hpiece, rfl⟩ := List.mem_map.mp hl
    exact returnsLast_expandTabsFrom (returnsLast_of_isInfix hpaired
      ((infix_of_mem_split hpiece).trans hin) (notMem_of_mem_split hpiece))
  have hdedent : ∀ {lines : List Text}, (∀ l ∈ lines, ReturnsLast l) →
      ∀ l ∈ dedent lines, '\r' ∉ l := by
    intro lines hlines l hl
    cases lines with
    | nil => exact absurd hl List.not_mem_nil
    | cons first rest =>
      rcases List.mem_cons.mp hl with rfl | hl
      · have hfirst : ReturnsLast (trimStart first) :=
          (hlines first List.mem_cons_self).of_isInfix (List.dropWhile_suffix _).isInfix
        exact hfirst.return_notMem_trimEnd
      · obtain ⟨line, hline, rfl⟩ := List.mem_map.mp hl
        have hcut : ReturnsLast (cutSpaces (margin rest) line) :=
          (hlines line (List.mem_cons_of_mem first hline)).of_isInfix (List.drop_suffix _ _).isInfix
        exact hcut.return_notMem_trimEnd
  intro hc
  rcases mem_of_mem_join hc with hc | ⟨line, hline, hc⟩
  · exact absurd hc (by decide)
  · have hkept : line ∈ dedent ((split '\n' value).map expandTabs) := by
      have hline := (List.dropWhile_sublist _).mem hline
      exact List.mem_reverse.mp ((List.dropWhile_sublist _).mem (List.mem_reverse.mp hline))
    exact hdedent hexpanded line hkept hc

theorem return_notMem_of_mem_render (hpaired : ReturnsPaired documentation)
    (hindent : '\r' ∉ indent) (h : line ∈ render documentation indent) : '\r' ∉ line := by
  have hdocumented : '\r' ∉ documentedText documentation :=
    return_notMem_clean hpaired ((unwrapQuotes_isInfix _).trans (trim_isInfix documentation))
  intro hc
  rcases mem_render h hc with hc | hc | ⟨hc, -⟩
  · exact hindent hc
  · exact absurd hc (by decide)
  · exact hdocumented hc

end Docstring

end DocSplice
