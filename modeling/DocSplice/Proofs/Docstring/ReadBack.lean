import DocSplice.Proofs.Docstring.Closing

/-!
# Docstrings read back

What is written between the quotes is the documentation text with its quotes escaped, on one line or as
a block (`layOut`).  Cleaning takes the layout away again (`clean_layOut`), for every indentation of
spaces and tabs and for both kinds of line ends, and it does not matter whether the escapes are undone
before (`escapeFences_layOut`).

* `clean_literalValue_render`: who reads a docstring as it stands in the source gets the documentation
  text back when there was nothing to escape.
* `clean_value_iff`: the value of the literal, for which backslashes in front of quotes go away unless
  the literal is raw (`value?`), is the documentation text, unless it holds both a backslash and three
  quotes in a row.  Then the literal is raw and the quotes are escaped all the same, so the backslashes
  that escape them stay (`value_keeps_escapes`).

A text that fits on one line is trimmed at its start, so it must not start with a blank other than a
space, which a cleaned text can do below an empty first line.
-/

namespace DocSplice.Docstring

open Text

variable {a t indent ending documentation : Text} {lines : List Text} {c : Char} {fits : Bool}

/-! ## What is between the quotes -/

/-- Lines on one line, or as a block. -/
def layOut (fits : Bool) (indent ending : Text) (lines : List Text) : Text :=
  if fits then joinLines lines else blockText indent ending lines

/-- A text without newlines is one line of a docstring, or none, and clean as it stands. -/
theorem clean_joinLines (h : Dedented lines) (hone : '\n' ∉ joinLines lines)
    (hfirst : ∀ c, (joinLines lines).head? = some c → isBlank c = true → c = ' ') :
    clean (joinLines lines) = joinLines lines := by
  cases lines with
  | nil => rfl
  | cons line rest =>
    cases rest with
    | nil => exact clean_line h hfirst
    | cons next rest =>
      refine absurd ?_ hone
      rw [joinLines, join_cons_cons]
      exact List.mem_append_right line List.mem_cons_self

/-- **Cleaning takes the layout away.** -/
theorem clean_layOut (h : Dedented lines) (hindent : ∀ c ∈ indent, c = ' ' ∨ c = '\t')
    (hending : IsEnding ending) (hone : fits = true → '\n' ∉ joinLines lines)
    (hblock : ¬fits = true → lines ≠ [])
    (hfirst : ∀ c, (joinLines lines).head? = some c → isBlank c = true → c = ' ') :
    clean (layOut fits indent ending lines) = joinLines lines := by
  rw [layOut]
  split
  · rename_i hfits
    exact clean_joinLines h (hone hfits) hfirst
  · rename_i hfits
    exact clean_blockText h hindent hending (hblock hfits)

/-- A text that fits on one line holds no newline. -/
theorem newline_notMem_of_fitsOneLine (h : fitsOneLine t = true) : '\n' ∉ t := by
  intro hc
  rw [fitsOneLine, List.contains_iff_mem.mpr hc] at h
  exact Bool.false_ne_true h

/-- A text that fits on one line when it is escaped holds no newline. -/
theorem newline_notMem_of_escapeFences (h : fitsOneLine (escapeFences t) = true) : '\n' ∉ t := by
  intro hc
  obtain ⟨a, b, rfl⟩ := List.append_of_mem hc
  refine newline_notMem_of_fitsOneLine h ?_
  rw [escapeFences_append_cons (by decide)]
  exact List.mem_append_right _ List.mem_cons_self

theorem escapeFences_documentedText (documentation : Text) :
    escapeFences (documentedText documentation) =
      joinLines ((textLines documentation).map escapeFences) :=
  escapeFences_joinLines (textLines documentation)

theorem quoted_eq (documentation indent ending : Text) :
    quoted documentation indent ending =
      layOut (fitsOneLine (escapeFences (documentedText documentation))) indent ending
        ((textLines documentation).map escapeFences) := by
  rw [quoted, layOut, ← escapeFences_documentedText]

/-- A text that is escaped does not start with another blank than before. -/
theorem space_of_head?_escapeFences
    (hfirst : ∀ c, t.head? = some c → isBlank c = true → c = ' ') :
    ∀ c, (escapeFences t).head? = some c → isBlank c = true → c = ' ' := by
  intro c hc hblank
  rcases head?_escapeFences hc with rfl | hc
  · exact absurd hblank (by decide)
  · exact hfirst c hc hblank

/-- **What stands between the quotes** is cleaned to the escaped documentation text. -/
theorem clean_quoted (hindent : ∀ c ∈ indent, c = ' ' ∨ c = '\t') (hending : IsEnding ending)
    (hfirst : ∀ c, (documentedText documentation).head? = some c → isBlank c = true → c = ' ') :
    clean (quoted documentation indent ending) = escapeFences (documentedText documentation) := by
  have hspace := space_of_head?_escapeFences hfirst
  rw [quoted_eq]
  rw [escapeFences_documentedText] at hspace ⊢
  refine clean_layOut (dedented_textLines documentation).escaped hindent hending
    newline_notMem_of_fitsOneLine (fun hfits hnil => ?_) hspace
  rw [← escapeFences_documentedText] at hfits
  exact textLines_ne_nil hfits (List.map_eq_nil_iff.mp hnil)

/-! ## The source of the literal -/

/-- What stands between two copies of a text is found between them. -/
theorem between?_append (quote t : Text) : between? quote (quote ++ (t ++ quote)) = some t := by
  rw [between?, stripPrefix?_append, Option.bind_some, stripSuffix?_append]

/-- The letter of a raw literal is taken off with the quotes. -/
theorem literalValue_quotes (text content : Text) :
    literalValue (rawPrefix text ++ (doubleFence ++ (content ++ doubleFence))) = content := by
  have hbody : (rawPrefix text ++ (doubleFence ++ (content ++ doubleFence))).dropWhile isAsciiLetter =
      doubleFence ++ (content ++ doubleFence) := by
    rw [rawPrefix]
    split
    · rfl
    · rfl
  rw [literalValue, hbody, List.findSome?_cons, between?_append]
  rfl

/-- **A docstring is read back.**  What is read off the source of a rendered docstring, cleaned, is the
documentation text, when that holds no three quotes in a row and does not start with a blank other than
a space. -/
theorem clean_literalValue_render (documentation indent ending : Text)
    (hindent : ∀ c ∈ indent, c = ' ' ∨ c = '\t') (hending : ending = [] ∨ ending = ['\r'])
    (hquotes : ¬doubleFence <:+: documentedText documentation)
    (hfirst : ∀ c, (documentedText documentation).head? = some c → isBlank c = true → c = ' ') :
    ∃ literal, joinLines (withEnding ending (render documentation indent)) = indent ++ literal ∧
      clean (literalValue literal) = documentedText documentation := by
  refine ⟨_, joinLines_render documentation indent ending, ?_⟩
  rw [literalValue_quotes, clean_quoted hindent hending hfirst, escapeFences_eq_self_iff.mpr hquotes]

/-- A text whose first line is indented more than its last one, with a backslash and quotes, below
a tab and with carriage returns. -/
theorem clean_literalValue_render_indented :
    let documentation := "\"\"\"\n    say \"\"\n\n  \\d\"\n\"\"\"".toList
    documentedText documentation = "  say \"\"\n\n\\d\"".toList ∧
      ∃ literal, joinLines (withEnding ['\r'] (render documentation [' ', '\t'])) =
          [' ', '\t'] ++ literal ∧
        clean (literalValue literal) = documentedText documentation := by
  intro documentation
  have htext : documentedText documentation = "  say \"\"\n\n\\d\"".toList := by decide +kernel
  refine ⟨htext, clean_literalValue_render documentation [' ', '\t'] ['\r'] (by simp) (Or.inr rfl) ?_ ?_⟩
  · rw [htext]
    decide
  · intro c hc _
    rw [htext] at hc
    exact (Option.some.inj hc).symm

/-! ## The value of the literal -/

/-- The characters that stand for themselves or, behind a backslash, for a quote; `none` when a
backslash stands in front of anything else. -/
def unescape? : Text → Option Text
  | [] => some []
  | '\\' :: '"' :: t => (unescape? t).map ('"' :: ·)
  | c :: t => if c = '\\' then none else (unescape? t).map (c :: ·)

/-- What stands between the quotes of a literal in three double quotes, when the literal is closed where
it ends. -/
def content? (literal : Text) : Option Text :=
  (stripPrefix? literal doubleFence).bind fun rest =>
    if Reader.start.behind? rest = some [] then stripSuffix? rest doubleFence else none

/-- The value of a literal: a raw one stands for its characters as they are, and in any other one
backslashes escape quotes. -/
def value? (literal : Text) : Option Text :=
  match literal with
  | 'r' :: quotes => content? quotes
  | _ => (content? literal).bind unescape?

theorem unescape?_cons (hc : c ≠ '\\') (t : Text) :
    unescape? (c :: t) = (unescape? t).map (c :: ·) := by
  rw [unescape?, if_neg hc]
  rintro t' rfl
  exact absurd rfl hc

theorem unescape?_escapedFence (t : Text) :
    unescape? (escapedFence ++ t) = (unescape? t).map (doubleFence ++ ·) := by
  have hquotes : unescape? (escapedFence ++ t) =
      (((unescape? t).map ('"' :: ·)).map ('"' :: ·)).map ('"' :: ·) := rfl
  rw [hquotes, Option.map_map, Option.map_map]
  rfl

/-- In a text without backslashes the escapes are undone. -/
theorem unescape?_escapeFences (h : '\\' ∉ t) : unescape? (escapeFences t) = some t := by
  induction t using fence_induction with
  | nil => rfl
  | fence t ih =>
    rw [escapeFences_fence, unescape?_escapedFence, ih fun ht => h (List.mem_append_right _ ht)]
    rfl
  | single c t hfence ih =>
    have hc : c ≠ '\\' := fun hc => h (hc ▸ List.mem_cons_self)
    rw [escapeFences_cons hfence, unescape?_cons hc, ih fun ht => h (List.mem_cons_of_mem c ht)]
    rfl

/-! ## Escapes and layout -/

/-- What holds no quote is not escaped. -/
theorem escapeFences_append (h : '"' ∉ a) (b : Text) : escapeFences (a ++ b) = a ++ escapeFences b := by
  induction a with
  | nil => rfl
  | cons c a ih =>
    have hc : c ≠ '"' := fun hc => h (hc ▸ List.mem_cons_self)
    rw [List.cons_append, escapeFences_cons (not_fence_prefix_cons hc _),
      ih fun ha => h (List.mem_cons_of_mem c ha), List.cons_append]

/-- A text that is escaped is as blank as before. -/
theorem allBlank_escapeFences (t : Text) : allBlank (escapeFences t) = allBlank t := by
  induction t using fence_induction with
  | nil => rfl
  | fence t _ => rfl
  | single c t hfence ih =>
    rw [escapeFences_cons hfence]
    exact congrArg (isBlank c && ·) ih

/-- A line of a block is escaped behind its indentation. -/
theorem escapeFences_renderLine (hindent : '"' ∉ indent) (line : Text) :
    escapeFences (renderLine indent line) = renderLine indent (escapeFences line) := by
  rw [renderLine, renderLine, allBlank_escapeFences]
  split
  · rfl
  · exact escapeFences_append hindent line

/-- **Escaping keeps the layout.** -/
theorem escapeFences_layOut (hindent : '"' ∉ indent) (fits : Bool) (lines : List Text) :
    escapeFences (layOut fits indent [] lines) = layOut fits indent [] (lines.map escapeFences) := by
  rw [layOut, layOut]
  split
  · exact escapeFences_joinLines lines
  · have hlast : escapeFences indent = indent := by
      have happend := escapeFences_append hindent []
      rwa [escapeFences_nil, List.append_nil] at happend
    have hlines : (lines.map (renderLine indent · ++ [])).map escapeFences =
        (lines.map escapeFences).map (renderLine indent · ++ []) := by
      rw [List.map_map, List.map_map]
      refine List.map_congr_left fun line _ => ?_
      simp only [Function.comp_apply, List.append_nil]
      exact escapeFences_renderLine hindent line
    rw [blockText, blockText, escapeFences_joinLines, List.map_append, List.map_cons, hlines,
      List.map_singleton, hlast, escapeFences_nil]

/-- Laid out lines hold what the lines hold, and blanks. -/
theorem backslash_notMem_layOut (hindent : '\\' ∉ indent) (hlines : '\\' ∉ joinLines lines) :
    '\\' ∉ layOut fits indent [] lines := by
  rw [layOut]
  split
  · exact hlines
  · intro hmem
    rcases (mem_of_mem_join hmem).resolve_left (by decide) with ⟨piece, hpiece, hc⟩
    rcases List.mem_append.mp hpiece with hpiece | hpiece
    · rcases List.mem_cons.mp hpiece with rfl | hpiece
      · exact absurd hc List.not_mem_nil
      · obtain ⟨line, hline, rfl⟩ := List.mem_map.mp hpiece
        rw [List.append_nil] at hc
        exact (mem_renderLine hc).elim hindent fun hc => hlines (mem_join hc hline)
    · exact hindent (List.mem_singleton.mp hpiece ▸ hc)

/-- Without backslashes in the text, unescaping what stands between the quotes leaves the lines of the
text. -/
theorem unescape?_quoted (hindent : ∀ c ∈ indent, c = ' ' ∨ c = '\t')
    (hback : '\\' ∉ documentedText documentation) :
    unescape? (quoted documentation indent []) =
      some (layOut (fitsOneLine (escapeFences (documentedText documentation))) indent []
        (textLines documentation)) := by
  have hquote : '"' ∉ indent := fun hc => absurd (hindent _ hc) (by decide)
  have hslash : '\\' ∉ indent := fun hc => absurd (hindent _ hc) (by decide)
  rw [quoted_eq, ← escapeFences_layOut hquote]
  exact unescape?_escapeFences (backslash_notMem_layOut hslash hback)

/-! ## What the docstring says -/

/-- The quotes of a literal that is closed by its last three are taken off. -/
theorem content?_quotes {content : Text} (h : Reader.start.behind? (content ++ doubleFence) = some []) :
    content? (doubleFence ++ (content ++ doubleFence)) = some content := by
  rw [content?, stripPrefix?_append, Option.bind_some, if_pos h, stripSuffix?_append]

/-- Whether the content of a literal is unescaped depends on the backslashes of the text. -/
theorem value?_quotes (text : Text) {content : Text}
    (h : Reader.start.behind? (content ++ doubleFence) = some []) :
    value? (rawPrefix text ++ (doubleFence ++ (content ++ doubleFence))) =
      if '\\' ∈ text then some content else unescape? content := by
  rw [rawPrefix]
  by_cases hback : '\\' ∈ text
  · rw [List.contains_iff_mem.mpr hback, if_pos rfl, if_pos hback]
    exact content?_quotes h
  · have hordinary : List.contains text '\\' = false :=
      Bool.eq_false_iff.mpr fun hc => hback (List.contains_iff_mem.mp hc)
    have hcontent : value? (doubleFence ++ (content ++ doubleFence)) =
        (content? (doubleFence ++ (content ++ doubleFence))).bind unescape? := rfl
    rw [hordinary, if_neg Bool.false_ne_true, if_neg hback, List.nil_append, hcontent,
      content?_quotes h, Option.bind_some]

theorem allBlank_of_spaces (h : ∀ c ∈ indent, c = ' ' ∨ c = '\t') : allBlank indent = true := by
  refine List.all_eq_true.mpr fun c hc => ?_
  rcases h c hc with rfl | rfl
  · decide
  · decide

/-- **The value of a docstring.**  Every rendered docstring has a value, and cleaned, this is the
documentation text exactly when that does not hold both a backslash and three quotes in a row. -/
theorem clean_value_iff (documentation indent : Text) (hindent : ∀ c ∈ indent, c = ' ' ∨ c = '\t')
    (hfirst : ∀ c, (documentedText documentation).head? = some c → isBlank c = true → c = ' ') :
    ∃ literal value, joinLines (render documentation indent) = indent ++ literal ∧
      value? literal = some value ∧
      (clean value = documentedText documentation ↔
        ¬('\\' ∈ documentedText documentation ∧ doubleFence <:+: documentedText documentation)) := by
  have hsource := joinLines_render documentation indent []
  rw [withEnding_nil] at hsource
  have hvalue := value?_quotes (documentedText documentation)
    (behind?_quoted documentation (allBlank_of_spaces hindent) (Or.inl rfl))
  by_cases hback : '\\' ∈ documentedText documentation
  · -- the literal is raw, so the escapes are a part of its value
    rw [if_pos hback] at hvalue
    refine ⟨_, _, hsource, hvalue, ?_⟩
    rw [clean_quoted hindent (Or.inl rfl) hfirst, escapeFences_eq_self_iff]
    exact ⟨fun hquotes hboth => hquotes hboth.2, fun hnot hquotes => hnot ⟨hback, hquotes⟩⟩
  · rw [if_neg hback, unescape?_quoted hindent hback] at hvalue
    refine ⟨_, _, hsource, hvalue, iff_of_true ?_ fun hboth => hback hboth.1⟩
    exact clean_layOut (dedented_textLines documentation) hindent (Or.inl rfl)
      newline_notMem_of_escapeFences textLines_ne_nil hfirst

/-- Quotes in a text on two lines. -/
theorem clean_value_iff_quotes :
    let documentation := "A \"\"\"quoted\"\"\" word\n  and \"\"\"\"more.".toList
    (∀ c ∈ indentUnit, c = ' ' ∨ c = '\t') ∧
      (∀ c, (documentedText documentation).head? = some c → isBlank c = true → c = ' ') ∧
      ∃ literal value, joinLines (render documentation indentUnit) = indentUnit ++ literal ∧
        value? literal = some value ∧
        (clean value = documentedText documentation ↔
          ¬('\\' ∈ documentedText documentation ∧ doubleFence <:+: documentedText documentation)) := by
  intro documentation
  have hindent : ∀ c ∈ indentUnit, c = ' ' ∨ c = '\t' := by simp [indentUnit]
  have htext : documentedText documentation = "A \"\"\"quoted\"\"\" word\nand \"\"\"\"more.".toList := by
    decide +kernel
  have hfirst : ∀ c, (documentedText documentation).head? = some c → isBlank c = true → c = ' ' := by
    intro c hc hblank
    rw [htext] at hc
    rw [← Option.some.inj hc] at hblank
    exact absurd hblank (by decide)
  exact ⟨hindent, hfirst, clean_value_iff documentation indentUnit hindent hfirst⟩

/-- **Escapes in a raw literal** are a part of its value: a backslash and three quotes come back as four
backslashes and three quotes. -/
theorem value_keeps_escapes :
    let documentation := "\\d \"\"\"x".toList
    documentedText documentation = documentation ∧ documentation.head? = some '\\' ∧
      ∃ literal value, joinLines (render documentation indentUnit) = indentUnit ++ literal ∧
        value? literal = some value ∧ clean value = "\\d \\\"\\\"\\\"x".toList ∧
        clean value ≠ documentedText documentation := by
  intro documentation
  exact ⟨by decide +kernel, rfl, "r\"\"\"\\d \\\"\\\"\\\"x\"\"\"".toList, "\\d \\\"\\\"\\\"x".toList,
    by decide +kernel, by decide +kernel, by decide +kernel, by decide +kernel⟩

end DocSplice.Docstring
