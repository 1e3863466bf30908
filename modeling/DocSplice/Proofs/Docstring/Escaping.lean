import DocSplice.Proofs.Docstring.Cleaning

/-!
# Escaped quotes

A documentation text goes into a literal with every three quotes in a row escaped, and from there into
one line or into a block of lines.

* `fence_induction` goes through a text as the replacement does: three quotes at a time, or one
  character.  `escapeFences` stops at nothing but quotes, so lines are escaped one by one
  (`escapeFences_joinLines`), and they stay what the lines of a docstring are (`Dedented.escaped`).
* `escapeFences_eq_self_iff`: nothing is escaped exactly when no three quotes stand in a row.
* `joinLines_render`: a rendered docstring is its indentation and one literal, of which `quoted` is what
  stands between the quotes.
-/

namespace DocSplice.Docstring

open Text

variable {a b t line indent ending documentation : Text} {lines : List Text} {c : Char}

/-! ## Three quotes at a time -/

/-- A text with three quotes in a row escaped, wherever they stand. -/
def escapeFences (t : Text) : Text := Text.replace t doubleFence escapedFence

@[simp] theorem escapeFences_nil : escapeFences [] = [] := rfl

theorem escapeFences_fence (t : Text) :
    escapeFences (doubleFence ++ t) = escapedFence ++ escapeFences t := rfl

theorem escapeFences_cons (h : ¬doubleFence <+: c :: t) :
    escapeFences (c :: t) = c :: escapeFences t := by
  have hno : ¬doubleFence.isPrefixOf (c :: t) = true := fun hp => h (List.isPrefixOf_iff_prefix.mp hp)
  rw [escapeFences, replace, replaceFrom, if_neg hno]
  rfl

/-- **Induction** on a text, over three quotes at a time where they stand in a row and over single
characters elsewhere. -/
theorem fence_induction {P : Text → Prop} (nil : P []) (fence : ∀ t, P t → P (doubleFence ++ t))
    (single : ∀ c t, ¬doubleFence <+: c :: t → P t → P (c :: t)) (t : Text) : P t := by
  induction hlength : t.length using Nat.strong_induction_on generalizing t with
  | _ length ih =>
    cases t with
    | nil => exact nil
    | cons c t =>
      rw [List.length_cons] at hlength
      by_cases hfence : doubleFence <+: c :: t
      · obtain ⟨rest, hrest⟩ := hfence
        have hshort : rest.length < length := by
          have hboth := congrArg List.length hrest
          have hthree : doubleFence.length = 3 := rfl
          rw [List.length_append, List.length_cons] at hboth
          omega
        rw [← hrest]
        exact fence rest (ih rest.length hshort rest rfl)
      · exact single c t hfence (ih t.length (by omega) t rfl)

theorem not_fence_prefix_cons (hc : c ≠ '"') (t : Text) : ¬doubleFence <+: c :: t := by
  rintro ⟨rest, hrest⟩
  exact hc (List.cons.inj hrest).1.symm

/-- Only three quotes in a row are changed, and they are made longer. -/
theorem length_escapeFences (t : Text) : t.length ≤ (escapeFences t).length ∧
    (doubleFence <:+: t → t.length < (escapeFences t).length) := by
  induction t using fence_induction with
  | nil => exact ⟨Nat.le_refl 0, fun h => absurd h (by decide)⟩
  | fence t ih =>
    have hlonger : (doubleFence ++ t).length < (escapeFences (doubleFence ++ t)).length := by
      rw [escapeFences_fence, List.length_append, List.length_append]
      have hfence : doubleFence.length < escapedFence.length := by decide
      omega
    exact ⟨Nat.le_of_lt hlonger, fun _ => hlonger⟩
  | single c t h ih =>
    rw [escapeFences_cons h, List.length_cons, List.length_cons]
    refine ⟨Nat.succ_le_succ ih.1, fun hinside => Nat.succ_lt_succ (ih.2 ?_)⟩
    exact (List.infix_cons_iff.mp hinside).resolve_left h

/-- **Nothing is escaped** exactly when no three quotes stand in a row. -/
theorem escapeFences_eq_self_iff : escapeFences t = t ↔ ¬doubleFence <:+: t := by
  constructor
  · intro h hinside
    have hlonger := (length_escapeFences t).2 hinside
    rw [h] at hlonger
    exact Nat.lt_irrefl _ hlonger
  · intro h
    induction t using fence_induction with
    | nil => rfl
    | fence t _ => exact absurd (List.prefix_append doubleFence t).isInfix h
    | single c t hc ih =>
      rw [escapeFences_cons hc, ih fun hinside => h (hinside.trans (List.suffix_cons c t).isInfix)]

/-- What is no quote keeps what stands on its two sides apart. -/
theorem escapeFences_append_cons (hc : c ≠ '"') (a b : Text) :
    escapeFences (a ++ c :: b) = escapeFences a ++ c :: escapeFences b := by
  have hclean : c ∉ doubleFence := by simpa [doubleFence] using hc
  induction a using fence_induction with
  | nil => exact escapeFences_cons (not_fence_prefix_cons hc b)
  | fence a ih => rw [List.append_assoc, escapeFences_fence, ih, escapeFences_fence, List.append_assoc]
  | single d a hd ih =>
    have hfence : ¬doubleFence <+: d :: (a ++ c :: b) := fun hp =>
      hd (prefix_of_prefix_append_cons hclean (a := d :: a) hp)
    rw [List.cons_append, escapeFences_cons hfence, ih, escapeFences_cons hd, List.cons_append]

/-- Lines are escaped one by one. -/
theorem escapeFences_joinLines : ∀ lines : List Text,
    escapeFences (joinLines lines) = joinLines (lines.map escapeFences)
  | [] => rfl
  | [line] => rfl
  | line :: next :: rest => by
    have ih := escapeFences_joinLines (next :: rest)
    rw [joinLines] at ih
    rw [joinLines, join_cons_cons, escapeFences_append_cons (by decide), ih]
    rfl

/-- A text that is escaped ends as it did. -/
theorem getLast?_escapeFences (t : Text) : (escapeFences t).getLast? = t.getLast? := by
  induction t using fence_induction with
  | nil => rfl
  | fence t ih =>
    rw [escapeFences_fence, List.getLast?_append, List.getLast?_append, ih]
    rfl
  | single c t h ih => rw [escapeFences_cons h, List.getLast?_cons, List.getLast?_cons, ih]

/-- A text that is escaped starts as it did, or with a backslash. -/
theorem head?_escapeFences (h : (escapeFences t).head? = some c) : c = '\\' ∨ t.head? = some c := by
  cases t using fence_induction with
  | nil => exact absurd h (by simp)
  | fence t _ => exact Or.inl (Option.some.inj h).symm
  | single d t hd _ =>
    rw [escapeFences_cons hd] at h
    exact Or.inr h

theorem escapeFences_eq_nil_iff : escapeFences t = [] ↔ t = [] := by
  rw [← List.getLast?_eq_none_iff, getLast?_escapeFences, List.getLast?_eq_none_iff]

/-! ## Lines of documentation -/

/-- Escaped lines are lines of a docstring as well. -/
theorem Dedented.escaped (h : Dedented lines) : Dedented (lines.map escapeFences) := by
  have hnotMem : ∀ {c : Char}, c ∉ literalSigns → (∀ line ∈ lines, c ∉ line) →
      ∀ line ∈ lines.map escapeFences, c ∉ line := by
    intro c hsigns hlines line hline hc
    obtain ⟨source, hsource, rfl⟩ := List.mem_map.mp hline
    exact (mem_escaped hc).elim hsigns (hlines source hsource)
  have hend : ∀ last : Option Text, last ≠ some [] → last.map escapeFences ≠ some [] := by
    intro last hlast hnil
    obtain ⟨line, rfl, hline⟩ := Option.map_eq_some_iff.mp hnil
    exact hlast (congrArg some (escapeFences_eq_nil_iff.mp hline))
  refine ⟨hnotMem (by decide) h.newline_notMem, hnotMem (by decide) h.tab_notMem,
    fun line hline => ?_, ?_, ?_, fun hne => ?_⟩
  · obtain ⟨source, hsource, rfl⟩ := List.mem_map.mp hline
    refine trimEnd_eq_self_iff.mpr fun c hc => ?_
    rw [getLast?_escapeFences] at hc
    exact trimEnd_eq_self_iff.mp (h.trimEnd_eq source hsource) c hc
  · rw [List.head?_map]
    exact hend _ h.head_ne_nil
  · rw [List.getLast?_map]
    exact hend _ h.last_ne_nil
  · obtain ⟨line, hline, hleft, hflush⟩ := h.flush fun hnil => hne (by rw [hnil]; rfl)
    refine ⟨escapeFences line, List.mem_map_of_mem hline,
      fun hnil => hleft (escapeFences_eq_nil_iff.mp hnil), fun hspace => ?_⟩
    rcases head?_escapeFences hspace with hc | hc
    · exact absurd hc (by decide)
    · exact hflush hc

/-- Lines of a docstring have no terminators to lose. -/
theorem Dedented.closeLines_eq (h : Dedented lines) : closeLines lines = lines := by
  have hall : ∀ l : List Text, (∀ line ∈ l, Splice.hasReturn line = false) →
      l.getLast? ≠ some [] → closeLines l = l := by
    intro l hreturn hlast
    induction l with
    | nil => rfl
    | cons line rest ih =>
      cases rest with
      | nil =>
        have hne : line ≠ [] := fun hnil => hlast (by rw [hnil]; rfl)
        simp [closeLines, hne]
      | cons next rest =>
        rw [closeLines_cons_cons,
          dropFinalReturn_of_not_hasReturn (hreturn line List.mem_cons_self),
          ih (fun other hother => hreturn other (List.mem_cons_of_mem line hother))
            (by rwa [List.getLast?_cons_cons] at hlast)]
  refine hall lines (fun line hline => ?_) h.last_ne_nil
  exact hasReturn_of_getLast?_trimEnd (t := line) (by rw [h.trimEnd_eq line hline])

/-- Lines of a docstring are read back from their text. -/
theorem Dedented.terminatedLines_joinLines (h : Dedented lines) (hne : lines ≠ []) :
    terminatedLines (joinLines lines) = lines := by
  rw [Text.terminatedLines_joinLines h.newline_notMem hne, h.closeLines_eq]

/-! ## The literal -/

/-- The lines of the documentation text that a docstring is to hold. -/
def textLines (documentation : Text) : List Text := cleanLines (unwrapQuotes (trim documentation))

theorem dedented_textLines (documentation : Text) : Dedented (textLines documentation) :=
  dedented_cleanLines _

theorem documentedText_eq (documentation : Text) :
    documentedText documentation = joinLines (textLines documentation) := rfl

/-- The lines with an ending at each of them but the last. -/
def withEnding (ending : Text) : List Text → List Text
  | [] => []
  | [last] => [last]
  | line :: next :: rest => (line ++ ending) :: withEnding ending (next :: rest)

theorem withEnding_append_singleton (ending last : Text) : ∀ front : List Text,
    withEnding ending (front ++ [last]) = front.map (· ++ ending) ++ [last]
  | [] => rfl
  | [line] => rfl
  | line :: next :: rest => by
    have ih := withEnding_append_singleton ending last (next :: rest)
    rw [List.cons_append] at ih
    rw [List.cons_append, List.cons_append, withEnding, ih]
    rfl

theorem withEnding_nil : ∀ lines : List Text, withEnding [] lines = lines
  | [] => rfl
  | [last] => rfl
  | line :: next :: rest => by rw [withEnding, withEnding_nil (next :: rest), List.append_nil]

/-- What stands between the quotes of a rendered docstring. -/
def quoted (documentation indent ending : Text) : Text :=
  if fitsOneLine (escapeFences (documentedText documentation)) then
    escapeFences (documentedText documentation)
  else blockText indent ending ((textLines documentation).map escapeFences)

/-- A text that does not fit on one line has lines. -/
theorem textLines_ne_nil (h : ¬fitsOneLine (escapeFences (documentedText documentation)) = true) :
    textLines documentation ≠ [] := by
  intro hnil
  rw [documentedText_eq, hnil] at h
  exact h rfl

theorem joinLines_append_cons (a b : Text) (rest : List Text) :
    joinLines ((a ++ b) :: rest) = a ++ joinLines (b :: rest) := by
  cases rest with
  | nil => rfl
  | cons next rest => rw [joinLines, joinLines, join_cons_cons, join_cons_cons, List.append_assoc]

theorem joinLines_concat_append {front : List Text} (h : front ≠ []) (a b : Text) :
    joinLines (front ++ [a ++ b]) = joinLines (front ++ [a]) ++ b := by
  rw [joinLines, joinLines, join_append_singleton _ h, join_append_singleton _ h, List.append_assoc,
    List.cons_append]

/-- **A rendered docstring** is the indentation, perhaps the letter of a raw literal, and what stands
between its quotes. -/
theorem joinLines_render (documentation indent ending : Text) :
    joinLines (withEnding ending (render documentation indent)) =
      indent ++ (rawPrefix (documentedText documentation) ++
        (doubleFence ++ (quoted documentation indent ending ++ doubleFence))) := by
  rw [quoted, render, ← escapeFences]
  split
  · rw [withEnding, joinLines, join_singleton]
    simp only [List.append_assoc]
  · rename_i hfits
    have hne := textLines_ne_nil hfits
    have hlines : terminatedLines (escapeFences (documentedText documentation)) =
        (textLines documentation).map escapeFences := by
      rw [documentedText_eq, escapeFences_joinLines]
      refine (dedented_textLines documentation).escaped.terminatedLines_joinLines ?_
      exact fun hnil => hne (List.map_eq_nil_iff.mp hnil)
    rw [hlines, withEnding_append_singleton, List.map_cons, List.map_map,
      joinLines_concat_append (List.cons_ne_nil _ _), List.cons_append, joinLines_append_cons, blockText]
    simp only [List.append_assoc, List.cons_append]
    rfl

end DocSplice.Docstring
