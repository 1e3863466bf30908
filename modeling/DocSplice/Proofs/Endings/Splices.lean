import DocSplice.Proofs.Endings.Uniform
import DocSplice.Proofs.Injected

/-!
# Splices in a text with uniform line endings

A splice guesses the endings of its lines from the line that it starts on.  In a text with uniform
line endings the guess is right for every line but the last, and for the last one too when a newline
closes it.  A last line that no newline closes has no ending that could be copied: lines that are
put above it stay without a carriage return, and where a splice that starts further up reaches down
to it, the new last line gets one that no newline follows.

`Splice.KeepsEnd` says that none of this happens, and `uniform_edit_iff` that nothing else can.
-/

namespace DocSplice

open Text

namespace Splice

/-- The splice starts on a line, and its own lines come without line endings; where it reaches the
end of the text, there are some. -/
structure Unended (count : Nat) (s : Splice) : Prop where
  start_lt : s.start < count
  newline_notMem : ∀ line ∈ s.lines, '\n' ∉ line
  return_notMem : ∀ line ∈ s.lines, '\r' ∉ line
  nonempty : s.stop = count → s.lines ≠ []

/-- In a text of so many lines the splice leaves the last line alone and puts nothing directly above
it unless it starts further up, or it replaces the last line, and only that, by one line. -/
def KeepsEnd (count : Nat) (s : Splice) : Prop :=
  s.stop < count ∧ (s.start + 1 < count ∨ s.lines = []) ∨
    s.start + 1 = count ∧ s.stop = count ∧ s.lines.length = 1

instance (count : Nat) (s : Splice) : Decidable (s.KeepsEnd count) :=
  inferInstanceAs (Decidable (_ ∨ _))

/-! ## The endings that are taken over -/

variable {lines front : List Text} {last line : Text} {s : Splice}

/-- The lines of a splice that starts on a line with a carriage return. -/
theorem returned_of_mem_adoptEnding {anchor : Text} (hanchor : lines[s.start]? = some anchor)
    (hreturn : Returned anchor) (hs : ∀ l ∈ s.lines, '\r' ∉ l)
    (h : line ∈ (adoptEnding lines s).lines) : Returned line := by
  rw [adoptEnding_lines, anchor?, hanchor] at h
  simp only [Option.any_some, hreturn.hasReturn, if_true] at h
  obtain ⟨given, hgiven, rfl⟩ := List.mem_map.mp h
  exact returned_addReturn (hs given hgiven)

/-- A splice that starts on a line without a carriage return keeps its lines. -/
theorem adoptEnding_of_notMem {anchor : Text} (hanchor : lines[s.start]? = some anchor)
    (hplain : '\r' ∉ anchor) : adoptEnding lines s = s := by
  rw [adoptEnding, anchor?, hanchor]
  simp [hasReturn_of_notMem hplain]

theorem newline_notMem_of_mem_adoptEnding (hs : ∀ l ∈ s.lines, '\n' ∉ l)
    (h : line ∈ (adoptEnding lines s).lines) : '\n' ∉ line := by
  obtain ⟨given, hgiven, rfl | rfl⟩ := mem_adoptEnding h
  · exact hs line hgiven
  · intro hc
    rcases mem_of_mem_addReturn hc with hc | hc
    · exact hs given hgiven hc
    · exact absurd hc (by decide)

end Splice

open Splice

/-! ## The edited text -/

namespace LineBuffer

variable {front : List Text} {last line : Text} {splices : List Splice}

/-- A line with another one below it ends with its only carriage return. -/
theorem returned_of_uniform_toText {above below : List Text} {finalNewline : Bool}
    (hclean : ∀ l ∈ above ++ line :: below, '\n' ∉ l) (hbelow : below ≠ [])
    (h : Uniform (toText ⟨above ++ line :: below, finalNewline⟩)) : Returned line := by
  obtain ⟨middle, bottom, rfl⟩ : ∃ middle bottom, below = middle ++ [bottom] :=
    ⟨below.dropLast, below.getLast hbelow, (List.dropLast_concat_getLast hbelow).symm⟩
  have hcut : above ++ line :: (middle ++ [bottom]) = (above ++ line :: middle) ++ [bottom] := by
    rw [List.append_assoc, List.cons_append]
  rw [hcut] at hclean h
  exact ((uniform_toText_iff hclean).mp h).1 line (by simp)

/-- A last line that no newline closes has no carriage return. -/
theorem notMem_of_uniform_toText {above : List Text} (hclean : ∀ l ∈ above ++ [line], '\n' ∉ l)
    (h : Uniform (toText ⟨above ++ [line], false⟩)) : '\r' ∉ line :=
  ((uniform_toText_iff hclean).mp h).2

/-- No line of the edited text holds a newline. -/
theorem newline_notMem_of_mem_apply {lines : List Text} (hlines : ∀ l ∈ lines, '\n' ∉ l)
    (hsplices : ∀ s ∈ splices, s.Unended lines.length)
    (h : line ∈ (adoptedEdit lines splices).apply lines) : '\n' ∉ line := by
  have hnew : ∀ row, ∀ l ∈ (adoptedEdit lines splices).above row, '\n' ∉ l := by
    intro row l hl
    obtain ⟨s, hs, -, hl⟩ := mem_above_adoptedEdit.mp hl
    exact newline_notMem_of_mem_adoptEnding (hsplices s hs).newline_notMem hl
  rcases List.mem_append.mp h with h | h
  · rcases RowEdit.mem_rowsFrom h with ⟨i, -, -, hi⟩ | hold
    · exact hnew i line hi
    · exact hlines line hold
  · exact hnew _ line h

/-- In a text with uniform line endings that a newline closes, every edited line ends with its only
carriage return. -/
theorem returned_of_mem_apply {lines : List Text} (hlines : ∀ l ∈ lines, Returned l)
    (hsplices : ∀ s ∈ splices, s.Unended lines.length)
    (h : line ∈ (adoptedEdit lines splices).apply lines) : Returned line := by
  have hnew : ∀ row, ∀ l ∈ (adoptedEdit lines splices).above row, Returned l := by
    intro row l hl
    obtain ⟨s, hs, -, hl⟩ := mem_above_adoptedEdit.mp hl
    obtain ⟨anchor, hanchor⟩ : ∃ anchor, lines[s.start]? = some anchor :=
      ⟨_, List.getElem?_eq_getElem (hsplices s hs).start_lt⟩
    exact returned_of_mem_adoptEnding hanchor (hlines anchor (List.mem_of_getElem? hanchor))
      (hsplices s hs).return_notMem hl
  rcases List.mem_append.mp h with h | h
  · rcases RowEdit.mem_rowsFrom h with ⟨i, -, -, hi⟩ | hold
    · exact hnew i line hi
    · exact hlines line hold
  · exact hnew _ line h

/-! ## The last line -/

/-- Lines cut above the last one, and splices for them that are apart. -/
structure Fits (front : List Text) (last : Text) (splices : List Splice) : Prop where
  clean : ∀ l ∈ front ++ [last], '\n' ∉ l
  unended : ∀ s ∈ splices, s.Unended (front.length + 1)
  within : ∀ s ∈ splices, s.Within (front.length + 1)
  apart : splices.Pairwise Apart

namespace Fits

variable {s : Splice}

/-- Only one splice can reach the end of the text: each of them starts on a line. -/
theorem above_bottom (h : Fits front last splices) (hs : s ∈ splices)
    (hstop : s.stop = front.length + 1) :
    (adoptedEdit (front ++ [last]) splices).above (front.length + 1) =
      (adoptEnding (front ++ [last]) s).lines := by
  have hapart : ((ascending (splices.map (adoptEnding (front ++ [last])))).filter
      (·.stop == front.length + 1)).Pairwise Apart := by
    refine List.Pairwise.filter _ (((ascending_perm _).pairwise_iff fun hab => hab.symm).mpr ?_)
    exact List.pairwise_map.mpr (h.apart.imp fun hab => by simpa [Apart] using hab)
  have hreach : ∀ u ∈ (ascending (splices.map (adoptEnding (front ++ [last])))).filter
      (·.stop == front.length + 1), u.start < front.length + 1 ∧ u.stop = front.length + 1 := by
    intro u hu
    rw [List.mem_filter, mem_ascending, List.mem_map, beq_iff_eq] at hu
    obtain ⟨⟨given, hgiven, rfl⟩, hend⟩ := hu
    exact ⟨by simpa using (h.unended given hgiven).start_lt, hend⟩
  have hmem : adoptEnding (front ++ [last]) s ∈
      (ascending (splices.map (adoptEnding (front ++ [last])))).filter
        (·.stop == front.length + 1) := by
    rw [List.mem_filter, mem_ascending, beq_iff_eq, adoptEnding_stop]
    exact ⟨List.mem_map_of_mem hs, hstop⟩
  rw [adoptedEdit, edit]
  dsimp only
  generalize (ascending (splices.map (adoptEnding (front ++ [last])))).filter
    (·.stop == front.length + 1) = reaching at hapart hreach hmem ⊢
  rcases reaching with _ | ⟨u, _ | ⟨v, rest⟩⟩
  · exact absurd hmem List.not_mem_nil
  · rw [List.mem_singleton.mp hmem, List.flatMap_singleton]
  · -- two splices that reach the end of the text would overlap
    have huv : Apart u v := (List.pairwise_cons.mp hapart).1 v List.mem_cons_self
    have hu := hreach u List.mem_cons_self
    have hv := hreach v (List.mem_cons_of_mem u List.mem_cons_self)
    rcases huv with huv | huv
    · omega
    · omega

/-- The last line is replaced only by a splice that reaches the end of the text. -/
theorem drops_last_iff (h : Fits front last splices) :
    (adoptedEdit (front ++ [last]) splices).drops front.length = true ↔
      ∃ s ∈ splices, s.stop = front.length + 1 := by
  rw [drops_adoptedEdit_iff]
  constructor
  · rintro ⟨s, hs, -, hlt⟩
    have hstop := (h.within s hs).2
    exact ⟨s, hs, by omega⟩
  · rintro ⟨s, hs, hstop⟩
    have hstart := (h.unended s hs).start_lt
    exact ⟨s, hs, by omega, by omega⟩

/-- Something stands at the place of the last line. -/
theorem bottom_ne_nil (h : Fits front last splices) :
    (if (adoptedEdit (front ++ [last]) splices).drops front.length then [] else [last]) ++
      (adoptedEdit (front ++ [last]) splices).above (front.length + 1) ≠ [] := by
  split
  · rename_i hdrop
    obtain ⟨s, hs, hstop⟩ := h.drops_last_iff.mp hdrop
    rw [h.above_bottom hs hstop, adoptEnding_lines]
    split
    · simpa using (h.unended s hs).nonempty hstop
    · simpa using (h.unended s hs).nonempty hstop
  · exact List.cons_ne_nil _ _

theorem newline_notMem (h : Fits front last splices)
    (hline : line ∈ (adoptedEdit (front ++ [last]) splices).apply (front ++ [last])) :
    '\n' ∉ line := by
  refine newline_notMem_of_mem_apply h.clean (fun s hs => ?_) hline
  rw [List.length_append, List.length_singleton]
  exact h.unended s hs

end Fits

/-! ## A last line that no newline closes -/

/-- Lines with uniform endings of which no newline closes the last one, and splices for them. -/
structure Unclosed (front : List Text) (last : Text) (splices : List Splice) : Prop
    extends Fits front last splices where
  returned : ∀ l ∈ front, Returned l
  plain : '\r' ∉ last

namespace Unclosed

variable {s : Splice} {row : Nat}

/-- A splice that starts above the last line takes over a carriage return. -/
theorem returned_of_start_lt (h : Unclosed front last splices) (hs : s ∈ splices)
    (hstart : s.start < front.length) (hline : line ∈ (adoptEnding (front ++ [last]) s).lines) :
    Returned line := by
  have hanchor : (front ++ [last])[s.start]? = some front[s.start] := by
    rw [List.getElem?_append_left hstart, List.getElem?_eq_getElem hstart]
  exact returned_of_mem_adoptEnding hanchor (h.returned _ (List.getElem_mem hstart))
    (h.unended s hs).return_notMem hline

/-- A splice that starts on the last line keeps its lines as they are. -/
theorem adoptEnding_eq (h : Unclosed front last splices) (hstart : s.start = front.length) :
    adoptEnding (front ++ [last]) s = s := by
  have hanchor : (front ++ [last])[s.start]? = some last := by
    rw [hstart, List.getElem?_concat_length]
  exact adoptEnding_of_notMem hanchor h.plain

theorem start_lt_or (h : Unclosed front last splices) (hs : s ∈ splices) :
    s.start < front.length ∨ s.start = front.length := by
  have hlt := (h.unended s hs).start_lt
  omega

/-- New lines above a row belong to a splice that starts further up, and end with a carriage return,
or to an insertion above the last line. -/
theorem returned_of_mem_above (h : Unclosed front last splices) (hrow : row ≤ front.length)
    (hline : line ∈ (adoptedEdit (front ++ [last]) splices).above row) :
    Returned line ∨ row = front.length ∧ ∃ s ∈ splices, s.start = front.length ∧
      s.stop = front.length ∧ line ∈ s.lines := by
  obtain ⟨s, hs, hstop, hline⟩ := mem_above_adoptedEdit.mp hline
  rcases h.start_lt_or hs with hlt | heq
  · exact Or.inl (h.returned_of_start_lt hs hlt hline)
  · have hle := (h.within s hs).1
    rw [h.adoptEnding_eq heq] at hline
    exact Or.inr ⟨by omega, s, hs, heq, by omega, hline⟩

/-- The lines above the last one are edited without losing their endings. -/
theorem returned_of_mem_rowsFrom (h : Unclosed front last splices)
    (hline : line ∈ (adoptedEdit (front ++ [last]) splices).rowsFrom 0 front) : Returned line := by
  rcases RowEdit.mem_rowsFrom hline with ⟨i, -, hi, hnew⟩ | hold
  · rcases h.returned_of_mem_above (by omega) hnew with hreturned | ⟨heq, -⟩
    · exact hreturned
    · omega
  · exact h.returned line hold

/-- Where the endings stay uniform, every splice keeps the end. -/
theorem keepsEnd_of_uniform (h : Unclosed front last splices)
    (huniform : Uniform (toText
      ⟨(adoptedEdit (front ++ [last]) splices).apply (front ++ [last]), false⟩))
    (hs : s ∈ splices) : s.KeepsEnd (front.length + 1) := by
  have hclean : ∀ l ∈ (adoptedEdit (front ++ [last]) splices).apply (front ++ [last]), '\n' ∉ l :=
    fun l hl => h.newline_notMem hl
  rw [RowEdit.apply_concat] at huniform hclean
  have hwithin := h.within s hs
  have hstart := (h.unended s hs).start_lt
  unfold Splice.Within at hwithin
  by_cases hstop : s.stop = front.length + 1
  · -- the lines of the splice are the last lines of the text
    have hdrop := h.drops_last_iff.mpr ⟨s, hs, hstop⟩
    rw [hdrop, if_pos rfl, h.above_bottom hs hstop, List.nil_append, ← List.append_assoc]
      at huniform hclean
    have hne := (h.unended s hs).nonempty hstop
    rcases h.start_lt_or hs with hlt | heq
    · exfalso
      have hadopted : (adoptEnding (front ++ [last]) s).lines ≠ [] := by
        rw [adoptEnding_lines]
        split <;> simpa using hne
      rw [← List.dropLast_concat_getLast hadopted, ← List.append_assoc] at huniform hclean
      have hplain := notMem_of_uniform_toText hclean huniform
      exact hplain (h.returned_of_start_lt hs hlt (List.getLast_mem hadopted)).return_mem
    · rw [h.adoptEnding_eq heq] at huniform hclean
      refine Or.inr ⟨by omega, hstop, ?_⟩
      match hlines : s.lines with
      | [] => exact absurd hlines hne
      | [_] => rfl
      | first :: second :: rest =>
        rw [hlines] at huniform hclean
        have hreturned := returned_of_uniform_toText hclean (List.cons_ne_nil _ _) huniform
        exact absurd hreturned.return_mem
          ((h.unended s hs).return_notMem first (hlines ▸ List.mem_cons_self))
  · refine Or.inl ⟨by omega, ?_⟩
    by_contra hno
    rw [not_or] at hno
    have heq : s.start = front.length := by omega
    obtain ⟨l, hl⟩ := List.exists_mem_of_ne_nil _ hno.2
    have habove : l ∈ (adoptedEdit (front ++ [last]) splices).above front.length := by
      refine mem_above_adoptedEdit.mpr ⟨s, hs, by omega, ?_⟩
      rw [h.adoptEnding_eq heq]
      exact hl
    obtain ⟨before, after, hsplit⟩ := List.append_of_mem habove
    rw [hsplit, List.append_assoc before, List.cons_append, ← List.append_assoc] at huniform hclean
    have hreturned := returned_of_uniform_toText hclean
      (List.append_ne_nil_of_right_ne_nil after h.bottom_ne_nil) huniform
    exact (h.unended s hs).return_notMem l hl hreturned.return_mem

/-- Where every splice keeps the end, the endings stay uniform. -/
theorem uniform_of_keepsEnd (h : Unclosed front last splices)
    (hkeeps : ∀ s ∈ splices, s.KeepsEnd (front.length + 1)) :
    Uniform (toText ⟨(adoptedEdit (front ++ [last]) splices).apply (front ++ [last]), false⟩) := by
  have hclean : ∀ l ∈ (adoptedEdit (front ++ [last]) splices).apply (front ++ [last]), '\n' ∉ l :=
    fun l hl => h.newline_notMem hl
  have hupper : ∀ l ∈ (adoptedEdit (front ++ [last]) splices).rowsFrom 0 front ++
      (adoptedEdit (front ++ [last]) splices).above front.length, Returned l := by
    intro l hl
    rcases List.mem_append.mp hl with hl | hl
    · exact h.returned_of_mem_rowsFrom hl
    · rcases h.returned_of_mem_above (Nat.le_refl _) hl with hreturned | ⟨-, s, hs, hstart, hstop, hl⟩
      · exact hreturned
      · rcases hkeeps s hs with ⟨-, hlt | hnil⟩ | ⟨-, hend, -⟩
        · omega
        · rw [hnil] at hl
          exact absurd hl List.not_mem_nil
        · omega
  rw [RowEdit.apply_concat] at hclean ⊢
  by_cases hreach : ∃ s ∈ splices, s.stop = front.length + 1
  · obtain ⟨s, hs, hstop⟩ := hreach
    have hdrop := h.drops_last_iff.mpr ⟨s, hs, hstop⟩
    obtain ⟨hstart, -, hone⟩ : s.start + 1 = front.length + 1 ∧ s.stop = front.length + 1 ∧
        s.lines.length = 1 := by
      rcases hkeeps s hs with ⟨hlt, -⟩ | hkeep
      · omega
      · exact hkeep
    obtain ⟨only, honly⟩ := List.length_eq_one_iff.mp hone
    rw [hdrop, if_pos rfl, h.above_bottom hs hstop, h.adoptEnding_eq (by omega), honly,
      List.nil_append, ← List.append_assoc] at hclean ⊢
    exact (uniform_toText_iff hclean).mpr
      ⟨hupper, (h.unended s hs).return_notMem only (honly ▸ List.mem_cons_self)⟩
  · have hstay : (adoptedEdit (front ++ [last]) splices).drops front.length = false :=
      Bool.eq_false_iff.mpr fun hdrop => hreach (h.drops_last_iff.mp hdrop)
    have hbelow : (adoptedEdit (front ++ [last]) splices).above (front.length + 1) = [] := by
      refine List.eq_nil_iff_forall_not_mem.mpr fun l hl => ?_
      obtain ⟨s, hs, hstop, -⟩ := mem_above_adoptedEdit.mp hl
      exact hreach ⟨s, hs, hstop⟩
    rw [hstay, if_neg Bool.false_ne_true, hbelow, List.append_nil, ← List.append_assoc] at hclean ⊢
    exact (uniform_toText_iff hclean).mpr ⟨hupper, h.plain⟩

end Unclosed

/-- **Uniform endings stay uniform** under splices whose lines come without endings, exactly when a
newline closes the text or every splice keeps the end. -/
theorem uniform_edit_iff {text : Text} (huniform : Uniform text)
    (hunended : ∀ s ∈ splices, s.Unended (splitLines text).length)
    (hwithin : ∀ s ∈ splices, s.Within (splitLines text).length)
    (hapart : splices.Pairwise Apart) :
    Uniform (editedText text splices) ↔
      endsWithNewline text = true ∨ ∀ s ∈ splices, s.KeepsEnd (splitLines text).length := by
  unfold editedText
  obtain ⟨front, last, hlines⟩ : ∃ front last, splitLines text = front ++ [last] :=
    ⟨_, _, (List.dropLast_concat_getLast (splitLines_ne_nil text)).symm⟩
  have hclean : ∀ l ∈ front ++ [last], '\n' ∉ l :=
    fun l hl => newline_notMem_of_mem_splitLines (hlines ▸ hl)
  have hcount : (front ++ [last]).length = front.length + 1 := by
    rw [List.length_append, List.length_singleton]
  have hread : text = toText ⟨front ++ [last], endsWithNewline text⟩ := by
    rw [← hlines]
    exact (toText_ofText text).symm
  obtain ⟨hfront, hlast⟩ := (uniform_toText_iff hclean).mp (hread ▸ huniform)
  rw [hlines, hcount] at hunended hwithin
  have hfits : Fits front last splices := ⟨hclean, hunended, hwithin, hapart⟩
  rw [hlines, hcount]
  cases hfinal : endsWithNewline text with
  | true =>
    rw [hfinal, LastUniform, if_pos rfl] at hlast
    have hall : ∀ l ∈ front ++ [last], Returned l := by
      intro l hl
      rcases List.mem_append.mp hl with hl | hl
      · exact hfront l hl
      · exact List.mem_singleton.mp hl ▸ hlast
    have hreturned : ∀ l ∈ (adoptedEdit (front ++ [last]) splices).apply (front ++ [last]),
        Returned l :=
      fun l hl => returned_of_mem_apply hall (fun s hs => hcount ▸ hunended s hs) hl
    have hedited : ∀ l ∈ (adoptedEdit (front ++ [last]) splices).apply (front ++ [last]), '\n' ∉ l :=
      fun l hl => hfits.newline_notMem hl
    rw [RowEdit.apply_concat, ← List.append_assoc,
      ← List.dropLast_concat_getLast hfits.bottom_ne_nil, ← List.append_assoc] at hreturned hedited ⊢
    refine iff_of_true ((uniform_toText_iff hedited).mpr ⟨fun l hl => ?_, ?_⟩) (Or.inl rfl)
    · exact hreturned l (List.mem_append_left _ hl)
    · exact hreturned _ (List.mem_append_right _ (List.mem_singleton.mpr rfl))
  | false =>
    rw [hfinal, LastUniform, if_neg Bool.false_ne_true] at hlast
    have hunclosed : Unclosed front last splices := ⟨hfits, hfront, hlast⟩
    rw [or_iff_right Bool.false_ne_true]
    exact ⟨fun h s hs => hunclosed.keepsEnd_of_uniform h hs, hunclosed.uniform_of_keepsEnd⟩

end LineBuffer

end DocSplice
