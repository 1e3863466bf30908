import DocSplice.Proofs.Lines

/-!
# Uniform line endings

A text has uniform line endings when every newline comes right behind a carriage return and every
carriage return right before a newline.  An edit works on lines, and there the property reads: every
line ends with a carriage return and holds no other, except that a last line which no newline closes
holds none (`uniform_toText_iff`).

* `ReturnsPaired` is half of it, and is what is asked of documentation: no carriage return of its own.
* `Returned`: a line that ends with its only carriage return.
* `returned_addReturn`: what a line without carriage returns becomes when it takes over an ending.
-/

namespace DocSplice

namespace Text

/-- Every newline comes right behind a carriage return. -/
def NewlinesPaired (t : Text) : Prop :=
  ∀ i, t[i]? = some '\n' → 0 < i ∧ t[i - 1]? = some '\r'

/-- Every carriage return comes right before a newline. -/
def ReturnsPaired (t : Text) : Prop := ∀ i, t[i]? = some '\r' → t[i + 1]? = some '\n'

/-- Every line ending is a carriage return and a newline, and neither stands alone. -/
structure Uniform (t : Text) : Prop where
  newlines : NewlinesPaired t
  returns : ReturnsPaired t

/-- What holds of the characters that there are holds of every index. -/
theorem forall_lt_length_iff {t : Text} {c : Char} {p : Nat → Prop} :
    (∀ i < t.length, t[i]? = some c → p i) ↔ ∀ i, t[i]? = some c → p i := by
  refine ⟨fun h i hi => ?_, fun h i _ hi => h i hi⟩
  exact h i (List.getElem?_eq_some_iff.mp hi).1 hi

instance (t : Text) : Decidable (NewlinesPaired t) :=
  decidable_of_iff (∀ i < t.length, t[i]? = some '\n' → 0 < i ∧ t[i - 1]? = some '\r')
    forall_lt_length_iff

instance (t : Text) : Decidable (ReturnsPaired t) :=
  decidable_of_iff (∀ i < t.length, t[i]? = some '\r' → t[i + 1]? = some '\n')
    forall_lt_length_iff

instance (t : Text) : Decidable (Uniform t) :=
  decidable_of_iff (NewlinesPaired t ∧ ReturnsPaired t)
    ⟨fun h => ⟨h.1, h.2⟩, fun h => ⟨h.newlines, h.returns⟩⟩

/-- The line ends with a carriage return, the only one on it. -/
def Returned (line : Text) : Prop := ∃ core, line = core ++ ['\r'] ∧ '\r' ∉ core

theorem Returned.hasReturn {line : Text} (h : Returned line) : Splice.hasReturn line = true := by
  obtain ⟨core, rfl, -⟩ := h
  simp [Splice.hasReturn]

theorem Returned.return_mem {line : Text} (h : Returned line) : '\r' ∈ line := by
  obtain ⟨core, rfl, -⟩ := h
  exact List.mem_append_right core List.mem_cons_self

/-- A line without carriage returns does not end with one. -/
theorem hasReturn_of_notMem {line : Text} (h : '\r' ∉ line) : Splice.hasReturn line = false := by
  refine Bool.eq_false_iff.mpr fun hreturn => h ?_
  exact List.mem_of_getLast? (beq_iff_eq.mp hreturn)

theorem addReturn_of_notMem {line : Text} (h : '\r' ∉ line) :
    Splice.addReturn line = line ++ ['\r'] := by
  rw [Splice.addReturn, hasReturn_of_notMem h, if_neg Bool.false_ne_true]

theorem returned_addReturn {line : Text} (h : '\r' ∉ line) : Returned (Splice.addReturn line) :=
  ⟨line, addReturn_of_notMem h, h⟩

/-! ## From the text to its lines -/

variable {line t : Text}

/-- Without a newline there is nothing to pair. -/
theorem uniform_iff_of_newline_notMem (h : '\n' ∉ line) : Uniform line ↔ '\r' ∉ line := by
  constructor
  · intro hu hmem
    obtain ⟨i, hi⟩ := List.mem_iff_getElem?.mp hmem
    exact h (List.mem_of_getElem? (hu.returns i hi))
  · intro hr
    exact ⟨fun i hi => absurd (List.mem_of_getElem? hi) h,
      fun i hi => absurd (List.mem_of_getElem? hi) hr⟩

/-- In a line that is closed by a newline, the last character is the carriage return. -/
theorem returned_of_uniform (hline : '\n' ∉ line) (h : Uniform (line ++ '\n' :: t)) :
    Returned line := by
  obtain ⟨hpos, hlast⟩ := h.newlines line.length (by simp)
  rw [List.getElem?_append_left (by omega)] at hlast
  have hcut : line = line.dropLast ++ ['\r'] := by
    have hget : line.getLast? = some '\r' := by rw [List.getLast?_eq_getElem?, hlast]
    obtain ⟨front, hfront⟩ := List.getLast?_eq_some_iff.mp hget
    rw [hfront, List.dropLast_concat]
  refine ⟨line.dropLast, hcut, fun hmem => ?_⟩
  obtain ⟨i, hi⟩ := List.mem_iff_getElem?.mp hmem
  have hlt : i < line.dropLast.length := (List.getElem?_eq_some_iff.mp hi).1
  rw [List.length_dropLast] at hlt
  have hlinei : (line)[i]? = some '\r' := by
    rw [hcut, List.getElem?_append_left (by rw [List.length_dropLast]; omega), hi]
  have hnext := h.returns i (by rw [List.getElem?_append_left (by omega), hlinei])
  rw [List.getElem?_append_left (by omega)] at hnext
  exact hline (List.mem_of_getElem? hnext)

/-- **A line and what comes behind the newline that closes it.** -/
theorem uniform_append_newline_iff (hline : '\n' ∉ line) :
    Uniform (line ++ '\n' :: t) ↔ Returned line ∧ Uniform t := by
  have hshift : ∀ i, (line ++ '\n' :: t)[line.length + 1 + i]? = t[i]? := by
    intro i
    rw [List.getElem?_append_right (by omega),
      show line.length + 1 + i - line.length = i + 1 by omega, List.getElem?_cons_succ]
  constructor
  · intro h
    refine ⟨returned_of_uniform hline h, fun i hi => ?_, fun i hi => ?_⟩
    · obtain ⟨-, hbefore⟩ := h.newlines (line.length + 1 + i) (by rw [hshift, hi])
      rcases Nat.eq_zero_or_pos i with rfl | hpos
      · rw [show line.length + 1 + 0 - 1 = line.length by omega] at hbefore
        simp at hbefore
      · rw [show line.length + 1 + i - 1 = line.length + 1 + (i - 1) by omega, hshift] at hbefore
        exact ⟨hpos, hbefore⟩
    · have hnext := h.returns (line.length + 1 + i) (by rw [hshift, hi])
      rwa [Nat.add_assoc _ i 1, hshift] at hnext
  · rintro ⟨⟨core, rfl, hcore⟩, ht⟩
    have hat : ∀ i, (core ++ ['\r'] ++ '\n' :: t)[i]? =
        if i < core.length then core[i]? else if i = core.length then some '\r'
          else if i = core.length + 1 then some '\n' else t[i - (core.length + 2)]? := by
      intro i
      rw [List.append_assoc]
      split
      · rename_i hi
        rw [List.getElem?_append_left hi]
      · rename_i hi
        rw [List.getElem?_append_right (by omega)]
        split
        · rename_i heq
          rw [heq, Nat.sub_self]
          rfl
        · split
          · rename_i heq
            rw [heq, Nat.add_sub_cancel_left]
            rfl
          · rw [show i - core.length = i - (core.length + 2) + 1 + 1 by omega]
            rfl
    refine ⟨fun i hi => ?_, fun i hi => ?_⟩
    · rw [hat] at hi
      split at hi
      · exact absurd (List.mem_append_left _ (List.mem_of_getElem? hi)) hline
      · split at hi
        · exact absurd hi (by decide)
        · split at hi
          · rename_i heq
            refine ⟨by omega, ?_⟩
            rw [hat, if_neg (by omega), if_pos (by omega)]
          · obtain ⟨hpos, hbefore⟩ := ht.newlines _ hi
            refine ⟨by omega, ?_⟩
            rw [hat, if_neg (by omega), if_neg (by omega), if_neg (by omega), ← hbefore]
            congr 1
            omega
    · rw [hat] at hi
      split at hi
      · exact absurd (List.mem_of_getElem? hi) hcore
      · split at hi
        · rw [hat, if_neg (by omega), if_neg (by omega), if_pos (by omega)]
        · split at hi
          · exact absurd hi (by decide)
          · have hnext := ht.returns _ hi
            rw [hat, if_neg (by omega), if_neg (by omega), if_neg (by omega), ← hnext]
            congr 1
            omega

end Text

namespace LineBuffer

open Text

/-- A last line that a newline closes ends with its only carriage return; any other has none. -/
def LastUniform (finalNewline : Bool) (last : Text) : Prop :=
  if finalNewline then Returned last else '\r' ∉ last

/-- **Uniform line endings, line by line.** -/
theorem uniform_toText_iff {front : List Text} {last : Text} {finalNewline : Bool}
    (hclean : ∀ line ∈ front ++ [last], '\n' ∉ line) :
    Uniform (toText ⟨front ++ [last], finalNewline⟩) ↔
      (∀ line ∈ front, Returned line) ∧ LastUniform finalNewline last := by
  induction front with
  | nil =>
    have hlast : '\n' ∉ last := hclean last List.mem_cons_self
    have hempty : Uniform [] := ⟨fun i hi => by simp at hi, fun i hi => by simp at hi⟩
    cases finalNewline with
    | true =>
      have htext : toText ⟨[] ++ [last], true⟩ = last ++ '\n' :: [] := rfl
      rw [htext, uniform_append_newline_iff hlast]
      simp [LastUniform, hempty]
    | false =>
      have htext : toText ⟨[] ++ [last], false⟩ = last := List.append_nil last
      rw [htext, uniform_iff_of_newline_notMem hlast]
      simp [LastUniform]
  | cons line front ih =>
    have hline : '\n' ∉ line := hclean line List.mem_cons_self
    have hrest : ∀ l ∈ front ++ [last], '\n' ∉ l :=
      fun l hl => hclean l (List.mem_cons_of_mem line hl)
    have htext : toText ⟨line :: front ++ [last], finalNewline⟩ =
        line ++ '\n' :: toText ⟨front ++ [last], finalNewline⟩ := by
      rw [toText, toText, joinLines, joinLines, List.cons_append,
        join_cons_of_ne_nil _ _ (List.append_ne_nil_of_right_ne_nil _ (List.cons_ne_nil _ _)),
        List.append_assoc]
      rfl
    rw [htext, uniform_append_newline_iff hline, ih hrest, List.forall_mem_cons, and_assoc]

end LineBuffer

end DocSplice
