import DocSplice.Proofs.Injected

/-!
# Texts that differ in some stretches

An edit of lines changes a text in some places and leaves the rest alone.  `Text.Patched` says which
stretches of a text were replaced by something else, in order; patches of texts that stand one behind
the other are put together by `Patched.append`, and `patched_editedText` puts together those of
splices, whatever these are.

What avoids all the stretches is found again: pieces that do occur in the new text, in order and
without overlapping (`Patched.occur`).
-/

namespace DocSplice

namespace Text

/-! ## Pieces of a text -/

/-- A stretch of a text, from an offset up to another one. -/
structure Stretch where
  start : Nat
  stop : Nat
  deriving DecidableEq, Repr

/-- What stands in a stretch of a text that begins at the given offset. -/
def Stretch.readFrom (offset : Nat) (t : Text) (s : Stretch) : Text :=
  (t.take (s.stop - offset)).drop (s.start - offset)

/-- What stands in a stretch of a text. -/
def Stretch.read (t : Text) (s : Stretch) : Text := (t.take s.stop).drop s.start

/-- The stretches do not overlap. -/
def Stretch.Avoids (a b : Stretch) : Prop := a.stop ≤ b.start ∨ b.stop ≤ a.start

instance (a b : Stretch) : Decidable (a.Avoids b) := inferInstanceAs (Decidable (_ ∨ _))

/-- The pieces occur in a text, in order and without overlapping. -/
inductive Occur : List Text → Text → Prop
  | nil {t : Text} : Occur [] t
  | cons {gap piece rest : Text} {pieces : List Text} (h : Occur pieces rest) :
    Occur (piece :: pieces) (gap ++ (piece ++ rest))

variable {offset : Nat} {t u t' u' : Text} {pieces others : List Text}

theorem Occur.behind (h : Occur pieces t) (front : Text) : Occur pieces (front ++ t) := by
  cases h with
  | nil => exact .nil
  | cons h =>
    rw [← List.append_assoc]
    exact .cons h

theorem Occur.append (h : Occur pieces t) (hothers : Occur others u) :
    Occur (pieces ++ others) (t ++ u) := by
  induction h with
  | nil => exact hothers.behind _
  | cons h ih =>
    rw [List.append_assoc, List.append_assoc]
    exact .cons ih

/-- The first piece in order is a stretch of the text, and the others occur behind it. -/
theorem Occur.head_isInfix {piece : Text} (h : Occur (piece :: pieces) t) : piece <:+: t := by
  cases h with
  | @cons gap _ rest _ _ => exact ⟨gap, rest, List.append_assoc _ _ _⟩

theorem Occur.tail {piece : Text} (h : Occur (piece :: pieces) t) : Occur pieces t := by
  cases h with
  | cons h => exact (h.behind _).behind _

/-- **Every piece** is a stretch of the text that the pieces occur in. -/
theorem Occur.isInfix {piece : Text} (h : Occur pieces t) (hpiece : piece ∈ pieces) :
    piece <:+: t := by
  induction pieces with
  | nil => exact absurd hpiece List.not_mem_nil
  | cons first rest ih =>
    rcases List.mem_cons.mp hpiece with rfl | hpiece
    · exact h.head_isInfix
    · exact ih h.tail hpiece

/-- Stretches that lie in a text, in order. -/
structure InOrder (offset : Nat) (t : Text) (pieces : List Stretch) : Prop where
  ordered : pieces.Pairwise fun a b => a.stop ≤ b.start
  within : ∀ p ∈ pieces, offset ≤ p.start ∧ p.start ≤ p.stop ∧ p.stop ≤ offset + t.length

/-- Behind a cut a stretch is read as before. -/
theorem Stretch.readFrom_drop {p : Stretch} {count : Nat} (h : offset + count ≤ p.start) :
    p.readFrom (offset + count) (t.drop count) = p.readFrom offset t := by
  have hstop : p.stop - (offset + count) = p.stop - offset - count := by omega
  have hstart : count + (p.start - (offset + count)) = p.start - offset := by omega
  rw [readFrom, readFrom, hstop, ← List.drop_take, List.drop_drop, hstart]

theorem Stretch.readFrom_append_left {p : Stretch} (h : p.stop ≤ offset + t.length) :
    p.readFrom offset (t ++ u) = p.readFrom offset t := by
  rw [readFrom, readFrom, List.take_append_of_le_length (by omega)]

theorem Stretch.readFrom_append_right {p : Stretch} (h : offset + t.length ≤ p.start) :
    p.readFrom (offset + t.length) u = p.readFrom offset (t ++ u) := by
  rw [← readFrom_drop h, List.drop_left]

/-- Stretches that lie in a text in order occur in it. -/
theorem InOrder.occur : ∀ {pieces : List Stretch} {offset : Nat} {t : Text},
    InOrder offset t pieces → Occur (pieces.map (·.readFrom offset t)) t
  | [], _, _, _ => .nil
  | p :: pieces, offset, t, h => by
    obtain ⟨hfirst, hordered⟩ := List.pairwise_cons.mp h.ordered
    obtain ⟨hstart, hstop, hend⟩ := h.within p List.mem_cons_self
    have hcount : offset + (p.stop - offset) = p.stop := by omega
    have hlater : ∀ q ∈ pieces, offset + (p.stop - offset) ≤ q.start := by
      rw [hcount]
      exact hfirst
    have hlaid : InOrder (offset + (p.stop - offset)) (t.drop (p.stop - offset)) pieces := by
      refine ⟨hordered, fun q hq => ?_⟩
      obtain ⟨-, hq2, hq3⟩ := h.within q (List.mem_cons_of_mem p hq)
      refine ⟨hlater q hq, hq2, ?_⟩
      rw [List.length_drop]
      omega
    have hoccur := hlaid.occur
    have hsame : pieces.map (·.readFrom (offset + (p.stop - offset)) (t.drop (p.stop - offset))) =
        pieces.map (·.readFrom offset t) :=
      List.map_congr_left fun q hq => Stretch.readFrom_drop (hlater q hq)
    have hcut : t = (t.take (p.stop - offset)).take (p.start - offset) ++
        (p.readFrom offset t ++ t.drop (p.stop - offset)) := by
      rw [Stretch.readFrom, ← List.append_assoc, List.take_append_drop, List.take_append_drop]
    rw [hsame] at hoccur
    rw [List.map_cons]
    conv => rhs; rw [hcut]
    exact .cons hoccur

/-! ## Patches -/

/-- The second text is the first one, which begins at the given offset, with the stretches replaced
by something else. -/
inductive Patched : Nat → Text → Text → List Stretch → Prop
  | same {offset : Nat} {t : Text} : Patched offset t t []
  | change {offset : Nat} {kept removed inserted t t' : Text} {spans : List Stretch}
    (h : Patched (offset + kept.length + removed.length) t t' spans) :
    Patched offset (kept ++ (removed ++ t)) (kept ++ (inserted ++ t'))
      (⟨offset + kept.length, offset + kept.length + removed.length⟩ :: spans)

namespace Patched

variable {spans more : List Stretch}

/-- Something that stays in front. -/
theorem behind (front : Text) (h : Patched (offset + front.length) t t' spans) :
    Patched offset (front ++ t) (front ++ t') spans := by
  generalize hstart : offset + front.length = start at h
  cases h with
  | same => exact .same
  | @change _ kept removed inserted t t' spans h =>
    have hlength : start + kept.length = offset + (front ++ kept).length := by
      rw [List.length_append]
      omega
    rw [hlength] at h ⊢
    rw [← List.append_assoc front kept, ← List.append_assoc front kept]
    exact .change h

/-- **Texts one behind the other** are patched one by one. -/
theorem append (h : Patched offset t t' spans)
    (hmore : Patched (offset + t.length) u u' more) :
    Patched offset (t ++ u) (t' ++ u') (spans ++ more) := by
  induction h with
  | same => exact hmore.behind _
  | @change offset kept removed inserted t t' spans h ih =>
    have hlength : offset + (kept ++ (removed ++ t)).length =
        offset + kept.length + removed.length + t.length := by
      simp only [List.length_append]
      omega
    rw [hlength] at hmore
    have hall := ih hmore
    simp only [List.append_assoc, List.cons_append]
    exact .change hall

/-- A stretch is replaced. -/
theorem replace (kept removed inserted rest : Text) :
    Patched offset (kept ++ (removed ++ rest)) (kept ++ (inserted ++ rest))
      [⟨offset + kept.length, offset + kept.length + removed.length⟩] :=
  .change .same

/-- The last character stays where no stretch reaches it. -/
theorem init (h : Patched offset u u' spans) (hne : u ≠ [])
    (hspans : ∀ s ∈ spans, s.stop < offset + u.length) :
    ∃ t t' last, u = t ++ [last] ∧ u' = t' ++ [last] ∧ Patched offset t t' spans := by
  induction h with
  | @same offset t =>
    exact ⟨t.dropLast, t.dropLast, t.getLast hne, (List.dropLast_concat_getLast hne).symm,
      (List.dropLast_concat_getLast hne).symm, .same⟩
  | @change offset kept removed inserted t t' spans h ih =>
    have hlength : (kept ++ (removed ++ t)).length = kept.length + (removed.length + t.length) := by
      simp only [List.length_append]
    rw [hlength] at hspans
    have hrest : t ≠ [] := by
      rintro rfl
      have hfirst := hspans _ List.mem_cons_self
      dsimp only [List.length_nil] at hfirst
      omega
    obtain ⟨v, v', last, rfl, rfl, hpatched⟩ := ih hrest fun s hs => by
      have hs := hspans s (List.mem_cons_of_mem _ hs)
      omega
    refine ⟨kept ++ (removed ++ v), kept ++ (inserted ++ v'), last, ?_, ?_, .change hpatched⟩
    · simp only [List.append_assoc]
    · simp only [List.append_assoc]

/-- Pieces that avoid a stretch are cut at it. -/
theorem exists_cut {pieces : List Stretch} {span : Stretch}
    (hordered : pieces.Pairwise fun a b => a.stop ≤ b.start)
    (hforward : ∀ p ∈ pieces, p.start ≤ p.stop) (havoid : ∀ p ∈ pieces, p.Avoids span) :
    ∃ before after, pieces = before ++ after ∧ (∀ p ∈ before, p.stop ≤ span.start) ∧
      ∀ p ∈ after, span.stop ≤ p.start := by
  induction pieces with
  | nil => exact ⟨[], [], rfl, fun p hp => absurd hp List.not_mem_nil,
      fun p hp => absurd hp List.not_mem_nil⟩
  | cons p pieces ih =>
    obtain ⟨hfirst, hordered⟩ := List.pairwise_cons.mp hordered
    rcases havoid p List.mem_cons_self with hbefore | hafter
    · obtain ⟨before, after, rfl, hleft, hright⟩ := ih hordered
        (fun q hq => hforward q (List.mem_cons_of_mem p hq))
        (fun q hq => havoid q (List.mem_cons_of_mem p hq))
      refine ⟨p :: before, after, rfl, fun q hq => ?_, hright⟩
      rcases List.mem_cons.mp hq with rfl | hq
      · exact hbefore
      · exact hleft q hq
    · refine ⟨[], p :: pieces, rfl, fun q hq => absurd hq List.not_mem_nil, fun q hq => ?_⟩
      have hp := hforward p List.mem_cons_self
      rcases List.mem_cons.mp hq with rfl | hq
      · exact hafter
      · have hq := hfirst q hq
        omega

/-- **What avoids the stretches occurs in the new text.**  The induction is on the patches: each of
them cuts the pieces into those in front of it and those behind. -/
theorem occur (h : Patched offset t t' spans) : ∀ {pieces : List Stretch}, InOrder offset t pieces →
    (∀ p ∈ pieces, ∀ s ∈ spans, p.Avoids s) → Occur (pieces.map (·.readFrom offset t)) t' := by
  induction h with
  | same => exact fun hlaid _ => hlaid.occur
  | @change offset kept removed inserted t t' spans h ih =>
    intro pieces hlaid havoid
    obtain ⟨before, after, rfl, hbefore, hafter⟩ := exists_cut hlaid.ordered
      (fun p hp => (hlaid.within p hp).2.1) (fun p hp => havoid p hp _ List.mem_cons_self)
    dsimp only at hbefore hafter
    obtain ⟨hleft, hright, -⟩ := List.pairwise_append.mp hlaid.ordered
    have hfront : InOrder offset kept before := by
      refine ⟨hleft, fun p hp => ?_⟩
      obtain ⟨h1, h2, -⟩ := hlaid.within p (List.mem_append_left after hp)
      exact ⟨h1, h2, hbefore p hp⟩
    have hback : InOrder (offset + kept.length + removed.length) t after := by
      refine ⟨hright, fun p hp => ?_⟩
      obtain ⟨-, h2, h3⟩ := hlaid.within p (List.mem_append_right before hp)
      simp only [List.length_append] at h3
      exact ⟨hafter p hp, h2, by omega⟩
    have hread : before.map (·.readFrom offset (kept ++ (removed ++ t))) =
        before.map (·.readFrom offset kept) :=
      List.map_congr_left fun p hp => Stretch.readFrom_append_left (hbefore p hp)
    have hread' : after.map (·.readFrom offset (kept ++ (removed ++ t))) =
        after.map (·.readFrom (offset + kept.length + removed.length) t) := by
      refine List.map_congr_left fun p hp => ?_
      have hlength : offset + kept.length + removed.length = offset + (kept ++ removed).length := by
        rw [List.length_append, Nat.add_assoc]
      have hp := hafter p hp
      rw [hlength] at hp ⊢
      rw [← List.append_assoc]
      exact (Stretch.readFrom_append_right hp).symm
    rw [List.map_append, hread, hread']
    refine hfront.occur.append ((ih hback fun p hp s hs => ?_).behind inserted)
    exact havoid p (List.mem_append_right before hp) s (List.mem_cons_of_mem _ hs)

end Patched

end Text

open Text

namespace Splice

variable {lines : List Text} {P : Stretch → Prop}

/-- The splice replaces its rows in stretches of which the property is known. -/
def Patches (lines : List Text) (P : Stretch → Prop) (s : Splice) : Prop :=
  ∃ spans, Patched (rowOffset lines s.start) (ended ((lines.take s.stop).drop s.start))
    (ended s.lines) spans ∧ ∀ span ∈ spans, P span

/-- **Splices from the top of a text to its bottom** patch it one by one.  The induction takes the
splices from the top: what the others have done stands below the rows of the first one. -/
theorem patched_foldr : ∀ {splices : List Splice} {row : Nat},
    (∀ s ∈ splices, s.Within lines.length) → (∀ s ∈ splices, row ≤ s.start) → row ≤ lines.length →
    splices.Pairwise (fun a b => a.stop ≤ b.start) → (∀ s ∈ splices, s.Patches lines P) →
    ∃ below spans, splices.foldr (fun s done => applyTo done s) lines = lines.take row ++ below ∧
      Patched (rowOffset lines row) (ended (lines.drop row)) (ended below) spans ∧
      ∀ span ∈ spans, P span
  | [], row, _, _, _, _, _ =>
    ⟨lines.drop row, [], (List.take_append_drop row lines).symm, .same,
      fun span hspan => absurd hspan List.not_mem_nil⟩
  | s :: splices, row, hwithin, hstart, hrow, hordered, hpatches => by
    obtain ⟨hle, hcount⟩ := hwithin s List.mem_cons_self
    obtain ⟨hfirst, hordered⟩ := List.pairwise_cons.mp hordered
    have hrowstart := hstart s List.mem_cons_self
    obtain ⟨below, spans, hdone, hpatched, hspans⟩ := patched_foldr
      (fun u hu => hwithin u (List.mem_cons_of_mem s hu)) hfirst hcount hordered
      (fun u hu => hpatches u (List.mem_cons_of_mem s hu))
    obtain ⟨own, hown, hownspans⟩ := hpatches s List.mem_cons_self
    have hlength : (lines.take s.stop).length = s.stop := List.length_take_of_le hcount
    have htake : (lines.take s.stop ++ below).take s.start =
        lines.take row ++ (lines.take s.start).drop row := by
      rw [List.take_append_of_le_length (by omega), List.take_take, Nat.min_eq_left hle]
      conv => lhs; rw [← List.take_append_drop row (lines.take s.start)]
      rw [List.take_take, Nat.min_eq_left hrowstart]
    have hdrop : (lines.take s.stop ++ below).drop s.stop = below := List.drop_left' hlength
    have hold : lines.drop row = (lines.take s.start).drop row ++
        ((lines.take s.stop).drop s.start ++ lines.drop s.stop) := by
      have hupper : lines.take s.stop = lines.take s.start ++ (lines.take s.stop).drop s.start := by
        conv => lhs; rw [← List.take_append_drop s.start (lines.take s.stop)]
        rw [List.take_take, Nat.min_eq_left hle]
      have hall : lines = lines.take s.start ++
          ((lines.take s.stop).drop s.start ++ lines.drop s.stop) := by
        rw [← List.append_assoc, ← hupper, List.take_append_drop]
      conv => lhs; rw [hall]
      rw [List.drop_append_of_le_length (by rw [List.length_take]; omega)]
    refine ⟨(lines.take s.start).drop row ++ (s.lines ++ below), own ++ spans, ?_, ?_, ?_⟩
    · rw [List.foldr_cons, hdone, applyTo, htake, hdrop]
      simp only [List.append_assoc]
    · rw [hold, ended_append, ended_append, ended_append, ended_append]
      refine .behind _ ?_
      rw [rowOffset_add hrowstart]
      refine hown.append ?_
      rw [rowOffset_add hle]
      exact hpatched
    · intro span hspan
      rcases List.mem_append.mp hspan with hspan | hspan
      · exact hownspans span hspan
      · exact hspans span hspan

end Splice

open Splice

variable {text : Text} {splices : List Splice} {P : Stretch → Prop}

/-- **An edited text is patched** where its splices patch their rows, when no stretch reaches the end
of the last line. -/
theorem patched_editedText (hwithin : ∀ s ∈ splices, s.Within (splitLines text).length)
    (hapart : splices.Pairwise Apart)
    (hpatches : ∀ s ∈ splices.map (adoptEnding (splitLines text)), s.Patches (splitLines text)
      fun span => span.stop < (ended (splitLines text)).length ∧ P span) :
    ∃ spans, Patched 0 text (editedText text splices) spans ∧ ∀ span ∈ spans, P span := by
  have hmem : ∀ {s}, s ∈ ascending (splices.map (adoptEnding (splitLines text))) ↔
      s ∈ splices.map (adoptEnding (splitLines text)) := mem_ascending
  have hin : ∀ s ∈ splices.map (adoptEnding (splitLines text)),
      s.Within (splitLines text).length := by
    intro s hs
    obtain ⟨given, hgiven, rfl⟩ := List.mem_map.mp hs
    simpa [Within] using hwithin given hgiven
  have hadopted : (splices.map (adoptEnding (splitLines text))).Pairwise Apart :=
    List.pairwise_map.mpr (hapart.imp fun hab => by simpa [Apart] using hab)
  have hordered : (ascending (splices.map (adoptEnding (splitLines text)))).Pairwise
      fun a b => a.stop ≤ b.start :=
    List.pairwise_reverse.mpr
      ((LineBuffer.pairwise_sortDescending_iff fun s hs => (hin s hs).1).mpr hadopted)
  obtain ⟨below, spans, hdone, hpatched, hspans⟩ := patched_foldr
    (fun s hs => hin s (hmem.mp hs)) (fun s hs => Nat.zero_le _) (Nat.zero_le _) hordered
    (fun s hs => hpatches s (hmem.mp hs))
  rw [foldr_applyTo (fun s hs => hin s (hmem.mp hs)) hordered, List.take_zero, List.nil_append]
    at hdone
  have hedited : (adoptedEdit (splitLines text) splices).apply (splitLines text) = below := hdone
  rw [List.drop_zero] at hpatched
  have hzero : rowOffset (splitLines text) 0 = 0 := rfl
  rw [hzero] at hpatched
  have hends : ended (splitLines text) ≠ [] := by
    rw [ended_eq_joinLines (splitLines_ne_nil text)]
    exact List.append_ne_nil_of_right_ne_nil _ (List.cons_ne_nil _ _)
  obtain ⟨front, front', last, hold, hnew, hinit⟩ := hpatched.init hends fun span hspan => by
    have hstop := (hspans span hspan).1
    omega
  have hne : below ≠ [] := by
    rintro rfl
    exact absurd hnew (by simp [ended])
  have hlast : last = '\n' ∧ front' = joinLines below := by
    have heq : joinLines below ++ ['\n'] = front' ++ [last] := by
      rw [← ended_eq_joinLines hne, hnew]
    obtain ⟨h1, h2⟩ := List.append_inj' heq rfl
    exact ⟨(List.cons.inj h2).1.symm, h1.symm⟩
  refine ⟨spans, ?_, fun span hspan => (hspans span hspan).2⟩
  rw [editedText, hedited, LineBuffer.toText]
  dsimp only
  cases hfinal : endsWithNewline text with
  | true =>
    rw [ended_splitLines, hfinal, if_pos rfl, List.append_nil, ended_eq_joinLines hne] at hpatched
    rw [if_pos rfl]
    exact hpatched
  | false =>
    rw [ended_splitLines, hfinal, if_neg Bool.false_ne_true, hlast.1] at hold
    obtain ⟨rfl, -⟩ := List.append_inj' hold rfl
    rw [if_neg Bool.false_ne_true, List.append_nil, ← hlast.2]
    exact hinit

end DocSplice
