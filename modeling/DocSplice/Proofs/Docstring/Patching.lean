import DocSplice.Proofs.Docstring.Planning
import DocSplice.Proofs.Parsers

/-!
# What a docstring splice changes

A docstring splice rewrites whole rows, but most of what stands on them is written again as it was.
`patches_spliceBody` says which stretches of the text are not: one around the old docstring, or where
the new one is put in, that holds nothing else but blanks in front of the body and blanks or a semicolon
behind the docstring (`Rewritten`), and, where code is moved, the blanks that end its line, unless the
ending that is put there is the same (`lineEnd`, `keepsLineEnd`).

So a text with new docstrings is the old one but for such stretches (`patched_inject`).
-/

namespace DocSplice

namespace Text

/-! ## Blanks at the end -/

/-- The blanks that a text ends with. -/
def closingBlanks (t : Text) : Text := t.drop (trimEnd t).length

/-- They are what trimming takes off. -/
theorem closingBlanks_spec (t : Text) :
    trimEnd t ++ closingBlanks t = t ∧ allBlank (closingBlanks t) = true := by
  obtain ⟨blanks, hblank, hcut⟩ := exists_trimEnd_append t
  have hclosing : closingBlanks t = blanks := by
    rw [closingBlanks]
    conv => lhs; arg 2; rw [← hcut]
    exact List.drop_left
  rw [hclosing]
  exact ⟨hcut, hblank⟩

theorem trimEnd_append_closingBlanks (t : Text) : trimEnd t ++ closingBlanks t = t :=
  (closingBlanks_spec t).1

/-- What ends with a character that is no blank is all that trimming leaves of it. -/
theorem trimEnd_append {t blanks : Text} (hblanks : ∀ c ∈ blanks, isBlank c = true)
    (ht : ∀ c, t.getLast? = some c → isBlank c = false) : trimEnd (t ++ blanks) = t := by
  rw [trimEnd_append_of_allBlank t (List.all_eq_true.mpr hblanks)]
  exact trimEnd_eq_self_iff.mpr ht

theorem isBlank_of_mem_closingBlanks {t : Text} {c : Char} (h : c ∈ closingBlanks t) :
    isBlank c = true :=
  List.all_eq_true.mp (closingBlanks_spec t).2 c h

end Text

open Text

namespace Splice

/-! ## Endings that are taken over -/

/-- The ending of a line. -/
def ending (line : Text) : Text := if hasReturn line then ['\r'] else []

/-- A new line next to the given one. -/
def adopt (line new : Text) : Text := if hasReturn line then addReturn new else new

/-- A splice that starts on a row takes over the ending of its line. -/
theorem adoptEnding_eq {lines : List Text} {s : Splice} (h : s.start < lines.length) :
    adoptEnding lines s =
      ⟨s.start, s.stop, s.lines.map (adopt (Docstring.lineAt lines s.start))⟩ := by
  have hanchor : anchor? lines s = some (Docstring.lineAt lines s.start) := by
    rw [anchor?, Docstring.lineAt, List.getElem?_eq_getElem h]
    rfl
  rw [adoptEnding, hanchor, Option.any_some]
  split
  · rename_i hreturn
    have hadopt : adopt (Docstring.lineAt lines s.start) = addReturn := by
      funext new
      rw [adopt, if_pos hreturn]
    rw [hadopt]
  · rename_i hreturn
    have hadopt : adopt (Docstring.lineAt lines s.start) = id := by
      funext new
      rw [adopt, if_neg hreturn]
      rfl
    rw [hadopt, List.map_id]

/-- A new line keeps its characters. -/
theorem exists_adopt (line new : Text) : ∃ extra, adopt line new = new ++ extra := by
  unfold adopt addReturn
  split
  · split
    · exact ⟨[], (List.append_nil new).symm⟩
    · exact ⟨['\r'], rfl⟩
  · exact ⟨[], (List.append_nil new).symm⟩

/-- A new line that does not end with a carriage return gets the ending. -/
theorem adopt_eq (line : Text) {new : Text} (h : hasReturn new = false) :
    adopt line new = new ++ ending line := by
  unfold adopt ending addReturn
  rw [h]
  split
  · rfl
  · exact (List.append_nil new).symm

/-- New lines end with a newline. -/
theorem exists_ended_adopted (line : Text) {new : List Text} (h : new ≠ []) :
    ∃ written, ended (new.map (adopt line)) = written ++ ['\n'] :=
  ⟨_, ended_eq_joinLines fun hnil => h (List.map_eq_nil_iff.mp hnil)⟩

end Splice

namespace Docstring

open Splice

variable {text : Text} {lines : List Text} {outline : Outline} {targets : List Target}
  {d : Declaration} {opening : Opening} {documentation : Text} {P : Stretch → Prop}

/-! ## What is left of a line -/

/-- Around what is left of a line stand blanks and perhaps a semicolon in front, and blanks behind. -/
theorem exists_cut_remainderAfter (line : Text) (column : Nat) :
    ∃ lead tail, line.drop column = lead ++ (remainderAfter line column ++ tail) ∧
      (∀ c ∈ lead, isBlank c = true ∨ c = ';') ∧ ∀ c ∈ tail, isBlank c = true := by
  have hcut : line.drop column = indent (line.drop column) ++
      (trim (line.drop column) ++ closingBlanks (trimStart (line.drop column))) := by
    rw [trim, trimEnd_append_closingBlanks, indent_append_trimStart]
  have hfront : ∀ c ∈ indent (line.drop column), isBlank c = true ∨ c = ';' :=
    fun c hc => Or.inl (isBlank_of_mem_indent hc)
  unfold remainderAfter
  dsimp only
  split
  · rename_i separated hstrip
    have hstripped : [';'] ++ separated = trim (line.drop column) :=
      List.isPrefixOf?_eq_some_iff_append_eq.mp hstrip
    refine ⟨indent (line.drop column) ++ ([';'] ++ indent separated),
      closingBlanks (trimStart (line.drop column)), ?_, fun c hc => ?_,
      fun c hc => isBlank_of_mem_closingBlanks hc⟩
    · rw [List.append_assoc, List.append_assoc, ← List.append_assoc (indent separated),
        indent_append_trimStart, ← List.append_assoc [';'], hstripped]
      exact hcut
    · rcases List.mem_append.mp hc with hc | hc
      · exact hfront c hc
      · rcases List.mem_append.mp hc with hc | hc
        · exact Or.inr (List.mem_singleton.mp hc)
        · exact Or.inl (isBlank_of_mem_indent hc)
  · exact ⟨indent (line.drop column), closingBlanks (trimStart (line.drop column)), hcut, hfront,
      fun c hc => isBlank_of_mem_closingBlanks hc⟩

/-- What is left of a line does not end with a blank. -/
theorem isBlank_of_getLast?_remainderAfter {line : Text} {column : Nat} {c : Char}
    (h : (remainderAfter line column).getLast? = some c) : isBlank c = false := by
  unfold remainderAfter at h
  dsimp only at h
  split at h
  · rename_i separated hstrip
    have hstripped : [';'] ++ separated = trim (line.drop column) :=
      List.isPrefixOf?_eq_some_iff_append_eq.mp hstrip
    have hsame : (trimEnd (trimStart (line.drop column))).getLast? = some c := by
      have hne : trimStart separated ≠ [] := by
        intro hnil
        rw [hnil] at h
        exact absurd h (by simp)
      obtain ⟨front, hfront⟩ : trimStart separated <:+ trim (line.drop column) :=
        (List.dropWhile_suffix isBlank).trans ⟨[';'], hstripped⟩
      change (trim (line.drop column)).getLast? = some c
      rw [← hfront, List.getLast?_append_of_ne_nil _ hne]
      exact h
    exact isBlank_of_getLast?_trimEnd hsame
  · exact isBlank_of_getLast?_trimEnd h

/-- Around what is left of a line two stretches are replaced, or one when the end of the line stays. -/
theorem exists_patched_around (offset : Nat) (head removed inserted remainder tail after : Text) :
    ∃ spans, Patched offset (head ++ (removed ++ (remainder ++ (tail ++ ['\n']))))
        (head ++ (inserted ++ (remainder ++ (after ++ ['\n'])))) spans ∧
      ∀ span ∈ spans, span = ⟨offset + head.length, offset + head.length + removed.length⟩ ∨
        tail ≠ after ∧
          span = ⟨offset + head.length + removed.length + remainder.length,
            offset + head.length + removed.length + remainder.length + tail.length⟩ := by
  by_cases hsame : tail = after
  · rw [hsame]
    exact ⟨_, .replace head removed inserted (remainder ++ (after ++ ['\n'])), fun span hspan =>
      Or.inl (List.mem_singleton.mp hspan)⟩
  · refine ⟨_, .change (.change .same), fun span hspan => ?_⟩
    rcases List.mem_cons.mp hspan with hspan | hspan
    · exact Or.inl hspan
    · exact Or.inr ⟨hsame, List.mem_singleton.mp hspan⟩

/-! ## The stretches -/

/-- The stretch ends in front of the body or covers only blanks there, and it starts behind the cut or
covers only blanks and semicolons there. -/
structure Rewritten (text : Text) (opening : Opening) (span : Stretch) : Prop where
  front : ∀ i, span.start ≤ i → i < opening.start.offset →
    ∀ c, (text)[i]? = some c → isBlank c = true
  back : ∀ i, (cut opening).offset ≤ i → i < span.stop →
    ∀ c, (text)[i]? = some c → isBlank c = true ∨ c = ';'

/-- The blanks that end the line of the cut. -/
def lineEnd (lines : List Text) (opening : Opening) : Stretch :=
  let line := lineAt lines (cut opening).row
  let offset := rowOffset lines (cut opening).row
  ⟨offset + (trimEnd line).length, offset + line.length⟩

/-- Whether the line that the code behind the cut is moved to ends as the line of the cut does. -/
def keepsLineEnd (lines : List Text) (opening : Opening) : Bool :=
  closingBlanks (lineAt lines (cut opening).row) == ending (lineAt lines opening.start.row)

/-- Whether the line of the cut is written anew. -/
def movesCode (lines : List Text) (opening : Opening) : Bool :=
  !startsLine lines opening || (ofOpening? opening).isSome

/-- What a docstring splice changes for one body. -/
def Changes (text : Text) (opening : Opening) (span : Stretch) : Prop :=
  Rewritten text opening span ∨
    movesCode (splitLines text) opening = true ∧ keepsLineEnd (splitLines text) opening = false ∧
      span = lineEnd (splitLines text) opening

/-- The places of a body in its text. -/
structure Located (text : Text) (opening : Opening) : Prop where
  start : Place.Reached text opening.start
  stop : Place.Reached text (cut opening)
  forward : opening.start.offset ≤ (cut opening).offset
  row_lt : (cut opening).row < (splitLines text).length

/-- A character of a text stands in its lines. -/
theorem mem_of_row {row i : Nat} {above blanks below : Text} {c : Char}
    (hrow : row < (splitLines text).length)
    (hline : lineAt (splitLines text) row = above ++ (blanks ++ below))
    (hfrom : rowOffset (splitLines text) row + above.length ≤ i)
    (hto : i < rowOffset (splitLines text) row + (above.length + blanks.length))
    (hc : (text)[i]? = some c) : c ∈ blanks := by
  obtain ⟨column, rfl⟩ := Nat.exists_eq_add_of_le (Nat.le_of_add_right_le hfrom)
  have hlong : (lineAt (splitLines text) row).length =
      above.length + (blanks.length + below.length) := by
    rw [hline, List.length_append, List.length_append]
  have hended : (ended (splitLines text))[rowOffset (splitLines text) row + column]? = some c := by
    rw [ended_splitLines, List.getElem?_append_left (List.getElem?_eq_some_iff.mp hc).1]
    exact hc
  rw [getElem?_ended hrow (by omega), hline, List.getElem?_append_right (by omega),
    List.getElem?_append_left (by omega)] at hended
  exact List.mem_of_getElem? hended

/-! ## One body -/

namespace Located

variable (h : Located text opening)

include h

theorem start_row_le : opening.start.row ≤ (cut opening).row := h.start.row_le h.stop h.forward

theorem start_row_lt : opening.start.row < (splitLines text).length :=
  Nat.lt_of_le_of_lt h.start_row_le h.row_lt

/-- The rows that are written anew: up to the cut, and from there to the end of its line. -/
theorem ended_rows : ∃ upper,
    ended (((splitLines text).take ((cut opening).row + 1)).drop opening.start.row) =
      upper ++ ((lineAt (splitLines text) (cut opening).row).drop (cut opening).column ++ ['\n']) ∧
    rowOffset (splitLines text) opening.start.row + upper.length = (cut opening).offset ∧
    (lineAt (splitLines text) opening.start.row).take opening.start.column <+: upper := by
  have hrow := h.start_row_le
  refine ⟨ended (((splitLines text).take (cut opening).row).drop opening.start.row) ++
    (lineAt (splitLines text) (cut opening).row).take (cut opening).column, ?_, ?_, ?_⟩
  · rw [take_row_succ h.row_lt, List.drop_append_of_le_length (by
      rw [List.length_take_of_le (Nat.le_of_lt h.row_lt)]
      exact hrow), ended_append, ended_singleton, List.append_assoc,
      ← List.append_assoc (List.take _ (lineAt _ _)), List.take_append_drop]
  · rw [List.length_append, List.length_take_of_le h.stop.column_le, ← Nat.add_assoc,
      rowOffset_add hrow, h.stop.offset_eq]
  · rcases Nat.eq_or_lt_of_le hrow with hsame | hlater
    · have hcolumn : opening.start.column ≤ (cut opening).column := by
        have hforward := h.forward
        rw [h.start.offset_eq, h.stop.offset_eq, hsame] at hforward
        omega
      rw [← hsame, List.drop_eq_nil_of_le (by rw [List.length_take]; omega)]
      exact List.take_prefix_take_left hcolumn
    · rw [List.drop_take, drop_row h.start_row_lt]
      obtain ⟨n, hn⟩ : ∃ n, (cut opening).row - opening.start.row = n + 1 :=
        ⟨(cut opening).row - opening.start.row - 1, by omega⟩
      rw [hn, List.take_succ_cons, ended_cons, List.append_assoc]
      exact (List.take_prefix _ _).trans (List.prefix_append _ _)

/-- What is in front of the body on its line may be rewritten when it is blank. -/
theorem front {above blanks : Text}
    (hfront : (lineAt (splitLines text) opening.start.row).take opening.start.column =
      above ++ blanks) (hblanks : ∀ c ∈ blanks, isBlank c = true) {i : Nat} {c : Char}
    (hfrom : rowOffset (splitLines text) opening.start.row + above.length ≤ i)
    (hto : i < opening.start.offset) (hc : (text)[i]? = some c) : isBlank c = true := by
  have hlength := congrArg List.length hfront
  rw [List.length_take_of_le h.start.column_le, List.length_append] at hlength
  have hline : lineAt (splitLines text) opening.start.row =
      above ++ (blanks ++ (lineAt (splitLines text) opening.start.row).drop opening.start.column) := by
    rw [← List.append_assoc, ← hfront, List.take_append_drop]
  rw [h.start.offset_eq] at hto
  exact hblanks c (mem_of_row h.start_row_lt hline hfrom (by omega) hc)

/-- What is behind the cut on its line may be rewritten when it is blank or a semicolon. -/
theorem back {lead below : Text}
    (hback : (lineAt (splitLines text) (cut opening).row).drop (cut opening).column = lead ++ below)
    (hlead : ∀ c ∈ lead, isBlank c = true ∨ c = ';') {i : Nat} {c : Char}
    (hfrom : (cut opening).offset ≤ i) (hto : i < (cut opening).offset + lead.length)
    (hc : (text)[i]? = some c) : isBlank c = true ∨ c = ';' := by
  have hlength := List.length_take_of_le h.stop.column_le
  have hline : lineAt (splitLines text) (cut opening).row =
      (lineAt (splitLines text) (cut opening).row).take (cut opening).column ++ (lead ++ below) := by
    rw [← hback, List.take_append_drop]
  rw [h.stop.offset_eq] at hfrom hto
  exact hlead c (mem_of_row h.row_lt hline (by omega) (by omega) hc)

theorem offset_lt {lead below : Text}
    (hback : (lineAt (splitLines text) (cut opening).row).drop (cut opening).column = lead ++ below) :
    (cut opening).offset + lead.length < (ended (splitLines text)).length := by
  have hlength := congrArg List.length hback
  rw [List.length_drop, List.length_append] at hlength
  have hcolumn := h.stop.column_le
  have hsucc := rowOffset_succ h.row_lt
  have hall : rowOffset (splitLines text) ((cut opening).row + 1) ≤
      rowOffset (splitLines text) (splitLines text).length := rowOffset_mono h.row_lt
  rw [rowOffset, rowOffset, List.take_length, ← rowOffset] at hall
  rw [h.stop.offset_eq]
  omega

/-- **Code that is moved.**  The new lines start with the beginning of the line of the body, up to some
blanks in front of the body, and end with what is left of the line of the cut. -/
theorem patches_moved (hmoves : movesCode (splitLines text) opening = true)
    {head blanks : Text} {new : List Text} {margin : Text}
    (hfront : (lineAt (splitLines text) opening.start.row).take opening.start.column =
      head ++ blanks) (hblanks : ∀ c ∈ blanks, isBlank c = true)
    (hnew : ∃ inserted, ended (new.map (adopt (lineAt (splitLines text) opening.start.row))) =
      head ++ (inserted ++ ['\n'])) :
    (adoptEnding (splitLines text) ⟨opening.start.row, (cut opening).row + 1,
      new ++ remainderLines margin (remainderAt (splitLines text) (cut opening))⟩).Patches
      (splitLines text) fun span =>
        span.stop < (ended (splitLines text)).length ∧ Changes text opening span := by
  obtain ⟨inserted, hinserted⟩ := hnew
  obtain ⟨upper, hrows, hoffset, hupper⟩ := h.ended_rows
  obtain ⟨lead, tail, hcut, hlead, htail⟩ := exists_cut_remainderAfter
    (lineAt (splitLines text) (cut opening).row) (cut opening).column
  obtain ⟨mid, rfl⟩ : ∃ mid, upper = head ++ mid := by
    obtain ⟨rest, hrest⟩ := hupper
    exact ⟨blanks ++ rest, by rw [← hrest, hfront, List.append_assoc]⟩
  rw [List.length_append] at hoffset
  rw [adoptEnding_eq h.start_row_lt]
  dsimp only [Patches]
  rw [hrows, hcut, List.map_append, ended_append, hinserted, remainderAt]
  by_cases hempty : remainderAfter (lineAt (splitLines text) (cut opening).row)
      (cut opening).column = []
  · -- nothing is left of the line, so all that is behind the cut goes
    rw [hempty, List.nil_append] at hcut ⊢
    have hall : ∀ c ∈ lead ++ tail, isBlank c = true ∨ c = ';' := by
      intro c hc
      rcases List.mem_append.mp hc with hc | hc
      · exact hlead c hc
      · exact Or.inl (htail c hc)
    have hcut' : (lineAt (splitLines text) (cut opening).row).drop (cut opening).column =
        (lead ++ tail) ++ [] := by
      rw [List.append_nil]
      exact hcut
    have hold : (head ++ mid) ++ (lead ++ tail ++ ['\n']) =
        head ++ ((mid ++ (lead ++ tail)) ++ ['\n']) := by
      simp only [List.append_assoc]
    have hnone : ended ((remainderLines margin []).map
        (adopt (lineAt (splitLines text) opening.start.row))) = [] := rfl
    rw [hold, hnone, List.append_nil]
    refine ⟨_, .replace head (mid ++ (lead ++ tail)) inserted ['\n'], fun span hspan => ?_⟩
    have hstop : rowOffset (splitLines text) opening.start.row + head.length +
        (mid ++ (lead ++ tail)).length = (cut opening).offset + (lead ++ tail).length := by
      have hlength : (mid ++ (lead ++ tail)).length = mid.length + (lead ++ tail).length :=
        List.length_append
      omega
    rw [List.mem_singleton.mp hspan, hstop]
    exact ⟨h.offset_lt hcut', Or.inl ⟨fun i hfrom hto c hc => h.front hfront hblanks hfrom hto hc,
      fun i hfrom hto c hc => h.back hcut' hall hfrom hto hc⟩⟩
  · generalize hremainder : remainderAfter (lineAt (splitLines text) (cut opening).row)
      (cut opening).column = remainder at hcut hempty ⊢
    have hlast : ∀ c, remainder.getLast? = some c → isBlank c = false := by
      intro c hc
      rw [← hremainder] at hc
      exact isBlank_of_getLast?_remainderAfter hc
    have hwritten : ended ((remainderLines margin remainder).map
        (adopt (lineAt (splitLines text) opening.start.row))) =
        margin ++ (remainder ++ (ending (lineAt (splitLines text) opening.start.row) ++ ['\n'])) := by
      have hreturn : hasReturn (margin ++ remainder) = false := by
        refine Bool.eq_false_iff.mpr fun hreturn => ?_
        rw [hasReturn, List.getLast?_append_of_ne_nil _ hempty, beq_iff_eq] at hreturn
        exact absurd (hlast '\r' hreturn) (by decide)
      rw [remainderLines, if_neg (by rwa [List.isEmpty_iff]), List.map_singleton, ended_singleton,
        adopt_eq _ hreturn]
      simp only [List.append_assoc]
    have hold : (head ++ mid) ++ (lead ++ (remainder ++ tail) ++ ['\n']) =
        head ++ ((mid ++ lead) ++ (remainder ++ (tail ++ ['\n']))) := by
      simp only [List.append_assoc]
    have hnew : head ++ (inserted ++ ['\n']) ++ (margin ++ (remainder ++
          (ending (lineAt (splitLines text) opening.start.row) ++ ['\n']))) =
        head ++ ((inserted ++ (['\n'] ++ margin)) ++ (remainder ++
          (ending (lineAt (splitLines text) opening.start.row) ++ ['\n']))) := by
      simp only [List.append_assoc]
    rw [hwritten, hold, hnew]
    obtain ⟨spans, hpatched, hspans⟩ := exists_patched_around
      (rowOffset (splitLines text) opening.start.row) head (mid ++ lead)
      (inserted ++ (['\n'] ++ margin)) remainder tail
      (ending (lineAt (splitLines text) opening.start.row))
    refine ⟨spans, hpatched, fun span hspan => ?_⟩
    have hcutAt : rowOffset (splitLines text) opening.start.row + head.length +
        (mid ++ lead).length = (cut opening).offset + lead.length := by
      have hlength : (mid ++ lead).length = mid.length + lead.length := List.length_append
      omega
    rcases hspans span hspan with rfl | ⟨hdiffers, rfl⟩
    · rw [hcutAt]
      exact ⟨h.offset_lt hcut, Or.inl ⟨fun i hfrom hto c hc => h.front hfront hblanks hfrom hto hc,
        fun i hfrom hto c hc => h.back hcut hlead hfrom hto hc⟩⟩
    · have hline : lineAt (splitLines text) (cut opening).row =
          (lineAt (splitLines text) (cut opening).row).take (cut opening).column ++
            (lead ++ remainder) ++ tail := by
        rw [List.append_assoc, List.append_assoc lead, ← hcut, List.take_append_drop]
      have htrim : trimEnd (lineAt (splitLines text) (cut opening).row) =
          (lineAt (splitLines text) (cut opening).row).take (cut opening).column ++
            (lead ++ remainder) := by
        conv => lhs; rw [hline]
        refine trimEnd_append htail fun c hc => hlast c ?_
        rwa [← List.append_assoc, List.getLast?_append_of_ne_nil _ hempty] at hc
      have hclosing : closingBlanks (lineAt (splitLines text) (cut opening).row) = tail := by
        rw [closingBlanks, htrim]
        conv => lhs; arg 2; rw [hline]
        exact List.drop_left
      have hcolumn := List.length_take_of_le h.stop.column_le
      have htrimLength := congrArg List.length htrim
      have hlineLength := congrArg List.length hline
      simp only [List.length_append, hcolumn] at htrimLength hlineLength
      have hin : (cut opening).offset + (lead ++ (remainder ++ tail)).length <
          (ended (splitLines text)).length :=
        h.offset_lt (hcut.trans (List.append_nil _).symm)
      simp only [List.length_append] at hin
      refine ⟨?_, Or.inr ⟨hmoves, ?_, ?_⟩⟩
      · rw [hcutAt]
        dsimp only
        omega
      · rw [keepsLineEnd, hclosing]
        exact beq_eq_false_iff_ne.mpr hdiffers
      · rw [lineEnd, hcutAt, h.stop.offset_eq, Stretch.mk.injEq]
        omega

/-! ## The shapes of splices -/

/-- **A docstring above a body** is put between two rows. -/
theorem patches_insertion {new : List Text} (hold : ofOpening? opening = none)
    (hblank : startsLine (splitLines text) opening = true) :
    (adoptEnding (splitLines text) ⟨opening.start.row, opening.start.row, new⟩).Patches
      (splitLines text) fun span =>
        span.stop < (ended (splitLines text)).length ∧ Changes text opening span := by
  have hcut := cut_of_none hold
  have hrow := h.start_row_lt
  rw [adoptEnding_eq hrow]
  dsimp only [Patches]
  rw [List.drop_eq_nil_of_le (by rw [List.length_take]; omega)]
  generalize ended (new.map (adopt (lineAt (splitLines text) opening.start.row))) = inserted
  have hpatched : Patched (rowOffset (splitLines text) opening.start.row) [] (inserted ++ [])
      [⟨rowOffset (splitLines text) opening.start.row, rowOffset (splitLines text) opening.start.row⟩] :=
    .replace [] [] inserted []
  rw [List.append_nil] at hpatched
  refine ⟨_, hpatched, fun span hspan => ?_⟩
  rw [List.mem_singleton.mp hspan]
  have hstart := h.start.offset_eq
  have hsucc := rowOffset_succ hrow
  have hall : rowOffset (splitLines text) (opening.start.row + 1) ≤
      rowOffset (splitLines text) (splitLines text).length := rowOffset_mono hrow
  rw [rowOffset, rowOffset, List.take_length, ← rowOffset] at hall
  refine ⟨by dsimp only; omega, Or.inl ⟨fun i hfrom hto c hc => ?_, fun i hfrom hto c hc => ?_⟩⟩
  · have hblanks : ∀ c ∈ (lineAt (splitLines text) opening.start.row).take opening.start.column,
        isBlank c = true := List.all_eq_true.mp hblank
    exact h.front (List.nil_append _).symm hblanks (by rwa [List.length_nil, Nat.add_zero]) hto hc
  · rw [hcut] at hfrom
    dsimp only at hto
    omega

/-- **A docstring splice** changes nothing else. -/
theorem patches_spliceBody (d : Declaration) (documentation : Text) :
    (adoptEnding (splitLines text)
      (spliceBody (splitLines text) d opening documentation)).Patches (splitLines text) fun span =>
        span.stop < (ended (splitLines text)).length ∧ Changes text opening span := by
  unfold spliceBody
  split
  · rename_i hblank
    cases hold : ofOpening? opening with
    | none =>
      rw [spliceOwnLine_of_none hold]
      exact h.patches_insertion hold hblank
    | some old =>
      rw [spliceOwnLine_of_some hold]
      refine h.patches_moved ?_ (List.nil_append _).symm (List.all_eq_true.mp hblank) ?_
      · rw [movesCode, hold, Option.isSome_some, Bool.or_true]
      · exact exists_ended_adopted _ (render_ne_nil documentation _)
  · rename_i hshared
    rw [spliceSharedLine_eq, ← List.cons_append]
    refine h.patches_moved ?_ (trimEnd_append_closingBlanks _).symm
      (fun c hc => isBlank_of_mem_closingBlanks hc) ?_
    · rw [movesCode, Bool.eq_false_iff.mpr hshared]
      rfl
    · obtain ⟨extra, hextra⟩ := exists_adopt (lineAt (splitLines text) opening.start.row)
        (trimEnd ((lineAt (splitLines text) opening.start.row).take opening.start.column))
      obtain ⟨written, hwritten⟩ := exists_ended_adopted
        (lineAt (splitLines text) opening.start.row) (render_ne_nil documentation
          (indent (lineAt (splitLines text) d.start.row) ++ indentUnit))
      rw [List.map_cons, ended_cons, hextra, hwritten]
      exact ⟨extra ++ ('\n' :: written), by simp only [List.append_assoc, List.cons_append]⟩

end Located

/-! ## Injections -/

/-- The first statements of the bodies that targets document. -/
def targetedOpenings [Parser] (text : Text) (targets : List Target) : List Opening :=
  (Target.resolve targets).filterMap fun t =>
    (((Parser.outline? text).getD []).find? (·.start.row == t.row)).bind (·.opening)

/-- The first statement of a body and its end are in the text, in order. -/
theorem reached_cut [Parser] (hlaws : Parser.Laws) (houtline : Parser.outline? text = some outline)
    (hd : d ∈ outline) (hopening : d.opening = some opening) :
    Place.Reached text opening.start ∧ Place.Reached text (cut opening) ∧
      opening.start.offset ≤ (cut opening).offset := by
  have hstart := (hlaws.opening houtline hd hopening).reached
  refine ⟨hstart, ?_⟩
  cases hold : ofOpening? opening with
  | none =>
    rw [cut_of_none hold]
    exact ⟨hstart, Nat.le_refl _⟩
  | some old =>
    rw [cut_of_some hold]
    exact hlaws.string houtline hd hopening (Option.filter_eq_some_iff.mp hold).1

/-- Every planned splice is made for a body that a target documents. -/
theorem spliceBody_of_mem_plannedSplices [Parser] {s : Splice}
    (hs : s ∈ plannedSplices .structured text targets) :
    ∃ outline d opening documentation, Parser.outline? text = some outline ∧ d ∈ outline ∧
      d.opening = some opening ∧ opening ∈ targetedOpenings text targets ∧
      s = spliceBody (splitLines text) d opening documentation := by
  obtain ⟨splices, hplan, hs⟩ := exists_plan_of_mem_plannedSplices hs
  obtain ⟨outline, houtline, hall⟩ := planSplices_eq_ok hplan
  obtain ⟨t, ht, hplanned⟩ := exists_target_of_mem hall hs
  obtain ⟨d, opening, hd, hopening, rfl⟩ := planSplice_eq_ok_iff.mp hplanned
  refine ⟨outline, d, opening, t.documentation, houtline, List.mem_of_find?_eq_some hd, hopening,
    List.mem_filterMap.mpr ⟨t, ht, ?_⟩, rfl⟩
  rw [houtline, Option.getD_some, hd]
  exact hopening

/-- The row behind the cut is where a splice that writes the line of the cut anew stops. -/
theorem stop_spliceBody (hmoves : movesCode lines opening = true) :
    (spliceBody lines d opening documentation).stop = (cut opening).row + 1 := by
  unfold spliceBody
  split
  · rename_i hblank
    cases hold : ofOpening? opening with
    | none =>
      rw [movesCode, hblank, hold] at hmoves
      exact absurd hmoves (by decide)
    | some old => rw [spliceOwnLine_of_some hold]
  · rw [spliceSharedLine_eq]

/-- **A text with new docstrings** is the old one but for some stretches. -/
theorem patched_inject [Parser] {result : Text} (hlaws : Parser.Laws)
    (h : inject .structured text targets = .ok result) :
    ∃ spans, Patched 0 text result spans ∧
      ∀ span ∈ spans, ∃ opening ∈ targetedOpenings text targets, Changes text opening span := by
  obtain ⟨hwithin, hapart, rfl⟩ := edited_of_inject h
  refine patched_editedText hwithin hapart fun s hs => ?_
  obtain ⟨given, hgiven, rfl⟩ := List.mem_map.mp hs
  obtain ⟨outline, d, opening, documentation, houtline, hd, hopening, htargeted, rfl⟩ :=
    spliceBody_of_mem_plannedSplices hgiven
  obtain ⟨hstart, hstop, hforward⟩ := reached_cut hlaws houtline hd hopening
  have hrow : (cut opening).row < (splitLines text).length := by
    cases hmoves : movesCode (splitLines text) opening with
    | true =>
      have hlast := (hwithin _ hgiven).2
      rw [stop_spliceBody hmoves] at hlast
      exact hlast
    | false =>
      rw [movesCode, Bool.or_eq_false_iff, Option.isSome_eq_false_iff, Option.isNone_iff_eq_none]
        at hmoves
      rw [cut_of_none hmoves.2]
      exact (hlaws.opening houtline hd hopening).row_lt
  have hlocated : Located text opening := ⟨hstart, hstop, hforward, hrow⟩
  obtain ⟨spans, hpatched, hspans⟩ := hlocated.patches_spliceBody d documentation
  exact ⟨spans, hpatched, fun span hspan => ⟨(hspans span hspan).1, opening, htargeted,
    (hspans span hspan).2⟩⟩

end Docstring

end DocSplice
