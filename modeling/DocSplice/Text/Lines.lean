import DocSplice.Text.Blank

/-!
# Lines

A file is cut into lines in one of two ways, and the difference is visible at the end of the
text and at carriage returns.

* `splitLines` is the view that edits work on.  A final newline closes the last line instead of
  opening another one, the empty text is a single empty line, and a carriage return stays part of
  its line.  Together with the flag "ended with a newline" it loses nothing
  (`joinLines_splitLines`).
* `terminatedLines` is the view that documentation is read through.  Each line loses its
  terminator, which is a newline or a carriage return followed by a newline; the empty text has
  no line.
-/

namespace DocSplice.Text

/-- Lines put together with a newline between any two. -/
def joinLines (lines : List Text) : Text := join '\n' lines

/-- Without one final newline. -/
def dropFinalNewline : Text → Text
  | [] => []
  | ['\n'] => []
  | c :: t => c :: dropFinalNewline t

/-- Whether the last character is a newline. -/
def endsWithNewline (t : Text) : Bool := t.getLast? == some '\n'

/-- The lines of a text, where a final newline does not open another line. -/
def splitLines (t : Text) : List Text := split '\n' (dropFinalNewline t)

/-- Without one final carriage return. -/
def dropFinalReturn : Text → Text
  | [] => []
  | ['\r'] => []
  | c :: t => c :: dropFinalReturn t

/-- From the pieces between newlines to lines without their terminators: every piece but the last
was ended by a newline, and an empty last piece is no line. -/
def closeLines : List Text → List Text
  | [] => []
  | [last] => if last.isEmpty then [] else [last]
  | piece :: rest => dropFinalReturn piece :: closeLines rest

/-- The lines of a text without their terminators. -/
def terminatedLines (t : Text) : List Text := closeLines (split '\n' t)

/-- The lines numbered `first` to `last`, counted from one and both included, put together. -/
def spanText (lines : List Text) (first last : Nat) : Text :=
  joinLines ((lines.take last).drop (first - 1))

theorem closeLines_cons_cons (piece next : Text) (rest : List Text) :
    closeLines (piece :: next :: rest) = dropFinalReturn piece :: closeLines (next :: rest) := rfl

theorem splitLines_ne_nil (t : Text) : splitLines t ≠ [] := split_ne_nil _ _

theorem dropFinalNewline_append_singleton (t : Text) : dropFinalNewline (t ++ ['\n']) = t := by
  induction t with
  | nil => rfl
  | cons c t ih =>
    cases t with
    | nil => simp [dropFinalNewline]
    | cons d t => simpa [dropFinalNewline] using ih

theorem dropFinalNewline_of_not_endsWithNewline {t : Text} (h : endsWithNewline t = false) :
    dropFinalNewline t = t := by
  induction t with
  | nil => rfl
  | cons c t ih =>
    cases t with
    | nil =>
      have hc : c ≠ '\n' := by rintro rfl; simp [endsWithNewline] at h
      simp [dropFinalNewline, hc]
    | cons d t =>
      have : endsWithNewline (d :: t) = false := by
        simpa [endsWithNewline] using h
      simp [dropFinalNewline, ih this]

/-- The lines and the final newline read the text. -/
theorem joinLines_splitLines (t : Text) :
    joinLines (splitLines t) ++ (if endsWithNewline t then ['\n'] else []) = t := by
  unfold joinLines splitLines
  rw [join_split]
  by_cases h : endsWithNewline t = true
  · have hne : t ≠ [] := by rintro rfl; simp [endsWithNewline] at h
    have hlast : t = t.dropLast ++ ['\n'] := by
      have := List.dropLast_concat_getLast hne
      rw [endsWithNewline, beq_iff_eq, List.getLast?_eq_some_getLast hne, Option.some.injEq] at h
      rw [h] at this
      exact this.symm
    rw [if_pos h]
    conv => lhs; rw [hlast, dropFinalNewline_append_singleton]
    exact hlast.symm
  · have h' : endsWithNewline t = false := by simpa using h
    simp [h', dropFinalNewline_of_not_endsWithNewline h']

end DocSplice.Text
