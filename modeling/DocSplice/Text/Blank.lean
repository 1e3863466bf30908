import DocSplice.Text.Basic

/-!
# Blank characters

A character is blank when it has the Unicode property `White_Space`; the property holds of
twenty-five characters and has been stable since it was introduced.  "Blank line", "trimmed" and
"leading indent" all refer to this one class.

Trimming takes the blanks off either end; the indentation is the leading blanks themselves.
-/

namespace DocSplice

/-- The property `White_Space`. -/
def isBlank (c : Char) : Bool :=
  let n := c.toNat
  (9 ≤ n && n ≤ 13) || n == 0x20 || n == 0x85 || n == 0xA0 || n == 0x1680
    || (0x2000 ≤ n && n ≤ 0x200A) || n == 0x2028 || n == 0x2029 || n == 0x202F || n == 0x205F
    || n == 0x3000

namespace Text

/-- Without the leading blanks. -/
def trimStart (t : Text) : Text := t.dropWhile isBlank

/-- Without the trailing blanks. -/
def trimEnd (t : Text) : Text := dropEndWhile isBlank t

/-- Without the blanks at either end. -/
def trim (t : Text) : Text := trimEnd (trimStart t)

/-- The leading blanks themselves, verbatim. -/
def indent (t : Text) : Text := t.takeWhile isBlank

/-- A text of blanks only; the empty text is one. -/
def allBlank (t : Text) : Bool := t.all isBlank

@[simp] theorem trimStart_nil : trimStart [] = [] := rfl

@[simp] theorem trimEnd_nil : trimEnd [] = [] := rfl

@[simp] theorem trim_nil : trim [] = [] := rfl

@[simp] theorem allBlank_nil : allBlank [] = true := rfl

theorem indent_append_trimStart (t : Text) : indent t ++ trimStart t = t :=
  List.takeWhile_append_dropWhile

@[simp] theorem trimStart_trimStart (t : Text) : trimStart (trimStart t) = trimStart t := by
  induction t with
  | nil => rfl
  | cons c t ih =>
    by_cases h : isBlank c = true
    · simpa [trimStart, List.dropWhile_cons, h] using ih
    · simp [trimStart, h]

end Text

end DocSplice
