/-!
# Text as a list of characters

Everything this library analyses --- source files, documentation, replies --- is a `Text`, the
list of its characters.  Lists are what the rules are stated on: a rule that looks at a prefix,
a run of characters or the last line is a recursion on the list, and its laws are inductions on
the same list.  `String` appears only where a finished message leaves the library.

This module holds the searching and cutting operations that the rules share.

* `Text.split` cuts at every occurrence of a character and `Text.join` undoes it
  (`join_split`).
* `Text.contains`, `Text.startsWith`, `Text.replace` look for a fixed text.
* `Text.stripPrefix?` and `Text.stripSuffix?` remove one when it is there.
-/

namespace DocSplice

/-- A text is the list of its characters. -/
abbrev Text := List Char

namespace Text

/-- The characters of a string literal or of a finished message. -/
abbrev ofString (s : String) : Text := s.toList

/-! ## Fixed texts inside a text -/

/-- Whether `p` is an initial segment of `t`. -/
def startsWith (t p : Text) : Bool := p.isPrefixOf t

/-- Whether `s` is a final segment of `t`. -/
def endsWith (t s : Text) : Bool := s.isSuffixOf t

/-- What follows `p` in `t`, when `t` starts with it. -/
def stripPrefix? (t p : Text) : Option Text := p.isPrefixOf? t

/-- What stands before `s` in `t`, when `t` ends with it. -/
def stripSuffix? (t s : Text) : Option Text := s.isSuffixOf? t

/-- Whether `needle` occurs somewhere in the text. -/
def contains (needle : Text) : Text → Bool
  | [] => needle.isEmpty
  | c :: t => needle.isPrefixOf (c :: t) || contains needle t

@[simp] theorem contains_nil (needle : Text) : contains needle [] = needle.isEmpty := rfl

theorem contains_cons (needle : Text) (c : Char) (t : Text) :
    contains needle (c :: t) = (needle.isPrefixOf (c :: t) || contains needle t) := rfl

/-- Replace the occurrences of `old` from left to right; `skip` counts the characters of an
occurrence that are still to be dropped. -/
def replaceFrom (old new : Text) (skip : Nat) : Text → Text
  | [] => []
  | c :: t =>
    match skip with
    | k + 1 => replaceFrom old new k t
    | 0 =>
      if old.isPrefixOf (c :: t) then new ++ replaceFrom old new (old.length - 1) t
      else c :: replaceFrom old new 0 t

/-- Replace every occurrence of the non-empty text `old`, found from left to right without
overlap. -/
def replace (t old new : Text) : Text := replaceFrom old new 0 t

/-! ## Runs at either end -/

/-- Drop the final run of characters with the property. -/
def dropEndWhile (p : Char → Bool) (t : Text) : Text := (t.reverse.dropWhile p).reverse

/-- Drop the runs of characters with the property at both ends. -/
def dropAroundWhile (p : Char → Bool) (t : Text) : Text := dropEndWhile p (t.dropWhile p)

@[simp] theorem dropEndWhile_nil (p : Char → Bool) : dropEndWhile p [] = [] := rfl

/-! ## Cutting at a character -/

/-- The pieces between the occurrences of `sep`; there is always at least one. -/
def split (sep : Char) : Text → List Text
  | [] => [[]]
  | c :: t =>
    if c = sep then [] :: split sep t
    else
      match split sep t with
      | [] => [[c]]
      | piece :: pieces => (c :: piece) :: pieces

/-- Put pieces together again with `sep` between them. -/
def join (sep : Char) : List Text → Text
  | [] => []
  | [piece] => piece
  | piece :: rest => piece ++ sep :: join sep rest

@[simp] theorem split_nil (sep : Char) : split sep [] = [[]] := rfl

theorem split_ne_nil (sep : Char) (t : Text) : split sep t ≠ [] := by
  cases t with
  | nil => simp
  | cons c t =>
    unfold split
    split
    · simp
    · split <;> simp

theorem split_cons_sep (sep : Char) (t : Text) : split sep (sep :: t) = [] :: split sep t := by
  simp [split]

theorem split_cons_of_ne {sep c : Char} (h : c ≠ sep) (t : Text) :
    ∃ piece pieces, split sep t = piece :: pieces ∧
      split sep (c :: t) = (c :: piece) :: pieces := by
  cases hs : split sep t with
  | nil => exact absurd hs (split_ne_nil sep t)
  | cons piece pieces => exact ⟨piece, pieces, rfl, by simp [split, h, hs]⟩

@[simp] theorem join_nil (sep : Char) : join sep [] = [] := rfl

@[simp] theorem join_singleton (sep : Char) (piece : Text) : join sep [piece] = piece := rfl

theorem join_cons_cons (sep : Char) (a b : Text) (rest : List Text) :
    join sep (a :: b :: rest) = a ++ sep :: join sep (b :: rest) := rfl

theorem join_cons_of_ne_nil (sep : Char) (a : Text) {rest : List Text} (h : rest ≠ []) :
    join sep (a :: rest) = a ++ sep :: join sep rest := by
  cases rest with
  | nil => exact absurd rfl h
  | cons b rest => rfl

/-- Joining the pieces reads the text. -/
theorem join_split (sep : Char) (t : Text) : join sep (split sep t) = t := by
  induction t with
  | nil => rfl
  | cons c t ih =>
    by_cases h : c = sep
    · subst h
      rw [split_cons_sep, join_cons_of_ne_nil _ _ (split_ne_nil c t), ih, List.nil_append]
    · obtain ⟨piece, pieces, hs, hc⟩ := split_cons_of_ne h t
      rw [hc]
      rw [hs] at ih
      cases pieces with
      | nil => simpa using ih
      | cons b rest =>
        rw [join_cons_cons] at ih ⊢
        rw [List.cons_append, ih]

end Text

end DocSplice
