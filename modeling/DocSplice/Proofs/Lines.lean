import DocSplice.LineBuffer
import Mathlib.Data.List.Basic
import Mathlib.Data.List.TakeWhile

/-!
# Lines read back

`LineBuffer.toText_ofText` says that taking a text apart and putting it together gives the text
back.  The other way round holds for the buffers that are the lines of some text, and this file says
which ones those are.

* `trimStart_append_cons` and the lemmas `mem_of_mem_…`: trimming and closing lines add no
  character.
* `split_join`: pieces without the separator are read back from their join.  So are `Plain` lines,
  when a text is read as documentation (`closeLines_of_plain`).
* `LineBuffer.Proper`: what is true of the lines of every text (`proper_ofText`) --- there is a
  line, no line holds a newline, and a last line that is empty was closed by a newline, unless the
  text is empty.
* `ended`: the lines of a text, each closed by a newline, which is how offsets are counted
  (`rowOffset`).
* `ofText_toText`: a proper buffer is read back from its text, so an edit that keeps a buffer proper
  can be followed through the text it writes.
-/

namespace DocSplice

namespace Text

/-! ## Prefixes and the characters of a trimmed text -/

/-- A text starts with a prefix exactly when something can be put behind the prefix. -/
theorem startsWith_iff {t p : Text} : startsWith t p = true ↔ ∃ rest, p ++ rest = t :=
  List.isPrefixOf_iff_prefix

theorem stripPrefix?_append (p t : Text) : stripPrefix? (p ++ t) p = some t :=
  List.isPrefixOf?_eq_some_iff_append_eq.mpr rfl

theorem stripSuffix?_append (t s : Text) : stripSuffix? (t ++ s) s = some t :=
  List.isSuffixOf?_eq_some_iff_append_eq.mpr rfl

theorem dropWhile_subset {p : Char → Bool} {t : Text} {c : Char} (h : c ∈ t.dropWhile p) : c ∈ t :=
  (List.dropWhile_sublist p).mem h

theorem mem_of_mem_dropEndWhile {p : Char → Bool} {t : Text} {c : Char}
    (h : c ∈ dropEndWhile p t) : c ∈ t :=
  List.mem_reverse.mp (dropWhile_subset (List.mem_reverse.mp h))

theorem dropEndWhile_isPrefix (p : Char → Bool) (t : Text) : dropEndWhile p t <+: t := by
  rw [← List.reverse_suffix, dropEndWhile, List.reverse_reverse]
  exact List.dropWhile_suffix p

theorem mem_of_mem_trimStart {t : Text} {c : Char} (h : c ∈ trimStart t) : c ∈ t :=
  dropWhile_subset h

theorem mem_of_mem_trimEnd {t : Text} {c : Char} (h : c ∈ trimEnd t) : c ∈ t :=
  mem_of_mem_dropEndWhile h

/-- Blanks in front are trimmed, up to the first character that is none. -/
theorem trimStart_append_cons {blanks : Text} (h : ∀ c ∈ blanks, isBlank c = true) {c : Char}
    (hc : isBlank c = false) (t : Text) : trimStart (blanks ++ c :: t) = c :: t := by
  rw [trimStart, List.dropWhile_append_of_pos h, List.dropWhile_cons, hc]
  rfl

/-- A text that starts with a character that is no blank has nothing to trim in front. -/
theorem trimStart_eq_self {t p : Text} {c : Char} (hc : isBlank c = false)
    (h : startsWith t (c :: p) = true) : trimStart t = t := by
  obtain ⟨rest, rfl⟩ := startsWith_iff.mp h
  exact trimStart_append_cons (fun c hc => absurd hc List.not_mem_nil) hc (p ++ rest)

/-- What trimming leaves does not end with a blank. -/
theorem isBlank_of_getLast?_trimEnd {t : Text} {c : Char} (h : (trimEnd t).getLast? = some c) :
    isBlank c = false := by
  have hhead : (t.reverse.dropWhile isBlank).head? = some c := by
    rw [← List.getLast?_reverse]
    exact h
  have hnot := List.head?_dropWhile_not isBlank t.reverse
  rw [hhead] at hnot
  exact hnot

/-- Blanks behind a text are trimmed. -/
theorem trimEnd_append_of_allBlank (t : Text) {blanks : Text} (h : allBlank blanks = true) :
    trimEnd (t ++ blanks) = trimEnd t := by
  have hblank : ∀ c ∈ blanks.reverse, isBlank c = true := fun c hc =>
    List.all_eq_true.mp h c (List.mem_reverse.mp hc)
  rw [trimEnd, dropEndWhile, List.reverse_append, List.dropWhile_append_of_pos hblank]
  rfl

/-- What stands in front of a text that is not blank is not trimmed. -/
theorem trimEnd_append_of_not_allBlank (front : Text) {t : Text} (h : allBlank t = false) :
    trimEnd (front ++ t) = front ++ trimEnd t := by
  have hleft : ¬ (t.reverse.dropWhile isBlank).isEmpty = true := by
    rw [List.isEmpty_iff, List.dropWhile_eq_nil_iff]
    intro hall
    have hblank : allBlank t = true :=
      List.all_eq_true.mpr fun c hc => hall c (List.mem_reverse.mpr hc)
    rw [h] at hblank
    exact Bool.false_ne_true hblank
  rw [trimEnd, trimEnd, dropEndWhile, dropEndWhile, List.reverse_append, List.dropWhile_append,
    if_neg hleft, List.reverse_append, List.reverse_reverse]

/-- Trimming takes blanks off. -/
theorem exists_trimEnd_append (t : Text) :
    ∃ blanks, allBlank blanks = true ∧ trimEnd t ++ blanks = t := by
  refine ⟨(t.reverse.takeWhile isBlank).reverse, List.all_eq_true.mpr fun c hc => ?_, ?_⟩
  · exact List.mem_takeWhile_imp (List.mem_reverse.mp hc)
  · rw [trimEnd, dropEndWhile, ← List.reverse_append, List.takeWhile_append_dropWhile,
      List.reverse_reverse]

/-- A text that does not end with a blank has nothing to trim at its end. -/
theorem trimEnd_eq_self_iff {t : Text} :
    trimEnd t = t ↔ ∀ c, t.getLast? = some c → isBlank c = false := by
  constructor
  · intro h c hc
    rw [← h] at hc
    exact isBlank_of_getLast?_trimEnd hc
  · intro h
    obtain ⟨blanks, hblank, hcut⟩ := exists_trimEnd_append t
    rcases List.eq_nil_or_concat blanks with rfl | ⟨front, last, rfl⟩
    · rw [List.append_nil] at hcut
      exact hcut
    · rw [List.concat_eq_append] at hblank hcut
      have hlast : isBlank last = false := h last (by rw [← hcut, ← List.append_assoc]; simp)
      rw [List.all_eq_true.mp hblank last (by simp)] at hlast
      exact absurd hlast (by decide)

/-- A text is blank when what trimming leaves of it is. -/
theorem allBlank_trimEnd (t : Text) : allBlank (trimEnd t) = allBlank t := by
  obtain ⟨blanks, hblank, hcut⟩ := exists_trimEnd_append t
  have hboth : allBlank t = (allBlank (trimEnd t) && allBlank blanks) := by
    conv => lhs; rw [← hcut]
    exact List.all_append
  rw [hboth, hblank, Bool.and_true]

/-- What is left of a line starts like the line. -/
theorem head?_trimEnd {t : Text} (h : trimEnd t ≠ []) : (trimEnd t).head? = t.head? := by
  obtain ⟨blanks, -, hcut⟩ := exists_trimEnd_append t
  conv => rhs; rw [← hcut]
  rw [List.head?_append_of_ne_nil _ h]

theorem trimEnd_ne_nil {t : Text} (h : allBlank t = false) : trimEnd t ≠ [] := by
  intro hnil
  have hblank := allBlank_trimEnd t
  rw [hnil, h] at hblank
  exact absurd hblank (by decide)

/-- Trimming in front leaves the end, unless nothing is left. -/
theorem getLast?_trimStart {t : Text} (h : allBlank t = false) :
    (trimStart t).getLast? = t.getLast? := by
  have hne : trimStart t ≠ [] := by
    intro hnil
    have hall : allBlank t = true := List.all_eq_true.mpr fun c hc =>
      List.dropWhile_eq_nil_iff.mp hnil c hc
    rw [h] at hall
    exact Bool.false_ne_true hall
  conv => rhs; rw [← indent_append_trimStart t]
  rw [List.getLast?_append_of_ne_nil _ hne]

/-- A text that ends like one that was trimmed does not end with a carriage return. -/
theorem hasReturn_of_getLast?_trimEnd {t line : Text} (h : line.getLast? = (trimEnd t).getLast?) :
    Splice.hasReturn line = false := by
  refine Bool.eq_false_iff.mpr fun hreturn => ?_
  rw [Splice.hasReturn, h, beq_iff_eq] at hreturn
  exact absurd (isBlank_of_getLast?_trimEnd hreturn) (by decide)

theorem isBlank_of_mem_indent {t : Text} {c : Char} (h : c ∈ indent t) : isBlank c = true :=
  List.mem_takeWhile_imp h

theorem mem_of_mem_indent {t : Text} {c : Char} (h : c ∈ indent t) : c ∈ t :=
  (List.takeWhile_sublist isBlank).mem h

theorem mem_of_mem_dropFinalReturn {c : Char} : ∀ {t : Text}, c ∈ dropFinalReturn t → c ∈ t
  | [], h => h
  | [d], h => by
    by_cases hd : d = '\r'
    · subst hd
      exact absurd h List.not_mem_nil
    · simpa [dropFinalReturn, hd] using h
  | d :: e :: t, h => by
    have hcut : dropFinalReturn (d :: e :: t) = d :: dropFinalReturn (e :: t) := by
      simp [dropFinalReturn]
    rw [hcut, List.mem_cons] at h
    rcases h with rfl | h
    · exact List.mem_cons_self
    · exact List.mem_cons_of_mem d (mem_of_mem_dropFinalReturn h)

/-- A line is a piece, perhaps without its final carriage return. -/
theorem exists_piece_of_mem_closeLines {line : Text} : ∀ {pieces : List Text},
    line ∈ closeLines pieces → ∃ piece ∈ pieces, line = piece ∨ line = dropFinalReturn piece
  | [], h => absurd h List.not_mem_nil
  | [last], h => by
    unfold closeLines at h
    split at h
    · exact absurd h List.not_mem_nil
    · exact ⟨last, List.mem_cons_self, Or.inl (List.mem_singleton.mp h)⟩
  | piece :: next :: rest, h => by
    rw [closeLines_cons_cons, List.mem_cons] at h
    rcases h with rfl | h
    · exact ⟨piece, List.mem_cons_self, Or.inr rfl⟩
    · obtain ⟨other, hmem, hother⟩ := exists_piece_of_mem_closeLines h
      exact ⟨other, List.mem_cons_of_mem piece hmem, hother⟩

/-- Closing lines adds no character. -/
theorem mem_of_mem_closeLines {line : Text} {c : Char} (hc : c ∈ line) {pieces : List Text}
    (h : line ∈ closeLines pieces) : ∃ piece ∈ pieces, c ∈ piece := by
  obtain ⟨piece, hpiece, rfl | rfl⟩ := exists_piece_of_mem_closeLines h
  · exact ⟨line, hpiece, hc⟩
  · exact ⟨piece, hpiece, mem_of_mem_dropFinalReturn hc⟩

/-- A character that is not dropped is left. -/
theorem dropAroundWhile_ne_nil {p : Char → Bool} {t : Text} {c : Char} (hc : c ∈ t)
    (h : p c = false) : dropAroundWhile p t ≠ [] := by
  intro hnil
  rw [dropAroundWhile, dropEndWhile, List.reverse_eq_nil_iff, List.dropWhile_eq_nil_iff] at hnil
  have hall : ∀ d ∈ t, p d = true := by
    intro d hd
    rw [← List.takeWhile_append_dropWhile (p := p) (l := t), List.mem_append] at hd
    rcases hd with hd | hd
    · exact List.mem_takeWhile_imp hd
    · exact hnil d (List.mem_reverse.mpr hd)
  rw [hall c hc] at h
  exact Bool.false_ne_true h.symm

/-- Nothing is dropped around a text whose first and last characters stay. -/
theorem dropAroundWhile_eq_self {p : Char → Bool} {t : Text}
    (hfirst : ∀ c, t.head? = some c → p c = false)
    (hlast : ∀ c, t.getLast? = some c → p c = false) : dropAroundWhile p t = t := by
  have hstays : ∀ {u : Text}, (∀ c, u.head? = some c → p c = false) → u.dropWhile p = u := by
    intro u hu
    cases u with
    | nil => rfl
    | cons c u => exact List.dropWhile_cons_of_neg (by simp [hu c rfl])
  have hback : t.reverse.dropWhile p = t.reverse :=
    hstays fun c hc => hlast c (by rw [← List.head?_reverse]; exact hc)
  rw [dropAroundWhile, hstays hfirst, dropEndWhile, hback, List.reverse_reverse]

/-- Text that is not empty has a line. -/
theorem terminatedLines_ne_nil {t : Text} (h : t ≠ []) : terminatedLines t ≠ [] := by
  have hread : join '\n' (split '\n' t) = t := join_split '\n' t
  rw [terminatedLines]
  rcases hs : split '\n' t with _ | ⟨piece, _ | ⟨next, rest⟩⟩
  · exact absurd hs (split_ne_nil '\n' t)
  · rw [hs, join_singleton] at hread
    simp [closeLines, hread, h]
  · simp [closeLines]

/-! ## Cutting a join -/

variable {sep : Char}

/-- A text without the separator is one piece. -/
theorem split_of_notMem : ∀ {t : Text}, sep ∉ t → split sep t = [t]
  | [], _ => split_nil sep
  | c :: t, h => by
    have hc : c ≠ sep := fun hc => h (hc ▸ List.mem_cons_self)
    have ht : sep ∉ t := fun ht => h (List.mem_cons_of_mem c ht)
    obtain ⟨piece, pieces, hs, hcut⟩ := split_cons_of_ne hc t
    rw [split_of_notMem ht] at hs
    obtain ⟨rfl, rfl⟩ := List.cons.inj hs
    exact hcut

/-- The first piece ends at the first separator. -/
theorem split_append_cons : ∀ {a : Text}, sep ∉ a → ∀ b : Text,
    split sep (a ++ sep :: b) = a :: split sep b
  | [], _, b => split_cons_sep sep b
  | c :: a, h, b => by
    have hc : c ≠ sep := fun hc => h (hc ▸ List.mem_cons_self)
    have ha : sep ∉ a := fun ha => h (List.mem_cons_of_mem c ha)
    obtain ⟨piece, pieces, hs, hcut⟩ := split_cons_of_ne hc (a ++ sep :: b)
    rw [split_append_cons ha] at hs
    obtain ⟨rfl, rfl⟩ := List.cons.inj hs
    exact hcut

/-- Cutting at a separator cuts both sides. -/
theorem split_append_sep (a b : Text) : split sep (a ++ sep :: b) = split sep a ++ split sep b := by
  induction a with
  | nil => exact split_cons_sep sep b
  | cons c a ih =>
    by_cases hc : c = sep
    · rw [hc, List.cons_append, split_cons_sep, split_cons_sep, ih, List.cons_append]
    · obtain ⟨piece, pieces, hs, hcut⟩ := split_cons_of_ne hc a
      obtain ⟨piece', pieces', hs', hcut'⟩ := split_cons_of_ne hc (a ++ sep :: b)
      rw [ih, hs, List.cons_append] at hs'
      obtain ⟨rfl, rfl⟩ := List.cons.inj hs'
      rw [List.cons_append, hcut', hcut, List.cons_append]

/-- Pieces without the separator are read back from their join. -/
theorem split_join : ∀ {pieces : List Text}, pieces ≠ [] → (∀ p ∈ pieces, sep ∉ p) →
    split sep (join sep pieces) = pieces
  | [], h, _ => absurd rfl h
  | [a], _, h => split_of_notMem (h a List.mem_cons_self)
  | a :: b :: rest, _, h => by
    have hrest : ∀ p ∈ b :: rest, sep ∉ p := fun p hp => h p (List.mem_cons_of_mem a hp)
    rw [join_cons_cons, split_append_cons (h a List.mem_cons_self),
      split_join (List.cons_ne_nil b rest) hrest]

/-- No piece holds the separator. -/
theorem notMem_of_mem_split : ∀ {t p : Text}, p ∈ split sep t → sep ∉ p
  | [], p, h => by
    rw [split_nil, List.mem_singleton] at h
    rw [h]
    exact List.not_mem_nil
  | c :: t, p, h => by
    by_cases hc : c = sep
    · rw [hc, split_cons_sep, List.mem_cons] at h
      rcases h with rfl | h
      · exact List.not_mem_nil
      · exact notMem_of_mem_split h
    · obtain ⟨piece, pieces, hs, hcut⟩ := split_cons_of_ne hc t
      rw [hcut, List.mem_cons] at h
      rcases h with rfl | h
      · have hpiece : sep ∉ piece := notMem_of_mem_split (hs ▸ List.mem_cons_self)
        rw [List.mem_cons, not_or]
        exact ⟨fun e => hc e.symm, hpiece⟩
      · exact notMem_of_mem_split (hs ▸ List.mem_cons_of_mem piece h)

/-- A join holds the characters of its pieces. -/
theorem mem_join {c : Char} {piece : Text} (hc : c ∈ piece) : ∀ {pieces : List Text},
    piece ∈ pieces → c ∈ join sep pieces
  | [], h => absurd h List.not_mem_nil
  | [a], h => by
    rw [join_singleton, ← List.mem_singleton.mp h]
    exact hc
  | a :: b :: rest, h => by
    rw [join_cons_cons, List.mem_append, List.mem_cons]
    rcases List.mem_cons.mp h with rfl | h
    · exact Or.inl hc
    · exact Or.inr (Or.inr (mem_join hc h))

/-- Apart from the separator a join holds nothing else. -/
theorem mem_of_mem_join {c : Char} : ∀ {pieces : List Text}, c ∈ join sep pieces →
    c = sep ∨ ∃ piece ∈ pieces, c ∈ piece
  | [], h => absurd h List.not_mem_nil
  | [a], h => Or.inr ⟨a, List.mem_singleton.mpr rfl, h⟩
  | a :: b :: rest, h => by
    rw [join_cons_cons, List.mem_append, List.mem_cons] at h
    rcases h with h | h | h
    · exact Or.inr ⟨a, List.mem_cons_self, h⟩
    · exact Or.inl h
    · exact (mem_of_mem_join h).imp_right fun ⟨piece, hpiece, hmem⟩ =>
        ⟨piece, List.mem_cons_of_mem a hpiece, hmem⟩

/-- One more piece at the end. -/
theorem join_append_singleton (last : Text) : ∀ {pieces : List Text}, pieces ≠ [] →
    join sep (pieces ++ [last]) = join sep pieces ++ sep :: last
  | [], h => absurd rfl h
  | [a], _ => rfl
  | a :: b :: rest, _ => by
    rw [List.cons_append, join_cons_of_ne_nil sep a (by simp),
      join_append_singleton last (List.cons_ne_nil b rest), join_cons_cons, List.append_assoc,
      List.cons_append]

/-! ## The final newline -/

@[simp] theorem endsWithNewline_append_newline (t : Text) :
    endsWithNewline (t ++ ['\n']) = true := by
  simp [endsWithNewline]

/-- Without the newline that closes it, a text is cut at its newlines. -/
theorem splitLines_append_newline (t : Text) : splitLines (t ++ ['\n']) = split '\n' t := by
  rw [splitLines, dropFinalNewline_append_singleton]

/-- Text that no newline closes is cut at its newlines. -/
theorem splitLines_of_not_endsWithNewline {t : Text} (h : endsWithNewline t = false) :
    splitLines t = split '\n' t := by
  rw [splitLines, dropFinalNewline_of_not_endsWithNewline h]

/-- No line holds a newline. -/
theorem newline_notMem_of_mem_splitLines {t line : Text} (h : line ∈ splitLines t) :
    '\n' ∉ line :=
  notMem_of_mem_split h

/-- Joined lines end like the last of them, unless it is empty. -/
theorem getLast?_joinLines {pieces : List Text} {last : Text} (h : pieces.getLast? = some last)
    (hne : last ≠ []) : (joinLines pieces).getLast? = last.getLast? := by
  obtain ⟨first, rfl⟩ := List.getLast?_eq_some_iff.mp h
  rw [joinLines]
  rcases first with _ | ⟨a, rest⟩
  · rfl
  · rw [join_append_singleton last (List.cons_ne_nil a rest),
      List.getLast?_append_of_ne_nil _ (List.cons_ne_nil _ _), List.getLast?_cons_of_ne_nil hne]

/-- A join does not end with a newline when its last piece holds a character and no newline. -/
theorem endsWithNewline_joinLines {pieces : List Text} {last : Text}
    (h : pieces.getLast? = some last) (hne : last ≠ []) (hclean : '\n' ∉ last) :
    endsWithNewline (joinLines pieces) = false := by
  refine Bool.eq_false_iff.mpr fun hends => ?_
  rw [endsWithNewline, getLast?_joinLines h hne, beq_iff_eq] at hends
  exact hclean (List.mem_of_getLast? hends)

/-! ## Plain lines -/

/-- A line of documentation as it is rendered: there is something on it, and no line ending. -/
structure Plain (line : Text) : Prop where
  nonempty : line ≠ []
  newline_notMem : '\n' ∉ line
  hasReturn_eq : Splice.hasReturn line = false

theorem dropFinalReturn_of_not_hasReturn {line : Text} (h : Splice.hasReturn line = false) :
    dropFinalReturn line = line := by
  induction line with
  | nil => rfl
  | cons c line ih =>
    cases line with
    | nil =>
      have hc : c ≠ '\r' := by
        rintro rfl
        exact absurd h (by decide)
      simp [dropFinalReturn, hc]
    | cons d line =>
      have hrest : Splice.hasReturn (d :: line) = false := by
        simpa [Splice.hasReturn] using h
      simp [dropFinalReturn, ih hrest]

theorem terminatedLines_joinLines {lines : List Text} (h : ∀ line ∈ lines, '\n' ∉ line)
    (hne : lines ≠ []) : terminatedLines (joinLines lines) = closeLines lines := by
  rw [terminatedLines, joinLines, split_join hne h]

/-- Plain lines have no terminators to lose. -/
theorem closeLines_of_plain {lines : List Text} (h : ∀ line ∈ lines, Plain line) :
    closeLines lines = lines := by
  induction lines with
  | nil => rfl
  | cons line rest ih =>
    have hline : Plain line := h line List.mem_cons_self
    have ih := ih fun other hother => h other (List.mem_cons_of_mem line hother)
    cases rest with
    | nil => simp [closeLines, hline.nonempty]
    | cons next rest =>
      rw [closeLines, dropFinalReturn_of_not_hasReturn hline.hasReturn_eq, ih]
      simp

theorem head?_joinLines {line : Text} (h : line ≠ []) (lines : List Text) :
    (joinLines (line :: lines)).head? = line.head? := by
  cases lines with
  | nil => rfl
  | cons next rest => rw [joinLines, join_cons_cons, List.head?_append_of_ne_nil _ h]

/-- There is no newline around plain lines that could be dropped. -/
theorem dropAroundWhile_joinLines {lines : List Text} (h : ∀ line ∈ lines, Plain line) :
    dropAroundWhile (· == '\n') (joinLines lines) = joinLines lines := by
  refine dropAroundWhile_eq_self (fun c hc => ?_) fun c hc => ?_
  · cases lines with
    | nil => exact absurd hc (by simp [joinLines])
    | cons line rest =>
      have hline : Plain line := h line List.mem_cons_self
      rw [head?_joinLines hline.nonempty] at hc
      refine beq_eq_false_iff_ne.mpr ?_
      rintro rfl
      exact hline.newline_notMem (List.mem_of_head? hc)
  · cases hlast : lines.getLast? with
    | none =>
      rw [List.getLast?_eq_none_iff.mp hlast] at hc
      exact absurd hc (by simp [joinLines])
    | some last =>
      have hplain : Plain last := h last (List.mem_of_getLast? hlast)
      have hends : endsWithNewline (joinLines lines) = false :=
        endsWithNewline_joinLines hlast hplain.nonempty hplain.newline_notMem
      rw [endsWithNewline, hc] at hends
      simpa using hends

end Text

/-! ## The lines from a row on -/

theorem getElem?_of_drop {lines rest : List Text} {line : Text} {row : Nat}
    (h : lines.drop row = line :: rest) : lines[row]? = some line := by
  rw [← List.head?_drop, h]
  rfl

theorem drop_succ_of_drop {lines rest : List Text} {line : Text} {row : Nat}
    (h : lines.drop row = line :: rest) : lines.drop (row + 1) = rest := by
  rw [← List.tail_drop, h]
  rfl

/-! ## Buffers that are the lines of a text -/

namespace LineBuffer

/-- A text is known by its lines and by whether a newline ends it. -/
theorem eq_of_splitLines_eq {a b : Text} (hlines : Text.splitLines a = Text.splitLines b)
    (hfinal : Text.endsWithNewline a = Text.endsWithNewline b) : a = b := by
  rw [← toText_ofText a, ofText, hlines, hfinal]
  exact toText_ofText b

/-- The buffer holds the lines of some text. -/
structure Proper (b : LineBuffer) : Prop where
  /-- There is a line. -/
  nonempty : b.lines ≠ []
  /-- No line holds a newline. -/
  clean : ∀ line ∈ b.lines, '\n' ∉ line
  /-- A last line that is empty was closed by a newline, unless the text is empty. -/
  closed : b.finalNewline = false → b.lines.getLast? = some [] → b.lines = [[]]

/-- The lines of a text are proper. -/
theorem proper_ofText (t : Text) : (ofText t).Proper where
  nonempty := Text.splitLines_ne_nil t
  clean _ h := Text.newline_notMem_of_mem_splitLines h
  closed := by
    intro hfinal hlast
    have hsplit : Text.splitLines t = Text.split '\n' t :=
      Text.splitLines_of_not_endsWithNewline hfinal
    have hread : Text.join '\n' (Text.splitLines t) = t := by rw [hsplit, Text.join_split]
    obtain ⟨first, hfirst⟩ := List.getLast?_eq_some_iff.mp hlast
    change Text.splitLines t = first ++ [[]] at hfirst
    change Text.splitLines t = [[]]
    rcases first with _ | ⟨a, rest⟩
    · exact hfirst
    · -- the text would end with the newline that closes the line above
      rw [hfirst, Text.join_append_singleton [] (List.cons_ne_nil a rest)] at hread
      have hends : Text.endsWithNewline t = true := by
        rw [← hread]
        exact Text.endsWithNewline_append_newline _
      rw [show Text.endsWithNewline t = false from hfinal] at hends
      exact absurd hends Bool.false_ne_true

/-- **A proper buffer is read back from its text.** -/
theorem ofText_toText {b : LineBuffer} (h : b.Proper) : ofText b.toText = b := by
  obtain ⟨lines, finalNewline⟩ := b
  have hread : Text.split '\n' (Text.joinLines lines) = lines :=
    Text.split_join h.nonempty h.clean
  cases finalNewline with
  | true =>
    have ht : toText ⟨lines, true⟩ = Text.joinLines lines ++ ['\n'] := rfl
    rw [ofText, ht, Text.splitLines_append_newline, Text.endsWithNewline_append_newline, hread]
  | false =>
    have ht : toText ⟨lines, false⟩ = Text.joinLines lines := by simp [toText]
    have hends : Text.endsWithNewline (Text.joinLines lines) = false := by
      obtain ⟨last, hlast⟩ : ∃ last, lines.getLast? = some last :=
        ⟨_, List.getLast?_eq_some_getLast h.nonempty⟩
      by_cases hne : last = []
      · have hlines : lines = [[]] := h.closed rfl (hne ▸ hlast)
        rw [hlines]
        rfl
      · exact Text.endsWithNewline_joinLines hlast hne (h.clean last (List.mem_of_getLast? hlast))
    rw [ofText, ht, Text.splitLines_of_not_endsWithNewline hends, hends, hread]

/-- The lines of the text of a proper buffer. -/
theorem splitLines_toText {b : LineBuffer} (h : b.Proper) : Text.splitLines b.toText = b.lines :=
  congrArg LineBuffer.lines (ofText_toText h)

/-- Whether the text of a proper buffer ends with a newline. -/
theorem endsWithNewline_toText {b : LineBuffer} (h : b.Proper) :
    Text.endsWithNewline b.toText = b.finalNewline :=
  congrArg LineBuffer.finalNewline (ofText_toText h)

/-- An empty last line that no newline closes is, in the text, the newline that closes the line
above. -/
theorem toText_append_nil {front : List Text} (h : front ≠ []) :
    toText ⟨front ++ [[]], false⟩ = toText ⟨front, true⟩ := by
  simp only [toText, Text.joinLines]
  rw [Text.join_append_singleton [] h]
  simp

/-- A buffer that is not proper has an empty last line that no newline closed, and the line is not
read back. -/
theorem splitLines_toText_or {b : LineBuffer} (hne : b.lines ≠ [])
    (hclean : ∀ line ∈ b.lines, '\n' ∉ line) :
    (Text.splitLines b.toText = b.lines ∧ Text.endsWithNewline b.toText = b.finalNewline) ∨
      ∃ front, b.lines = front ++ [[]] ∧ b.finalNewline = false ∧
        Text.splitLines b.toText = front := by
  by_cases hclosed : b.finalNewline = false ∧ b.lines.getLast? = some [] ∧ b.lines ≠ [[]]
  · obtain ⟨hfinal, hlast, hnot⟩ := hclosed
    obtain ⟨front, hfront⟩ := List.getLast?_eq_some_iff.mp hlast
    have hfrontne : front ≠ [] := by
      rintro rfl
      exact hnot hfront
    have htext : b.toText = toText ⟨front, true⟩ := by
      rw [← toText_append_nil hfrontne, ← hfront, ← hfinal]
    have hproper : Proper ⟨front, true⟩ :=
      ⟨hfrontne, fun line hline => hclean line (hfront ▸ List.mem_append_left _ hline),
        fun h => absurd h (by simp)⟩
    exact Or.inr ⟨front, hfront, hfinal, htext ▸ splitLines_toText hproper⟩
  · have hproper : b.Proper := ⟨hne, hclean, fun hfinal hlast => by
      by_contra hnot
      exact hclosed ⟨hfinal, hlast, hnot⟩⟩
    exact Or.inl ⟨splitLines_toText hproper, endsWithNewline_toText hproper⟩

end LineBuffer

namespace Text

/-! ## Lines one behind the other -/

/-- Lines, each of them closed by a newline. -/
def ended (lines : List Text) : Text := lines.flatMap (· ++ ['\n'])

theorem ended_cons (line : Text) (lines : List Text) :
    ended (line :: lines) = line ++ ('\n' :: ended lines) := by
  rw [ended, List.flatMap_cons, List.append_assoc]
  rfl

theorem ended_append (above below : List Text) :
    ended (above ++ below) = ended above ++ ended below := List.flatMap_append

theorem ended_singleton (line : Text) : ended [line] = line ++ ['\n'] := by
  rw [ended_cons]
  rfl

theorem ended_eq_joinLines : ∀ {lines : List Text}, lines ≠ [] →
    ended lines = joinLines lines ++ ['\n']
  | [], h => absurd rfl h
  | [line], _ => ended_singleton line
  | line :: next :: rest, _ => by
    rw [ended_cons, ended_eq_joinLines (List.cons_ne_nil next rest), joinLines, joinLines,
      join_cons_cons, List.append_assoc, List.cons_append]

/-- The offset of the first character on a row. -/
def rowOffset (lines : List Text) (row : Nat) : Nat := (ended (lines.take row)).length

theorem rowOffset_add {lines : List Text} {row next : Nat} (h : row ≤ next) :
    rowOffset lines row + (ended ((lines.take next).drop row)).length = rowOffset lines next := by
  have hcut : lines.take next = lines.take row ++ (lines.take next).drop row := by
    conv => lhs; rw [← List.take_append_drop row (lines.take next)]
    rw [List.take_take, Nat.min_eq_left h]
  rw [rowOffset, rowOffset, hcut, ended_append, List.length_append, ← hcut]

theorem ended_split (text : Text) : ended (split '\n' text) = text ++ ['\n'] := by
  rw [ended_eq_joinLines (split_ne_nil '\n' text), joinLines, join_split]

/-- The lines of a text are the pieces between its newlines, but for the empty piece behind a newline
that closes the text. -/
theorem split_eq_splitLines_or (text : Text) :
    split '\n' text = splitLines text ∨ split '\n' text = splitLines text ++ [[]] := by
  by_cases hends : endsWithNewline text = true
  · obtain ⟨body, rfl⟩ : ∃ body, text = body ++ ['\n'] :=
      List.getLast?_eq_some_iff.mp (beq_iff_eq.mp hends)
    have hjoin : body ++ ['\n'] = join '\n' (split '\n' body ++ [[]]) := by
      rw [join_append_singleton [] (split_ne_nil '\n' body), join_split]
    refine Or.inr ?_
    rw [splitLines_append_newline, hjoin, split_join (by simp) fun p hp => ?_]
    rcases List.mem_append.mp hp with hp | hp
    · exact notMem_of_mem_split hp
    · rw [List.mem_singleton.mp hp]
      exact List.not_mem_nil
  · exact Or.inl (splitLines_of_not_endsWithNewline (Bool.eq_false_iff.mpr hends)).symm

/-- The lines of a text, closed by newlines. -/
theorem ended_splitLines (text : Text) :
    ended (splitLines text) = text ++ (if endsWithNewline text then [] else ['\n']) := by
  have hread : LineBuffer.toText ⟨splitLines text, endsWithNewline text⟩ = text :=
    LineBuffer.toText_ofText text
  rw [ended_eq_joinLines (splitLines_ne_nil text)]
  rw [LineBuffer.toText] at hread
  cases hends : endsWithNewline text with
  | true =>
    rw [hends] at hread
    rw [if_pos rfl, List.append_nil]
    exact hread
  | false =>
    rw [hends, if_neg Bool.false_ne_true, List.append_nil] at hread
    rw [if_neg Bool.false_ne_true, hread]

end Text

end DocSplice
