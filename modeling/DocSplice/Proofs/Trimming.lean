import DocSplice.Proofs.Documenting.LineEndings

/-!
# Documentation line by line

Documentation is read and written line by line, and who reads or writes a line does not mind the
blanks around it.  So what becomes of a documentation text depends on its lines, trimmed, and not on
the way in which they were put together.

* `trim_append` and `trim_append_left`: blanks around a text are trimmed; `trim_marked` is the text
  behind a marker.
* `tidied`: lines trimmed one by one, put together and trimmed.
* `exists_split_eq_terminatedLines` and `exists_split_around`: the pieces between the newlines of a
  text are its lines, with some empty ones more at either end, which a trimmed result does not show
  (`trim_joinLines_around`).
* `map_terminatedLines_joinLines`: plain lines are read back, with carriage returns or without.
-/

namespace DocSplice.Text

variable {α : Type} {line t blanks : Text} {lines : List Text} {c : Char}

/-! ## Trimming -/

theorem trimStart_eq_nil (h : allBlank t = true) : trimStart t = [] :=
  List.dropWhile_eq_nil_iff.mpr fun c hc => List.all_eq_true.mp h c hc

/-- A text that is not blank is blanks and then a character that is none. -/
theorem exists_trimStart_eq_cons (h : allBlank t = false) :
    ∃ c rest, trimStart t = c :: rest ∧ isBlank c = false := by
  cases hcut : trimStart t with
  | nil =>
    have hblank : allBlank t = true :=
      List.all_eq_true.mpr fun c hc => List.dropWhile_eq_nil_iff.mp hcut c hc
    rw [h] at hblank
    exact absurd hblank Bool.false_ne_true
  | cons c rest =>
    have hnot := List.head?_dropWhile_not isBlank t
    rw [← trimStart, hcut] at hnot
    exact ⟨c, rest, rfl, hnot⟩

/-- A trimmed text is empty when there was nothing but blanks. -/
theorem trim_eq_nil_iff : trim t = [] ↔ allBlank t = true := by
  constructor
  · intro h
    by_contra hsome
    obtain ⟨c, rest, hcut, hc⟩ := exists_trimStart_eq_cons (Bool.eq_false_iff.mpr hsome)
    have hblank : allBlank (c :: rest) = true := by
      rw [← allBlank_trimEnd, ← hcut]
      rw [trim] at h
      rw [h]
      rfl
    have hfirst : isBlank c = true := List.all_eq_true.mp hblank c List.mem_cons_self
    rw [hc] at hfirst
    exact Bool.false_ne_true hfirst
  · intro h
    rw [trim, trimStart_eq_nil h]
    rfl

theorem allBlank_trimStart (t : Text) : allBlank (trimStart t) = allBlank t := by
  have hindent : allBlank (indent t) = true :=
    List.all_eq_true.mpr fun c hc => isBlank_of_mem_indent hc
  have hboth : allBlank t = (allBlank (indent t) && allBlank (trimStart t)) := by
    conv => lhs; rw [← indent_append_trimStart t]
    exact List.all_append
  rw [hboth, hindent, Bool.true_and]

theorem allBlank_trim (t : Text) : allBlank (trim t) = allBlank t := by
  rw [trim, allBlank_trimEnd, allBlank_trimStart]

/-- It does not matter which end is trimmed first. -/
theorem trimStart_trimEnd (t : Text) : trimStart (trimEnd t) = trim t := by
  by_cases h : allBlank t = true
  · rw [trimStart_eq_nil ((allBlank_trimEnd t).trans h), trim_eq_nil_iff.mpr h]
  · have h : allBlank t = false := Bool.eq_false_iff.mpr h
    obtain ⟨c, rest, hcut, hc⟩ := exists_trimStart_eq_cons h
    have hstart : allBlank (trimStart t) = false := (allBlank_trimStart t).trans h
    have hend : trimEnd t = indent t ++ trimEnd (trimStart t) := by
      conv => lhs; rw [← indent_append_trimStart t]
      exact trimEnd_append_of_not_allBlank _ hstart
    -- the first character that is no blank is not trimmed at the end either
    obtain ⟨more, hmore⟩ : ∃ more, trimEnd (trimStart t) = c :: more := by
      obtain ⟨blanks, hblank, hboth⟩ := exists_trimEnd_append (trimStart t)
      rw [hcut] at hboth ⊢
      cases hleft : trimEnd (c :: rest) with
      | nil =>
        rw [hleft, List.nil_append] at hboth
        have hfirst : isBlank c = true :=
          List.all_eq_true.mp hblank c (hboth ▸ List.mem_cons_self)
        rw [hc] at hfirst
        exact absurd hfirst Bool.false_ne_true
      | cons d more =>
        rw [hleft, List.cons_append] at hboth
        exact ⟨more, by rw [(List.cons.inj hboth).1]⟩
    rw [hend, trim, hmore]
    exact trimStart_append_cons (fun c hc => isBlank_of_mem_indent hc) hc more

theorem trimEnd_trimEnd (t : Text) : trimEnd (trimEnd t) = trimEnd t := by
  obtain ⟨blanks, hblank, hboth⟩ := exists_trimEnd_append t
  conv => rhs; rw [← hboth, trimEnd_append_of_allBlank _ hblank]

theorem isBlank_eq_false_of_mem (h : t.any isBlank = false) {c : Char} (hc : c ∈ t) :
    isBlank c = false :=
  Bool.eq_false_iff.mpr (List.any_eq_false.mp h c hc)

theorem trimEnd_eq_self (h : t.any isBlank = false) : trimEnd t = t :=
  trimEnd_eq_self_iff.mpr fun _ hc => isBlank_eq_false_of_mem h (List.mem_of_getLast? hc)

theorem trim_trimEnd (t : Text) : trim (trimEnd t) = trim t := by
  rw [← trimStart_trimEnd, trimEnd_trimEnd, trimStart_trimEnd]

theorem trim_trimStart (t : Text) : trim (trimStart t) = trim t := by
  rw [trim, trimStart_trimStart, trim]

theorem trim_trim (t : Text) : trim (trim t) = trim t := by
  calc trim (trim t) = trim (trimStart t) := trim_trimEnd (trimStart t)
    _ = trim t := trim_trimStart t

/-- Blanks behind a text are trimmed. -/
theorem trim_append (t : Text) (h : allBlank blanks = true) : trim (t ++ blanks) = trim t := by
  rw [← trimStart_trimEnd, trimEnd_append_of_allBlank t h, trimStart_trimEnd]

/-- Blanks in front of a text are trimmed. -/
theorem trim_append_left (h : allBlank blanks = true) (t : Text) : trim (blanks ++ t) = trim t := by
  rw [trim, trimStart, List.dropWhile_append_of_pos fun c hc => List.all_eq_true.mp h c hc]
  rfl

theorem trim_cons (h : isBlank c = true) (t : Text) : trim (c :: t) = trim t := by
  have hblank : allBlank [c] = true := List.all_eq_true.mpr fun d hd => List.mem_singleton.mp hd ▸ h
  exact trim_append_left hblank t

/-- A text that starts with a character that is no blank is trimmed at its end only. -/
theorem trim_append_cons (hblank : allBlank blanks = true) (hc : isBlank c = false) (t : Text) :
    trim (blanks ++ c :: t) = trimEnd (c :: t) := by
  rw [trim, trimStart_append_cons (fun d hd => List.all_eq_true.mp hblank d hd) hc]

theorem trim_eq_trimEnd (hc : isBlank c = false) (t : Text) : trim (c :: t) = trimEnd (c :: t) := by
  have hnone : allBlank [] = true := rfl
  exact trim_append_cons hnone hc t

/-- A line behind a marker: blanks in front of the marker are trimmed, and the line loses those at
its end. -/
theorem trim_marked (hblank : allBlank blanks = true) (hc : isBlank c = false) (marker : Text)
    (h : allBlank line = false) :
    trim (blanks ++ (c :: marker ++ ' ' :: trimEnd line)) = c :: marker ++ ' ' :: trimEnd line := by
  have hline : allBlank (trimEnd line) = false := (allBlank_trimEnd line).trans h
  have hspaced : c :: marker ++ ' ' :: trimEnd line = c :: (marker ++ [' ']) ++ trimEnd line := by
    simp
  rw [List.cons_append, trim_append_cons hblank hc, ← List.cons_append, hspaced,
    trimEnd_append_of_not_allBlank _ hline, trimEnd_trimEnd]

theorem trim_space_trimEnd (line : Text) : trim (' ' :: trimEnd line) = trim line := by
  rw [trim_cons (by decide), trim_trimEnd]

/-- **What stands behind the marker** is the line, up to blanks. -/
theorem exists_stripPrefix?_marked (hblank : allBlank blanks = true) (hc : isBlank c = false)
    (marker : Text) (h : allBlank line = false) :
    ∃ body, stripPrefix? (trim (blanks ++ (c :: marker ++ ' ' :: trimEnd line))) (c :: marker) =
        some body ∧ trim body = trim line := by
  refine ⟨' ' :: trimEnd line, ?_, trim_space_trimEnd line⟩
  rw [trim_marked hblank hc marker h]
  exact List.isPrefixOf?_eq_some_iff_append_eq.mpr rfl

/-- A beginning without blanks is not trimmed. -/
theorem prefix_trim {p : Text} (hp : p.any isBlank = false) (h : p <+: t) : p <+: trim t := by
  cases p with
  | nil => exact List.nil_prefix
  | cons c p =>
    obtain ⟨rest, rfl⟩ := h
    have htrim : trim (c :: p ++ rest) = trimEnd (c :: p ++ rest) :=
      trim_eq_trimEnd (isBlank_eq_false_of_mem hp List.mem_cons_self) (p ++ rest)
    rw [htrim]
    by_cases hrest : allBlank rest = true
    · rw [trimEnd_append_of_allBlank _ hrest, trimEnd_eq_self hp]
    · rw [trimEnd_append_of_not_allBlank _ (Bool.eq_false_iff.mpr hrest)]
      exact List.prefix_append _ _

theorem prefix_joinLines_cons (line : Text) (lines : List Text) :
    line <+: joinLines (line :: lines) := by
  by_cases hne : lines = []
  · rw [hne, joinLines, join_singleton]
  · rw [joinLines, join_cons_of_ne_nil '\n' line hne]
    exact List.prefix_append _ _

theorem allBlank_joinLines (lines : List Text) :
    allBlank (joinLines lines) = lines.all allBlank := by
  induction lines with
  | nil => rfl
  | cons line rest ih =>
    by_cases hrest : rest = []
    · rw [hrest, joinLines, join_singleton, List.all_cons, List.all_nil, Bool.and_true]
    · have hnewline : isBlank '\n' = true := by decide
      rw [joinLines, join_cons_of_ne_nil '\n' line hrest, allBlank, List.all_append, List.all_cons,
        hnewline, Bool.true_and, List.all_cons, ← ih]
      rfl

/-- Lines trimmed one by one, put together and trimmed. -/
def tidied (lines : List Text) : Text := trim (joinLines (lines.map trim))

/-- Empty lines around others are trimmed. -/
theorem trim_joinLines_around (above below : Nat) (lines : List Text) :
    trim (joinLines (List.replicate above [] ++ lines ++ List.replicate below [])) =
      trim (joinLines lines) := by
  have hfront : ∀ lines : List Text, trim (joinLines ([] :: lines)) = trim (joinLines lines) := by
    intro lines
    cases lines with
    | nil => rfl
    | cons a rest => exact trim_cons (by decide) _
  have hback : ∀ lines : List Text, trim (joinLines (lines ++ [[]])) = trim (joinLines lines) := by
    intro lines
    by_cases hne : lines = []
    · rw [hne]
      rfl
    · rw [joinLines, join_append_singleton [] hne]
      exact trim_append _ (by decide)
  induction above with
  | zero =>
    rw [List.replicate_zero, List.nil_append]
    induction below with
    | zero => rw [List.replicate_zero, List.append_nil]
    | succ below ih => rw [List.replicate_succ', ← List.append_assoc, hback, ih]
  | succ above ih => rw [List.replicate_succ, List.cons_append, List.cons_append, hfront, ih]

/-! ## The pieces of documentation -/

variable {sep : Char}

/-- The pieces of a join are those of the parts. -/
theorem split_join_eq_flatMap : ∀ {parts : List Text}, parts ≠ [] →
    split sep (join sep parts) = parts.flatMap (split sep)
  | [], h => absurd rfl h
  | [a], _ => by rw [join_singleton, List.flatMap_singleton]
  | a :: b :: rest, _ => by
    rw [join_cons_cons, split_append_sep, split_join_eq_flatMap (List.cons_ne_nil b rest),
      List.flatMap_cons (x := a)]

theorem split_replicate_append (above : Nat) (t : Text) :
    split sep (List.replicate above sep ++ t) = List.replicate above [] ++ split sep t := by
  induction above with
  | zero => rfl
  | succ above ih =>
    rw [List.replicate_succ, List.cons_append, split_cons_sep, ih, List.replicate_succ,
      List.cons_append]

theorem split_append_replicate (t : Text) (below : Nat) :
    split sep (t ++ List.replicate below sep) = split sep t ++ List.replicate below [] := by
  induction below with
  | zero => rw [List.replicate_zero, List.append_nil, List.replicate_zero, List.append_nil]
  | succ below ih =>
    rw [List.replicate_succ', ← List.append_assoc, split_append_sep, ih, split_nil,
      List.replicate_succ', List.append_assoc]

/-- What is dropped around a text is separators. -/
theorem exists_dropAroundWhile (sep : Char) (t : Text) : ∃ above below,
    t = List.replicate above sep ++ dropAroundWhile (· == sep) t ++ List.replicate below sep := by
  have hall : ∀ u : Text, u.takeWhile (· == sep) =
      List.replicate (u.takeWhile (· == sep)).length sep := by
    intro u
    refine List.eq_replicate_of_mem fun c hc => ?_
    have hall := List.all_takeWhile (p := (· == sep)) (l := u)
    exact beq_iff_eq.mp (List.all_eq_true.mp hall c hc)
  have hback : ∀ u : Text, ∃ below, u = dropEndWhile (· == sep) u ++ List.replicate below sep := by
    intro u
    refine ⟨(u.reverse.takeWhile (· == sep)).length, ?_⟩
    have hcut : u.reverse = u.reverse.takeWhile (· == sep) ++ u.reverse.dropWhile (· == sep) :=
      List.takeWhile_append_dropWhile.symm
    rw [dropEndWhile, ← List.reverse_replicate, ← hall, ← List.reverse_append, ← hcut,
      List.reverse_reverse]
  obtain ⟨below, hbelow⟩ := hback (t.dropWhile (· == sep))
  refine ⟨(t.takeWhile (· == sep)).length, below, ?_⟩
  rw [List.append_assoc, dropAroundWhile, ← hbelow, ← hall, List.takeWhile_append_dropWhile]

theorem view_dropFinalReturn {view : Text → α} (hview : ∀ line, view (line ++ ['\r']) = view line)
    (line : Text) : view (dropFinalReturn line) = view line := by
  by_cases h : Splice.hasReturn line = true
  · obtain ⟨front, rfl⟩ := List.getLast?_eq_some_iff.mp (beq_iff_eq.mp h)
    rw [dropFinalReturn_append, hview]
  · rw [dropFinalReturn_of_not_hasReturn (Bool.eq_false_iff.mpr h)]

/-- The pieces of a text are its lines, and perhaps an empty piece at the end, to whoever does not
look at the end of a line. -/
theorem exists_split_eq_terminatedLines {view : Text → α}
    (hview : ∀ line, view (line ++ ['\r']) = view line) (t : Text) : ∃ below,
    (split '\n' t).map view = (terminatedLines t).map view ++ List.replicate below (view []) := by
  have hclose : ∀ pieces : List Text, ∃ below,
      pieces.map view = (closeLines pieces).map view ++ List.replicate below (view []) := by
    intro pieces
    induction pieces with
    | nil => exact ⟨0, rfl⟩
    | cons piece rest ih =>
      cases rest with
      | nil =>
        by_cases hpiece : piece = []
        · exact ⟨1, by simp [closeLines, hpiece]⟩
        · exact ⟨0, by simp [closeLines, hpiece]⟩
      | cons next rest =>
        obtain ⟨below, ih⟩ := ih
        refine ⟨below, ?_⟩
        rw [closeLines_cons_cons, List.map_cons, ih, List.map_cons, view_dropFinalReturn hview,
          List.cons_append]
  exact hclose (split '\n' t)

/-- **The lines of documentation** are the pieces between its newlines, but for empty pieces at
either end. -/
theorem exists_split_around {view : Text → α} (hview : ∀ line, view (line ++ ['\r']) = view line)
    (t : Text) : ∃ above below, (split '\n' t).map view = List.replicate above (view []) ++
      (terminatedLines (dropAroundWhile (· == '\n') t)).map view ++
        List.replicate below (view []) := by
  obtain ⟨above, below, hdrop⟩ := exists_dropAroundWhile '\n' t
  obtain ⟨last, hlast⟩ := exists_split_eq_terminatedLines hview (dropAroundWhile (· == '\n') t)
  refine ⟨above, last + below, ?_⟩
  conv => lhs; rw [hdrop]
  rw [split_append_replicate, split_replicate_append, List.map_append, List.map_append, hlast,
    List.map_replicate, List.map_replicate, List.replicate_add]
  simp only [List.append_assoc]

/-- What stands among copies of another element stands between them. -/
theorem mem_of_mem_around {a mark : α} {block : List α} {above below : Nat} (hne : a ≠ mark)
    (h : a ∈ List.replicate above mark ++ block ++ List.replicate below mark) : a ∈ block := by
  rw [List.mem_append, List.mem_append] at h
  rcases h with (habove | hblock) | hbelow
  · exact absurd (List.eq_of_mem_replicate habove) hne
  · exact hblock
  · exact absurd (List.eq_of_mem_replicate hbelow) hne

/-- Plain lines are read back from their join, to whoever does not look at the end of a line also
when each of them got a carriage return. -/
theorem map_terminatedLines_joinLines {view : Text → α}
    (hview : ∀ line, view (line ++ ['\r']) = view line) (h : ∀ line ∈ lines, Plain line)
    {ended : List Text} (hended : ended = lines ∨ ended = returned lines) :
    (terminatedLines (joinLines ended)).map view = lines.map view := by
  have hread : terminatedLines (joinLines lines) = lines := by
    by_cases hne : lines = []
    · rw [hne]
      rfl
    · rw [terminatedLines_joinLines (fun line hline => (h line hline).newline_notMem) hne,
        closeLines_of_plain h]
  rcases hended with rfl | rfl
  · rw [hread]
  · rw [map_terminatedLines_returned hview h, hread]

end DocSplice.Text
