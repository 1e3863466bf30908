import DocSplice.Proofs.Docstring.Rendering
import DocSplice.Proofs.Trimming

/-!
# Cleaned docstrings

What `clean` leaves of a docstring, and of which docstrings it leaves a given text.

* `Dedented`: no line of a cleaned docstring holds a tab or ends with a blank, neither the first line
  nor the last one is empty, and one line starts at the margin (`dedented_cleanLines`).
* `clean_blockText`: when such lines are indented, by spaces or tabs, and put between a line end and
  the indentation of the closing quotes, cleaning gives them back, with carriage returns at the line
  ends or without.  The tabs of the indentation stand for the same number of spaces on every line
  (`exists_expandTabs_append`), and this number is the margin (`margin_eq`).
* `clean_line`: a single line that does not start with a blank is clean as it stands.
-/

namespace DocSplice.Docstring

open Text

variable {line t indent ending : Text} {lines : List Text} {c : Char} {width : Nat}

/-! ## Tabs -/

theorem expandTabsFrom_of_notMem (h : '\t' ∉ t) (column : Nat) : expandTabsFrom column t = t := by
  induction t generalizing column with
  | nil => rfl
  | cons c t ih =>
    have hc : c ≠ '\t' := fun hc => h (hc ▸ List.mem_cons_self)
    rw [expandTabsFrom, if_neg hc, ih fun ht => h (List.mem_cons_of_mem c ht)]

theorem expandTabs_of_notMem (h : '\t' ∉ t) : expandTabs t = t := expandTabsFrom_of_notMem h 0

/-- Expanding takes the tabs away and adds no character but spaces. -/
theorem mem_of_mem_expandTabsFrom {column : Nat} (h : c ∈ expandTabsFrom column t) :
    c = ' ' ∨ (c ∈ t ∧ c ≠ '\t') := by
  induction t generalizing column with
  | nil => exact absurd h List.not_mem_nil
  | cons d t ih =>
    rw [expandTabsFrom] at h
    split at h
    · rcases List.mem_append.mp h with h | h
      · exact Or.inl (List.eq_of_mem_replicate h)
      · exact (ih h).imp_right fun ⟨ht, hc⟩ => ⟨List.mem_cons_of_mem d ht, hc⟩
    · rename_i hd
      rcases List.mem_cons.mp h with rfl | h
      · exact Or.inr ⟨List.mem_cons_self, hd⟩
      · exact (ih h).imp_right fun ⟨ht, hc⟩ => ⟨List.mem_cons_of_mem d ht, hc⟩

/-- **An indentation of spaces and tabs** takes the same number of columns on every line. -/
theorem exists_expandTabs_append (h : ∀ c ∈ indent, c = ' ' ∨ c = '\t') :
    ∃ width, ∀ t : Text, '\t' ∉ t → expandTabs (indent ++ t) = List.replicate width ' ' ++ t := by
  have hall : ∀ column, ∃ width, ∀ t : Text, '\t' ∉ t →
      expandTabsFrom column (indent ++ t) = List.replicate width ' ' ++ t := by
    induction indent with
    | nil => exact fun column => ⟨0, fun t ht => expandTabsFrom_of_notMem ht column⟩
    | cons c indent ih =>
      intro column
      have ih := ih fun d hd => h d (List.mem_cons_of_mem c hd)
      rcases h c List.mem_cons_self with rfl | rfl
      · obtain ⟨width, hwidth⟩ := ih (column + 1)
        refine ⟨width + 1, fun t ht => ?_⟩
        rw [List.cons_append, expandTabsFrom, if_neg (by decide), hwidth t ht,
          List.replicate_succ, List.cons_append]
      · obtain ⟨width, hwidth⟩ := ih (column + (8 - column % 8))
        refine ⟨8 - column % 8 + width, fun t ht => ?_⟩
        rw [List.cons_append, expandTabsFrom, if_pos rfl]
        dsimp only
        rw [hwidth t ht, ← List.append_assoc, List.replicate_append_replicate]
  exact hall 0

/-! ## Margins -/

theorem leadingSpaces_eq_zero_iff : leadingSpaces t = 0 ↔ t.head? ≠ some ' ' := by
  cases t with
  | nil => simp [leadingSpaces]
  | cons c t =>
    by_cases hc : c = ' '
    · simp [leadingSpaces, hc]
    · simp [leadingSpaces, hc]

theorem leadingSpaces_replicate_append (width : Nat) (t : Text) :
    leadingSpaces (List.replicate width ' ' ++ t) = width + leadingSpaces t := by
  rw [leadingSpaces, List.takeWhile_append_of_pos fun c hc => by
    rw [List.eq_of_mem_replicate hc]
    rfl, List.length_append, List.length_replicate, leadingSpaces]

theorem cutSpaces_replicate_append (width : Nat) (t : Text) :
    cutSpaces width (List.replicate width ' ' ++ t) = t := by
  rw [cutSpaces, leadingSpaces_replicate_append, Nat.min_eq_left (Nat.le_add_right _ _),
    List.drop_left' List.length_replicate]

/-- A line that loses all its leading spaces starts at the margin. -/
theorem head?_cutSpaces_leadingSpaces (t : Text) :
    (cutSpaces (leadingSpaces t) t).head? ≠ some ' ' := by
  rw [cutSpaces, Nat.min_self, leadingSpaces]
  induction t with
  | nil => simp
  | cons c t ih =>
    by_cases hc : c = ' '
    · simpa [hc] using ih
    · simp [hc]

/-- Only blanks are cut. -/
theorem allBlank_cutSpaces (width : Nat) (t : Text) : allBlank (cutSpaces width t) = allBlank t := by
  have hspan : t.take (min width (leadingSpaces t)) <+: t.takeWhile (· == ' ') := by
    refine List.prefix_of_prefix_length_le (List.take_prefix _ t) (List.takeWhile_prefix _) ?_
    rw [List.length_take]
    exact Nat.le_trans (Nat.min_le_left _ _) (Nat.min_le_right _ _)
  have hspaces : allBlank (t.take (min width (leadingSpaces t))) = true := by
    refine List.all_eq_true.mpr fun c hc => ?_
    have hspace : (c == ' ') = true := List.mem_takeWhile_imp (p := (· == ' ')) (hspan.subset hc)
    rw [beq_iff_eq.mp hspace]
    decide
  have hboth : allBlank t = (allBlank (t.take (min width (leadingSpaces t))) &&
      allBlank (cutSpaces width t)) := by
    conv => lhs; rw [← List.take_append_drop (min width (leadingSpaces t)) t]
    exact List.all_append
  rw [hboth, hspaces, Bool.true_and]

/-- The margin is the least indentation of the lines that are not blank. -/
theorem margin_eq (hle : ∀ line ∈ lines, allBlank line = false → width ≤ leadingSpaces line)
    (hmem : ∃ line ∈ lines, allBlank line = false ∧ leadingSpaces line = width) :
    margin lines = width := by
  obtain ⟨line, hline, hblank, hwidth⟩ := hmem
  have hmin : ((lines.filter (!allBlank ·)).map leadingSpaces).min? = some width := by
    refine List.min?_eq_some_iff.mpr ⟨?_, fun b hb => ?_⟩
    · exact List.mem_map.mpr ⟨line, List.mem_filter.mpr ⟨hline, by simp [hblank]⟩, hwidth⟩
    · obtain ⟨other, hother, rfl⟩ := List.mem_map.mp hb
      obtain ⟨hother, hfilled⟩ := List.mem_filter.mp hother
      exact hle other hother (by simpa using hfilled)
  rw [margin, hmin, Option.getD_some]

/-- Among lines that are not all blank, one is indented by no more than the margin. -/
theorem exists_leadingSpaces_eq_margin (h : ∃ line ∈ lines, allBlank line = false) :
    ∃ line ∈ lines, allBlank line = false ∧ leadingSpaces line = margin lines := by
  obtain ⟨line, hline, hblank⟩ := h
  have hne : (lines.filter (!allBlank ·)).map leadingSpaces ≠ [] := by
    refine List.ne_nil_of_mem (a := leadingSpaces line) ?_
    exact List.mem_map.mpr ⟨line, List.mem_filter.mpr ⟨hline, by simp [hblank]⟩, rfl⟩
  cases hmin : ((lines.filter (!allBlank ·)).map leadingSpaces).min? with
  | none => exact absurd (List.min?_eq_none_iff.mp hmin) hne
  | some width =>
    obtain ⟨least, hleast, hwidth⟩ := List.mem_map.mp (List.min?_eq_some_iff.mp hmin).1
    obtain ⟨hleast, hfilled⟩ := List.mem_filter.mp hleast
    refine ⟨least, hleast, by simpa using hfilled, ?_⟩
    rw [hwidth, margin, hmin, Option.getD_some]

/-! ## Empty lines at the ends -/

/-- Dropping empty lines at the ends keeps all other lines. -/
theorem mem_dropEmptyEnds (hline : line ∈ lines) (hne : line ≠ []) : line ∈ dropEmptyEnds lines := by
  have hkept : ∀ l : List Text, line ∈ l → line ∈ l.dropWhile List.isEmpty := by
    intro l hl
    rw [← List.takeWhile_append_dropWhile (p := List.isEmpty) (l := l), List.mem_append] at hl
    rcases hl with hl | hl
    · exact absurd (List.isEmpty_iff.mp (List.mem_takeWhile_imp hl)) hne
    · exact hl
  exact hkept _ (List.mem_reverse.mpr (hkept _ (List.mem_reverse.mpr hline)))

theorem mem_of_mem_dropEmptyEnds (h : line ∈ dropEmptyEnds lines) : line ∈ lines :=
  List.mem_reverse.mp ((List.dropWhile_sublist _).mem
    (List.mem_reverse.mp ((List.dropWhile_sublist _).mem h)))

theorem head?_dropWhile_isEmpty (lines : List Text) :
    (lines.dropWhile List.isEmpty).head? ≠ some [] := by
  intro h
  have hnot := List.head?_dropWhile_not List.isEmpty lines
  rw [h] at hnot
  exact absurd hnot (by simp)

theorem head?_dropEmptyEnds (lines : List Text) : (dropEmptyEnds lines).head? ≠ some [] :=
  head?_dropWhile_isEmpty _

theorem getLast?_dropEmptyEnds (lines : List Text) : (dropEmptyEnds lines).getLast? ≠ some [] := by
  intro h
  have hne : dropEmptyEnds lines ≠ [] := by
    intro hnil
    rw [hnil] at h
    exact absurd h (by simp)
  obtain ⟨front, hfront⟩ : dropEmptyEnds lines <:+ (lines.reverse.dropWhile List.isEmpty).reverse :=
    List.dropWhile_suffix _
  have hlast : (lines.reverse.dropWhile List.isEmpty).reverse.getLast? = some [] := by
    rw [← hfront, List.getLast?_append_of_ne_nil _ hne, h]
  rw [List.getLast?_reverse] at hlast
  exact head?_dropWhile_isEmpty _ hlast

theorem dropWhile_isEmpty_eq_self (h : lines.head? ≠ some []) :
    lines.dropWhile List.isEmpty = lines := by
  cases lines with
  | nil => rfl
  | cons line rest =>
    have hne : line ≠ [] := fun hline => h (by rw [hline]; rfl)
    exact List.dropWhile_cons_of_neg (by simp [hne])

/-- Nothing is dropped when neither end is empty. -/
theorem dropEmptyEnds_eq_self (hhead : lines.head? ≠ some []) (hlast : lines.getLast? ≠ some []) :
    dropEmptyEnds lines = lines := by
  have hback : lines.reverse.dropWhile List.isEmpty = lines.reverse :=
    dropWhile_isEmpty_eq_self (by rwa [List.head?_reverse])
  rw [dropEmptyEnds, hback, List.reverse_reverse, dropWhile_isEmpty_eq_self hhead]

/-- An empty line at either end is dropped. -/
theorem dropEmptyEnds_around (lines : List Text) :
    dropEmptyEnds ([] :: lines ++ [[]]) = dropEmptyEnds lines := by
  have hback : ([] :: lines ++ [[]]).reverse.dropWhile List.isEmpty =
      (lines.reverse ++ [[]]).dropWhile List.isEmpty := by
    rw [List.reverse_append, List.reverse_singleton, List.singleton_append, List.reverse_cons]
    rfl
  rw [dropEmptyEnds, dropEmptyEnds, hback, List.dropWhile_append]
  split
  · rename_i hempty
    rw [List.isEmpty_iff.mp hempty]
    rfl
  · rw [List.reverse_append]
    rfl

/-! ## Cleaned lines -/

/-- What the lines of a docstring's text have in common. -/
structure Dedented (lines : List Text) : Prop where
  newline_notMem : ∀ line ∈ lines, '\n' ∉ line
  tab_notMem : ∀ line ∈ lines, '\t' ∉ line
  trimEnd_eq : ∀ line ∈ lines, trimEnd line = line
  head_ne_nil : lines.head? ≠ some []
  last_ne_nil : lines.getLast? ≠ some []
  /-- Of the lines, if there are any, one starts at the margin. -/
  flush : lines ≠ [] → ∃ line ∈ lines, line ≠ [] ∧ line.head? ≠ some ' '

/-- Only an empty line is blank. -/
theorem allBlank_eq_false_of_trimEnd (h : trimEnd line = line) (hne : line ≠ []) :
    allBlank line = false := by
  refine Bool.eq_false_iff.mpr fun hblank => hne ?_
  rw [← h, trimEnd, dropEndWhile, List.reverse_eq_nil_iff, List.dropWhile_eq_nil_iff]
  exact fun c hc => List.all_eq_true.mp hblank c (List.mem_reverse.mp hc)

/-- A line that is dedented is a part of the one it was, and does not end with a blank. -/
theorem of_mem_dedent (h : line ∈ dedent lines) :
    trimEnd line = line ∧ ∃ source ∈ lines, ∀ c ∈ line, c ∈ source := by
  cases lines with
  | nil => exact absurd h List.not_mem_nil
  | cons first rest =>
    rcases List.mem_cons.mp h with rfl | h
    · exact ⟨trimEnd_trimEnd _, first, List.mem_cons_self, fun c hc =>
        mem_of_mem_trimStart (mem_of_mem_trimEnd hc)⟩
    · obtain ⟨source, hsource, rfl⟩ := List.mem_map.mp h
      exact ⟨trimEnd_trimEnd _, source, List.mem_cons_of_mem first hsource, fun c hc =>
        List.mem_of_mem_drop (mem_of_mem_trimEnd hc)⟩

/-- When a line is left, one starts at the margin: the first line, or one of those that are indented
least. -/
theorem exists_flush_of_dedent (h : line ∈ dedent lines) (hne : line ≠ []) :
    ∃ flush ∈ dedent lines, flush ≠ [] ∧ flush.head? ≠ some ' ' := by
  cases lines with
  | nil => exact absurd h List.not_mem_nil
  | cons first rest =>
    by_cases hfirst : allBlank first = true
    · -- then the line that is left is one of the others
      have hrest : ∃ source ∈ rest, allBlank source = false := by
        rcases List.mem_cons.mp h with rfl | h
        · exact absurd (trim_eq_nil_iff.mpr hfirst) hne
        · obtain ⟨source, hsource, rfl⟩ := List.mem_map.mp h
          refine ⟨source, hsource, ?_⟩
          rw [← allBlank_cutSpaces (margin rest), ← allBlank_trimEnd]
          exact allBlank_eq_false_of_trimEnd (trimEnd_trimEnd _) hne
      obtain ⟨least, hleast, hfilled, hmargin⟩ := exists_leadingSpaces_eq_margin hrest
      have hleft : trimEnd (cutSpaces (leadingSpaces least) least) ≠ [] :=
        trimEnd_ne_nil ((allBlank_cutSpaces _ least).trans hfilled)
      refine ⟨trimEnd (cutSpaces (margin rest) least),
        List.mem_cons_of_mem _ (List.mem_map.mpr ⟨least, hleast, rfl⟩), ?_, ?_⟩
      · rw [← hmargin]
        exact hleft
      · rw [← hmargin, head?_trimEnd hleft]
        exact head?_cutSpaces_leadingSpaces least
    · refine ⟨trim first, List.mem_cons_self, fun hnil => hfirst (trim_eq_nil_iff.mp hnil), ?_⟩
      obtain ⟨c, rest, hcut, hc⟩ := exists_trimStart_eq_cons (Bool.eq_false_iff.mpr hfirst)
      have hleft : trimEnd (trimStart first) ≠ [] := fun hnil => hfirst (trim_eq_nil_iff.mp hnil)
      rw [trim, head?_trimEnd hleft, hcut, List.head?_cons]
      intro heq
      rw [Option.some.inj heq] at hc
      exact absurd hc (by decide)

/-- **The lines of a cleaned docstring.** -/
theorem dedented_cleanLines (value : Text) : Dedented (cleanLines value) := by
  have hclean : ∀ source ∈ (split '\n' value).map expandTabs, '\n' ∉ source ∧ '\t' ∉ source := by
    intro source hsource
    obtain ⟨piece, hpiece, rfl⟩ := List.mem_map.mp hsource
    refine ⟨fun hc => ?_, fun hc => ?_⟩
    · rcases mem_of_mem_expandTabsFrom hc with hc | ⟨hc, -⟩
      · exact absurd hc (by decide)
      · exact notMem_of_mem_split hpiece hc
    · rcases mem_of_mem_expandTabsFrom hc with hc | ⟨-, hc⟩
      · exact absurd hc (by decide)
      · exact hc rfl
  have hmem : ∀ line ∈ cleanLines value, line ∈ dedent ((split '\n' value).map expandTabs) :=
    fun line hline => mem_of_mem_dropEmptyEnds hline
  refine ⟨fun line hline hc => ?_, fun line hline hc => ?_, fun line hline => ?_,
    head?_dropEmptyEnds _, getLast?_dropEmptyEnds _, fun hne => ?_⟩
  · obtain ⟨-, source, hsource, hsub⟩ := of_mem_dedent (hmem line hline)
    exact (hclean source hsource).1 (hsub _ hc)
  · obtain ⟨-, source, hsource, hsub⟩ := of_mem_dedent (hmem line hline)
    exact (hclean source hsource).2 (hsub _ hc)
  · exact (of_mem_dedent (hmem line hline)).1
  · obtain ⟨line, rest, hlines⟩ := List.exists_cons_of_ne_nil hne
    have hline : line ∈ cleanLines value := hlines ▸ List.mem_cons_self
    have hfilled : line ≠ [] := by
      rintro rfl
      exact head?_dropEmptyEnds _ (by rw [← cleanLines, hlines]; rfl)
    obtain ⟨flush, hflush, hleft, hhead⟩ := exists_flush_of_dedent (hmem line hline) hfilled
    exact ⟨flush, mem_dropEmptyEnds hflush hleft, hleft, hhead⟩

/-! ## Texts that are cleaned again -/

/-- What may stand in front of a newline: nothing, or the carriage return of the file. -/
def IsEnding (ending : Text) : Prop := ending = [] ∨ ending = ['\r']

theorem IsEnding.isBlank (h : IsEnding ending) : allBlank ending = true := by
  rcases h with rfl | rfl
  · decide
  · decide

theorem IsEnding.notMem (h : IsEnding ending) (hc : c ≠ '\r') : c ∉ ending := by
  rcases h with rfl | rfl
  · exact List.not_mem_nil
  · exact fun hmem => hc (List.mem_singleton.mp hmem)

/-- What stands between quotes that have lines of their own: the end of the first line, the lines of a
text, and the indentation of the closing quotes. -/
def blockText (indent ending : Text) (lines : List Text) : Text :=
  joinLines (ending :: lines.map (renderLine indent · ++ ending) ++ [indent])

/-- A line of a block with its tabs expanded. -/
def shiftedLine (width : Nat) (ending line : Text) : Text :=
  (if line = [] then [] else List.replicate width ' ' ++ line) ++ ending

/-- Without its indentation the line is what it was. -/
theorem trimEnd_cutSpaces_shiftedLine (h : trimEnd line = line) (hending : IsEnding ending) :
    trimEnd (cutSpaces width (shiftedLine width ending line)) = line := by
  rw [shiftedLine]
  split
  · rename_i hline
    have hblank : allBlank (cutSpaces width ([] ++ ending)) = true :=
      (allBlank_cutSpaces width ending).trans hending.isBlank
    have hnil : trimEnd ([] ++ cutSpaces width ([] ++ ending)) = trimEnd [] :=
      trimEnd_append_of_allBlank [] hblank
    rw [hline]
    exact hnil
  · rw [List.append_assoc, cutSpaces_replicate_append, trimEnd_append_of_allBlank _ hending.isBlank, h]

theorem allBlank_replicate (width : Nat) : allBlank (List.replicate width ' ') = true :=
  List.all_eq_true.mpr fun c hc => by
    rw [List.eq_of_mem_replicate hc]
    decide

/-- The lines of a block share the indentation that they were given. -/
theorem margin_shifted (h : Dedented lines) (hne : lines ≠ []) (hending : IsEnding ending) :
    margin (lines.map (shiftedLine width ending) ++ [List.replicate width ' ']) = width := by
  have hshifted : ∀ line, line ≠ [] → leadingSpaces (shiftedLine width ending line) =
      width + leadingSpaces (line ++ ending) := by
    intro line hline
    rw [shiftedLine, if_neg hline, List.append_assoc, leadingSpaces_replicate_append]
  refine margin_eq (fun other hother hfilled => ?_) ?_
  · rcases List.mem_append.mp hother with hother | hother
    · obtain ⟨line, hline, rfl⟩ := List.mem_map.mp hother
      have hleft : line ≠ [] := by
        rintro rfl
        rw [shiftedLine, if_pos rfl, List.nil_append, hending.isBlank] at hfilled
        exact Bool.false_ne_true hfilled.symm
      rw [hshifted line hleft]
      exact Nat.le_add_right _ _
    · rw [List.mem_singleton.mp hother, allBlank_replicate] at hfilled
      exact absurd hfilled (by decide)
  · obtain ⟨line, hline, hleft, hflush⟩ := h.flush hne
    refine ⟨shiftedLine width ending line,
      List.mem_append_left _ (List.mem_map_of_mem hline), ?_, ?_⟩
    · rw [shiftedLine, if_neg hleft, allBlank, List.all_append, List.all_append, ← allBlank,
        ← allBlank, allBlank_eq_false_of_trimEnd (h.trimEnd_eq line hline) hleft, Bool.and_false,
        Bool.false_and]
    · rw [hshifted line hleft, leadingSpaces_eq_zero_iff.mpr, Nat.add_zero]
      rw [List.head?_append_of_ne_nil _ hleft]
      exact hflush

section Block

variable (h : Dedented lines) (hindent : ∀ c ∈ indent, c = ' ' ∨ c = '\t') (hending : IsEnding ending)

include h hindent hending

/-- The pieces of a block. -/
theorem split_blockText : split '\n' (blockText indent ending lines) =
    ending :: lines.map (renderLine indent · ++ ending) ++ [indent] := by
  have hclean : '\n' ∉ indent := fun hc => absurd (hindent _ hc) (by decide)
  have hended : '\n' ∉ ending := hending.notMem (by decide)
  refine split_join (by simp) fun piece hpiece => ?_
  rcases List.mem_append.mp hpiece with hpiece | hpiece
  · rcases List.mem_cons.mp hpiece with rfl | hpiece
    · exact hended
    · obtain ⟨line, hline, rfl⟩ := List.mem_map.mp hpiece
      rw [List.mem_append, not_or]
      exact ⟨fun hc => (mem_renderLine hc).elim hclean (h.newline_notMem line hline), hended⟩
  · rw [List.mem_singleton.mp hpiece]
    exact hclean

/-- With its tabs expanded, a block has the same number of spaces in front of every line. -/
theorem exists_map_expandTabs_blockText : ∃ width,
    (split '\n' (blockText indent ending lines)).map expandTabs =
      ending :: (lines.map (shiftedLine width ending) ++ [List.replicate width ' ']) := by
  obtain ⟨width, hwidth⟩ := exists_expandTabs_append hindent
  have htab : '\t' ∉ ending := hending.notMem (by decide)
  have hlast : expandTabs indent = List.replicate width ' ' := by
    have happend := hwidth [] List.not_mem_nil
    rwa [List.append_nil, List.append_nil] at happend
  have hexpanded : ∀ line ∈ lines,
      expandTabs (renderLine indent line ++ ending) = shiftedLine width ending line := by
    intro line hline
    rw [renderLine, shiftedLine]
    by_cases hleft : line = []
    · rw [if_pos hleft, hleft]
      exact expandTabs_of_notMem htab
    · have hfilled := allBlank_eq_false_of_trimEnd (h.trimEnd_eq line hline) hleft
      have hboth : '\t' ∉ line ++ ending := by
        rw [List.mem_append, not_or]
        exact ⟨h.tab_notMem line hline, htab⟩
      rw [if_neg hleft, hfilled, if_neg Bool.false_ne_true, List.append_assoc, hwidth _ hboth,
        List.append_assoc]
  refine ⟨width, ?_⟩
  rw [split_blockText h hindent hending, List.map_append, List.map_cons, List.map_map,
    expandTabs_of_notMem htab, List.map_singleton, hlast, List.cons_append]
  congr 2
  exact List.map_congr_left hexpanded

/-- Dedented, a block is its lines between two that are empty. -/
theorem dedent_blockText (hne : lines ≠ []) :
    dedent ((split '\n' (blockText indent ending lines)).map expandTabs) = [] :: lines ++ [[]] := by
  obtain ⟨width, hexpanded⟩ := exists_map_expandTabs_blockText h hindent hending
  have hlast : trimEnd (cutSpaces width (List.replicate width ' ')) = [] := by
    have hcut := cutSpaces_replicate_append width []
    rw [List.append_nil] at hcut
    rw [hcut]
    rfl
  rw [hexpanded, dedent, trim_eq_nil_iff.mpr hending.isBlank, margin_shifted h hne hending,
    List.map_append, List.map_map, List.map_singleton, hlast, List.cons_append]
  congr 2
  conv => rhs; rw [← List.map_id lines]
  exact List.map_congr_left fun line hline =>
    trimEnd_cutSpaces_shiftedLine (h.trimEnd_eq line hline) hending

/-- **A block is cleaned** to the lines that were indented. -/
theorem clean_blockText (hne : lines ≠ []) :
    clean (blockText indent ending lines) = joinLines lines := by
  rw [clean, cleanLines, dedent_blockText h hindent hending hne, dropEmptyEnds_around,
    dropEmptyEnds_eq_self h.head_ne_nil h.last_ne_nil]

end Block

/-- **A single line is clean**, unless it starts with a blank. -/
theorem clean_line (h : Dedented [line])
    (hfirst : ∀ c, line.head? = some c → isBlank c = true → c = ' ') : clean line = line := by
  have hleft : line ≠ [] := fun hnil => h.head_ne_nil (by rw [hnil]; rfl)
  obtain ⟨flush, hflush, -, hhead⟩ := h.flush (List.cons_ne_nil _ _)
  rw [List.mem_singleton.mp hflush] at hhead
  have hclean : '\n' ∉ line := h.newline_notMem line (List.mem_singleton.mpr rfl)
  have htab : '\t' ∉ line := h.tab_notMem line (List.mem_singleton.mpr rfl)
  have htrim : trim line = line := by
    obtain ⟨c, rest, rfl⟩ := List.exists_cons_of_ne_nil hleft
    have hc : isBlank c = false := by
      refine Bool.eq_false_iff.mpr fun hblank => hhead ?_
      rw [hfirst c rfl hblank, List.head?_cons]
    rw [trim_eq_trimEnd hc]
    exact h.trimEnd_eq _ (List.mem_singleton.mpr rfl)
  rw [clean, cleanLines, split_of_notMem hclean, List.map_singleton, expandTabs_of_notMem htab, dedent,
    List.map_nil, htrim, dropEmptyEnds_eq_self h.head_ne_nil h.last_ne_nil]
  rfl

end DocSplice.Docstring
