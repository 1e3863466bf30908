import DocSplice.Proofs.Docstring.Escaping

/-!
# Where a literal is closed

A literal in three double quotes ends where three quotes stand in a row for the first time, not
counting characters that a backslash takes along.  `Reader` follows this rule, character by character,
and `Reader.behind?` is what it leaves unread.

Whatever a documentation text looks like, the rendered literal is closed by its last three characters
and not before (`render_closes_at_end`).

* An escaped text is read without closing the literal (`run_escapeFences`): behind so many quotes the
  text does not go on with as many as are missing (`Reader.Fits`).  Escaping does not look at
  backslashes in front of the quotes, so a reader may come to the escapes at an odd place, which
  `Reader.Fits` allows.
* A newline takes the reader back to where it started, so the lines of a block are read one by one
  (`run_joinLines_concat`), and blanks do the same.
-/

namespace DocSplice.Docstring

open Text

variable {a b t line indent ending documentation : Text} {lines : List Text} {c : Char}

/-- Where a reader of a literal in three double quotes stands. -/
inductive Reader where
  /-- Behind a backslash, which takes the next character along. -/
  | escaped
  /-- Behind so many quotes in a row. -/
  | quotes (count : Nat)
  deriving DecidableEq, Repr

namespace Reader

variable {r next : Reader}

/-- Behind the opening quotes. -/
def start : Reader := .quotes 0

/-- The reader after one more character; `none` when this is the quote that closes the literal. -/
def step : Reader → Char → Option Reader
  | .escaped, _ => some start
  | .quotes count, c =>
    if c = '\\' then some .escaped
    else if c = '"' then if 2 ≤ count then none else some (.quotes (count + 1))
    else some start

/-- The reader after a text; `none` when the literal is closed on the way. -/
def run (r : Reader) : Text → Option Reader
  | [] => some r
  | c :: t => (r.step c).bind (run · t)

/-- What follows the quotes that close the literal; `none` when it is not closed. -/
def behind? (r : Reader) : Text → Option Text
  | [] => none
  | c :: t =>
    match r.step c with
    | none => some t
    | some next => next.behind? t

@[simp] theorem run_nil (r : Reader) : r.run [] = some r := rfl

theorem run_cons (r : Reader) (c : Char) (t : Text) :
    r.run (c :: t) = (r.step c).bind (run · t) := rfl

theorem run_append (r : Reader) (a b : Text) : r.run (a ++ b) = (r.run a).bind (·.run b) := by
  induction a generalizing r with
  | nil => rfl
  | cons c a ih =>
    rw [List.cons_append, run_cons, run_cons]
    cases r.step c with
    | none => rfl
    | some next => exact ih next

/-- A text that does not close the literal is read away. -/
theorem behind?_append (h : r.run a = some next) (b : Text) : r.behind? (a ++ b) = next.behind? b := by
  induction a generalizing r with
  | nil => rw [Option.some.inj h, List.nil_append]
  | cons c a ih =>
    obtain ⟨middle, hstep, hrun⟩ := Option.bind_eq_some_iff.mp h
    rw [List.cons_append, behind?, hstep]
    exact ih hrun

/-- A character that is neither a backslash nor a quote takes the reader back. -/
theorem step_other (hback : c ≠ '\\') (hquote : c ≠ '"') (r : Reader) : r.step c = some start := by
  cases r with
  | escaped => rfl
  | quotes count => rw [step, if_neg hback, if_neg hquote]

theorem step_blank (h : isBlank c = true) (r : Reader) : r.step c = some start := by
  refine step_other ?_ ?_ r
  · rintro rfl
    exact absurd h (by decide)
  · rintro rfl
    exact absurd h (by decide)

/-- Blanks leave the reader at the start. -/
theorem run_start_blank (h : allBlank t = true) : start.run t = some start := by
  induction t with
  | nil => rfl
  | cons c t ih =>
    obtain ⟨hc, ht⟩ := Bool.and_eq_true_iff.mp h
    rw [run_cons, step_blank hc]
    exact ih ht

/-- Blanks do not close a literal. -/
theorem exists_run_blank (h : allBlank t = true) (r : Reader) : ∃ next, r.run t = some next := by
  cases t with
  | nil => exact ⟨r, rfl⟩
  | cons c t =>
    obtain ⟨hc, ht⟩ := Bool.and_eq_true_iff.mp h
    refine ⟨start, ?_⟩
    rw [run_cons, step_blank hc]
    exact run_start_blank ht

/-- Behind a text that does not end with a backslash or a quote the reader is back at the start. -/
theorem eq_start_of_run (h : start.run t = some next) (hback : t.getLast? ≠ some '\\')
    (hquote : t.getLast? ≠ some '"') : next = start := by
  rcases List.eq_nil_or_concat t with rfl | ⟨front, last, rfl⟩
  · exact (Option.some.inj h).symm
  · rw [List.concat_eq_append, List.getLast?_concat] at hback hquote
    rw [List.concat_eq_append, run_append] at h
    obtain ⟨middle, -, hlast⟩ := Option.bind_eq_some_iff.mp h
    rw [run_cons, step_other (fun hc => hback (congrArg some hc))
      (fun hc => hquote (congrArg some hc))] at hlast
    exact (Option.some.inj hlast).symm

/-! ## Escaped texts -/

/-- The text does not go on with the quotes that are missing. -/
def Fits (t : Text) : Reader → Prop
  | .escaped => True
  | .quotes count => count = 0 ∨ ¬List.replicate (3 - count) '"' <+: t

theorem fits_start (t : Text) : start.Fits t := Or.inl rfl

/-- Before three quotes in a row a reader has read none. -/
theorem eq_start_of_fits {count : Nat} (h : (Reader.quotes count).Fits (doubleFence ++ t)) :
    count = 0 := by
  rcases h with h | h
  · exact h
  · refine absurd ?_ h
    have hfence : doubleFence = List.replicate (3 - count) '"' ++ List.replicate (3 - (3 - count)) '"' := by
      rw [List.replicate_append_replicate, Nat.add_sub_cancel' (Nat.sub_le 3 count)]
      rfl
    rw [hfence, List.append_assoc]
    exact List.prefix_append _ _

/-- One more quote, when they are not three in a row. -/
theorem fits_quote {count : Nat} (h : (Reader.quotes count).Fits ('"' :: t))
    (hfence : ¬doubleFence <+: '"' :: t) : count < 2 ∧ (Reader.quotes (count + 1)).Fits t := by
  have hmissing : ¬List.replicate (3 - count) '"' <+: '"' :: t := by
    rcases h with rfl | h
    · exact hfence
    · exact h
  have hcount : count < 2 := by
    by_contra hmany
    have hone : 3 - count = 1 ∨ 3 - count = 0 := by omega
    rcases hone with hone | hone
    · exact hmissing (by rw [hone]; exact ⟨t, rfl⟩)
    · exact hmissing (by rw [hone]; exact List.nil_prefix)
  refine ⟨hcount, Or.inr fun hmore => hmissing ?_⟩
  have hsucc : 3 - count = 3 - (count + 1) + 1 := by omega
  rw [hsucc, List.replicate_succ]
  exact List.cons_prefix_cons.mpr ⟨rfl, hmore⟩

/-- **An escaped text does not close a literal.**  The induction goes over the text as escaping does;
behind a backslash the first of the escapes is turned around, and its quote counts. -/
theorem run_escapeFences (t : Text) : ∀ r : Reader, r.Fits t →
    ∃ next, r.run (escapeFences t) = some next := by
  induction t using fence_induction with
  | nil => exact fun r _ => ⟨r, rfl⟩
  | fence t ih =>
    intro r hfits
    obtain ⟨next, hnext⟩ := ih start (fits_start t)
    refine ⟨next, ?_⟩
    rw [escapeFences_fence, run_append]
    cases r with
    | escaped => exact hnext
    | quotes count =>
      rw [eq_start_of_fits hfits]
      exact hnext
  | single c t hfence ih =>
    intro r hfits
    rw [escapeFences_cons hfence, run_cons]
    cases r with
    | escaped => exact ih start (fits_start t)
    | quotes count =>
      rw [step]
      split
      · exact ih .escaped trivial
      · split
        · rename_i hquote
          subst hquote
          obtain ⟨hcount, hfits⟩ := fits_quote hfits hfence
          rw [if_neg (by omega)]
          exact ih _ hfits
        · exact ih start (fits_start t)

/-! ## Lines -/

/-- Lines that do not close the literal are read one by one, and the last one from the start. -/
theorem run_joinLines_concat {front : List Text} (h : ∀ line ∈ front, ∃ next, start.run line = some next)
    (last : Text) : start.run (joinLines (front ++ [last])) = start.run last := by
  induction front with
  | nil => rfl
  | cons line rest ih =>
    obtain ⟨next, hnext⟩ := h line List.mem_cons_self
    have ih := ih fun other hother => h other (List.mem_cons_of_mem line hother)
    rw [List.cons_append, joinLines, join_cons_of_ne_nil '\n' line (by simp), run_append, hnext,
      Option.bind_some, run_cons, step_blank (by decide), Option.bind_some]
    exact ih

/-- A line of a block does not close the literal. -/
theorem exists_run_renderLine (hindent : allBlank indent = true) (hending : IsEnding ending)
    (line : Text) : ∃ next, start.run (renderLine indent (escapeFences line) ++ ending) = some next := by
  have hrendered : ∃ next, start.run (renderLine indent (escapeFences line)) = some next := by
    rw [renderLine]
    split
    · exact ⟨start, rfl⟩
    · rw [run_append, run_start_blank hindent]
      exact run_escapeFences line start (fits_start line)
  obtain ⟨middle, hmiddle⟩ := hrendered
  rw [run_append, hmiddle]
  exact exists_run_blank hending.isBlank middle

end Reader

/-- What stands between the quotes takes a reader from the start to the start. -/
theorem run_quoted (documentation : Text) (hindent : allBlank indent = true)
    (hending : IsEnding ending) :
    Reader.start.run (quoted documentation indent ending) = some .start := by
  rw [quoted]
  split
  · rename_i hfits
    obtain ⟨next, hnext⟩ :=
      Reader.run_escapeFences (documentedText documentation) .start (Reader.fits_start _)
    rw [fitsOneLine, Bool.and_eq_true, Bool.and_eq_true, bne_iff_ne, bne_iff_ne] at hfits
    rw [hnext, Reader.eq_start_of_run hnext hfits.2 hfits.1.2]
  · rw [blockText, Reader.run_joinLines_concat fun line hline => ?_]
    · exact Reader.run_start_blank hindent
    · rcases List.mem_cons.mp hline with rfl | hline
      · exact Reader.exists_run_blank hending.isBlank .start
      · obtain ⟨escaped, hescaped, rfl⟩ := List.mem_map.mp hline
        obtain ⟨source, -, rfl⟩ := List.mem_map.mp hescaped
        exact Reader.exists_run_renderLine hindent hending source

/-- What stands between the quotes is closed by the quotes behind it. -/
theorem behind?_quoted (documentation : Text) (hindent : allBlank indent = true)
    (hending : IsEnding ending) :
    Reader.start.behind? (quoted documentation indent ending ++ doubleFence) = some [] := by
  rw [Reader.behind?_append (run_quoted documentation hindent hending)]
  rfl

/-- **A rendered docstring is one closed literal.**  Behind its indentation stand perhaps the letter of
a raw literal, three quotes, a content and three quotes, and a reader who starts behind the first three
finds the literal closed by the last three and nothing behind them; so it is with carriage returns at
the ends of all lines but the last. -/
theorem render_closes_at_end (documentation indent ending : Text) (hindent : allBlank indent = true)
    (hending : ending = [] ∨ ending = ['\r']) :
    ∃ letter content, (letter = [] ∨ letter = ['r']) ∧
      joinLines (withEnding ending (render documentation indent)) =
        indent ++ (letter ++ (doubleFence ++ (content ++ doubleFence))) ∧
      Reader.start.behind? (content ++ doubleFence) = some [] := by
  refine ⟨rawPrefix (documentedText documentation), quoted documentation indent ending, ?_,
    joinLines_render documentation indent ending, behind?_quoted documentation hindent hending⟩
  rw [rawPrefix]
  split
  · exact Or.inr rfl
  · exact Or.inl rfl

/-- Quotes behind an odd number of backslashes, five of them, and more at the end of the text. -/
theorem render_closes_at_end_odd :
    let documentation := "\\\"\"\"\"\" and \\\\\"\"\"\nends \"\"".toList
    allBlank ['\t'] = true ∧ render documentation ['\t'] =
        ["\tr\"\"\"".toList, "\t\\\\\"\\\"\\\"\"\" and \\\\\\\"\\\"\\\"".toList, "\tends \"\"".toList,
          "\t\"\"\"".toList] ∧
      ∃ letter content, (letter = [] ∨ letter = ['r']) ∧
        joinLines (withEnding ['\r'] (render documentation ['\t'])) =
          ['\t'] ++ (letter ++ (doubleFence ++ (content ++ doubleFence))) ∧
        Reader.start.behind? (content ++ doubleFence) = some [] := by
  intro documentation
  exact ⟨by decide, by decide +kernel,
    render_closes_at_end documentation ['\t'] ['\r'] (by decide) (Or.inr rfl)⟩

end DocSplice.Docstring
