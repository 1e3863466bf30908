import DocSplice.Grammar.Token
import DocSplice.Proofs.Blanks
import DocSplice.Proofs.Grammar.Headers

/-!
# The first characters of tokens

A token that may start a statement is a word, a number, a mark or opening quotes.  Each of them
starts with a character that is no blank and no semicolon, and a mark is spelled out; `Spells` says
both, and `Reading.step_cases` that it holds of every terminal that is found.  So what is known of
terminals can be carried over to the characters of the text.
-/

namespace DocSplice.Grammar

/-- The text starts with a character that is neither a blank nor a semicolon. -/
def startsSolid : Text → Bool
  | c :: _ => !isBlank c && c != ';'
  | [] => false

theorem startsSolid_cons {c : Char} {t : Text} (hblank : isBlank c = false) (hc : c ≠ ';') :
    startsSolid (c :: t) = true := by
  simp [startsSolid, hblank, hc]

/-- A property that no blank and no semicolon has makes a start solid. -/
theorem startsSolid_of {p : Char → Bool} (hp : (';' :: blanks).all (fun c => !p c) = true)
    {c : Char} {t : Text} (hc : p c = true) : startsSolid (c :: t) = true := by
  have hno : ∀ d ∈ ';' :: blanks, p d = false :=
    fun d hd => Bool.not_eq_true' _ ▸ List.all_eq_true.mp hp d hd
  refine startsSolid_cons (Bool.eq_false_iff.mpr fun hblank => ?_) ?_
  · rw [hno c (List.mem_cons_of_mem _ (mem_blanks hblank))] at hc
    exact Bool.false_ne_true hc
  · rintro rfl
    rw [hno ';' List.mem_cons_self] at hc
    exact Bool.false_ne_true hc

theorem exists_cons_of_startsSolid {t : Text} (h : startsSolid t = true) :
    ∃ c rest, t = c :: rest ∧ isBlank c = false ∧ c ≠ ';' := by
  cases t with
  | nil => exact absurd h Bool.false_ne_true
  | cons c rest =>
    simp only [startsSolid, Bool.and_eq_true, Bool.not_eq_true', bne_iff_ne] at h
    exact ⟨c, rest, rfl, h.1, h.2⟩

/-- What is known of the characters of a terminal: what may start a statement starts with one that
is neither a blank nor a semicolon, and a mark is spelled out. -/
structure Spells (a : Terminal) (inner after : Text) : Prop where
  solid : opensStatement a = true → startsSolid (inner ++ after) = true
  mark : ∀ sign, a = .mark sign → inner = sign.spelling

theorem Spells.of_solid {a : Terminal} {t : Text} (length : Nat) (h : startsSolid t = true)
    (hmark : ∀ sign, a ≠ .mark sign) : Spells a (t.take length) (t.drop length) :=
  ⟨fun _ => (List.take_append_drop length t).symm ▸ h, fun sign hsign => absurd hsign (hmark sign)⟩

theorem Spells.of_other {a : Terminal} {inner after : Text} (h : opensStatement a = false)
    (hmark : ∀ sign, a ≠ .mark sign) : Spells a inner after := by
  refine ⟨fun hopens => ?_, fun sign hsign => absurd hsign (hmark sign)⟩
  rw [h] at hopens
  exact absurd hopens Bool.false_ne_true

/-! ## Lexemes -/

namespace Lexeme

variable {t : Text}

theorem startsSolid_of_word (h : word t ≠ 0) : startsSolid t = true := by
  cases t with
  | nil => exact absurd rfl h
  | cons c t =>
    by_cases hc : startsIdentifier c = true
    · exact startsSolid_of (by decide +kernel) hc
    · exact absurd (if_neg hc) h

theorem startsSolid_of_digits (h : digits t ≠ 0) : startsSolid t = true := by
  cases t with
  | nil => exact absurd rfl h
  | cons c t =>
    unfold digits digitsFrom at h
    split at h
    · rename_i hc
      exact startsSolid_of (by decide +kernel) hc
    · simp at h

theorem startsSolid_of_basedInteger {letters : List Char} {isDigit : Char → Bool}
    (h : basedInteger letters isDigit t ≠ 0) : startsSolid t = true := by
  unfold basedInteger at h
  split at h
  · exact startsSolid_cons (by decide) (by decide)
  · exact absurd rfl h

theorem startsSolid_of_integer (h : integer t ≠ 0) : startsSolid t = true := by
  by_contra hno
  have hdigits : digits t = 0 := by
    by_contra hd
    exact hno (startsSolid_of_digits hd)
  have hbased : ∀ letters isDigit, basedInteger letters isDigit t = 0 := by
    intro letters isDigit
    by_contra hb
    exact hno (startsSolid_of_basedInteger hb)
  simp [integer, hdigits, hbased] at h

theorem startsSolid_of_float (h : float t ≠ 0) : startsSolid t = true := by
  by_contra hno
  have hdigits : digits t = 0 := by
    by_contra hd
    exact hno (startsSolid_of_digits hd)
  have hpoint : fraction 0 t = 0 := by
    unfold fraction
    split
    · exact absurd (startsSolid_cons (by decide) (by decide)) hno
    · rfl
  simp [float, hdigits, hpoint] at h

/-- The mark that was found is spelled out at the start of the text. -/
theorem spelling_of_longestMark {marks : List Mark} {sign : Mark} {length : Nat}
    (h : longestMark marks t = some (sign, length)) :
    sign.spelling.isPrefixOf t = true ∧ length = sign.spelling.length := by
  unfold longestMark at h
  generalize hnone : (none : Option (Mark × Nat)) = best at h
  have hbest : ∀ found, best = some found →
      found.1.spelling.isPrefixOf t = true ∧ found.2 = found.1.spelling.length := by
    intro found hfound
    rw [hfound] at hnone
    exact absurd hnone (by simp)
  clear hnone
  induction marks generalizing best with
  | nil => exact hbest (sign, length) h
  | cons mark marks ih =>
    refine ih _ h fun found hfound => ?_
    dsimp only at hfound
    split at hfound
    · rename_i hcond
      rw [← Option.some.inj hfound]
      exact ⟨(Bool.and_eq_true_iff.mp hcond).1, rfl⟩
    · exact hbest found hfound

/-- Every mark but one starts with a character that is no blank and no semicolon. -/
theorem startsSolid_spelling {sign : Mark} (h : sign ≠ .semicolon) :
    startsSolid sign.spelling = true := by
  have hall : ∀ sign ∈ Mark.all, sign ≠ .semicolon → startsSolid sign.spelling = true := by
    decide +kernel
  exact hall sign (Mark.mem_all sign) h

theorem startsSolid_of_isPrefixOf {p : Text} (hp : startsSolid p = true)
    (h : p.isPrefixOf t = true) : startsSolid t = true := by
  obtain ⟨c, rest, rfl, hblank, hc⟩ := exists_cons_of_startsSolid hp
  obtain ⟨tail, rfl⟩ := List.isPrefixOf_iff_prefix.mp h
  exact startsSolid_cons hblank hc

/-- The lexeme that is taken is one of those that were found. -/
theorem mem_of_foldl_longer {found : List (Option (Terminal × Nat))} {a : Terminal × Nat} :
    ∀ {best : Option (Terminal × Nat)}, found.foldl longer best = some a →
      best = some a ∨ some a ∈ found := by
  induction found with
  | nil => exact fun h => Or.inl h
  | cons next found ih =>
    intro best h
    rcases ih h with h | h
    · cases best with
      | none => exact Or.inr (List.mem_cons.mpr (Or.inl h.symm))
      | some b =>
        cases next with
        | none => exact Or.inl h
        | some n =>
          unfold longer at h
          dsimp only at h
          split at h
          · exact Or.inr (List.mem_cons.mpr (Or.inl h.symm))
          · exact Or.inl h
    · exact Or.inr (List.mem_cons_of_mem next h)

theorem ne_mark_of_wordTerminal? {expects : Terminal → Bool} {spelling : Text} {a : Terminal}
    (h : wordTerminal? expects spelling = some a) (sign : Mark) : a ≠ .mark sign := by
  unfold wordTerminal? at h
  split at h
  · rw [← Option.some.inj h]
    simp
  · split at h
    · rw [← Option.some.inj h]
      simp
    · exact absurd h (by simp)

theorem eq_of_plain? {expects : Terminal → Bool} {a b : Terminal} {length found : Nat}
    (h : plain? expects a length = some (b, found)) : b = a ∧ length ≠ 0 := by
  unfold plain? at h
  split at h
  · rename_i hcond
    rw [Bool.and_eq_true, decide_eq_true_eq] at hcond
    exact ⟨(Prod.mk.inj (Option.some.inj h)).1.symm, by omega⟩
  · exact absurd h (by simp)

/-- **A lexeme** is spelled as its terminal says. -/
theorem spells_of_longest? {expects : Terminal → Bool} {adjacent : Bool} {a : Terminal}
    {length : Nat} (h : longest? expects adjacent t = some (a, length)) :
    Spells a (t.take length) (t.drop length) := by
  unfold longest? at h
  rcases mem_of_foldl_longer h with h | h
  · exact absurd h (by simp)
  · rw [List.mem_append] at h
    rcases h with h | h
    · simp only [List.mem_cons, List.not_mem_nil, or_false] at h
      rcases h with h | h | h | h | h
      · unfold word? at h
        dsimp only at h
        split at h
        · exact absurd h (by simp)
        · rename_i hword
          obtain ⟨terminal, hterminal, heq⟩ := Option.map_eq_some_iff.mp h.symm
          rw [← (Prod.mk.inj heq).1]
          exact .of_solid _ (startsSolid_of_word hword) (ne_mark_of_wordTerminal? hterminal)
      · obtain ⟨⟨sign, found⟩, hfound, heq⟩ := Option.map_eq_some_iff.mp h.symm
        obtain ⟨rfl, hlength⟩ := Prod.mk.inj heq
        obtain ⟨hspelled, hcount⟩ := spelling_of_longestMark hfound
        refine ⟨fun hopens => ?_, fun other hother => ?_⟩
        · have hsign : sign ≠ .semicolon := by simpa [opensStatement] using hopens
          rw [List.take_append_drop]
          exact startsSolid_of_isPrefixOf (startsSolid_spelling hsign) hspelled
        · obtain ⟨rest, rfl⟩ := List.isPrefixOf_iff_prefix.mp hspelled
          rw [← Terminal.mark.inj hother, ← hlength]
          exact hcount ▸ List.take_left
      · obtain ⟨rfl, hfloat⟩ := eq_of_plain? h.symm
        exact .of_solid _ (startsSolid_of_float hfloat) (by simp)
      · obtain ⟨rfl, hinteger⟩ := eq_of_plain? h.symm
        exact .of_solid _ (startsSolid_of_integer hinteger) (by simp)
      · obtain ⟨rfl, -⟩ := eq_of_plain? h.symm
        exact .of_other rfl (by simp)
    · split at h
      · simp only [List.mem_cons, List.not_mem_nil, or_false] at h
        rcases h with h | h
        · obtain ⟨rfl, -⟩ := eq_of_plain? h.symm
          exact .of_other rfl (by simp)
        · obtain ⟨rfl, -⟩ := eq_of_plain? h.symm
          exact .of_other rfl (by simp)
      · exact absurd h List.not_mem_nil

end Lexeme

/-! ## Layout -/

namespace Layout

variable {t rest : Text} {expects : Terminal → Bool} {l : Layout}

/-- What was passed before a margin comes in front of what the margin passes. -/
theorem margin_extend {m next found : Margin} (front : Text)
    (hlength : next.length = m.length + front.length)
    (h : ∃ passed, t = passed ++ rest ∧ found.length = next.length + passed.length) :
    ∃ passed, front ++ t = passed ++ rest ∧ found.length = m.length + passed.length := by
  obtain ⟨passed, rfl, hfound⟩ := h
  refine ⟨front ++ passed, (List.append_assoc _ _ _).symm, ?_⟩
  rw [hfound, hlength, List.length_append, Nat.add_assoc]

/-- A margin passes so many characters as it says.  The cases are those of `marginFrom`: most of them
pass one character, and a hidden line end takes two or three. -/
theorem passed_of_marginFrom {comments inComment : Bool} {m found : Margin}
    (h : marginFrom comments m inComment t = some (found, rest)) :
    ∃ passed, t = passed ++ rest ∧ found.length = m.length + passed.length := by
  fun_induction marginFrom comments m inComment t
  case case1 | case16 =>
    obtain ⟨rfl, rfl⟩ := Prod.mk.inj (Option.some.inj h)
    exact ⟨[], rfl, rfl⟩
  case case9 | case14 | case15 => exact absurd h (by simp)
  case case10 =>
    obtain ⟨rfl, rfl⟩ := Prod.mk.inj (Option.some.inj h)
    exact ⟨['\\'], rfl, rfl⟩
  case case12 =>
    obtain ⟨rfl, rfl⟩ := Prod.mk.inj (Option.some.inj h)
    exact ⟨['\\', '\r'], rfl, rfl⟩
  case case11 ih => exact margin_extend ['\\', '\n'] rfl (ih h)
  case case13 ih => exact margin_extend ['\\', '\r', '\n'] rfl (ih h)
  all_goals
    rename_i ih
    exact margin_extend [_] rfl (ih h)

/-- Quotes that open start with one of their letters or with a quote. -/
theorem startsSolid_of_quotes? {opened : Quotes × Nat} (h : quotes? t = some opened) :
    startsSolid t = true := by
  cases t with
  | nil => exact absurd h (by simp [quotes?, quotesFrom])
  | cons c t =>
    have hc : ['f', 'F', 'r', 'R', 'b', 'B', 'u', 'U', '\x60', '"', '\''].contains c = true := by
      by_contra hno
      simp only [List.contains_iff_mem, List.mem_cons, List.not_mem_nil, or_false, not_or] at hno
      obtain ⟨h1, h2, h3, h4, h5, h6, h7, h8, h9, h10, h11⟩ := hno
      simp [quotes?, quotesFrom, *] at h
    exact startsSolid_of (p := fun c =>
      ['f', 'F', 'r', 'R', 'b', 'B', 'u', 'U', '\x60', '"', '\''].contains c) (by decide +kernel) hc

/-- Of the terminals that a layout finds, only opening quotes may start a statement. -/
theorem spells_of_scan {found : Found} (h : l.scan expects t = some found) :
    Spells found.terminal ((t.drop found.skipped).take found.length)
      ((t.drop found.skipped).drop found.length) := by
  have hmargin : l.scanMargin expects t = some found →
      Spells found.terminal ((t.drop found.skipped).take found.length)
        ((t.drop found.skipped).drop found.length) := by
    intro h
    unfold scanMargin at h
    split at h
    · exact absurd h (by simp)
    · rename_i m rest hm
      rcases Option.or_eq_some_iff.mp h with hend | ⟨-, hquotes⟩
      · split at hend
        · unfold atLineEnd at hend
          split at hend
          · rw [← Option.some.inj hend]
            exact .of_other rfl (by simp)
          · split at hend
            · rw [← Option.some.inj hend]
              exact .of_other rfl (by simp)
            · split at hend
              · rw [← Option.some.inj hend]
                exact .of_other rfl (by simp)
              · exact absurd hend (by simp)
        · exact absurd hend (by simp)
      · unfold openQuotes at hquotes
        split at hquotes
        · obtain ⟨opened, hopened, rfl⟩ := Option.map_eq_some_iff.mp hquotes
          obtain ⟨passed, rfl, hlength⟩ := passed_of_marginFrom hm
          have hskip : m.length = passed.length := hlength.trans (Nat.zero_add _)
          rw [hskip, List.drop_left]
          exact .of_solid _ (startsSolid_of_quotes? hopened) (by simp)
        · exact absurd hquotes (by simp)
  unfold scan at h
  split at h
  · exact hmargin h
  · split at h
    · split at h
      · rw [← Option.some.inj h]
        exact .of_other rfl (by simp)
      · exact absurd h (by simp)
    · split at h
      · unfold scanQuotes at h
        split at h
        · rw [← Option.some.inj h]
          exact .of_other rfl (by simp)
        · rw [← Option.some.inj h]
          exact .of_other rfl (by simp)
        · exact absurd h (by simp)
      · exact hmargin h

end Layout

namespace Reading

variable {r next : Reading} {token : Token}

/-- **What a step does**: it takes a terminal that was found, or skips something, or ends the reading,
or is stuck. -/
theorem step_cases (r : Reading) :
    (∃ found, r.step = r.stepWith found ∧
        Spells found.terminal ((r.rest.drop found.skipped).take found.length)
          ((r.rest.drop found.skipped).drop found.length)) ∨
      (∃ count, r.step = .skipped (r.skip count)) ∨
      (∃ last next count, r.step = .finished last ∧
        r.take? ⟨.endOfText, count, 0, r.layout⟩ = some (last, next)) ∨
      r.step = .stuck := by
  unfold step
  split
  · rename_i found hscan
    exact Or.inl ⟨found, rfl, Layout.spells_of_scan hscan⟩
  · unfold lexemeStep
    dsimp only
    split
    · exact Or.inl ⟨_, rfl, .of_other rfl (by simp)⟩
    · split
      · rename_i terminal length hlongest
        exact Or.inl ⟨_, rfl, Lexeme.spells_of_longest? hlongest⟩
      · split
        · exact Or.inr (Or.inl ⟨_, rfl⟩)
        · split
          · split
            · rename_i last next htake
              exact Or.inr (Or.inr (Or.inl ⟨last, next, _, rfl, htake⟩))
            · exact Or.inr (Or.inr (Or.inr rfl))
          · exact Or.inr (Or.inr (Or.inr rfl))

theorem stepWith_cases (r : Reading) (found : Layout.Found) :
    (∃ token next, r.stepWith found = .token token next ∧ r.take? found = some (token, next)) ∨
      r.stepWith found = .stuck := by
  unfold stepWith
  split
  · rename_i token next htake
    exact Or.inl ⟨token, next, rfl, htake⟩
  · exact Or.inr rfl

end Reading

end DocSplice.Grammar
