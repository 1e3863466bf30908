import DocSplice.Proofs.Grammar.Openings
import DocSplice.Proofs.Patches

/-!
# Statements

The tokens of a text fall into statements: ends of lines and semicolons stand between these, and so do
the changes of indentation.  What a declaration says in its header is told from the first statement of
its body, also where both share a line.  `statements` gives the stretches that they cover.

* `inOrder_statements`: they lie in the text one behind the other.
* `solid_of_mem_statements`: a statement starts with a character that is neither a blank nor a
  semicolon.  The automaton over the terminals tells so: behind what stands between statements a
  statement is called for.
* `exists_colon_of_mem_outline`: the first statement of a body is behind the colon of its header, and
  no statement covers both.
-/

namespace DocSplice.Grammar

open Text

variable {text : Text} {token first : Token} {tokens : List Token} {opens : List Place}

/-- The stretch that a token covers. -/
def Token.stretch (token : Token) : Stretch := ⟨token.start.offset, token.stop.offset⟩

/-- The statement that is held, if there is one, goes on with the token. -/
def extend : Option Stretch → Token → Stretch
  | none, token => token.stretch
  | some held, token => ⟨held.start, token.stop.offset⟩

/-- The stretches of the statements among the tokens, where one is held that the tokens may go on with.
Whatever the places say, a statement starts there. -/
def statementsFrom (opens : List Place) : Option Stretch → List Token → List Stretch
  | held, [] => held.toList
  | held, token :: rest =>
    if separates token.terminal then held.toList ++ statementsFrom opens none rest
    else if opens.contains token.start then
      held.toList ++ statementsFrom opens (some token.stretch) rest
    else statementsFrom opens (some (extend held token)) rest

/-- Where the bodies of the declarations start. -/
def bodyStarts (outline : Outline) : List Place :=
  outline.filterMap fun d => d.opening.map (·.start)

/-- The stretches of the statements of a text. -/
def statements (text : Text) : List Stretch :=
  ((tokens? text).map fun tokens =>
    statementsFrom (bodyStarts (Outline.declarationsFrom text 0 none tokens)) none tokens).getD []

theorem statements_eq (h : tokens? text = some tokens) : statements text =
    statementsFrom (bodyStarts (Outline.declarationsFrom text 0 none tokens)) none tokens := by
  rw [statements, h]
  rfl

/-! ## Stretches of tokens -/

/-- The tokens cover stretches in order. -/
theorem Laid.inOrder {before after : Text} (h : Laid before after tokens) :
    InOrder before.length after (tokens.map Token.stretch) := by
  induction h with
  | nil => exact ⟨List.Pairwise.nil, fun s hs => absurd hs List.not_mem_nil⟩
  | @cons before gap inner after token tokens start_eq stop_eq spells later ih =>
    have hstart : token.start.offset = before.length + gap.length := by
      rw [start_eq, Place.offset_after, List.length_append]
      exact Nat.zero_add _
    have hstop : token.stop.offset = before.length + (gap.length + inner.length) := by
      rw [stop_eq, Place.offset_after, List.length_append, List.length_append]
      exact Nat.zero_add _
    have hbelow : (before ++ (gap ++ inner)).length = token.stop.offset := by
      rw [hstop, List.length_append, List.length_append]
    rw [hbelow] at ih
    have hlength : (gap ++ (inner ++ after)).length =
        gap.length + (inner.length + after.length) := by
      rw [List.length_append, List.length_append]
    refine ⟨List.pairwise_cons.mpr ⟨fun s hs => (ih.within s hs).1, ih.ordered⟩, fun s hs => ?_⟩
    rw [hlength]
    rcases List.mem_cons.mp hs with rfl | hs
    · dsimp only [Token.stretch]
      omega
    · have hin := ih.within s hs
      omega

/-- Tokens start and stop at places of the text. -/
theorem Laid.reached {before after : Text} (h : Laid before after tokens) (hmem : token ∈ tokens) :
    Place.Reached (before ++ after) token.start ∧ Place.Reached (before ++ after) token.stop := by
  obtain ⟨above, word, below, htext, hstart, hstop, -⟩ := h.exists_spelling hmem
  refine ⟨⟨above, word ++ below, htext, hstart⟩, ⟨above ++ word, below, ?_, hstop⟩⟩
  rw [htext, List.append_assoc]

/-- A colon is spelled out where it stands. -/
theorem Laid.colon {before after : Text} (h : Laid before after tokens) (hmem : token ∈ tokens)
    (hcolon : token.terminal = .mark .colon) :
    token.stop.offset = token.start.offset + 1 ∧ (before ++ after)[token.start.offset]? = some ':' := by
  obtain ⟨above, word, below, htext, hstart, hstop, spells⟩ := h.exists_spelling hmem
  have hspelled : word = [':'] := spells.mark .colon hcolon
  have hoffset : token.start.offset = above.length := by
    rw [hstart, Place.offset_after]
    exact Nat.zero_add _
  refine ⟨?_, ?_⟩
  · rw [hoffset, hstop, Place.offset_after, hspelled, List.length_append]
    exact Nat.zero_add _
  · rw [hoffset, htext, hspelled, List.getElem?_append_right (Nat.le_refl _), Nat.sub_self]
    rfl

/-! ## Stretches of statements -/

/-- A statement starts where one was held or where a token starts, and it stops likewise. -/
theorem of_mem_statementsFrom {s : Stretch} : ∀ {tokens : List Token} {held : Option Stretch},
    s ∈ statementsFrom opens held tokens →
    ((∃ h ∈ held, s.start = h.start) ∨ ∃ token ∈ tokens, s.start = token.start.offset) ∧
      ((∃ h ∈ held, s.stop = h.stop) ∨
        ∃ token ∈ tokens, separates token.terminal = false ∧ s.stop = token.stop.offset)
  | [], held, hs => by
    have hheld := Option.mem_toList.mp hs
    exact ⟨Or.inl ⟨s, hheld, rfl⟩, Or.inl ⟨s, hheld, rfl⟩⟩
  | token :: rest, held, hs => by
    have hbehind : ∀ {next : Option Stretch}, (∀ n ∈ next, separates token.terminal = false ∧
        ((∃ h ∈ held, n.start = h.start) ∨ n.start = token.start.offset) ∧
        n.stop = token.stop.offset) → s ∈ statementsFrom opens next rest →
        ((∃ h ∈ held, s.start = h.start) ∨ ∃ t ∈ token :: rest, s.start = t.start.offset) ∧
          ((∃ h ∈ held, s.stop = h.stop) ∨
            ∃ t ∈ token :: rest, separates t.terminal = false ∧ s.stop = t.stop.offset) := by
      intro next hnext hs
      obtain ⟨hstart, hstop⟩ := of_mem_statementsFrom hs
      refine ⟨?_, ?_⟩
      · rcases hstart with ⟨n, hn, hstart⟩ | ⟨t, ht, hstart⟩
        · rcases (hnext n hn).2.1 with ⟨h, hheld, hfrom⟩ | hfrom
          · exact Or.inl ⟨h, hheld, hstart.trans hfrom⟩
          · exact Or.inr ⟨token, List.mem_cons_self, hstart.trans hfrom⟩
        · exact Or.inr ⟨t, List.mem_cons_of_mem token ht, hstart⟩
      · rcases hstop with ⟨n, hn, hstop⟩ | ⟨t, ht, hstop⟩
        · obtain ⟨hkind, -, hto⟩ := hnext n hn
          exact Or.inr ⟨token, List.mem_cons_self, hkind, hstop.trans hto⟩
        · exact Or.inr ⟨t, List.mem_cons_of_mem token ht, hstop⟩
    have hdone : s ∈ held.toList →
        ((∃ h ∈ held, s.start = h.start) ∨ ∃ t ∈ token :: rest, s.start = t.start.offset) ∧
          ((∃ h ∈ held, s.stop = h.stop) ∨
            ∃ t ∈ token :: rest, separates t.terminal = false ∧ s.stop = t.stop.offset) :=
      fun hs => ⟨Or.inl ⟨s, Option.mem_toList.mp hs, rfl⟩, Or.inl ⟨s, Option.mem_toList.mp hs, rfl⟩⟩
    rw [statementsFrom] at hs
    split at hs
    · rcases List.mem_append.mp hs with hs | hs
      · exact hdone hs
      · exact hbehind (fun n hn => absurd hn (by simp)) hs
    · rename_i hkind
      split at hs
      · rcases List.mem_append.mp hs with hs | hs
        · exact hdone hs
        · refine hbehind (fun n hn => ?_) hs
          rw [Option.mem_some_iff] at hn
          rw [← hn]
          exact ⟨Bool.eq_false_iff.mpr hkind, Or.inr rfl, rfl⟩
      · refine hbehind (fun n hn => ?_) hs
        rw [Option.mem_some_iff] at hn
        rw [← hn]
        refine ⟨Bool.eq_false_iff.mpr hkind, ?_, ?_⟩
        · cases held with
          | none => exact Or.inr rfl
          | some h => exact Or.inl ⟨h, rfl, rfl⟩
        · cases held with
          | none => rfl
          | some h => rfl

/-- Statements are in order when the tokens are. -/
theorem inOrder_statementsFrom {offset : Nat} {t : Text} : ∀ {tokens : List Token}
    {held : Option Stretch}, InOrder offset t (held.toList ++ tokens.map Token.stretch) →
    InOrder offset t (statementsFrom opens held tokens)
  | [], held, h => by
    rw [List.map_nil, List.append_nil] at h
    exact h
  | token :: rest, held, h => by
    rw [List.map_cons] at h
    obtain ⟨hheld, htokens, hcross⟩ := List.pairwise_append.mp h.ordered
    obtain ⟨hfirst, hrest⟩ := List.pairwise_cons.mp htokens
    have hwithin := h.within token.stretch (List.mem_append_right _ List.mem_cons_self)
    have hlater : ∀ p ∈ rest.map Token.stretch, offset ≤ p.start ∧ p.start ≤ p.stop ∧
        p.stop ≤ offset + t.length :=
      fun p hp => h.within p (List.mem_append_right _ (List.mem_cons_of_mem _ hp))
    -- what is held comes before all statements that are found from here on
    have hclosed : ∀ {next : Option Stretch}, (∀ n ∈ next, n = token.stretch) →
        InOrder offset t (held.toList ++ statementsFrom opens next rest) := by
      intro next hnext
      have hbelow : InOrder offset t (next.toList ++ rest.map Token.stretch) := by
        refine ⟨List.pairwise_append.mpr ⟨?_, hrest, fun n hn p hp => ?_⟩, fun p hp => ?_⟩
        · cases next with
          | none => exact List.Pairwise.nil
          | some n => exact List.pairwise_singleton _ n
        · rw [hnext n (Option.mem_toList.mp hn)]
          exact hfirst p hp
        · rcases List.mem_append.mp hp with hp | hp
          · rw [hnext p (Option.mem_toList.mp hp)]
            exact hwithin
          · exact hlater p hp
      have hfound : InOrder offset t (statementsFrom opens next rest) :=
        inOrder_statementsFrom hbelow
      refine ⟨List.pairwise_append.mpr ⟨hheld, hfound.ordered, fun n hn p hp => ?_⟩, fun p hp => ?_⟩
      · rcases (of_mem_statementsFrom hp).1 with ⟨m, hm, hstart⟩ | ⟨u, hu, hstart⟩
        · rw [hstart, hnext m hm]
          exact hcross n hn _ List.mem_cons_self
        · rw [hstart]
          exact hcross n hn u.stretch (List.mem_cons_of_mem _ (List.mem_map_of_mem hu))
      · rcases List.mem_append.mp hp with hp | hp
        · exact h.within p (List.mem_append_left _ hp)
        · exact hfound.within p hp
    rw [statementsFrom]
    split
    · exact hclosed fun n hn => absurd hn (by simp)
    · split
      · exact hclosed fun n hn => (Option.mem_some_iff.mp hn).symm
      · refine inOrder_statementsFrom ⟨List.pairwise_cons.mpr ⟨fun p hp => ?_, hrest⟩, fun p hp => ?_⟩
        · have hstop : (extend held token).stop = token.stop.offset := by
            cases held with
            | none => rfl
            | some n => rfl
          rw [hstop]
          exact hfirst p hp
        · rcases List.mem_cons.mp hp with rfl | hp
          · cases held with
            | none => exact hwithin
            | some n =>
              have hn := h.within n List.mem_cons_self
              have hgap := hcross n List.mem_cons_self _ List.mem_cons_self
              dsimp only [extend, Token.stretch] at hgap hwithin ⊢
              omega
          · exact hlater p hp

/-- A place where a statement starts cuts the statements in two. -/
theorem statementsFrom_append_cons {below : List Token} (hopens : opens.contains first.start = true)
    (hfirst : separates first.terminal = false) :
    ∀ {above : List Token} {held : Option Stretch},
      statementsFrom opens held (above ++ first :: below) =
        statementsFrom opens held above ++ statementsFrom opens none (first :: below)
  | [], held => by
    have hno : ¬ separates first.terminal = true := by
      rw [hfirst]
      exact Bool.false_ne_true
    rw [List.nil_append, statementsFrom, statementsFrom, statementsFrom, if_neg hno, if_neg hno,
      if_pos hopens, if_pos hopens]
    rfl
  | token :: above, held => by
    rw [List.cons_append, statementsFrom, statementsFrom]
    split
    · rw [statementsFrom_append_cons hopens hfirst, List.append_assoc]
    · split
      · rw [statementsFrom_append_cons hopens hfirst, List.append_assoc]
      · exact statementsFrom_append_cons hopens hfirst

/-! ## Where statements start -/

/-- A terminal that stands between statements stands outside of brackets, and calls for a statement or
for another one of its kind. -/
theorem Spot.step_separates {depth : Nat} {cue : Cue} {next : Spot} {a : Terminal}
    (ha : separates a = true) (h : Spot.step ⟨false, depth, cue⟩ a = some next) :
    next.enclosed = false ∧ next.depth = 0 ∧ (next.cue = .line ∨ next.cue = .block) := by
  obtain ⟨hadmits, hbrackets, henclosed, hcue⟩ := of_step h
  have hdepth : depth = 0 := by
    by_contra hpos
    rw [admits, inside, decide_eq_true (Nat.pos_of_ne_zero hpos), Bool.or_true, if_pos rfl, ha,
      Bool.not_true, Bool.and_false] at hadmits
    exact Bool.false_ne_true hadmits
  have hplain : bracketsAfter depth a = some depth ∧ (Cue.after a = .line ∨ Cue.after a = .block) := by
    unfold separates at ha
    split at ha
    all_goals
      first
      | exact absurd ha Bool.false_ne_true
      | exact ⟨rfl, by decide⟩
  rw [hplain.1, hdepth] at hbrackets
  have hafter : next.depth = 0 := (Option.some.inj hbrackets).symm
  rw [hafter] at hcue
  exact ⟨henclosed, hafter, by rw [hcue]; exact hplain.2⟩

/-- Where a statement is called for, what does not stand between statements starts one. -/
theorem Cue.opensStatement_of_answers {cue : Cue} {a : Terminal} (hcue : cue = .line ∨ cue = .block)
    (ha : separates a = false) (h : cue.answers a = true) : opensStatement a = true := by
  rcases hcue with rfl | rfl
  · simp only [answers, Bool.or_eq_true, beq_iff_eq] at h
    rcases h with ((h | rfl) | rfl) | rfl
    · exact h
    all_goals exact absurd ha.symm Bool.false_ne_true
  · simp only [answers, Bool.or_eq_true, beq_iff_eq] at h
    rcases h with h | rfl
    · exact h
    · exact absurd ha.symm Bool.false_ne_true

/-- **Statements start well** when the tokens do that may start one.  The induction follows the tokens
along with the automaton: where no statement is held, one is called for. -/
theorem of_start_statementsFrom {Q : Nat → Prop} {last : Spot} : ∀ {tokens : List Token}
    {held : Option Stretch} {depth : Nat} {cue : Cue},
    (∀ token ∈ tokens, opensStatement token.terminal = true → Q token.start.offset) →
    (∀ token ∈ tokens, opens.contains token.start = true → Q token.start.offset) →
    (∀ h ∈ held, Q h.start) → (held = none → depth = 0 ∧ (cue = .line ∨ cue = .block)) →
    Spot.scan ⟨false, depth, cue⟩ (tokens.map (·.terminal)) = some last →
    ∀ s ∈ statementsFrom opens held tokens, Q s.start
  | [], held, _, _, _, _, hheld, _, _ => fun s hs => hheld s (Option.mem_toList.mp hs)
  | token :: rest, held, depth, cue, htokens, hplaces, hheld, hcalled, hscan => by
    intro s hs
    rw [List.map_cons, Spot.scan_cons] at hscan
    obtain ⟨⟨enclosed, after, called⟩, hstep, hrest⟩ := Option.bind_eq_some_iff.mp hscan
    obtain rfl : enclosed = false := (Spot.of_step hstep).2.2.1
    have hlater : ∀ {next : Option Stretch}, (∀ n ∈ next, Q n.start) →
        (next = none → after = 0 ∧ (called = .line ∨ called = .block)) →
        s ∈ statementsFrom opens next rest → Q s.start := fun hnext hnone hs =>
      of_start_statementsFrom (fun t ht => htokens t (List.mem_cons_of_mem token ht))
        (fun t ht => hplaces t (List.mem_cons_of_mem token ht)) hnext hnone hrest s hs
    rw [statementsFrom] at hs
    split at hs
    · rename_i hkind
      rcases List.mem_append.mp hs with hs | hs
      · exact hheld s (Option.mem_toList.mp hs)
      · exact hlater (fun n hn => absurd hn (by simp)) (fun _ => (Spot.step_separates hkind hstep).2) hs
    · rename_i hkind
      split at hs
      · rename_i hopens
        rcases List.mem_append.mp hs with hs | hs
        · exact hheld s (Option.mem_toList.mp hs)
        · refine hlater (fun n hn => ?_) (fun hnone => absurd hnone (by simp)) hs
          rw [← Option.mem_some_iff.mp hn]
          exact hplaces token List.mem_cons_self hopens
      · refine hlater (fun n hn => ?_) (fun hnone => absurd hnone (by simp)) hs
        rw [← Option.mem_some_iff.mp hn]
        cases held with
        | some h => exact hheld h rfl
        | none =>
          obtain ⟨rfl, hcue⟩ := hcalled rfl
          exact htokens token List.mem_cons_self
            (Cue.opensStatement_of_answers hcue (Bool.eq_false_iff.mpr hkind)
              (Spot.answers_of_step hstep))

/-! ## The statements of a text -/

variable {s : Stretch} {d : Declaration} {opening : Opening} {outline : Outline}

/-- **Statements lie in the text**, one behind the other. -/
theorem inOrder_statements (text : Text) : InOrder 0 text (statements text) := by
  cases htokens : tokens? text with
  | none =>
    rw [statements, htokens]
    exact ⟨List.Pairwise.nil, fun s hs => absurd hs List.not_mem_nil⟩
  | some tokens =>
    rw [statements_eq htokens]
    have htokens' : InOrder 0 text ((none : Option Stretch).toList ++ tokens.map Token.stretch) :=
      (laid_of_tokens? htokens).inOrder
    exact inOrder_statementsFrom htokens'

/-- **A statement** starts with a character that is neither a blank nor a semicolon. -/
theorem solid_of_mem_statements (hs : s ∈ statements text) :
    ∃ c, (text)[s.start]? = some c ∧ isBlank c = false ∧ c ≠ ';' := by
  cases htokens : tokens? text with
  | none =>
    rw [statements, htokens] at hs
    exact absurd hs List.not_mem_nil
  | some tokens =>
    rw [statements_eq htokens] at hs
    have hlaid := laid_of_tokens? htokens
    refine of_start_statementsFrom (Q := fun offset =>
      ∃ c, (text)[offset]? = some c ∧ isBlank c = false ∧ c ≠ ';')
      (fun token ht hopens => (hlaid.solid ht hopens).getElem?) (fun token ht hopens => ?_)
      (fun h hh => absurd hh (by simp)) (fun _ => ⟨rfl, Or.inl rfl⟩) (scan_of_tokens? htokens) s hs
    obtain ⟨d, hd, hstart⟩ := List.mem_filterMap.mp (List.contains_iff_mem.mp hopens)
    obtain ⟨opening, hopening, hstart⟩ := Option.map_eq_some_iff.mp hstart
    have houtline : outline? text = some (Outline.declarationsFrom text 0 none tokens) := by
      rw [outline?, htokens]
      rfl
    rw [← hstart]
    exact (solid_opening houtline hd hopening).getElem?

/-- What may start a statement does not stand between statements. -/
theorem separates_of_opensStatement {a : Terminal} (h : opensStatement a = true) :
    separates a = false := by
  cases a with
  | mark sign =>
    cases sign
    case semicolon => exact absurd h (by decide)
    all_goals rfl
  | newline => exact absurd h (by decide)
  | indent => exact absurd h (by decide)
  | dedent => exact absurd h (by decide)
  | endOfText => exact absurd h (by decide)
  | _ => rfl

/-- **Around the start of a body**: in front of it stands the colon of the header, and every statement
stops with this colon or before it, or starts with the body or behind it. -/
theorem exists_colon_of_mem_outline (houtline : outline? text = some outline) (hd : d ∈ outline)
    (hopening : d.opening = some opening) :
    ∃ colon, (text)[colon]? = some ':' ∧ colon < opening.start.offset ∧
      ∀ s ∈ statements text, s.stop ≤ colon + 1 ∨ opening.start.offset ≤ s.start := by
  obtain ⟨tokens, htokens, rfl⟩ := exists_tokens_of_outline? houtline
  have hopens : (bodyStarts (Outline.declarationsFrom text 0 none tokens)).contains opening.start =
      true := by
    refine List.contains_iff_mem.mpr (List.mem_filterMap.mpr ⟨d, hd, ?_⟩)
    rw [hopening]
    rfl
  obtain ⟨above, colon, indents, first, below, htoks, hcolon, hindents, hfirst, rfl⟩ :=
    (of_mem_outline htokens hd).2 opening hopening
  have hlaid := laid_of_tokens? htokens
  have hmem : colon ∈ tokens := by
    rw [htoks]
    exact List.mem_append_right above List.mem_cons_self
  obtain ⟨hstop, hspelled⟩ := hlaid.colon hmem hcolon
  have hordered := hlaid.inOrder.ordered
  rw [htoks, List.pairwise_map] at hordered
  obtain ⟨-, hbehind, habove⟩ := List.pairwise_append.mp hordered
  obtain ⟨hafter, hbody⟩ := List.pairwise_cons.mp hbehind
  obtain ⟨-, hstatement, -⟩ := List.pairwise_append.mp hbody
  obtain ⟨hlater, -⟩ := List.pairwise_cons.mp hstatement
  have hforward : ∀ token ∈ tokens, token.start.offset ≤ token.stop.offset :=
    fun token ht => (hlaid.inOrder.within token.stretch (List.mem_map_of_mem ht)).2.1
  refine ⟨colon.start.offset, hspelled, ?_, fun s hs => ?_⟩
  · have hnext : colon.stop.offset ≤ first.start.offset :=
      hafter first (List.mem_append_right indents List.mem_cons_self)
    dsimp only
    omega
  · have hcut : tokens = (above ++ colon :: indents) ++ first :: below := by
      rw [htoks, List.append_assoc, List.cons_append]
    rw [statements_eq htokens] at hs
    generalize bodyStarts (Outline.declarationsFrom text 0 none tokens) = opens at hs hopens
    rw [hcut, statementsFrom_append_cons hopens (separates_of_opensStatement hfirst)] at hs
    rcases List.mem_append.mp hs with hs | hs
    · refine Or.inl ?_
      rw [← hstop]
      rcases (of_mem_statementsFrom hs).2 with ⟨h, hh, -⟩ | ⟨token, ht, hkind, hto⟩
      · exact absurd hh (by simp)
      · rw [hto]
        rcases List.mem_append.mp ht with ht | ht
        · have hgap := habove token ht colon List.mem_cons_self
          have hcolonForward := hforward colon hmem
          dsimp only [Token.stretch] at hgap
          omega
        · rcases List.mem_cons.mp ht with rfl | ht
          · exact Nat.le_refl _
          · rw [hindents token ht] at hkind
            exact absurd hkind (by decide)
    · refine Or.inr ?_
      rcases (of_mem_statementsFrom hs).1 with ⟨h, hh, -⟩ | ⟨token, ht, hfrom⟩
      · exact absurd hh (by simp)
      · rw [hfrom]
        rcases List.mem_cons.mp ht with rfl | ht
        · exact Nat.le_refl _
        · have hgap := hlater token ht
          have hfirstForward := hforward first (by rw [htoks]; simp)
          dsimp only [Token.stretch] at hgap ⊢
          omega

end DocSplice.Grammar
