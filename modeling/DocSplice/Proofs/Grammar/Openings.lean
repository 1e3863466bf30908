import DocSplice.Grammar.Outline
import DocSplice.Proofs.Grammar.Accepted
import DocSplice.Proofs.Places

/-!
# Where declarations and their bodies start

An outline takes the places of declarations and of first statements from tokens that it finds by
counting brackets.  In an accepted text these tokens are what they should be: the word that starts a
declaration, and behind the colon of its header a token that starts a statement (`of_mem_outline`).
Either way something stands at the place, and it is no blank (`solid_start`, `solid_opening`).
-/

namespace DocSplice.Grammar

open Text Place

variable {text : Text} {token first : Token} {tokens rest : List Token}

/-- A token that may start a statement stands at a solid place. -/
theorem Laid.solid {before after : Text} (h : Laid before after tokens) (hmem : token ∈ tokens)
    (hopens : opensStatement token.terminal = true) : Solid (before ++ after) token.start := by
  obtain ⟨above, word, below, htext, hstart, -, spells⟩ := h.exists_spelling hmem
  obtain ⟨c, rest, hword, hsolid⟩ := exists_cons_of_startsSolid (spells.solid hopens)
  exact ⟨above, c, rest, by rw [htext, hword], hstart, hsolid⟩

/-! ## Headers and bodies -/

/-- Outside of brackets the automaton moves on. -/
theorem Spot.of_step {s next : Spot} {a : Terminal} (h : s.step a = some next) :
    s.admits a = true ∧ bracketsAfter s.depth a = some next.depth ∧ next.enclosed = s.enclosed ∧
      next.cue = if s.enclosed || 0 < next.depth then .free else .after a := by
  unfold step at h
  split at h
  · rename_i hadmits
    obtain ⟨depth, hdepth, rfl⟩ := Option.map_eq_some_iff.mp h
    exact ⟨hadmits, hdepth, rfl, rfl⟩
  · exact absurd h (by simp)

/-- Outside of brackets comes what is called for. -/
theorem Spot.answers_of_step {cue : Cue} {next : Spot} {a : Terminal}
    (h : Spot.step ⟨false, 0, cue⟩ a = some next) : cue.answers a = true :=
  (Bool.and_eq_true_iff.mp (of_step h).1).2

/-- A declaration starts outside of brackets, and calls for a name. -/
theorem Spot.step_startsDeclaration {depth : Nat} {cue : Cue} {next : Spot} {a : Terminal}
    (ha : startsDeclaration a = true) (h : Spot.step ⟨false, depth, cue⟩ a = some next) :
    next = ⟨false, 0, .name⟩ := by
  obtain ⟨hadmits, hbrackets, henclosed, hcue⟩ := of_step h
  obtain ⟨enclosed, after, called⟩ := next
  have hdepth : depth = 0 := by
    by_contra hpos
    rw [admits, inside, decide_eq_true (Nat.pos_of_ne_zero hpos), Bool.or_true, if_pos rfl, ha]
      at hadmits
    exact Bool.false_ne_true hadmits
  have hafter : after = 0 := by
    rw [hdepth] at hbrackets
    rcases Bool.or_eq_true_iff.mp ha with heq | heq
    · rw [beq_iff_eq.mp heq] at hbrackets
      exact (Option.some.inj hbrackets).symm
    · rw [beq_iff_eq.mp heq] at hbrackets
      exact (Option.some.inj hbrackets).symm
  dsimp only at henclosed hcue
  rw [hcue, henclosed, hafter, Cue.after, if_pos ha]
  rfl

namespace Outline

theorem afterHeader_opens (depth lambdas : Nat) (h : opensBracket token.terminal = true) :
    afterHeader depth lambdas (token :: tokens) = afterHeader (depth + 1) lambdas tokens := by
  rw [afterHeader]
  unfold opensBracket at h
  split at h
  all_goals
    first
    | exact absurd h Bool.false_ne_true
    | rename_i hterminal
      rw [hterminal]

theorem afterHeader_closes (depth lambdas : Nat) (h : closesBracket token.terminal = true) :
    afterHeader depth lambdas (token :: tokens) = afterHeader (depth - 1) lambdas tokens := by
  rw [afterHeader]
  unfold closesBracket at h
  split at h
  all_goals
    first
    | exact absurd h Bool.false_ne_true
    | rename_i hterminal
      rw [hterminal]

/-- A token that is no bracket may be the colon that ends the header. -/
theorem afterHeader_plain (depth lambdas : Nat) (hopens : opensBracket token.terminal = false)
    (hcloses : closesBracket token.terminal = false) :
    (∃ inner, afterHeader depth lambdas (token :: tokens) = afterHeader depth inner tokens) ∨
      (token.terminal = .mark .colon ∧ depth = 0 ∧
        afterHeader depth lambdas (token :: tokens) = tokens) := by
  rw [afterHeader]
  split
  case h_7 => exact Or.inl ⟨_, rfl⟩
  case h_8 hterminal =>
    split
    · exact Or.inl ⟨lambdas, rfl⟩
    · split
      · exact Or.inl ⟨lambdas - 1, rfl⟩
      · exact Or.inr ⟨hterminal, by omega, rfl⟩
  case h_9 => exact Or.inl ⟨lambdas, rfl⟩
  all_goals
    rename_i hterminal
    rw [hterminal] at hopens hcloses
    first
    | exact absurd hopens (by decide)
    | exact absurd hcloses (by decide)

/-- A token of a header moves the count of brackets as the automaton does, or it is the colon that
ends the header. -/
theorem afterHeader_cons (tokens : List Token) {depth after : Nat} (lambdas : Nat)
    (h : bracketsAfter depth token.terminal = some after) :
    (∃ inner, afterHeader depth lambdas (token :: tokens) = afterHeader after inner tokens) ∨
      (token.terminal = .mark .colon ∧ depth = 0 ∧
        afterHeader depth lambdas (token :: tokens) = tokens) := by
  unfold bracketsAfter at h
  split at h
  · rename_i hopens
    rw [← Option.some.inj h]
    exact Or.inl ⟨lambdas, afterHeader_opens depth lambdas hopens⟩
  · rename_i hopens
    split at h
    · rename_i hcloses
      split at h
      · exact absurd h (by simp)
      · rw [← Option.some.inj h]
        exact Or.inl ⟨lambdas, afterHeader_closes depth lambdas hcloses⟩
    · rename_i hcloses
      rw [← Option.some.inj h]
      exact afterHeader_plain depth lambdas (Bool.eq_false_iff.mpr hopens)
        (Bool.eq_false_iff.mpr hcloses)

/-- **Behind a header** stands what its colon calls for.  The brackets that the outline counts are
those that the automaton counts. -/
theorem scan_afterHeader : ∀ {tokens : List Token} {depth lambdas : Nat} {cue : Cue} {last : Spot},
    Spot.scan ⟨false, depth, cue⟩ (tokens.map (·.terminal)) = some last →
    afterHeader depth lambdas tokens ≠ [] →
    Spot.scan ⟨false, 0, .body⟩ ((afterHeader depth lambdas tokens).map (·.terminal)) = some last ∧
      ∃ above colon, tokens = above ++ colon :: afterHeader depth lambdas tokens ∧
        colon.terminal = .mark .colon
  | [], _, _, _, _, _, hne => absurd rfl hne
  | token :: tokens, depth, lambdas, cue, last, hscan, hne => by
    rw [List.map_cons, Spot.scan_cons] at hscan
    obtain ⟨⟨enclosed, after, next⟩, hstep, hrest⟩ := Option.bind_eq_some_iff.mp hscan
    obtain ⟨-, hbrackets, henclosed, hcue⟩ := Spot.of_step hstep
    dsimp only at hbrackets henclosed hcue
    subst henclosed
    rcases afterHeader_cons tokens lambdas hbrackets with
      ⟨inner, hmore⟩ | ⟨hcolon, rfl, hdone⟩
    · rw [hmore] at hne ⊢
      obtain ⟨hbehind, above, colon, htokens, hterminal⟩ := scan_afterHeader hrest hne
      refine ⟨hbehind, token :: above, colon, ?_, hterminal⟩
      rw [List.cons_append, ← htokens]
    · rw [hcolon] at hbrackets hcue
      obtain rfl : 0 = after := Option.some.inj hbrackets
      rw [hdone]
      rw [hcue] at hrest
      exact ⟨hrest, [], token, rfl, hcolon⟩

/-! ## Bodies and declarations -/

/-- Behind the colon of a header, and perhaps an indent, stands the token that the first statement of
a body starts with. -/
def HoldsBody (text : Text) (tokens : List Token) (opening : Opening) : Prop :=
  ∃ above colon indents first below, tokens = above ++ colon :: (indents ++ first :: below) ∧
    colon.terminal = .mark .colon ∧ (∀ token ∈ indents, token.terminal = .indent) ∧
    opensStatement first.terminal = true ∧
    opening = ⟨first.start, stringStatement? text (first :: below)⟩

theorem HoldsBody.of_suffix {tokens rest : List Token} {opening : Opening}
    (h : HoldsBody text rest opening) (hsuffix : rest <:+ tokens) :
    HoldsBody text tokens opening := by
  obtain ⟨above, colon, indents, first, below, rfl, hbody⟩ := h
  obtain ⟨front, rfl⟩ := hsuffix
  exact ⟨front ++ above, colon, indents, first, below, by rw [List.append_assoc], hbody⟩

/-- What the first statement of a body starts with. -/
theorem opening?_eq_some {tokens : List Token} {opening : Opening}
    (hopens : ∀ first rest, tokens = first :: rest → first.terminal ≠ .dedent →
      opensStatement first.terminal = true)
    (h : opening? text tokens = some opening) :
    ∃ first below, tokens = first :: below ∧ opensStatement first.terminal = true ∧
      opening = ⟨first.start, stringStatement? text (first :: below)⟩ := by
  cases tokens with
  | nil => exact absurd h (by simp [opening?])
  | cons first rest =>
    rw [opening?] at h
    split at h
    · exact absurd h (by simp)
    · rename_i hterminal
      exact ⟨first, rest, rfl, hopens first rest rfl hterminal, (Option.some.inj h).symm⟩

/-- A body that a colon calls for starts with a statement, perhaps behind an indent. -/
theorem body?_eq_some {tokens : List Token} {last : Spot} {opening : Opening} {stop : Place}
    (hscan : Spot.scan ⟨false, 0, .body⟩ (tokens.map (·.terminal)) = some last)
    (h : body? text tokens = some (some opening, stop)) :
    ∃ indents first below, tokens = indents ++ first :: below ∧
      (∀ token ∈ indents, token.terminal = .indent) ∧ opensStatement first.terminal = true ∧
      opening = ⟨first.start, stringStatement? text (first :: below)⟩ := by
  cases tokens with
  | nil => exact absurd h (by simp [body?])
  | cons first rest =>
    rw [List.map_cons, Spot.scan_cons] at hscan
    obtain ⟨⟨enclosed, depth, cue⟩, hstep, hrest⟩ := Option.bind_eq_some_iff.mp hscan
    obtain ⟨-, hdepth, henclosed, hcue⟩ := Spot.of_step hstep
    dsimp only at hdepth henclosed hcue
    subst henclosed
    rw [body?] at h
    split at h
    · exact absurd h (by simp)
    · rename_i hterminal
      obtain ⟨end_, -, hopening⟩ := Option.map_eq_some_iff.mp h
      obtain ⟨hopening, -⟩ := Prod.mk.inj hopening
      rw [hterminal] at hdepth hcue
      obtain rfl : 0 = depth := Option.some.inj hdepth
      obtain ⟨second, below, rfl, hstatement⟩ := opening?_eq_some (fun second tail htail hdedent => by
        rw [htail, List.map_cons, Spot.scan_cons, hcue] at hrest
        obtain ⟨next, hnext, -⟩ := Option.bind_eq_some_iff.mp hrest
        simpa [Cue.after, startsDeclaration, Cue.answers, hdedent]
          using Spot.answers_of_step hnext) hopening
      refine ⟨[first], second, below, rfl, fun token htoken => ?_, hstatement⟩
      rw [List.mem_singleton.mp htoken]
      exact hterminal
    · rename_i hnewline hindent
      obtain ⟨end_, -, hopening⟩ := Option.map_eq_some_iff.mp h
      obtain ⟨hopening, -⟩ := Prod.mk.inj hopening
      obtain ⟨second, below, hcons, hstatement⟩ := opening?_eq_some (fun head tail hcons _ => by
        obtain ⟨rfl, -⟩ := List.cons.inj hcons
        have hanswers := Spot.answers_of_step hstep
        rw [Cue.answers, Bool.or_eq_true, Bool.or_eq_true, beq_iff_eq, beq_iff_eq] at hanswers
        exact (hanswers.resolve_right hindent).resolve_right hnewline) hopening
      exact ⟨[], second, below, hcons, fun token htoken => absurd htoken List.not_mem_nil, hstatement⟩

/-- A declaration whose name comes next. -/
theorem holdsBody_of_declaration? {tokens : List Token} {kind : ItemKind} {start : Place}
    {last : Spot} {d : Declaration} {opening : Opening}
    (hscan : Spot.scan ⟨false, 0, .name⟩ (tokens.map (·.terminal)) = some last)
    (h : declaration? text kind start tokens = some d) (hopening : d.opening = some opening) :
    HoldsBody text tokens opening := by
  cases tokens with
  | nil => exact absurd h (by simp [declaration?])
  | cons name rest =>
    obtain ⟨⟨found, stop⟩, hbody, hd⟩ := Option.bind_eq_some_iff.mp h
    rw [← Option.some.inj hd] at hopening
    obtain rfl : found = some opening := hopening
    rw [List.map_cons, Spot.scan_cons] at hscan
    obtain ⟨⟨enclosed, depth, cue⟩, hstep, hrest⟩ := Option.bind_eq_some_iff.mp hscan
    obtain ⟨-, hdepth, henclosed, -⟩ := Spot.of_step hstep
    dsimp only at hdepth henclosed
    subst henclosed
    have hname : name.terminal = .name := beq_iff_eq.mp (Spot.answers_of_step hstep)
    rw [hname] at hdepth
    obtain rfl : 0 = depth := Option.some.inj hdepth
    have hne : afterHeader 0 0 rest ≠ [] := by
      intro hnil
      rw [hnil] at hbody
      exact absurd hbody (by simp [body?])
    obtain ⟨hbehind, above, colon, hrest, hcolon⟩ := scan_afterHeader hrest hne
    obtain ⟨indents, first, below, hafter, hstatement⟩ := body?_eq_some hbehind hbody
    refine ⟨name :: above, colon, indents, first, below, ?_, hcolon, hstatement⟩
    rw [List.cons_append, ← hafter, ← hrest]

theorem start_of_declaration? {tokens : List Token} {kind : ItemKind} {start : Place}
    {d : Declaration} (h : declaration? text kind start tokens = some d) : d.start = start := by
  cases tokens with
  | nil => exact absurd h (by simp [declaration?])
  | cons name rest =>
    obtain ⟨⟨found, stop⟩, -, hd⟩ := Option.bind_eq_some_iff.mp h
    rw [← Option.some.inj hd]

/-- The tokens that may start a statement stand at solid places. -/
def Stand (text : Text) (tokens : List Token) : Prop :=
  ∀ token ∈ tokens, opensStatement token.terminal = true → Solid text token.start

/-- **The declarations among the tokens** start at solid places and have bodies behind colons.  The
induction follows the tokens: the automaton tells when a declaration may start, and what it is
followed by. -/
theorem of_mem_declarationsFrom {d : Declaration} {last : Spot} :
    ∀ {tokens : List Token} {blocks depth : Nat} {cue : Cue} {asyncAt : Option Place},
      Stand text tokens → (∀ p, asyncAt = some p → Solid text p) →
      Spot.scan ⟨false, depth, cue⟩ (tokens.map (·.terminal)) = some last →
      d ∈ declarationsFrom text blocks asyncAt tokens →
      Solid text d.start ∧ ∀ opening, d.opening = some opening → HoldsBody text tokens opening
  | [], _, _, _, _, _, _, _, hmem => absurd hmem List.not_mem_nil
  | token :: rest, blocks, depth, cue, asyncAt, hstand, hasync, hscan, hmem => by
    have hsuffix : rest <:+ token :: rest := List.suffix_cons token rest
    have hlater : Stand text rest := fun next hnext => hstand next (hsuffix.subset hnext)
    rw [List.map_cons, Spot.scan_cons] at hscan
    obtain ⟨⟨enclosed, after, called⟩, hstep, hrest⟩ := Option.bind_eq_some_iff.mp hscan
    obtain rfl : enclosed = false := (Spot.of_step hstep).2.2.1
    have hbelow : ∀ {next : Option Place} {blocks : Nat}, (∀ p, next = some p → Solid text p) →
        d ∈ declarationsFrom text blocks next rest →
        Solid text d.start ∧
          ∀ opening, d.opening = some opening → HoldsBody text (token :: rest) opening := by
      intro next blocks hsolid hd
      obtain ⟨hstart, hbody⟩ := of_mem_declarationsFrom hlater hsolid hrest hd
      exact ⟨hstart, fun opening hopening => (hbody opening hopening).of_suffix hsuffix⟩
    have hnone : ∀ p, (none : Option Place) = some p → Solid text p :=
      fun p hp => absurd hp (by simp)
    have hdeclared : ∀ kind, startsDeclaration token.terminal = true →
        d ∈ (if blocks = 0 then
          (declaration? text kind (asyncAt.getD token.start) rest).toList else []) →
        Solid text d.start ∧
          ∀ opening, d.opening = some opening → HoldsBody text (token :: rest) opening := by
      intro kind hstarts hd
      split at hd
      · have hfound := Option.mem_toList.mp hd
        rw [Spot.step_startsDeclaration hstarts hstep] at hrest
        refine ⟨?_, fun opening hopening =>
          (holdsBody_of_declaration? hrest hfound hopening).of_suffix hsuffix⟩
        rw [start_of_declaration? hfound]
        cases asyncAt with
        | some p => exact hasync p rfl
        | none =>
          refine hstand token List.mem_cons_self ?_
          rcases Bool.or_eq_true_iff.mp hstarts with heq | heq
          · rw [beq_iff_eq.mp heq]
            rfl
          · rw [beq_iff_eq.mp heq]
            rfl
      · exact absurd hd List.not_mem_nil
    rw [declarationsFrom] at hmem
    split at hmem
    · exact hbelow hnone hmem
    · exact hbelow hnone hmem
    · rename_i hasyncTerminal
      refine hbelow (fun p hp => ?_) hmem
      rw [← Option.some.inj hp]
      exact hstand token List.mem_cons_self (by rw [hasyncTerminal]; rfl)
    · rename_i hterminal
      rcases List.mem_append.mp hmem with hd | hmem
      · exact hdeclared _ (by rw [hterminal]; rfl) hd
      · exact hbelow hnone hmem
    · rename_i hterminal
      rcases List.mem_append.mp hmem with hd | hmem
      · exact hdeclared _ (by rw [hterminal]; rfl) hd
      · exact hbelow hnone hmem
    · exact hbelow hnone hmem

end Outline

/-! ## Outlines -/

variable {outline : Outline} {d : Declaration} {opening : Opening} {p : Place}

/-- The outline of an accepted text is read off its tokens. -/
theorem exists_tokens_of_outline? (houtline : outline? text = some outline) :
    ∃ tokens, tokens? text = some tokens ∧ outline = Outline.declarationsFrom text 0 none tokens := by
  obtain ⟨tokens, htokens, rfl⟩ := Option.map_eq_some_iff.mp houtline
  exact ⟨tokens, htokens, rfl⟩

theorem of_mem_outline (htokens : tokens? text = some tokens)
    (hd : d ∈ Outline.declarationsFrom text 0 none tokens) :
    Solid text d.start ∧
      ∀ opening, d.opening = some opening → Outline.HoldsBody text tokens opening := by
  have hstand : Outline.Stand text tokens :=
    fun token hmem hopens => (laid_of_tokens? htokens).solid hmem hopens
  exact Outline.of_mem_declarationsFrom hstand (fun p hp => absurd hp (by simp))
    (scan_of_tokens? htokens) hd

/-- **A declaration** of an accepted text stands at a solid place. -/
theorem solid_start (houtline : outline? text = some outline) (hd : d ∈ outline) :
    Solid text d.start := by
  obtain ⟨tokens, htokens, rfl⟩ := exists_tokens_of_outline? houtline
  exact (of_mem_outline htokens hd).1

/-- **The first statement** of a body in an accepted text stands at a solid place. -/
theorem solid_opening (houtline : outline? text = some outline) (hd : d ∈ outline)
    (hopening : d.opening = some opening) : Solid text opening.start := by
  obtain ⟨tokens, htokens, rfl⟩ := exists_tokens_of_outline? houtline
  obtain ⟨above, colon, indents, first, below, rfl, -, -, hopens, rfl⟩ :=
    (of_mem_outline htokens hd).2 opening hopening
  exact (laid_of_tokens? htokens).solid (by simp) hopens

end DocSplice.Grammar
