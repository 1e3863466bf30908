import DocSplice.Proofs.Grammar.Starts

/-!
# Accepted texts

What is known of a text that the grammar accepts.

* `derives_of_tokens?`: its tokens are a complete text of the grammar.
* `laid_of_tokens?`: they lie in the text one behind the other, with nothing that counts between
  them, and a token that may start a statement starts with a character that is no blank and no
  semicolon.
* `scan_of_tokens?`: so the automaton over brackets and colons runs through them.
-/

namespace DocSplice.Grammar

open Chart (Derives Reads Progress)

/-- The tokens lie in the rest of a text, one behind the other, when so much was passed before.  What
stands between them says nothing. -/
inductive Laid : Text → Text → List Token → Prop
  | nil {before rest : Text} : Laid before rest []
  | cons {before gap inner after : Text} {token : Token} {tokens : List Token}
    (start_eq : token.start = Place.origin.after (before ++ gap))
    (stop_eq : token.stop = Place.origin.after (before ++ (gap ++ inner)))
    (spells : Spells token.terminal inner after)
    (later : Laid (before ++ (gap ++ inner)) after tokens) :
    Laid before (gap ++ (inner ++ after)) (token :: tokens)

/-- What was passed may as well be counted as standing before the first token. -/
theorem Laid.passed {before passed after : Text} {tokens : List Token}
    (h : Laid (before ++ passed) after tokens) : Laid before (passed ++ after) tokens := by
  cases h with
  | nil => exact .nil
  | cons start_eq stop_eq spells later =>
    rw [List.append_assoc] at start_eq stop_eq later
    rw [← List.append_assoc]
    rw [← List.append_assoc passed] at stop_eq later
    exact .cons start_eq stop_eq spells later

/-- A token is spelled out where it stands. -/
theorem Laid.exists_spelling {before after : Text} {tokens : List Token} {token : Token}
    (h : Laid before after tokens) (hmem : token ∈ tokens) :
    ∃ above word below, before ++ after = above ++ (word ++ below) ∧
      token.start = Place.origin.after above ∧ token.stop = Place.origin.after (above ++ word) ∧
      Spells token.terminal word below := by
  induction h with
  | nil => exact absurd hmem List.not_mem_nil
  | @cons before gap inner after head tail start_eq stop_eq spells later ih =>
    rcases List.mem_cons.mp hmem with rfl | hmem
    · rw [← List.append_assoc] at stop_eq
      exact ⟨before ++ gap, inner, after, (List.append_assoc _ _ _).symm, start_eq, stop_eq, spells⟩
    · obtain ⟨above, word, below, htext, hplaces⟩ := ih hmem
      rw [List.append_assoc, List.append_assoc] at htext
      exact ⟨above, word, below, htext, hplaces⟩

/-! ## The start and the end of a complete text -/

theorem startsAlone : grammar.StartsAlone := by
  have hall : ∀ x, (productions x).all (fun rule => !rule.contains (c .file)) = true := by
    intro x
    cases x <;> decide +kernel
  intro x rule hrule hmem
  have hno := List.all_eq_true.mp (hall x) rule hrule
  have hyes : rule.contains (c .file) = true := List.contains_iff_mem.mpr hmem
  rw [hyes] at hno
  exact Bool.false_ne_true hno

/-- The end of the text is needed by rules for a complete text only, and comes last in them. -/
theorem endOfText_last {x : Category} {done rest : List Sym}
    (h : done ++ t .endOfText :: rest ∈ productions x) : x = .file ∧ rest = [] := by
  have hall : ∀ x, (productions x).all (fun rule => !rule.contains (t .endOfText) ||
      (x == .file && !rule.dropLast.contains (t .endOfText))) = true := by
    intro x
    cases x <;> decide +kernel
  have hrule := List.all_eq_true.mp (hall x) _ h
  have hmem : t .endOfText ∈ done ++ t .endOfText :: rest :=
    List.mem_append_right done List.mem_cons_self
  rw [List.contains_iff_mem.mpr hmem, Bool.not_true, Bool.false_or, Bool.and_eq_true, beq_iff_eq,
    Bool.not_eq_true'] at hrule
  refine ⟨hrule.1, ?_⟩
  by_contra hrest
  have hearly : t .endOfText ∈ (done ++ t .endOfText :: rest).dropLast := by
    rw [List.dropLast_append_of_ne_nil (List.cons_ne_nil _ _), List.dropLast_cons_of_ne_nil hrest]
    exact List.mem_append_right done List.mem_cons_self
  rw [List.contains_iff_mem.mpr hearly] at hrule
  exact absurd hrule.2 (by decide)

/-- A chart that reads the end of the text has read a complete text. -/
theorem derives_of_read_end {word : List Terminal} {chart next : Chart Terminal Category}
    (h : Reads grammar word chart) (hread : chart.read? grammar .endOfText = some next) :
    Derives grammar [c .file] (word ++ [.endOfText]) := by
  obtain ⟨p, hp⟩ := h.exists_of_read hread
  obtain ⟨done, hmem, hdone⟩ := hp.made
  obtain ⟨hmade, hrest⟩ := endOfText_last hmem
  have horigin : p.origin = 0 := hp.origin_eq hmade
  dsimp only at hmem hdone
  rw [horigin, List.drop_zero, List.take_length] at hdone
  rw [hmade, hrest] at hmem
  exact .singleton_category hmem (hdone.append (.singleton_terminal _))

/-! ## Readings -/

namespace Reading

variable {r next : Reading} {token : Token} {word : List Terminal} {before : Text}

/-- What taking a terminal gives. -/
theorem of_take? {found : Layout.Found} (h : r.take? found = some (token, next)) :
    r.chart.read? grammar found.terminal = some next.chart ∧ token.terminal = found.terminal ∧
      token.start = (r.skip found.skipped).place ∧
      token.stop = ((r.skip found.skipped).skip found.length).place ∧
      next.place = ((r.skip found.skipped).skip found.length).place ∧
      next.rest = ((r.skip found.skipped).skip found.length).rest := by
  unfold take? at h
  obtain ⟨chart, hchart, hrest⟩ := Option.bind_eq_some_iff.mp h
  obtain ⟨rfl, rfl⟩ := Prod.mk.inj (Option.some.inj hrest)
  exact ⟨hchart, rfl, rfl, rfl, rfl, rfl⟩

theorem place_skip (count : Nat) (h : r.place = Place.origin.after before) :
    (r.skip count).place = Place.origin.after (before ++ r.rest.take count) := by
  rw [skip, h, Place.after_append]

/-- **A reading that comes to the end** has read, with what it read before, a complete text, and its
tokens lie in what it had not read yet.  The induction is on the steps; each of them carries the chart
and the place on. -/
theorem of_run : ∀ {fuel : Nat} {r : Reading} {word : List Terminal} {before : Text}
    {tokens : List Token}, Reads grammar word r.chart → r.place = Place.origin.after before →
    run fuel r = some tokens →
    Derives grammar [c .file] (word ++ tokens.map (·.terminal)) ∧ Laid before r.rest tokens
  | 0, _, _, _, _, _, _, h => absurd h (by simp [run])
  | fuel + 1, r, word, before, tokens, hreads, hplace, h => by
    unfold run at h
    rcases r.step_cases with ⟨found, hstep, hspells⟩ | ⟨count, hstep⟩ |
      ⟨last, next, count, hstep, htake⟩ | hstep
    · rcases r.stepWith_cases found with ⟨token, next, hwith, htake⟩ | hstuck
      · rw [hstep, hwith] at h
        obtain ⟨later, hlater, rfl⟩ := Option.map_eq_some_iff.mp h
        obtain ⟨hchart, hterminal, hstart, hstop, hnext, hrest⟩ := of_take? htake
        have hskipped := place_skip found.skipped hplace
        have hpassed := place_skip found.length hskipped
        rw [List.append_assoc] at hpassed
        obtain ⟨hderives, hlaid⟩ := of_run (hreads.read startsAlone hchart) (hnext.trans hpassed)
          hlater
        refine ⟨?_, ?_⟩
        · rw [List.map_cons, hterminal]
          rwa [List.append_assoc, List.singleton_append] at hderives
        · have hcut : r.rest = r.rest.take found.skipped ++
              ((r.skip found.skipped).rest.take found.length ++ next.rest) := by
            rw [hrest, skip, skip, List.take_append_drop, List.take_append_drop]
          rw [hcut]
          refine .cons (hstart.trans hskipped) (hstop.trans hpassed) ?_ hlaid
          rw [hterminal, hrest]
          exact hspells
      · rw [hstep, hstuck] at h
        exact absurd h (by simp)
    · rw [hstep] at h
      have hskipped := place_skip count hplace
      obtain ⟨hderives, hlaid⟩ := of_run (r := r.skip count) hreads hskipped h
      have hcut : r.rest = r.rest.take count ++ (r.skip count).rest := by
        rw [skip, List.take_append_drop]
      rw [hcut]
      exact ⟨hderives, hlaid.passed⟩
    · rw [hstep] at h
      rw [← Option.some.inj h]
      obtain ⟨hchart, hterminal, hstart, hstop, -, hrest⟩ := of_take? htake
      refine ⟨?_, ?_⟩
      · rw [List.map_singleton, hterminal]
        exact derives_of_read_end hreads hchart
      · have hskipped := place_skip count hplace
        have hcut : r.rest = r.rest.take count ++ ([] ++ r.rest.drop count) := by
          rw [List.nil_append, List.take_append_drop]
        have hend : last.stop = Place.origin.after (before ++ (r.rest.take count ++ [])) := by
          rw [hstop, List.append_nil, ← hskipped]
          exact Place.after_nil _
        rw [hcut]
        refine .cons (hstart.trans hskipped) hend ?_ .nil
        rw [hterminal]
        exact .of_other rfl (by simp)
    · rw [hstep] at h
      exact absurd h (by simp)

end Reading

/-! ## Accepted texts -/

variable {text : Text} {tokens : List Token}

theorem accepted (h : tokens? text = some tokens) :
    Derives grammar [c .file] (tokens.map (·.terminal)) ∧
      ∃ before rest, text = before ++ rest ∧ Laid before rest tokens := by
  unfold tokens? at h
  split at h
  · exact absurd h (by simp)
  · obtain ⟨hderives, hlaid⟩ := Reading.of_run (Chart.reads_initial startsAlone) rfl h
    exact ⟨hderives, _, _, (List.take_append_drop _ text).symm, hlaid⟩

/-- **The tokens of an accepted text are a complete text of the grammar.** -/
theorem derives_of_tokens? (h : tokens? text = some tokens) :
    Derives grammar [c .file] (tokens.map (·.terminal)) := (accepted h).1

/-- **The tokens of an accepted text lie in it**, one behind the other. -/
theorem laid_of_tokens? (h : tokens? text = some tokens) : Laid [] text tokens := by
  obtain ⟨-, before, rest, rfl, hlaid⟩ := accepted h
  have hpassed : Laid ([] ++ before) rest tokens := hlaid
  exact hpassed.passed

/-- The automaton runs through the tokens of an accepted text. -/
theorem scan_of_tokens? (h : tokens? text = some tokens) :
    Spot.scan ⟨false, 0, .line⟩ (tokens.map (·.terminal)) = some ⟨false, 0, .line⟩ :=
  Spot.scan_of_derives (derives_of_tokens? h) (by decide +kernel)

end DocSplice.Grammar
