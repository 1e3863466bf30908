import DocSplice.Grammar.Parser
import DocSplice.Proofs.Grammar.Statements
import DocSplice.Proofs.Parsers

/-!
# The laws of the grammar

The parser that the grammar makes keeps the laws that are relied on (`laws`), and `statements` are
the statements of a text as it takes them apart (`statements_statements`).
-/

namespace DocSplice.Grammar

open Text

variable {text : Text} {outline : Outline} {d : Declaration} {opening : Opening}
  {s : StringStatement}

/-- A string that is a whole statement stops with one of the tokens. -/
theorem stop_mem_of_stringStatement? {tokens : List Token}
    (h : Outline.stringStatement? text tokens = some s) : ∃ token ∈ tokens, s.stop = token.stop := by
  cases tokens with
  | nil => exact absurd h (by simp [Outline.stringStatement?])
  | cons first rest =>
    have hsub : ∀ token ∈ rest.dropWhile (·.terminal != .stringEnd), token ∈ first :: rest :=
      fun token ht => List.mem_cons_of_mem first ((List.dropWhile_sublist _).mem ht)
    rw [Outline.stringStatement?] at h
    split at h
    · split at h
      · rename_i last next below hrest
        rw [hrest] at hsub
        dsimp only at h
        split at h
        · exact ⟨last, hsub last List.mem_cons_self, by rw [← Option.some.inj h]⟩
        · split at h
          · exact ⟨next, hsub next (List.mem_cons_of_mem _ List.mem_cons_self), by
              rw [← Option.some.inj h]⟩
          · exact absurd h (by simp)
      · exact absurd h (by simp)
    · exact absurd h (by simp)

/-- Of tokens that lie in a text, none stops before the first one starts. -/
theorem start_le_stop {before after : Text} {token first : Token} {tokens below : List Token}
    (h : Laid before after tokens) (hsuffix : first :: below <:+ tokens)
    (hmem : token ∈ first :: below) : first.start.offset ≤ token.stop.offset := by
  have hforward : ∀ token ∈ first :: below, token.start.offset ≤ token.stop.offset :=
    fun token ht => (h.inOrder.within token.stretch
      (List.mem_map_of_mem (hsuffix.subset ht))).2.1
  have hordered := h.inOrder.ordered.sublist (hsuffix.sublist.map Token.stretch)
  rw [List.map_cons, List.pairwise_cons] at hordered
  rcases List.mem_cons.mp hmem with rfl | hbelow
  · exact hforward token List.mem_cons_self
  · calc first.start.offset
      _ ≤ first.stop.offset := hforward first List.mem_cons_self
      _ ≤ token.start.offset := hordered.1 token.stretch (List.mem_map_of_mem hbelow)
      _ ≤ token.stop.offset := hforward token hmem

/-- A string that is a whole statement stops in the text, and not before it starts. -/
theorem reached_stop (houtline : outline? text = some outline) (hd : d ∈ outline)
    (hopening : d.opening = some opening) (hs : opening.string = some s) :
    Place.Reached text s.stop ∧ opening.start.offset ≤ s.stop.offset := by
  obtain ⟨tokens, htokens, rfl⟩ := exists_tokens_of_outline? houtline
  obtain ⟨above, colon, indents, first, below, htoks, -, -, -, rfl⟩ :=
    (of_mem_outline htokens hd).2 opening hopening
  have hlaid := laid_of_tokens? htokens
  have hbody : first :: below <:+ tokens := by
    rw [htoks]
    exact ⟨above ++ colon :: indents, by simp⟩
  obtain ⟨token, ht, hstop⟩ := stop_mem_of_stringStatement?
    (show Outline.stringStatement? text (first :: below) = some s from hs)
  rw [hstop]
  exact ⟨(hlaid.reached (hbody.subset ht)).2, start_le_stop hlaid hbody ht⟩

/-- **The grammar keeps the laws of parsers.** -/
theorem laws : Parser.Laws where
  start := solid_start
  opening := solid_opening
  string := reached_stop

/-- **The statements that the grammar tells apart** are as relied on. -/
theorem statements_statements (text : Text) : Parser.Statements text (statements text) where
  inOrder := inOrder_statements text
  solid _ hs := solid_of_mem_statements hs
  header := exists_colon_of_mem_outline

end DocSplice.Grammar
