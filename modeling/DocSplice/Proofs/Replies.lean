import DocSplice.Proofs.Trimming
import DocSplice.Reply

/-!
# Unwrapped replies

A generator may put blanks around its documentation, and a Markdown fence as well, whose first line
can name a language.  `clean?` undoes this.  It trims at four places with three different sets of
characters, and their order decides what is left of the documentation itself.

* `Tidy` texts are the ones that a reply can carry: not blank, with no newline in front and no blank
  behind.  Blanks in front of the first line are part of a tidy text.
* `fenced`: a text inside a fence.
* `clean_wrapped`: a tidy text comes out of a fence as it is, whatever backticks it holds; without
  a fence it does as well, if it has no blank in front that would be trimmed and is not taken for a
  fence.  And nothing but tidy texts comes out of any reply.
-/

namespace DocSplice.Reply

open Text

variable {text info before behind below reply : Text}

/-- What a reply can carry. -/
structure Tidy (text : Text) : Prop where
  not_blank : allBlank text = false
  /-- It does not start with a newline. -/
  starts : text.head? ≠ some '\n'
  /-- It does not end with a blank. -/
  ends : ∀ c, text.getLast? = some c → isBlank c = false

/-- A text inside a fence, with `info` behind the backticks that open it. -/
def fenced (info text : Text) : Text := fence ++ (info ++ '\n' :: (text ++ '\n' :: fence))

/-! ## Tidy texts -/

theorem Tidy.ne_nil (h : Tidy text) : text ≠ [] := by
  rintro rfl
  exact absurd h.not_blank (by decide)

theorem Tidy.trimEnd_eq (h : Tidy text) : trimEnd text = text := trimEnd_eq_self_iff.mpr h.ends

theorem Tidy.getLast?_ne (h : Tidy text) : text.getLast? ≠ some '\n' := by
  intro hlast
  exact absurd (h.ends '\n' hlast) (by decide)

/-- Newlines below a tidy text are all that is dropped. -/
theorem Tidy.dropAroundWhile_eq (h : Tidy text) (hbelow : ∀ c ∈ below, c = '\n') :
    dropAroundWhile (· == '\n') (text ++ below) = text := by
  have hfront : (text ++ below).dropWhile (· == '\n') = text ++ below := by
    obtain ⟨c, rest, rfl⟩ := List.exists_cons_of_ne_nil h.ne_nil
    have hc : c ≠ '\n' := fun heq => h.starts (by rw [heq]; rfl)
    exact List.dropWhile_cons_of_neg (by simpa using hc)
  have hback : text.reverse.dropWhile (· == '\n') = text.reverse := by
    cases hlast : text.reverse with
    | nil => rfl
    | cons c rest =>
      have hc : c ≠ '\n' := by
        rintro rfl
        refine h.getLast?_ne ?_
        rw [← List.head?_reverse, hlast]
        rfl
      exact List.dropWhile_cons_of_neg (by simpa using hc)
  have hnewlines : ∀ c ∈ below.reverse, (c == '\n') = true := fun c hc =>
    beq_iff_eq.mpr (hbelow c (List.mem_reverse.mp hc))
  rw [dropAroundWhile, hfront, dropEndWhile, List.reverse_append,
    List.dropWhile_append_of_pos hnewlines, hback, List.reverse_reverse]

/-- Whatever is cleaned, the result is tidy. -/
theorem tidy_of_clean? (h : clean? reply = some text) : Tidy text := by
  rw [clean?] at h
  split at h
  · exact absurd h (by simp)
  · rename_i hblank
    have hblank : allBlank (unwrap reply) = false := Bool.eq_false_iff.mpr hblank
    rw [Option.some.injEq] at h
    subst h
    refine ⟨hblank, fun hfirst => ?_, fun c hc => isBlank_of_getLast?_trimEnd hc⟩
    -- trimming at the end leaves the first character, and that is none of those dropped before
    rw [unwrap, allBlank_trimEnd] at hblank
    rw [unwrap, head?_trimEnd (trimEnd_ne_nil hblank), dropAroundWhile] at hfirst
    obtain ⟨rest, hrest⟩ := List.head?_eq_some_iff.mp hfirst
    obtain ⟨newlines, hcut⟩ := dropEndWhile_isPrefix (· == '\n') _
    rw [hrest] at hcut
    exact absurd (List.head?_dropWhile_not (· == '\n') _) (by rw [← hcut]; simp)

/-! ## Wrapping -/

/-- Blanks around a reply are not seen. -/
theorem trim_padded (hbefore : allBlank before = true) (hbehind : allBlank behind = true)
    (text : Text) : trim (before ++ text ++ behind) = trim text := by
  rw [trim_append _ hbehind, trim_append_left hbefore]

/-- What is unwrapped to a tidy text with newlines below is cleaned to this text. -/
theorem Tidy.clean?_eq (h : Tidy text) (below : Text) (hbelow : ∀ c ∈ below, c = '\n')
    (hunwrap : unwrap reply = trimEnd (dropAroundWhile (· == '\n') (text ++ below))) :
    clean? reply = some text := by
  rw [h.dropAroundWhile_eq hbelow, h.trimEnd_eq] at hunwrap
  rw [clean?, hunwrap, h.not_blank]
  rfl

theorem afterFirstLine_append (h : '\n' ∉ info) (rest : Text) :
    afterFirstLine (info ++ '\n' :: rest) = rest := by
  induction info with
  | nil => rfl
  | cons c info ih =>
    rw [List.mem_cons, not_or] at h
    rw [List.cons_append, afterFirstLine, if_neg (Ne.symm h.1), ih h.2]

theorem getLast?_append_fence (front : Text) : (front ++ fence).getLast? = some '\x60' := by
  rw [List.getLast?_append]
  rfl

/-- The first line goes, and the backticks at the end, whatever backticks stand in between. -/
theorem insideFence_eq (h : '\n' ∉ info) (text : Text) :
    insideFence (info ++ '\n' :: (text ++ '\n' :: fence)) = text ++ ['\n'] := by
  have hend : trimEnd (text ++ '\n' :: fence) = text ++ ['\n'] ++ fence := by
    rw [List.append_cons]
    refine trimEnd_eq_self_iff.mpr fun c hc => ?_
    rw [getLast?_append_fence, Option.some.injEq] at hc
    rw [← hc]
    decide
  rw [insideFence, afterFirstLine_append h, hend, stripSuffix?_append, Option.getD_some]

/-- A fence is not trimmed. -/
theorem trim_fenced (info text : Text) : trim (fenced info text) = fenced info text := by
  have hcut : fenced info text = (fence ++ (info ++ '\n' :: (text ++ ['\n']))) ++ fence := by
    simp [fenced]
  have hend : trimEnd (fenced info text) = fenced info text := by
    refine trimEnd_eq_self_iff.mpr fun c hc => ?_
    rw [hcut, getLast?_append_fence, Option.some.injEq] at hc
    rw [← hc]
    decide
  rw [← trimStart_trimEnd, hend]
  exact List.dropWhile_cons_of_neg (by decide)

/-- **A tidy text comes out of its wrapping, and nothing else comes out of a reply.**  Inside a
fence it may begin with blanks and hold any backticks; without one it has to begin with neither
blanks nor a fence. -/
theorem clean_wrapped (text : Text) :
    (Tidy text → ∀ info before behind, '\n' ∉ info → allBlank before = true →
        allBlank behind = true →
          clean? (before ++ fenced info text ++ behind) = some text ∧
            (trimStart text = text → ¬fence <+: text →
              clean? (before ++ text ++ behind) = some text)) ∧
      ∀ reply, clean? reply = some text → Tidy text ∧ text.getLast? ≠ some '\n' := by
  refine ⟨fun h info before behind hinfo hbefore hbehind => ⟨?_, fun hstart hfence => ?_⟩,
    fun reply hclean => ⟨tidy_of_clean? hclean, (tidy_of_clean? hclean).getLast?_ne⟩⟩
  · refine h.clean?_eq ['\n'] (fun c hc => List.mem_singleton.mp hc) ?_
    have hcut : stripPrefix? (trim (before ++ fenced info text ++ behind)) fence =
        some (info ++ '\n' :: (text ++ '\n' :: fence)) := by
      rw [trim_padded hbefore hbehind, trim_fenced, fenced, stripPrefix?_append]
    simp only [unwrap, hcut, insideFence_eq hinfo]
  · have hnone : stripPrefix? text fence = none := by
      cases hcut : stripPrefix? text fence with
      | none => rfl
      | some rest =>
        exact absurd ⟨rest, List.isPrefixOf?_eq_some_iff_append_eq.mp hcut⟩ hfence
    refine h.clean?_eq [] (fun c hc => absurd hc List.not_mem_nil) ?_
    have htrim : trim (before ++ text ++ behind) = text := by
      rw [trim_padded hbefore hbehind, trim, hstart, h.trimEnd_eq]
    simp only [unwrap, htrim, hnone, List.append_nil]

/-- Documentation that begins with blanks and ends with a fence of its own, in a fence with more
backticks and in blanks. -/
theorem clean_wrapped_inner_fence :
    let text := "  x\n\x60\x60\x60r\nf(1)\n\x60\x60\x60".toList
    Tidy text ∧
      clean? ("\n ".toList ++ fenced "\x60r ".toList text ++ "\r\n".toList) = some text := by
  intro text
  have htidy : Tidy text := by
    refine ⟨by decide, by decide, fun c hc => ?_⟩
    have hlast : text.getLast? = some '\x60' := by decide
    rw [hlast, Option.some.injEq] at hc
    rw [← hc]
    decide
  exact ⟨htidy, ((clean_wrapped text).1 htidy _ _ _ (by decide) (by decide) (by decide)).1⟩

end DocSplice.Reply
