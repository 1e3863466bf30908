import DocSplice.Proofs.Targets

/-!
# Injections and sessions

An injection plans splices, applies them and has the result verified (`inject_eq_splices`).

A session is a sequence of injections, each into the text that the one before left.  An injection
that is refused leaves the text as it is.  What every successful injection keeps, a session keeps
(`session_invariant`).
-/

namespace DocSplice

variable {kind : SourceKind} {text : Text}

/-! ## The steps of an injection -/

/-- An injection of some targets, step by step. -/
theorem inject_eq_splices [Parser] (kind : SourceKind) (text : Text) {targets : List Target}
    (hne : targets ≠ []) :
    inject kind text targets = (do
      let splices ← kind.planSplices text (Target.resolve targets)
      let rewritten ← spliceText kind text splices
      kind.verify rewritten
      return rewritten) := by
  unfold inject
  split
  · rename_i hnil
    exact absurd (Target.resolve_eq_nil_iff.mp hnil) hne
  · rfl

/-- Splices with the line endings around them give the text of the buffer they are applied to. -/
theorem spliceText_eq_ok {splices : List Splice} {b : LineBuffer}
    (h : (LineBuffer.ofText text).apply
      (splices.map (Splice.adoptEnding (Text.splitLines text))) = .ok b) :
    spliceText kind text splices = .ok b.toText := by
  have hbuffer : (LineBuffer.ofText text).lines = Text.splitLines text := rfl
  rw [spliceText, hbuffer, h]

/-! ## Sessions -/

/-- The text after one injection of a session. -/
def sessionStep [Parser] (kind : SourceKind) (text : Text) (targets : List Target) : Text :=
  match inject kind text targets with
  | .ok result => result
  | .error _ => text

/-- The text after the injections of a session. -/
def session [Parser] (kind : SourceKind) (text : Text) (calls : List (List Target)) : Text :=
  calls.foldl (sessionStep kind) text

@[simp] theorem session_nil [Parser] : session kind text [] = text := rfl

theorem session_cons [Parser] (targets : List Target) (calls : List (List Target)) :
    session kind text (targets :: calls) = session kind (sessionStep kind text targets) calls := rfl

/-- **What every successful injection keeps, a session keeps.** -/
theorem session_invariant [Parser] {P : Text → Prop} : ∀ {calls : List (List Target)} {text : Text},
    (∀ targets ∈ calls, ∀ text result, P text → inject kind text targets = .ok result → P result) →
    P text → P (session kind text calls)
  | [], _, _, h => h
  | targets :: calls, text, hstep, h => by
    have hnext : P (sessionStep kind text targets) := by
      unfold sessionStep
      cases hinject : inject kind text targets with
      | ok result => exact hstep targets List.mem_cons_self text result h hinject
      | error failure => exact h
    rw [session_cons]
    exact session_invariant (fun later hlater => hstep later (List.mem_cons_of_mem targets hlater))
      hnext

end DocSplice
