import DocSplice.Proofs.Session
import DocSplice.Proofs.Splicing

/-!
# What an injection does

Whatever the kind of a source, an injection that succeeds is an edit of its lines: the splices that
were planned, each with the endings of the lines around it, read against the lines as they were
(`edited_of_inject`).

`plannedSplices` names these splices, so that what is asked of them can be said of the text and of
the targets alone.
-/

namespace DocSplice

open Text

namespace Splice

variable {lines : List Text} {line : Text} {splices : List Splice} {row : Nat}

/-- The edit of a text: all splices take over the endings around them. -/
def adoptedEdit (lines : List Text) (splices : List Splice) : RowEdit :=
  edit (ascending (splices.map (adoptEnding lines)))

theorem mem_above_adoptedEdit : line ∈ (adoptedEdit lines splices).above row ↔
    ∃ s ∈ splices, s.stop = row ∧ line ∈ (adoptEnding lines s).lines := by
  simp only [adoptedEdit, mem_above_edit, mem_ascending, List.mem_map, exists_exists_and_eq_and,
    adoptEnding_stop]

theorem drops_adoptedEdit_iff :
    (adoptedEdit lines splices).drops row = true ↔ ∃ s ∈ splices, s.start ≤ row ∧ row < s.stop := by
  simp only [adoptedEdit, drops_edit_iff, mem_ascending, List.mem_map, exists_exists_and_eq_and,
    adoptEnding_start, adoptEnding_stop]

/-- Without splices nothing is edited. -/
theorem apply_adoptedEdit_nil (lines : List Text) : (adoptedEdit lines []).apply lines = lines :=
  RowEdit.apply_eq_self fun _ => ⟨rfl, rfl⟩

end Splice

open Splice

variable {kind : SourceKind} {text result : Text} {targets : List Target} {splices : List Splice}

/-- The text after the edit that splices amount to. -/
def editedText (text : Text) (splices : List Splice) : Text :=
  LineBuffer.toText ⟨(adoptedEdit (splitLines text) splices).apply (splitLines text),
    endsWithNewline text⟩

@[simp] theorem editedText_nil (text : Text) : editedText text [] = text := by
  rw [editedText, apply_adoptedEdit_nil]
  exact LineBuffer.toText_ofText text

/-- Splices are applied when they lie inside the text and are apart. -/
theorem spliceText_eq_ok_iff : spliceText kind text splices = .ok result ↔
    (∀ s ∈ splices, s.Within (splitLines text).length) ∧ splices.Pairwise Apart ∧
      result = editedText text splices := by
  have hwithin : (∀ s ∈ splices.map (adoptEnding (splitLines text)),
      s.Within (LineBuffer.ofText text).size) ↔
      ∀ s ∈ splices, s.Within (splitLines text).length := by
    simp only [List.mem_map, forall_exists_index, and_imp, forall_apply_eq_imp_iff₂, Within,
      adoptEnding_start, adoptEnding_stop]
    rfl
  have hapart : (splices.map (adoptEnding (splitLines text))).Pairwise Apart ↔
      splices.Pairwise Apart := by
    simp only [List.pairwise_map, Apart, adoptEnding_start, adoptEnding_stop]
    exact Iff.rfl
  have hbuffer : (LineBuffer.ofText text).lines = splitLines text := rfl
  rw [spliceText, hbuffer]
  cases happly : (LineBuffer.ofText text).apply (splices.map (adoptEnding (splitLines text))) with
  | ok b =>
    have hgiven := LineBuffer.apply_eq_ok_iff.mp happly
    rw [hwithin, hapart] at hgiven
    obtain ⟨hin, hpairwise, hb⟩ := hgiven
    dsimp only
    rw [Except.ok.injEq, hb]
    exact ⟨fun h => ⟨hin, hpairwise, h.symm⟩, fun h => h.2.2.symm⟩
  | error rejection =>
    refine ⟨fun h => absurd h (by simp), ?_⟩
    rintro ⟨hin, hpairwise, -⟩
    rw [LineBuffer.apply_eq_ok_iff.mpr ⟨hwithin.mpr hin, hapart.mpr hpairwise, rfl⟩] at happly
    exact absurd happly (by simp)

/-- The splices that an injection plans; there are none when the plan fails. -/
def plannedSplices [Parser] (kind : SourceKind) (text : Text) (targets : List Target) :
    List Splice :=
  (kind.planSplices text (Target.resolve targets)).toOption.getD []

/-- A planned splice comes out of a plan that was made. -/
theorem exists_plan_of_mem_plannedSplices [Parser] {kind : SourceKind} {text : Text}
    {targets : List Target} {s : Splice} (hs : s ∈ plannedSplices kind text targets) :
    ∃ splices, kind.planSplices text (Target.resolve targets) = .ok splices ∧ s ∈ splices := by
  rw [plannedSplices] at hs
  cases hplan : kind.planSplices text (Target.resolve targets) with
  | error failure =>
    rw [hplan] at hs
    exact absurd hs List.not_mem_nil
  | ok splices =>
    rw [hplan] at hs
    exact ⟨splices, rfl, hs⟩

/-- Without targets nothing is planned. -/
@[simp] theorem plannedSplices_nil [Parser] (kind : SourceKind) (text : Text) :
    plannedSplices kind text [] = [] := by
  cases kind with
  | structured =>
    rw [plannedSplices, Target.resolve_nil, SourceKind.planSplices, Docstring.planSplices]
    cases Parser.outline? text with
    | none => rfl
    | some outline => rfl
  | singleUnit => rfl
  | patternBrace => rfl

/-- **An injection that succeeds is the edit of its planned splices**, which lie inside the text and
are apart. -/
theorem edited_of_inject [Parser] (h : inject kind text targets = .ok result) :
    (∀ s ∈ plannedSplices kind text targets, s.Within (splitLines text).length) ∧
      (plannedSplices kind text targets).Pairwise Apart ∧
      result = editedText text (plannedSplices kind text targets) := by
  by_cases hnil : targets = []
  · rw [hnil, inject_nil] at h
    rw [hnil, plannedSplices_nil, editedText_nil]
    exact ⟨fun s hs => absurd hs List.not_mem_nil, List.Pairwise.nil, (Except.ok.inj h).symm⟩
  · rw [inject_eq_splices kind text hnil] at h
    unfold plannedSplices
    cases hplan : kind.planSplices text (Target.resolve targets) with
    | error failure =>
      rw [hplan] at h
      exact absurd h (by simp [bind, Except.bind])
    | ok splices =>
      cases hsplice : spliceText kind text splices with
      | error failure =>
        rw [hplan] at h
        change (spliceText kind text splices >>= _) = _ at h
        rw [hsplice] at h
        exact absurd h (by simp [bind, Except.bind])
      | ok rewritten =>
        rw [hplan] at h
        change (spliceText kind text splices >>= _) = _ at h
        rw [hsplice] at h
        change (kind.verify rewritten >>= _) = _ at h
        cases hverify : kind.verify rewritten with
        | error failure =>
          rw [hverify] at h
          exact absurd h (by simp [bind, Except.bind])
        | ok u =>
          rw [hverify] at h
          obtain rfl : rewritten = result := Except.ok.inj h
          exact spliceText_eq_ok_iff.mp hsplice

end DocSplice
