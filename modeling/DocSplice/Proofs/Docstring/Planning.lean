import DocSplice.Docstring.Declarations
import DocSplice.Proofs.Places
import DocSplice.Proofs.Docstring.Rendering

/-!
# Planned docstring splices

What is planned for a source with a grammar: every target finds its declaration in the outline, and
the splice is made from the first statement of the body (`planSplices_eq_ok`).

There are three shapes of splices: a docstring above a first statement (`spliceOwnLine_of_none`), in
place of an old one (`spliceOwnLine_of_some`), and behind a header that shares its line with the body
(`spliceSharedLine_eq`).  In the last two, what stands behind `cut` on its line is moved.
-/

namespace DocSplice.Docstring

open Text

variable {text : Text} {lines : List Text} {outline : Outline} {targets : List Target} {t : Target}
  {s : Splice}

/-- A target has a splice when a declaration stands on its line and has a body. -/
theorem planSplice_eq_ok_iff : planSplice lines outline t = .ok s ↔
    ∃ d opening, outline.find? (·.start.row == t.row) = some d ∧ d.opening = some opening ∧
      s = spliceBody lines d opening t.documentation := by
  unfold planSplice
  constructor
  · intro h
    split at h
    · exact absurd h (by simp)
    · rename_i d hd
      split at h
      · exact absurd h (by simp)
      · rename_i opening hopening
        exact ⟨d, opening, hd, hopening, (Except.ok.inj h).symm⟩
  · rintro ⟨d, opening, hd, hopening, rfl⟩
    rw [hd]
    dsimp only
    rw [hopening]

/-- Splices are planned one by one. -/
theorem forall₂_planSplice : ∀ {targets : List Target} {splices : List Splice},
    targets.mapM (planSplice lines outline) = .ok splices →
    List.Forall₂ (fun t s => planSplice lines outline t = .ok s) targets splices
  | [], splices, h => by
    rw [List.mapM_nil] at h
    rw [← Except.ok.inj h]
    exact .nil
  | t :: targets, splices, h => by
    rw [List.mapM_cons] at h
    cases hs : planSplice lines outline t with
    | error failure =>
      rw [hs] at h
      exact absurd h (by simp [bind, Except.bind])
    | ok s =>
      cases hrest : targets.mapM (planSplice lines outline) with
      | error failure =>
        rw [hs, hrest] at h
        exact absurd h (by simp [bind, Except.bind])
      | ok rest =>
        rw [hs, hrest] at h
        rw [← Except.ok.inj h]
        exact .cons hs (forall₂_planSplice hrest)

/-- Every splice is planned for a target. -/
theorem exists_target_of_mem {splices : List Splice}
    (h : List.Forall₂ (fun t s => planSplice lines outline t = .ok s) targets splices)
    (hs : s ∈ splices) : ∃ t ∈ targets, planSplice lines outline t = .ok s := by
  induction h with
  | nil => exact absurd hs List.not_mem_nil
  | cons hhead _ ih =>
    rcases List.mem_cons.mp hs with rfl | hs
    · exact ⟨_, List.mem_cons_self, hhead⟩
    · obtain ⟨t, ht, hplanned⟩ := ih hs
      exact ⟨t, List.mem_cons_of_mem _ ht, hplanned⟩

/-- **Splices are planned** for a text that the grammar accepts, one for each target. -/
theorem planSplices_eq_ok [Parser] {splices : List Splice}
    (h : planSplices text targets = .ok splices) :
    ∃ outline, Parser.outline? text = some outline ∧
      List.Forall₂ (fun t s => planSplice (splitLines text) outline t = .ok s) targets splices := by
  unfold planSplices at h
  split at h
  · exact absurd h (by simp)
  · rename_i outline houtline
    exact ⟨outline, houtline, forall₂_planSplice h⟩

/-! ## The shapes of splices -/

variable {d : Declaration} {opening : Opening} {documentation : Text}

/-- Where the code begins that a new docstring leaves: behind the old one. -/
def cut (opening : Opening) : Place :=
  match ofOpening? opening with
  | some old => old.stop
  | none => opening.start

theorem cut_of_none (h : ofOpening? opening = none) : cut opening = opening.start := by
  rw [cut, h]

theorem cut_of_some {old : StringStatement} (h : ofOpening? opening = some old) :
    cut opening = old.stop := by
  rw [cut, h]

/-- Without an old docstring the new one goes above the first statement. -/
theorem spliceOwnLine_of_none (h : ofOpening? opening = none) :
    spliceOwnLine lines opening documentation =
      ⟨opening.start.row, opening.start.row,
        render documentation (indent (lineAt lines opening.start.row))⟩ := by
  rw [spliceOwnLine, h]
  rfl

/-- The new docstring takes the rows of the old one, and what is left of its last line comes below. -/
theorem spliceOwnLine_of_some {old : StringStatement} (h : ofOpening? opening = some old) :
    spliceOwnLine lines opening documentation =
      ⟨opening.start.row, (cut opening).row + 1,
        render documentation (indent (lineAt lines opening.start.row)) ++
          remainderLines (indent (lineAt lines opening.start.row))
            (remainderAt lines (cut opening))⟩ := by
  rw [spliceOwnLine, cut_of_some h, h]

/-- The header keeps its line, and the docstring and what is left of the body come below. -/
theorem spliceSharedLine_eq (lines : List Text) (d : Declaration) (opening : Opening)
    (documentation : Text) : spliceSharedLine lines d opening documentation =
      ⟨opening.start.row, (cut opening).row + 1,
        trimEnd ((lineAt lines opening.start.row).take opening.start.column) ::
          (render documentation (indent (lineAt lines d.start.row) ++ indentUnit) ++
            remainderLines (indent (lineAt lines d.start.row) ++ indentUnit)
              (remainderAt lines (cut opening)))⟩ := by
  cases hold : ofOpening? opening with
  | none =>
    rw [spliceSharedLine, cut_of_none hold, hold]
    rfl
  | some old =>
    rw [spliceSharedLine, cut_of_some hold, hold]
    rfl

end DocSplice.Docstring
