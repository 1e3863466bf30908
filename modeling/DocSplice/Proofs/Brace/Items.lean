import DocSplice.Proofs.Brace.Installation

/-!
# Extracted functions

What `items` promises about the functions it finds.  Here: an item stands on a line that declares a
function, so that it can be a target of an injection.
-/

namespace DocSplice.Brace

/-- An item found from row `row` on stands on the row of a declaration. -/
theorem exists_declaration_of_mem_itemsFrom {all : List Text} {i : Item} :
    ∀ {rest : List Text} {row skip : Nat} {scan : ScanState} {calls : Nat},
      all.drop row = rest → i ∈ itemsFrom all row skip scan calls rest →
      ∃ r line, i.firstLine = r + 1 ∧ all[r]? = some line ∧ isDeclaration line = true
  | [], _, _, _, _, _, h => by
    unfold itemsFrom at h
    exact absurd h List.not_mem_nil
  | line :: rest, row, skip, scan, calls, hdrop, h => by
    have hline : all[row]? = some line := getElem?_of_drop hdrop
    have hnext : all.drop (row + 1) = rest := drop_succ_of_drop hdrop
    unfold itemsFrom at h
    split at h
    · exact exists_declaration_of_mem_itemsFrom hnext h
    · split at h
      · rename_i name hname
        rcases List.mem_cons.mp h with rfl | h
        · refine ⟨row, line, rfl, hline, ?_⟩
          split at hname
          · rw [isDeclaration, hname]
            rfl
          · exact absurd hname (by simp)
        · exact exists_declaration_of_mem_itemsFrom hnext h
      · exact exists_declaration_of_mem_itemsFrom hnext h

/-- An extracted item stands on a line that declares a function. -/
theorem exists_declaration_of_mem_items {text : Text} {i : Item} (h : i ∈ items text) :
    ∃ r line, i.firstLine = r + 1 ∧ (Text.splitLines text)[r]? = some line ∧
      isDeclaration line = true :=
  exists_declaration_of_mem_itemsFrom rfl h

/-- Extracted items are targets that an injection accepts. -/
theorem declared_of_mem_items {text : Text} {t : Target} (h : t.item ∈ items text) :
    Declared (Text.splitLines text) t := by
  obtain ⟨r, line, hfirst, hline, hdecl⟩ := exists_declaration_of_mem_items h
  have hrow : t.row = r := by rw [Target.row, hfirst, Nat.add_sub_cancel]
  exact ⟨line, hrow ▸ hline, hdecl⟩

end DocSplice.Brace
