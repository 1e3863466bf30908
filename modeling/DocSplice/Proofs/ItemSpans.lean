import DocSplice.Analysis
import DocSplice.Proofs.Brace.Search
import DocSplice.Proofs.Grammar.Laws
import DocSplice.Proofs.Runs

/-!
# Where items stand

An item remembers the lines it stands on and what is written there, and an edit looks its lines up
again, so both have to be right for every file: also for a source whose declarations reach past the
last line, for a file that is empty, and for a function that is never closed.

* `Item.Covers`: the lines are lines of the file, in order, and the source of the item is what stands
  on them.
* `Docstring.covers_of_mem_itemsOf` has it for any outline whose declarations start on lines of the
  text, wherever they end; those of an accepted text do (`Docstring.covers_of_mem_items`).
* `Brace.covers_itemAt` has it for a function, whose body ends in the file.
* `items_cover_lines` puts the kinds together, with what is known of functions: they are found by a
  search that comes to an end, one below the other, each on the line that declares it, and the
  documentation is the whole run of marked lines above.
-/

namespace DocSplice

open Text

variable {lines : List Text}

/-- The item stands on lines of a file, and its source is what is written there. -/
structure Item.Covers (lines : List Text) (i : Item) : Prop where
  one_le_firstLine : 1 ≤ i.firstLine
  firstLine_le_lastLine : i.firstLine ≤ i.lastLine
  lastLine_le_length : i.lastLine ≤ lines.length
  /-- Above the first line there is one line less than it says, and down to the last line there are
  as many as it says. -/
  source_eq : ∃ above covered below, lines = above ++ (covered ++ below) ∧
    above.length + 1 = i.firstLine ∧ above.length + covered.length = i.lastLine ∧
    i.source = joinLines covered

/-- An item that is cut out of lines covers them. -/
theorem Item.covers_ofSpan {kind : ItemKind} {name : Text} {first last : Nat}
    {documentation : Option Text} (hone : 1 ≤ first) (hle : first ≤ last)
    (hlast : last ≤ lines.length) :
    (Item.ofSpan kind name lines first last documentation).Covers lines where
  one_le_firstLine := hone
  firstLine_le_lastLine := hle
  lastLine_le_length := hlast
  source_eq := by
    refine ⟨lines.take (first - 1), (lines.take last).drop (first - 1), lines.drop last, ?_, ?_, ?_,
      rfl⟩
    · have habove : lines.take (first - 1) = (lines.take last).take (first - 1) := by
        rw [List.take_take, Nat.min_eq_left (by omega)]
      rw [← List.append_assoc, habove, List.take_append_drop, List.take_append_drop]
    · rw [List.length_take]
      dsimp only [Item.ofSpan]
      omega
    · rw [List.length_drop, List.length_take, List.length_take]
      dsimp only [Item.ofSpan]
      omega

namespace Docstring

/-- A declaration that starts on a line of the text ends on one, and not above. -/
theorem lastRow_bounds {count : Nat} {d : Declaration} (h : d.start.row < count) :
    d.start.row ≤ lastRow count d ∧ lastRow count d < count := by
  rw [lastRow]
  omega

/-- The items of an outline cover lines. -/
theorem covers_of_mem_itemsOf {outline : Outline} (h : ∀ d ∈ outline, d.start.row < lines.length)
    {i : Item} (hi : i ∈ itemsOf lines outline) : i.Covers lines := by
  obtain ⟨d, hd, rfl⟩ := List.mem_map.mp hi
  obtain ⟨hlow, hhigh⟩ := lastRow_bounds (h d hd)
  exact Item.covers_ofSpan (Nat.le_add_left 1 _) (Nat.succ_le_succ hlow) hhigh

/-- The items of a source cover lines. -/
theorem covers_of_mem_items [Parser] (hlaws : Parser.Laws) {text : Text} {i : Item}
    (hi : i ∈ items text) : i.Covers (splitLines text) := by
  rw [items] at hi
  cases houtline : Parser.outline? text with
  | none =>
    rw [houtline] at hi
    exact absurd hi List.not_mem_nil
  | some outline =>
    rw [houtline] at hi
    exact covers_of_mem_itemsOf (fun d hd => (hlaws.start houtline hd).row_lt) hi

end Docstring

/-- The one item of a query file covers all its lines. -/
theorem Query.covers_of_mem_items {text : Text} {i : Item} (hi : i ∈ Query.items text) :
    i.Covers (splitLines text) := by
  have hline : 1 ≤ (splitLines text).length := List.length_pos_iff.mpr (splitLines_ne_nil text)
  rw [List.mem_singleton.mp hi]
  exact Item.covers_ofSpan (Nat.le_refl 1) hline (Nat.le_refl _)

namespace Brace

variable {row : Nat} {name line : Text}

/-- A function covers the lines from its declaration to the end of its body. -/
theorem covers_itemAt (h : row < lines.length) : (itemAt lines (row, name)).Covers lines :=
  Item.covers_ofSpan (Nat.le_add_left 1 _) (Nat.succ_le_succ (le_bodyEnd h)) (bodyEnd_lt h)

/-- The text is that of the longest run of marked lines that the lines end with. -/
def IsRunBelow (above : List Text) (documentation : Text) : Prop :=
  ∃ pre run, above = pre ++ run ∧ run ≠ [] ∧ (∀ l ∈ run, isMarked l = true) ∧
    (∀ l, pre.getLast? = some l → isMarked l = false) ∧ documentation = joinLines run

/-- **The documentation of a function**: there is one when the line above is marked, and it is the
whole run. -/
theorem documentation_itemAt (h : lines[row]? = some line) : ∃ above below,
    lines = above ++ line :: below ∧ above.length = row ∧
      ((itemAt lines (row, name)).documentation.isSome = true ↔
        ∃ l, above.getLast? = some l ∧ isMarked l = true) ∧
      ∀ d, (itemAt lines (row, name)).documentation = some d → IsRunBelow above d := by
  obtain ⟨pre, run, post, rfl, -, hrow, hrun, hpre⟩ := exists_run_split isMarked h
  have hdocumentation : (itemAt (pre ++ (run ++ line :: post)) (row, name)).documentation =
      if run = [] then none else some (joinLines run) := by
    rw [← text_blockAbove_append pre run post line hrun hpre, hrow]
    rfl
  rw [hdocumentation]
  refine ⟨pre ++ run, post, (List.append_assoc _ _ _).symm, by rw [List.length_append, hrow], ?_, ?_⟩
  · rcases List.eq_nil_or_concat run with hnil | ⟨front, last, hconcat⟩
    · rw [if_pos hnil, hnil, List.append_nil]
      constructor
      · exact fun hsome => absurd hsome Bool.false_ne_true
      · rintro ⟨l, hlast, hmarked⟩
        rw [hpre l hlast] at hmarked
        exact absurd hmarked Bool.false_ne_true
    · have hne : run ≠ [] := by simp [hconcat]
      rw [if_neg hne]
      refine iff_of_true rfl ⟨last, ?_, hrun last (by simp [hconcat])⟩
      rw [hconcat, List.concat_eq_append, ← List.append_assoc]
      exact List.getLast?_concat
  · intro d hd
    split at hd
    · exact absurd hd (by simp)
    · rename_i hne
      exact ⟨pre, run, rfl, hne, hrun, hpre, (Option.some.inj hd).symm⟩

end Brace

/-- **Where items stand.**  Whatever the text, every item covers lines of it, and so do the items of
any outline whose declarations start on lines of the text and end at their start or behind it.  A query
file is one item that covers all lines.  The search for functions ends; it finds each below the end of
the one before, on a line that declares it, with the run of marked lines above as its documentation. -/
theorem SourceKind.items_cover_lines [Parser] (hlaws : Parser.Laws) (text : Text) :
    (∀ kind, ∀ i ∈ SourceKind.items kind text, i.Covers (splitLines text)) ∧
    (∀ outline : Outline, (∀ d ∈ outline, d.start.row < (splitLines text).length ∧
        d.start.row ≤ d.stop.row ∧ (d.start.row = d.stop.row → d.start.column ≤ d.stop.column)) →
      ∀ i ∈ Docstring.itemsOf (splitLines text) outline, i.Covers (splitLines text)) ∧
    (∃ i, SourceKind.items .singleUnit text = [i] ∧ i.firstLine = 1 ∧
      i.lastLine = (splitLines text).length) ∧
    (∃ last, Brace.Search.Ends (splitLines text) .start last ∧
      last.found = SourceKind.items .patternBrace text) ∧
    (SourceKind.items .patternBrace text).Pairwise (fun i j => i.lastLine < j.firstLine) ∧
    ∀ i ∈ SourceKind.items .patternBrace text, ∃ above line below,
      splitLines text = above ++ line :: below ∧ above.length + 1 = i.firstLine ∧
        Brace.declaredName? line = some i.name ∧
        (i.documentation.isSome = true ↔ ∃ l, above.getLast? = some l ∧ Brace.isMarked l = true) ∧
        ∀ d, i.documentation = some d → Brace.IsRunBelow above d := by
  obtain ⟨last, hends, hsound, hitems⟩ := Brace.exists_search text
  have hfound : last.found = SourceKind.items .patternBrace text := hitems
  refine ⟨fun kind i hi => ?_, fun outline houtline i hi => ?_, ⟨_, rfl, rfl, rfl⟩,
    ⟨last, hends, hfound⟩, hfound ▸ hsound.ordered, fun i hi => ?_⟩
  · cases kind with
    | structured => exact Docstring.covers_of_mem_items hlaws hi
    | singleUnit => exact Query.covers_of_mem_items hi
    | patternBrace =>
      obtain ⟨row, line, name, hline, -, rfl⟩ := hsound.declared i (hfound ▸ hi)
      exact Brace.covers_itemAt (List.getElem?_eq_some_iff.mp hline).1
  · exact Docstring.covers_of_mem_itemsOf (fun d hd => (houtline d hd).1) hi
  · obtain ⟨row, line, name, hline, hname, rfl⟩ := hsound.declared i (hfound ▸ hi)
    obtain ⟨above, below, hlines, hrow, hdocumented, hrun⟩ := Brace.documentation_itemAt hline
    exact ⟨above, line, below, hlines, congrArg (· + 1) hrow, hname, hdocumented, hrun⟩

/-- A function that is never closed, found as one and given as the declaration of an outline that ends
far below the text. -/
theorem SourceKind.items_cover_lines_unclosed :
    let text := "#' Doubles.\nf <- function(x) \x7b\n  x".toList
    let d : Declaration := ⟨.routine, ['f'], ⟨12, 1, 0⟩, ⟨90, 7, 2⟩, none⟩
    (∀ e ∈ [d], e.start.row < (splitLines text).length ∧ e.start.row ≤ e.stop.row ∧
        (e.start.row = e.stop.row → e.start.column ≤ e.stop.column)) ∧
      (∃ i ∈ SourceKind.items .patternBrace text, i.lastLine = 3 ∧ i.Covers (splitLines text)) ∧
      ∃ i ∈ Docstring.itemsOf (splitLines text) [d], i.lastLine = 3 ∧ i.Covers (splitLines text) := by
  intro text d
  have houtline : ∀ e ∈ [d], e.start.row < (splitLines text).length ∧ e.start.row ≤ e.stop.row ∧
      (e.start.row = e.stop.row → e.start.column ≤ e.stop.column) := by decide
  obtain ⟨hcovers, hitemsOf, -⟩ := SourceKind.items_cover_lines Grammar.laws text
  refine ⟨houtline, ?_, Docstring.itemOf (splitLines text) d, List.mem_singleton.mpr rfl, by decide,
    hitemsOf [d] houtline _ (List.mem_singleton.mpr rfl)⟩
  have hlast : (SourceKind.items .patternBrace text).map (·.lastLine) = [3] := by decide +kernel
  obtain ⟨i, hi, hline⟩ := List.map_eq_singleton_iff.mp hlast
  have hmem : i ∈ SourceKind.items .patternBrace text := hi ▸ List.mem_singleton.mpr rfl
  exact ⟨i, hmem, hline, hcovers .patternBrace i hmem⟩

end DocSplice
