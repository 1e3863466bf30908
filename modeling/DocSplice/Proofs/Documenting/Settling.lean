import DocSplice.Proofs.Brace.RoundTrip
import DocSplice.Proofs.Documenting.LineEndings
import DocSplice.Proofs.Query.NormalForm
import DocSplice.Proofs.Query.RoutineNames

/-!
# Documentation that settles its items

An item is settled when its documentation has no issues.  A reply is judged before it is installed,
by the lines that are planned for it, and an injection changes those lines: they get carriage
returns where the file has them, they move with what is installed above them, and the documentation
of every other item has to survive.  That all of this comes out right is `settled_of_inject`.

* `plannedBlock`: the lines that are planned for a target.
* `Accepted`: read from these lines, the documentation of the target has no issues.
* `Settles`: an injection that has accepted documentation for every unsettled item.
* `Brace.issues_of_carried`: a function that was asked about has the accepted documentation up to
  line endings, and any other function has what it had; so all are in order.
* `Query.issues_written`: the same for the unit of a query file.  The name of the unit is made of
  name characters (`Query.notMem_unitName`), so the title that is made from it is one line.
-/

namespace DocSplice

open Text

variable {text : Text} {targets : List Target} {t : Target}

/-- The lines that are planned as the documentation of a target, before they are ended like the
lines around.  Below the documentation of a query file there is one more line, which separates it
from the query. -/
def plannedBlock [Parser] (kind : SourceKind) (text : Text) (t : Target) : List Text :=
  match kind.planSplices text [t] with
  | .ok [s] => if kind = .singleUnit then s.lines.dropLast else s.lines
  | _ => []

/-- The documentation of a target has no issues when it is read from the lines that are planned. -/
def Accepted [Parser] (kind : SourceKind) (text : Text) (t : Target) : Prop :=
  kind.issues { t.item with documentation := some (joinLines (plannedBlock kind text t)) } = []

instance [Parser] (kind : SourceKind) (text : Text) (t : Target) :
    Decidable (Accepted kind text t) :=
  inferInstanceAs (Decidable (_ = _))

/-- The items of a text whose documentation is missing or not in order. -/
def unsettled [Parser] (kind : SourceKind) (text : Text) : List Item :=
  (kind.items text).filter fun i => !(kind.issues i).isEmpty

/-- An injection for the unsettled items of a text. -/
structure Settles [Parser] (kind : SourceKind) (text : Text) (targets : List Target) : Prop where
  items_eq : targets.map (·.item) = unsettled kind text
  nonblank : ∀ t ∈ targets, allBlank t.documentation = false
  accepted : ∀ t ∈ targets, Accepted kind text t

/-! ## Functions -/

namespace Brace

/-- Items of functions stand on different lines. -/
theorem items_ascending (hclosed : ∀ line ∈ splitLines text, ClosesStrings line) :
    (items text).Pairwise fun i j => i.firstLine < j.firstLine := by
  rw [items_eq hclosed, List.pairwise_map]
  exact (foundFrom_ascending (.outer 0) 0 (splitLines text)).imp fun h => Nat.succ_lt_succ h

theorem plannedBlock_eq [Parser] {decl : Text} (hline : (splitLines text)[t.row]? = some decl)
    (hdecl : isDeclaration decl = true) :
    plannedBlock .patternBrace text t = render (indent decl) t.documentation := by
  have hdeclared : ∀ u ∈ [t], Declared (splitLines text) u := by
    intro u hu
    rw [List.mem_singleton.mp hu]
    exact ⟨decl, hline, hdecl⟩
  have hplan : SourceKind.planSplices .patternBrace text [t] = .ok [plan (splitLines text) t] :=
    planSplices_of_declared hdeclared
  rw [plannedBlock, hplan, plan_eq hline]
  rfl

/-- The targets of an injection that settles a file are for different lines. -/
theorem distinct_of_settles [Parser] (hclosed : ∀ line ∈ splitLines text, ClosesStrings line)
    (h : Settles .patternBrace text targets) : Target.Distinct targets := by
  have hsorted : (targets.map (·.item)).Pairwise fun i j => i.firstLine < j.firstLine := by
    rw [h.items_eq]
    exact (items_ascending hclosed).filter _
  exact (List.pairwise_map.mp hsorted).imp fun hlt => Nat.ne_of_lt hlt

/-- Lines are ended as they are, or with a carriage return each. -/
theorem map_lineEnding_eq_or (lines : List Text) (row : Nat) (block : List Text) :
    block.map (· ++ lineEnding lines row) = block ∨
      block.map (· ++ lineEnding lines row) = returned block := by
  unfold lineEnding
  split
  · exact Or.inr rfl
  · exact Or.inl (by simp)

/-- Accepted documentation is in order, and it still is when its lines end like the lines around. -/
theorem issues_written [Parser] (hdeclared : Declared (splitLines text) t)
    (h : Accepted .patternBrace text t) {decl : Text}
    (hline : (splitLines text)[t.row]? = some decl) :
    SourceKind.issues .patternBrace { t.item with documentation := some (joinLines
      ((render (indent decl) t.documentation).map (· ++ lineEnding (splitLines text) t.row))) } =
        [] := by
  have hdecl : isDeclaration decl = true := by
    obtain ⟨line, hat, hline'⟩ := hdeclared
    rw [hline, Option.some.injEq] at hat
    exact hat ▸ hline'
  have hindent : '\n' ∉ indent decl := fun hc =>
    newline_notMem_of_mem_splitLines (List.mem_of_getElem? hline) (mem_of_mem_indent hc)
  have hplain : ∀ line ∈ render (indent decl) t.documentation, Plain line :=
    fun line hrender => plain_of_mem_render hindent hrender
  rw [Accepted, plannedBlock_eq hline hdecl] at h
  rcases map_lineEnding_eq_or (splitLines text) t.row (render (indent decl) t.documentation) with
    hended | hended
  · rw [hended]
    exact h
  · rw [hended]
    exact issues_returned (by decide) hplain h

/-- After an injection that settles a file every function is in order: one that was asked about has
the accepted documentation, and any other one has what it had. -/
theorem issues_of_carried [Parser] (h : Settles .patternBrace text targets)
    (hdeclared : ∀ t ∈ targets, Declared (splitLines text) t) {i j : Item} (hi : i ∈ items text)
    (hij : Carried (splitLines text) targets i j) : SourceKind.issues .patternBrace j = [] := by
  by_cases hasked : ∃ t ∈ targets, t.item = i
  · obtain ⟨t, ht, hitem⟩ := hasked
    obtain ⟨decl, hline, hdocumentation⟩ := hij.documented t ht hitem
    have hwritten := issues_written (hdeclared t ht) (h.accepted t ht) hline
    rw [hitem, ← hdocumentation] at hwritten
    rw [← hwritten]
    exact issues_congr hij.name_eq rfl
  · have hnone : ∀ t ∈ targets, t.item ≠ i := fun t ht hitem => hasked ⟨t, ht, hitem⟩
    have hissues : SourceKind.issues .patternBrace i = [] := by
      by_contra hissues
      have hmem : i ∈ targets.map (·.item) := by
        rw [h.items_eq]
        exact List.mem_filter.mpr ⟨hi, by simpa using hissues⟩
      obtain ⟨t, ht, hitem⟩ := List.mem_map.mp hmem
      exact hnone t ht hitem
    rw [issues_congr hij.name_eq (hij.untouched hnone), hissues]

/-- Accepted documentation for the unsettled functions of a file leaves none unsettled. -/
theorem settled_of_inject [Parser] (hclosed : ∀ line ∈ splitLines text, ClosesStrings line)
    (h : Settles .patternBrace text targets) :
    ∃ new, inject .patternBrace text targets = .ok new ∧ unsettled .patternBrace new = [] := by
  have hitems : ∀ t ∈ targets, t.item ∈ items text := by
    intro t ht
    have hmem : t.item ∈ unsettled .patternBrace text := h.items_eq ▸ List.mem_map_of_mem ht
    exact (List.mem_filter.mp hmem).1
  have hdeclared : ∀ t ∈ targets, Declared (splitLines text) t :=
    fun t ht => declared_of_mem_items (hitems t ht)
  obtain ⟨new, hinject⟩ : ∃ new, inject .patternBrace text targets = .ok new :=
    ⟨_, inject_of_declared hdeclared⟩
  have hcarried :=
    carried_of_inject hclosed hitems (distinct_of_settles hclosed h) h.nonblank hinject
  refine ⟨new, hinject, List.filter_eq_nil_iff.mpr fun j hj => ?_⟩
  obtain ⟨i, hi, hij⟩ : ∃ i ∈ items text, Carried (splitLines text) targets i j := by
    obtain ⟨k, rfl⟩ := List.mem_iff_get.mp hj
    have hk : k.1 < (items text).length := by
      rw [hcarried.length_eq]
      exact k.2
    exact ⟨_, List.get_mem (items text) ⟨k.1, hk⟩, hcarried.get hk k.2⟩
  simp [issues_of_carried h hdeclared hi hij]

end Brace

/-! ## Queries -/

namespace Query

theorem plain_of_mem_renderTitled {name documentation line : Text} (hnewline : '\n' ∉ name)
    (hreturn : '\r' ∉ name) (h : line ∈ renderTitled name documentation) : Plain line where
  nonempty := by
    rintro rfl
    have hstart := startsWith_of_mem_renderTitled h
    simp [Text.startsWith, marker] at hstart
  newline_notMem := newline_notMem_of_mem_renderTitled hnewline h
  hasReturn_eq := by
    rcases mem_renderTitled h with ⟨-, rfl⟩ | hrender
    · rw [hasReturn_titleLine]
      refine Bool.eq_false_iff.mpr fun hends => hreturn ?_
      rw [Splice.hasReturn, beq_iff_eq] at hends
      exact List.mem_of_getLast? hends
    · obtain ⟨source, -, rfl⟩ := List.mem_map.mp hrender
      exact hasReturn_renderLine source

theorem plannedBlock_eq [Parser] (text : Text) (t : Target) :
    plannedBlock .singleUnit text t = renderTitled t.item.name t.documentation := by
  simp [plannedBlock, SourceKind.planSplices, planSplices]

/-- The unit of a query file, and nothing else, may be unsettled. -/
theorem eq_singleton_of_settles [Parser] (hne : targets ≠ [])
    (h : Settles .singleUnit text targets) :
    ∃ t, targets = [t] ∧ t.item.name = unitName (splitLines text) := by
  have hlength : (targets.map (·.item)).length ≤ 1 := by
    rw [h.items_eq]
    exact List.length_filter_le _ (items text)
  rw [List.length_map] at hlength
  obtain ⟨t, rfl⟩ : ∃ t, targets = [t] := by
    refine List.length_eq_one_iff.mp (Nat.le_antisymm hlength ?_)
    exact List.length_pos_iff.mpr hne
  have hmem : t.item ∈ unsettled .singleUnit text := by
    rw [← h.items_eq]
    exact List.mem_singleton.mpr rfl
  have hunit := List.mem_singleton.mp (List.mem_filter.mp hmem).1
  exact ⟨t, rfl, congrArg Item.name hunit⟩

/-- A block is written as it was rendered, or with a carriage return on every line. -/
theorem written_eq_or (lines : List Text) (hnewline : '\n' ∉ t.item.name)
    (hreturn : '\r' ∉ t.item.name) :
    written lines t = renderTitled t.item.name t.documentation ∨
      written lines t = returned (renderTitled t.item.name t.documentation) := by
  by_cases hends : lines.head?.any Splice.hasReturn = true
  · refine Or.inr (List.map_congr_left fun line hline => ?_)
    have hplain : Plain line := plain_of_mem_renderTitled hnewline hreturn hline
    simp [endLike, hends, Splice.addReturn, hplain.hasReturn_eq]
  · refine Or.inl ?_
    have hsame : endLike lines = id := by
      funext line
      simp [endLike, hends]
    rw [written, hsame, List.map_id]

/-- Accepted documentation is in order, and it still is when its lines end like the first line. -/
theorem issues_written [Parser] (hnewline : '\n' ∉ t.item.name) (hreturn : '\r' ∉ t.item.name)
    (h : Accepted .singleUnit text t) :
    SourceKind.issues .singleUnit { t.item with
      documentation := some (joinLines (written (splitLines text) t)) } = [] := by
  have hplain : ∀ line ∈ renderTitled t.item.name t.documentation, Plain line :=
    fun line hline => plain_of_mem_renderTitled hnewline hreturn hline
  rw [Accepted, plannedBlock_eq] at h
  rcases written_eq_or (splitLines text) hnewline hreturn with hwritten | hwritten
  · rw [hwritten]
    exact h
  · rw [hwritten]
    exact issues_returned (by decide) hplain h

/-- Accepted documentation for the unit of a query file settles it. -/
theorem settled_of_inject [Parser] (hne : targets ≠ []) (h : Settles .singleUnit text targets) :
    ∃ new, inject .singleUnit text targets = .ok new ∧ unsettled .singleUnit new = [] := by
  obtain ⟨t, rfl, hname⟩ := eq_singleton_of_settles hne h
  have hclean : ∀ c : Char, isNameChar c = false → c ∉ placeholderName → c ∉ t.item.name :=
    fun c hc hplaceholder => hname ▸ notMem_unitName hc hplaceholder _
  have hnewline : '\n' ∉ t.item.name := hclean _ (by decide) (by decide)
  have hreturn : '\r' ∉ t.item.name := hclean _ (by decide) (by decide)
  have hwritten := issues_written hnewline hreturn (h.accepted t (List.mem_singleton.mpr rfl))
  refine ⟨_, inject_singleton text t, List.filter_eq_nil_iff.mpr fun j hj => ?_⟩
  have hdocumentation : j.documentation = some (joinLines (written (splitLines text) t)) := by
    have hmem : j.documentation ∈ (items (installed text t).toText).map (·.documentation) :=
      List.mem_map_of_mem hj
    rw [documentation_installed text hnewline] at hmem
    exact List.mem_singleton.mp hmem
  have hissues : SourceKind.issues .singleUnit j = [] := by
    rw [← hwritten]
    -- the documentation of a query file does not depend on the name of its unit
    simp only [SourceKind.issues, SourceKind.documentation?, hdocumentation]
    rfl
  simp [hissues]

end Query

/-! ## Either kind -/

/-- **Accepted documentation settles a file.**  When the documentation for all unsettled items is
accepted it can be installed, and no item of the rewritten file is unsettled. -/
theorem settled_of_inject [Parser] {kind : SourceKind} (hkind : kind ≠ .structured)
    (hclosed : kind = .patternBrace → ∀ line ∈ splitLines text, Brace.ClosesStrings line)
    (h : Settles kind text targets) :
    ∃ new, inject kind text targets = .ok new ∧ unsettled kind new = [] := by
  by_cases hne : targets = []
  · refine ⟨text, by rw [hne, inject_nil], ?_⟩
    rw [← h.items_eq, hne]
    rfl
  · cases kind with
    | structured => exact absurd rfl hkind
    | singleUnit => exact Query.settled_of_inject hne h
    | patternBrace => exact Brace.settled_of_inject (hclosed rfl) h

end DocSplice
