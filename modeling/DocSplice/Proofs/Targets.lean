import DocSplice.Injection

/-!
# The targets that count

`Target.resolve` keeps one target for every line and puts them in the order of their lines.

* Every target that counts was given (`mem_of_mem_resolve`), and every line that was asked for has
  one that counts (`exists_mem_resolve`).
* They come in strictly ascending order of their lines (`resolve_pairwise`).
* When no line was asked for twice, all targets count (`resolve_perm`).
-/

namespace DocSplice

namespace Target

/-- The line that the target asks documentation for. -/
abbrev line (t : Target) : Nat := t.item.firstLine

/-- The target that asks for documentation on a line and has nothing else to say. -/
def onLine (line : Nat) (documentation : String) : Target :=
  ⟨⟨[], .routine, [], line, line, none⟩, documentation.toList⟩

/-- No two targets are for the same line. -/
def Distinct (targets : List Target) : Prop := targets.Pairwise fun a b => a.line ≠ b.line

instance (targets : List Target) : Decidable (Distinct targets) :=
  inferInstanceAs (Decidable (targets.Pairwise fun a b => a.line ≠ b.line))

theorem Distinct.perm {a b : List Target} (h : a.Perm b) : Distinct a ↔ Distinct b :=
  h.pairwise_iff fun hne => Ne.symm hne

/-! ## One target for every line -/

theorem mem_place {t u : Target} {kept : List Target} (h : u ∈ place t kept) :
    u = t ∨ u ∈ kept := by
  induction kept with
  | nil => exact Or.inl (List.mem_singleton.mp h)
  | cons first rest ih =>
    unfold place at h
    split at h
    · rcases List.mem_cons.mp h with rfl | h
      · exact Or.inl rfl
      · exact Or.inr (List.mem_cons_of_mem first h)
    · rcases List.mem_cons.mp h with rfl | h
      · exact Or.inr List.mem_cons_self
      · rcases ih h with rfl | h
        · exact Or.inl rfl
        · exact Or.inr (List.mem_cons_of_mem first h)

theorem mem_place_self (t : Target) (kept : List Target) : t ∈ place t kept := by
  induction kept with
  | nil => exact List.mem_singleton.mpr rfl
  | cons first rest ih =>
    unfold place
    split
    · exact List.mem_cons_self
    · exact List.mem_cons_of_mem first ih

/-- A line that had a target still has one. -/
theorem exists_mem_place (t : Target) {u : Target} {kept : List Target} (h : u ∈ kept) :
    ∃ w ∈ place t kept, w.line = u.line := by
  induction kept with
  | nil => exact absurd h List.not_mem_nil
  | cons first rest ih =>
    unfold place
    split
    · rename_i heq
      rcases List.mem_cons.mp h with rfl | h
      · exact ⟨t, List.mem_cons_self, heq.symm⟩
      · exact ⟨u, List.mem_cons_of_mem t h, rfl⟩
    · rcases List.mem_cons.mp h with rfl | h
      · exact ⟨u, List.mem_cons_self, rfl⟩
      · obtain ⟨w, hw, hline⟩ := ih h
        exact ⟨w, List.mem_cons_of_mem first hw, hline⟩

theorem place_distinct (t : Target) {kept : List Target} (h : Distinct kept) :
    Distinct (place t kept) := by
  induction kept with
  | nil => exact List.pairwise_singleton _ t
  | cons first rest ih =>
    obtain ⟨hfirst, hrest⟩ := List.pairwise_cons.mp h
    unfold place
    split
    · rename_i heq
      have hnew : ∀ u ∈ rest, t.line ≠ u.line := by
        intro u hu
        show t.item.firstLine ≠ u.line
        rw [← heq]
        exact hfirst u hu
      exact List.pairwise_cons.mpr ⟨hnew, hrest⟩
    · rename_i hne
      have hkept : ∀ u ∈ place t rest, first.line ≠ u.line := by
        intro u hu
        rcases mem_place hu with rfl | hu
        · exact hne
        · exact hfirst u hu
      exact List.pairwise_cons.mpr ⟨hkept, ih hrest⟩

/-- A target for a new line comes last. -/
theorem place_eq_append {t : Target} {kept : List Target} (h : ∀ u ∈ kept, u.line ≠ t.line) :
    place t kept = kept ++ [t] := by
  induction kept with
  | nil => rfl
  | cons first rest ih =>
    have hrest : place t rest = rest ++ [t] :=
      ih fun u hu => h u (List.mem_cons_of_mem first hu)
    unfold place
    rw [if_neg (h first List.mem_cons_self), hrest]
    rfl

theorem mem_foldl_place {u : Target} (targets : List Target) {kept : List Target}
    (h : u ∈ targets.foldl (fun kept t => place t kept) kept) : u ∈ kept ∨ u ∈ targets := by
  induction targets generalizing kept with
  | nil => exact Or.inl h
  | cons t targets ih =>
    rcases ih h with h | h
    · rcases mem_place h with rfl | h
      · exact Or.inr List.mem_cons_self
      · exact Or.inl h
    · exact Or.inr (List.mem_cons_of_mem t h)

theorem exists_mem_foldl_place {u : Target} (targets : List Target) {kept : List Target}
    (h : u ∈ kept ∨ u ∈ targets) :
    ∃ w ∈ targets.foldl (fun kept t => place t kept) kept, w.line = u.line := by
  induction targets generalizing kept u with
  | nil => exact ⟨u, h.resolve_right List.not_mem_nil, rfl⟩
  | cons t targets ih =>
    have hnext : ∃ v, v.line = u.line ∧ (v ∈ place t kept ∨ v ∈ targets) := by
      rcases h with h | h
      · obtain ⟨w, hw, hline⟩ := exists_mem_place t h
        exact ⟨w, hline, Or.inl hw⟩
      · rcases List.mem_cons.mp h with rfl | h
        · exact ⟨u, rfl, Or.inl (mem_place_self u kept)⟩
        · exact ⟨u, rfl, Or.inr h⟩
    obtain ⟨v, hv, hmem⟩ := hnext
    obtain ⟨w, hw, hline⟩ := ih hmem
    exact ⟨w, hw, hline.trans hv⟩

theorem foldl_place_distinct (targets : List Target) {kept : List Target} (h : Distinct kept) :
    Distinct (targets.foldl (fun kept t => place t kept) kept) := by
  induction targets generalizing kept with
  | nil => exact h
  | cons t targets ih => exact ih (place_distinct t h)

theorem foldl_place_eq_append (targets : List Target) {kept : List Target}
    (h : Distinct (kept ++ targets)) :
    targets.foldl (fun kept t => place t kept) kept = kept ++ targets := by
  induction targets generalizing kept with
  | nil => exact (List.append_nil kept).symm
  | cons t targets ih =>
    have hnew : ∀ u ∈ kept, u.line ≠ t.line :=
      fun u hu => (List.pairwise_append.mp h).2.2 u hu t List.mem_cons_self
    have hshift : kept ++ t :: targets = (kept ++ [t]) ++ targets := by
      rw [List.append_assoc, List.singleton_append]
    rw [hshift] at h ⊢
    rw [List.foldl_cons, place_eq_append hnew, ih h]

/-! ## In the order of their lines -/

theorem insertByLine_perm (t : Target) (l : List Target) : (insertByLine t l).Perm (t :: l) := by
  induction l with
  | nil => exact List.Perm.refl _
  | cons first rest ih =>
    unfold insertByLine
    split
    · exact List.Perm.refl _
    · exact (List.Perm.cons first ih).trans (List.Perm.swap t first rest)

theorem sortByLine_perm (l : List Target) : (sortByLine l).Perm l := by
  induction l with
  | nil => exact List.Perm.refl _
  | cons t rest ih => exact (insertByLine_perm t _).trans (List.Perm.cons t ih)

theorem insertByLine_pairwise (t : Target) {l : List Target}
    (h : l.Pairwise fun a b => a.line ≤ b.line) :
    (insertByLine t l).Pairwise fun a b => a.line ≤ b.line := by
  induction l with
  | nil => exact List.pairwise_singleton _ t
  | cons first rest ih =>
    obtain ⟨hfirst, hrest⟩ := List.pairwise_cons.mp h
    unfold insertByLine
    split
    · rename_i hle
      have hall : ∀ u ∈ first :: rest, t.line ≤ u.line := by
        intro u hu
        rcases List.mem_cons.mp hu with rfl | hu
        · exact hle
        · exact Nat.le_trans hle (hfirst u hu)
      exact List.pairwise_cons.mpr ⟨hall, h⟩
    · rename_i hlt
      have hall : ∀ u ∈ insertByLine t rest, first.line ≤ u.line := by
        intro u hu
        rcases List.mem_cons.mp ((insertByLine_perm t rest).mem_iff.mp hu) with rfl | hu
        · exact Nat.le_of_lt (Nat.lt_of_not_le hlt)
        · exact hfirst u hu
      exact List.pairwise_cons.mpr ⟨hall, ih hrest⟩

theorem sortByLine_pairwise (l : List Target) :
    (sortByLine l).Pairwise fun a b => a.line ≤ b.line := by
  induction l with
  | nil => exact List.Pairwise.nil
  | cons t rest ih => exact insertByLine_pairwise t ih

/-! ## The targets that count -/

variable {targets : List Target}

theorem mem_resolve_iff {u : Target} : u ∈ resolve targets ↔ u ∈ latestPerLine targets :=
  (sortByLine_perm _).mem_iff

/-- What counts was given. -/
theorem mem_of_mem_resolve {u : Target} (h : u ∈ resolve targets) : u ∈ targets :=
  (mem_foldl_place targets (mem_resolve_iff.mp h)).resolve_left List.not_mem_nil

/-- Every line that was asked for has a target that counts. -/
theorem exists_mem_resolve {t : Target} (h : t ∈ targets) :
    ∃ u ∈ resolve targets, u.line = t.line := by
  have hsome : t ∈ ([] : List Target) ∨ t ∈ targets := Or.inr h
  obtain ⟨u, hu, hline⟩ := exists_mem_foldl_place targets hsome
  exact ⟨u, mem_resolve_iff.mpr hu, hline⟩

/-- The targets that count are in strictly ascending order of their lines. -/
theorem resolve_pairwise (targets : List Target) :
    (resolve targets).Pairwise fun a b => a.line < b.line := by
  have hdistinct : Distinct (resolve targets) :=
    (Distinct.perm (sortByLine_perm _)).mpr (foldl_place_distinct targets List.Pairwise.nil)
  exact ((sortByLine_pairwise _).and hdistinct).imp fun h => Nat.lt_of_le_of_ne h.1 h.2

/-- When no line was asked for twice, all targets count. -/
theorem resolve_perm (h : Distinct targets) : (resolve targets).Perm targets := by
  have hall : latestPerLine targets = targets := foldl_place_eq_append targets h
  rw [resolve, hall]
  exact sortByLine_perm targets

theorem resolve_eq_nil_iff : resolve targets = [] ↔ targets = [] := by
  constructor
  · intro h
    refine List.eq_nil_iff_forall_not_mem.mpr fun t ht => ?_
    obtain ⟨u, hu, -⟩ := exists_mem_resolve ht
    rw [h] at hu
    exact List.not_mem_nil hu
  · rintro rfl
    exact resolve_nil

@[simp] theorem resolve_singleton (t : Target) : resolve [t] = [t] := rfl

end Target

end DocSplice
