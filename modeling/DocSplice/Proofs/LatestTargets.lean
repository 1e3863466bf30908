import DocSplice.Grammar.Parser
import DocSplice.Proofs.Targets
import Mathlib.Data.List.Induction
import Mathlib.Data.List.Sort

/-!
# The last target for every line

Targets are put in one by one, each in place of the one that was there for its line, and are sorted
at the end.  Neither of the two shows in what counts: a target counts exactly when it is the last one
for its line (`mem_resolve_iff_lastFor?`), and a list that is sorted strictly is known by its members.
So the targets that count are a function of the last target for every line and of nothing else
(`resolve_eq_iff`).

An injection looks at the targets that count only.  Two lists with the same last targets are the same
to it: it writes the same text for both, or it fails for both with the same failure, although a
failure names the first target that is in the way (`inject_last_for_every_line`).
-/

namespace DocSplice

namespace Target

variable {targets a b : List Target} {t u : Target} {line : Nat}

/-- The last target for a line. -/
def lastFor? (targets : List Target) (line : Nat) : Option Target :=
  (targets.filter fun t => t.line == line).getLast?

@[simp] theorem lastFor?_nil (line : Nat) : lastFor? [] line = none := rfl

/-- A target at the end is the last one for its line and says nothing about other lines. -/
theorem lastFor?_append_singleton (targets : List Target) (t : Target) (line : Nat) :
    lastFor? (targets ++ [t]) line = if t.line = line then some t else lastFor? targets line := by
  have hlast : [t].filter (fun t => t.line == line) = if t.line = line then [t] else [] := by
    simp [List.filter_cons]
  rw [lastFor?, List.filter_append, List.getLast?_append, hlast]
  split
  · rfl
  · rfl

/-- The last target for a line is for that line. -/
theorem line_of_lastFor? (h : lastFor? targets line = some t) : t.line = line := by
  have hmem : t ∈ targets.filter fun t => t.line == line := List.mem_of_getLast? h
  exact beq_iff_eq.mp (List.mem_filter.mp hmem).2

/-! ## Which targets count -/

/-- A target that is put in takes the place of the one for its line and of no other. -/
theorem mem_place_iff {kept : List Target} (h : Distinct kept) :
    u ∈ place t kept ↔ u = t ∨ u ∈ kept ∧ u.line ≠ t.line := by
  induction kept with
  | nil => simp [place]
  | cons first rest ih =>
    obtain ⟨hfirst, hrest⟩ := List.pairwise_cons.mp h
    unfold place
    split
    · rename_i heq
      have heq : first.line = t.line := heq
      constructor
      · intro hu
        rcases List.mem_cons.mp hu with rfl | hu
        · exact Or.inl rfl
        · exact Or.inr ⟨List.mem_cons_of_mem first hu, fun hline =>
            hfirst u hu (heq.trans hline.symm)⟩
      · rintro (rfl | ⟨hu, hline⟩)
        · exact List.mem_cons_self
        · rcases List.mem_cons.mp hu with rfl | hu
          · exact absurd heq hline
          · exact List.mem_cons_of_mem t hu
    · rename_i hne
      have hne : first.line ≠ t.line := hne
      rw [List.mem_cons, ih hrest, List.mem_cons]
      constructor
      · rintro (rfl | rfl | ⟨hu, hline⟩)
        · exact Or.inr ⟨Or.inl rfl, hne⟩
        · exact Or.inl rfl
        · exact Or.inr ⟨Or.inr hu, hline⟩
      · rintro (rfl | ⟨rfl | hu, hline⟩)
        · exact Or.inr (Or.inl rfl)
        · exact Or.inl rfl
        · exact Or.inr (Or.inr ⟨hu, hline⟩)

theorem latestPerLine_append_singleton (targets : List Target) (t : Target) :
    latestPerLine (targets ++ [t]) = place t (latestPerLine targets) := by
  rw [latestPerLine, List.foldl_append]
  rfl

/-- The targets that are kept while others are put in are the last ones so far. -/
theorem mem_latestPerLine_iff : u ∈ latestPerLine targets ↔ lastFor? targets u.line = some u := by
  induction targets using List.reverseRecOn with
  | nil =>
    rw [lastFor?_nil]
    exact iff_of_false List.not_mem_nil (Option.some_ne_none u).symm
  | append_singleton targets t ih =>
    have hdistinct : Distinct (latestPerLine targets) :=
      foldl_place_distinct targets List.Pairwise.nil
    rw [latestPerLine_append_singleton, mem_place_iff hdistinct, ih, lastFor?_append_singleton]
    split
    · rename_i hline
      constructor
      · rintro (rfl | ⟨-, hne⟩)
        · rfl
        · exact absurd hline.symm hne
      · exact fun heq => Or.inl (Option.some.inj heq).symm
    · rename_i hline
      constructor
      · rintro (rfl | ⟨hlast, -⟩)
        · exact absurd rfl hline
        · exact hlast
      · exact fun hlast => Or.inr ⟨hlast, fun heq => hline heq.symm⟩

/-- **A target counts when it is the last one for its line.** -/
theorem mem_resolve_iff_lastFor? : u ∈ resolve targets ↔ lastFor? targets u.line = some u :=
  mem_resolve_iff.trans mem_latestPerLine_iff

/-- The targets that count are known by their members: they are sorted, no line coming up twice. -/
theorem resolve_eq_of_mem_iff (h : ∀ u, u ∈ resolve a ↔ u ∈ resolve b) : resolve a = resolve b := by
  have hirrefl : Std.Irrefl fun t u : Target => t.line < u.line := ⟨fun t => Nat.lt_irrefl t.line⟩
  have hantisymm : Std.Antisymm fun t u : Target => t.line < u.line :=
    ⟨fun t u htu hut => absurd hut (Nat.lt_asymm htu)⟩
  exact List.Pairwise.eq_of_mem_iff (resolve_pairwise a) (resolve_pairwise b) h

/-- **What counts is the last target for every line** and nothing else about the list. -/
theorem resolve_eq_iff : resolve a = resolve b ↔ ∀ line, lastFor? a line = lastFor? b line := by
  constructor
  · intro heq line
    have hlast : ∀ {c : List Target} {t : Target},
        lastFor? c line = some t ↔ t.line = line ∧ t ∈ resolve c := by
      intro c t
      constructor
      · intro h
        have hline : t.line = line := line_of_lastFor? h
        exact ⟨hline, mem_resolve_iff_lastFor?.mpr (hline ▸ h)⟩
      · rintro ⟨rfl, ht⟩
        exact mem_resolve_iff_lastFor?.mp ht
    ext t
    rw [hlast, hlast, heq]
  · intro h
    refine resolve_eq_of_mem_iff fun u => ?_
    rw [mem_resolve_iff_lastFor?, mem_resolve_iff_lastFor?, h]

/-- The order of targets for different lines does not matter. -/
theorem resolve_eq_of_perm (h : Distinct a) (hperm : a.Perm b) : resolve a = resolve b := by
  have hdistinct : Distinct b := (Distinct.perm hperm).mp h
  refine resolve_eq_of_mem_iff fun u => ?_
  rw [(resolve_perm h).mem_iff, (resolve_perm hdistinct).mem_iff, hperm.mem_iff]

end Target

open Target

/-- An injection depends on the targets that count. -/
theorem inject_congr [Parser] {kind : SourceKind} {text : Text} {a b : List Target}
    (h : resolve a = resolve b) : inject kind text a = inject kind text b := by
  rw [inject, inject, h]

/-- **An injection depends on the last target for every line.**  For any kind of source and any text,
two lists that have the same last target for every line, and none for the same lines, give the same
text or the same failure.  In particular, targets for different lines may come in any order. -/
theorem inject_last_for_every_line [Parser] (kind : SourceKind) (text : Text) (a b : List Target) :
    ((∀ line, lastFor? a line = lastFor? b line) → inject kind text a = inject kind text b) ∧
      (Distinct a → a.Perm b → inject kind text a = inject kind text b) := by
  constructor
  · intro h
    exact inject_congr (resolve_eq_iff.mpr h)
  · intro hdistinct hperm
    exact inject_congr (resolve_eq_of_perm hdistinct hperm)

/-- Two functions, of which one is asked for twice: what was asked for first and the order in which
the lines come up make no difference, nor does the order of the two targets that are left. -/
theorem inject_last_for_every_line_two_functions :
    let text := "f <- function(x) x\ng <- function(y) y\n".toList
    let a := [Target.onLine 2 "Old.", Target.onLine 1 "Left.", Target.onLine 2 "Right."]
    let b := [Target.onLine 1 "Left.", Target.onLine 2 "Right."]
    let c := [Target.onLine 2 "Right.", Target.onLine 1 "Left."]
    ((∀ line, lastFor? a line = lastFor? b line) ∧ Distinct b ∧ b.Perm c) ∧
      inject .patternBrace text a =
        .ok "#' Left.\nf <- function(x) x\n#' Right.\ng <- function(y) y\n".toList ∧
      inject .patternBrace text a = inject .patternBrace text b ∧
      inject .patternBrace text b = inject .patternBrace text c := by
  intro text a b c
  have hlast : ∀ line, lastFor? a line = lastFor? b line :=
    resolve_eq_iff.mp (by decide +kernel)
  have hdistinct : Distinct b := by decide
  have hperm : b.Perm c := List.Perm.swap _ _ _
  exact ⟨⟨hlast, hdistinct, hperm⟩, by decide +kernel,
    (inject_last_for_every_line .patternBrace text a b).1 hlast,
    (inject_last_for_every_line .patternBrace text b c).2 hdistinct hperm⟩

end DocSplice
