import DocSplice.Grammar.Parser
import DocSplice.Proofs.Brace.Items

/-!
# Lines that begin inside a string

The declaration scan follows strings from the top of the file, but the run of marked lines above a
declaration is found by looking at the beginnings of lines alone.  A line that continues a string
and happens to start with the marker is therefore taken for documentation when it stands directly
above a function.

* `beginsInString`: the code scan, run over all lines from the top, is inside a string where the
  line begins.
* `keptLines`: the lines that an edit of documentation has no business with --- the lines that are
  not marked and the lines that begin inside a string.
* `keeps_strings_iff`: for a choice of extracted items, injections keep these lines, whatever is
  written, exactly when no line in the run above a chosen item begins inside a string.
* `loses_line_of_string`: where one does, it is lost.

That the condition is needed is an argument about gaps.  Both before and after an injection the
unmarked lines are the same, so a kept line has to be found between the same two unmarked lines as
before (`sublist_of_countP_eq`), and above a targeted declaration there is nothing to be found when
nothing was written.
-/

namespace DocSplice

/-- A sublist that holds as many marks as the list does fits in piece by piece: what stands before
a mark stays before it, and what stands behind stays behind. -/
theorem sublist_of_countP_eq {α : Type} {p : α → Bool} {a b c d : List α} {u v : α}
    (hu : p u = true) (hv : p v = true) (hbefore : a.countP p = c.countP p)
    (hbehind : b.countP p = d.countP p) (h : (a ++ u :: b).Sublist (c ++ v :: d)) :
    a.Sublist c ∧ b.Sublist d := by
  obtain ⟨x, y, hxy, hx, hy⟩ := List.sublist_append_iff.mp h
  have hcx : x.countP p ≤ c.countP p := hx.countP_le
  have hcy : y.countP p ≤ (v :: d).countP p := hy.countP_le
  have htotal : (a ++ u :: b).countP p = (x ++ y).countP p := by rw [hxy]
  rw [List.countP_append, List.countP_append, List.countP_cons_of_pos hu] at htotal
  rw [List.countP_cons_of_pos hv] at hcy
  rcases List.append_eq_append_iff.mp hxy with ⟨z, hxz, hz⟩ | ⟨z, haz, hyz⟩
  · -- the part that fits before the mark reaches up to the mark or past it
    cases z with
    | nil =>
      rw [List.nil_append] at hz
      rw [List.append_nil] at hxz
      rw [← hz] at hy
      refine ⟨hxz ▸ hx, ?_⟩
      rcases List.sublist_cons_iff.mp hy with hd | ⟨r, hr, hd⟩
      · have := hd.countP_le (p := p)
        rw [List.countP_cons_of_pos hu] at this
        omega
      · rw [(List.cons.inj hr).2]
        exact hd
    | cons w z =>
      have hw : u = w := (List.cons.inj hz).1
      rw [hxz, List.countP_append, ← hw, List.countP_cons_of_pos hu] at hcx
      omega
  · -- the part that fits behind the mark starts before it
    have hcount : z.countP p = 0 := by
      rw [haz, List.countP_append] at htotal hbefore
      rw [hyz, List.countP_append, List.countP_cons_of_pos hu] at hcy
      omega
    rcases List.sublist_cons_iff.mp hy with hd | ⟨r, hr, hd⟩
    · have := hd.countP_le (p := p)
      rw [hyz, List.countP_append, List.countP_cons_of_pos hu] at this
      omega
    · rw [hyz] at hr
      cases z with
      | nil =>
        rw [List.append_nil] at haz
        rw [(List.cons.inj hr).2]
        exact ⟨haz ▸ hx, hd⟩
      | cons w z =>
        have hw : w = v := (List.cons.inj hr).1
        rw [hw, List.countP_cons_of_pos hv] at hcount
        omega

namespace Brace

variable {text : Text} {lines : List Text} {targets : List Target}

/-- Where the code scan stands before a row, when every line from the top is scanned. -/
def scanBefore (lines : List Text) (row : Nat) : ScanState :=
  (lines.take row).foldl (fun state line => (state.scan line).2) .outside

/-- Whether the line of a row begins inside a string. -/
def beginsInString (lines : List Text) (row : Nat) : Bool := (scanBefore lines row).inString

/-- Whether an edit of documentation has no business with a row: its line is not marked, or begins
inside a string. -/
def isKept (lines : List Text) (row : Nat) : Bool :=
  !lines[row]?.any isMarked || beginsInString lines row

/-- The lines that an edit of documentation has no business with. -/
def keptLines (text : Text) : List Text :=
  (RowEdit.leave (isKept (Text.splitLines text))).apply (Text.splitLines text)

/-! ## The run of a declaration is a gap -/

/-- The rows that are picked hold every line that is not marked. -/
def PicksCode (lines : List Text) (p : Nat → Bool) : Prop :=
  ∀ row line, lines[row]? = some line → isMarked line = false → p row = true

/-- What is left of a stretch holds as many code lines as the stretch. -/
theorem countP_leave {p : Nat → Bool} {a b c : List Text} (hp : PicksCode lines p)
    (hcut : lines = a ++ (b ++ c)) :
    ((RowEdit.leave p).rowsFrom a.length b).countP (!isMarked ·) = b.countP (!isMarked ·) := by
  rw [List.countP_eq_length_filter, List.countP_eq_length_filter]
  refine congrArg List.length (RowEdit.filter_rowsFrom (fun _ line hline => ?_) ?_)
  · exact absurd hline List.not_mem_nil
  · intro i line hline hdrop
    refine Bool.eq_false_iff.mpr fun hm => ?_
    have hat : lines[a.length + i]? = some line := by
      rw [hcut, List.getElem?_append_right (Nat.le_add_right _ i), Nat.add_sub_cancel_left,
        List.getElem?_append_left (List.getElem?_eq_some_iff.mp hline).1]
      exact hline
    have hpick : p (a.length + i) = true := hp _ line hat (by simpa using hm)
    rw [RowEdit.drops_leave, hpick] at hdrop
    exact Bool.false_ne_true hdrop

/-- A code line stays between what is left above it and what is left below. -/
theorem leave_rowsFrom_cons {p : Nat → Bool} {a c : List Text} {line : Text}
    (hp : PicksCode lines p) (hcut : lines = a ++ line :: c) (hm : isMarked line = false)
    (below : List Text) :
    (RowEdit.leave p).rowsFrom a.length (line :: below) =
      line :: (RowEdit.leave p).rowsFrom (a.length + 1) below := by
  have hat : lines[a.length]? = some line := by
    rw [hcut, List.getElem?_append_right (Nat.le_refl _), Nat.sub_self]
    rfl
  have hstays : (RowEdit.leave p).drops a.length = false := by
    rw [RowEdit.drops_leave, hp _ line hat hm]
    rfl
  rw [RowEdit.rowsFrom_cons, RowEdit.above_leave, hstays]
  rfl

/-- Two choices of rows pick all code lines, and what the first leaves is found among what the
second leaves.  Then this is so inside every run above a declaration: the code line above the run
and the declaration below hold it in its place. -/
theorem leave_run_sublist {p q : Nat → Bool} {pre run post : List Text} {decl : Text}
    (hlines : lines = pre ++ (run ++ decl :: post)) (hdecl : isMarked decl = false)
    (hpre : ∀ line, pre.getLast? = some line → isMarked line = false)
    (hp : PicksCode lines p) (hq : PicksCode lines q)
    (h : ((RowEdit.leave p).apply lines).Sublist ((RowEdit.leave q).apply lines)) :
    ((RowEdit.leave p).rowsFrom pre.length run).Sublist
      ((RowEdit.leave q).rowsFrom pre.length run) := by
  have hcut : ∀ {r : Nat → Bool}, PicksCode lines r → (RowEdit.leave r).apply lines =
      ((RowEdit.leave r).rowsFrom 0 pre ++ (RowEdit.leave r).rowsFrom pre.length run) ++
        decl :: (RowEdit.leave r).rowsFrom (pre.length + run.length + 1) post := by
    intro r hr
    have hstays := leave_rowsFrom_cons hr
      (show lines = (pre ++ run) ++ decl :: post by rw [hlines, List.append_assoc]) hdecl post
    rw [List.length_append] at hstays
    rw [RowEdit.apply, RowEdit.above_leave, List.append_nil]
    conv => lhs; rw [hlines]
    rw [RowEdit.rowsFrom_append, RowEdit.rowsFrom_append, Nat.zero_add, hstays, List.append_assoc]
  have hpost : lines = (pre ++ (run ++ [decl])) ++ (post ++ []) := by
    rw [hlines, List.append_nil, List.append_assoc, List.append_assoc]
    rfl
  have hlen : (pre ++ (run ++ [decl])).length = pre.length + run.length + 1 := by
    rw [List.length_append, List.length_append, List.length_singleton, Nat.add_assoc]
  have hcode : (!isMarked decl) = true := by rw [hdecl]; rfl
  rw [hcut hp, hcut hq] at h
  -- cut off what stands below the declaration
  obtain ⟨habove, -⟩ := sublist_of_countP_eq (p := (!isMarked ·)) hcode hcode
    (by
      rw [List.countP_append, List.countP_append, countP_leave hp hlines, countP_leave hq hlines]
      exact congrArg (· + _) ((countP_leave (a := []) hp hlines).trans
        (countP_leave (a := []) hq hlines).symm))
    (by
      rw [← hlen]
      exact (countP_leave hp hpost).trans (countP_leave hq hpost).symm) h
  -- and what stands above the run, when anything does
  rcases pre.eq_nil_or_concat with rfl | ⟨first, last, hconcat⟩
  · exact habove
  · rw [List.concat_eq_append] at hconcat
    subst hconcat
    have hlast : isMarked last = false := hpre last List.getLast?_concat
    have hend : ∀ {r : Nat → Bool}, PicksCode lines r →
        (RowEdit.leave r).rowsFrom 0 (first ++ [last]) =
          (RowEdit.leave r).rowsFrom 0 first ++ [last] := by
      intro r hr
      have hstays := leave_rowsFrom_cons hr
        (show lines = first ++ last :: (run ++ decl :: post) by
          rw [hlines, List.append_assoc]
          rfl) hlast []
      rw [RowEdit.rowsFrom_append, Nat.zero_add, hstays]
      rfl
    have hfirst : lines = [] ++ (first ++ ([last] ++ (run ++ decl :: post))) := by
      rw [hlines, List.append_assoc]
      rfl
    have hlastcode : (!isMarked last) = true := by rw [hlast]; rfl
    rw [hend hp, hend hq, List.append_assoc, List.append_assoc, List.singleton_append,
      List.singleton_append] at habove
    exact (sublist_of_countP_eq (p := (!isMarked ·)) hlastcode hlastcode
      ((countP_leave hp hfirst).trans (countP_leave hq hfirst).symm)
      ((countP_leave hp hlines).trans (countP_leave hq hlines).symm) habove).2

/-! ## What an injection does to lines that begin inside a string -/

/-- The rows to be kept hold all code lines. -/
theorem picksCode_isKept (lines : List Text) : PicksCode lines (isKept lines) := by
  intro row line hline hm
  rw [isKept, hline, Option.any_some, hm]
  rfl

/-- Targets that count and write nothing add no line. -/
theorem above_install_of_empty (h : ∀ t ∈ targets, t.documentation = []) (row : Nat) :
    (install lines targets).above row = [] := by
  refine List.eq_nil_iff_forall_not_mem.mpr fun line hline => ?_
  obtain ⟨t, ht, -, hmem⟩ := mem_above_install.mp hline
  obtain ⟨given, hgiven, -⟩ := Splice.mem_adoptEnding hmem
  rw [plan, h t ht] at hgiven
  exact absurd hgiven List.not_mem_nil

/-- Kept lines are found after an injection when no line in the run above a target begins inside a
string. -/
theorem keptLines_sublist (hdecl : ∀ t ∈ targets, Declared (Text.splitLines text) t)
    (hout : ∀ t ∈ targets, ∀ row, InRunAbove isMarked (Text.splitLines text) t.row row →
      beginsInString (Text.splitLines text) row = false) :
    (keptLines text).Sublist (Text.splitLines (rewritten text targets).toText) := by
  have hcount := declared_resolve_iff.mpr hdecl
  rw [splitLines_rewritten hcount, keptLines, RowEdit.apply, RowEdit.apply,
    above_install_length hcount]
  refine List.Sublist.append (RowEdit.leave_sublist fun row _ hlt hkept => ?_)
    (List.Sublist.refl [])
  refine Bool.eq_false_iff.mpr fun hdrop => ?_
  obtain ⟨t, ht, hrun⟩ := (drops_install_iff hcount).mp hdrop
  obtain ⟨line, hline, hm⟩ := hrun.2 row (Nat.le_refl row) hrun.1
  rw [isKept, hline, Option.any_some, hm, hout t (Target.mem_of_mem_resolve ht) row hrun] at hkept
  exact Bool.false_ne_true hkept

/-- Kept lines are found after injections that write nothing only when no line in the run above a
target begins inside a string. -/
theorem not_beginsInString_of_sublist (hdecl : ∀ t ∈ targets, Declared (Text.splitLines text) t)
    (hempty : ∀ t ∈ targets, t.documentation = [])
    (h : (keptLines text).Sublist (Text.splitLines (rewritten text targets).toText))
    {t : Target} (ht : t ∈ targets) {row : Nat}
    (hrun : InRunAbove isMarked (Text.splitLines text) t.row row) :
    beginsInString (Text.splitLines text) row = false := by
  have hcount := declared_resolve_iff.mpr hdecl
  let left : Nat → Bool := fun row =>
    !(install (Text.splitLines text) (Target.resolve targets)).drops row
  have hnothing : ∀ row,
      (install (Text.splitLines text) (Target.resolve targets)).above row = [] :=
    above_install_of_empty fun u hu => hempty u (Target.mem_of_mem_resolve hu)
  have hleft : (install (Text.splitLines text) (Target.resolve targets)).apply
      (Text.splitLines text) = (RowEdit.leave left).apply (Text.splitLines text) := by
    rw [RowEdit.apply, RowEdit.apply, hnothing, RowEdit.above_leave]
    refine congrArg (· ++ []) (RowEdit.rowsFrom_congr fun i _ _ => ⟨hnothing i, ?_⟩)
    rw [RowEdit.drops_leave]
    exact (Bool.not_not _).symm
  have hcode : PicksCode (Text.splitLines text) left := by
    intro i line hline hm
    refine (Bool.not_eq_true' _).mpr (Bool.eq_false_iff.mpr fun hdrop => ?_)
    rw [isMarked_of_drops hcount hline hdrop] at hm
    exact Bool.false_ne_true hm.symm
  rw [splitLines_rewritten hcount, hleft, keptLines] at h
  obtain ⟨decl, hdeclared, hunmarked⟩ := (hdecl t ht).not_marked
  obtain ⟨pre, run, post, hlines, hstart, hstop, hmarked, hpre⟩ :=
    exists_run_split isMarked hdeclared
  have hgap := leave_run_sublist hlines hunmarked hpre (picksCode_isKept _) hcode h
  have hin := (inRunAbove_iff (Nat.le_of_lt (hdecl t ht).row_lt)).mp hrun
  have hgone : (RowEdit.leave left).rowsFrom pre.length run = [] := by
    refine RowEdit.rowsFrom_eq_nil fun i hi hlt => ⟨rfl, ?_⟩
    rw [RowEdit.drops_leave, Bool.not_not, drops_install_iff hcount]
    obtain ⟨u, hu, hline⟩ := Target.exists_mem_resolve ht
    have hrow : u.row = t.row := congrArg (· - 1) hline
    refine ⟨u, hu, hrow.symm ▸ ?_⟩
    exact (inRunAbove_iff (Nat.le_of_lt (hdecl t ht).row_lt)).mpr ⟨by omega, by omega⟩
  rw [hgone] at hgap
  have hrow := RowEdit.eq_false_of_leave_eq_nil (List.sublist_nil.mp hgap)
    (show pre.length ≤ row by omega) (by omega)
  rw [isKept, Bool.or_eq_false_iff] at hrow
  exact hrow.2

/-- **When injections keep what begins inside a string.**  Whatever documentation is written for a
choice of extracted items, the injection succeeds and keeps every code line and every line that
begins inside a string, unchanged and in order, exactly when no line in the run of marked lines
above a chosen item begins inside a string. -/
theorem keeps_strings_iff [Parser] (text : Text) (chosen : List Item)
    (h : ∀ i ∈ chosen, i ∈ items text) :
    (∀ targets : List Target, targets.map (·.item) = chosen →
      ∃ result, inject .patternBrace text targets = .ok result ∧
        (keptLines text).Sublist (Text.splitLines result)) ↔
      ∀ i ∈ chosen, ∀ row, InRunAbove isMarked (Text.splitLines text) (i.firstLine - 1) row →
        beginsInString (Text.splitLines text) row = false := by
  have hdecl : ∀ targets : List Target, targets.map (·.item) = chosen →
      ∀ t ∈ targets, Declared (Text.splitLines text) t := by
    rintro targets rfl t ht
    exact declared_of_mem_items (h t.item (List.mem_map_of_mem ht))
  constructor
  · intro hkeep i hi row hrun
    -- writing nothing is the case that tells
    have hitems : (chosen.map fun i => (⟨i, []⟩ : Target)).map (·.item) = chosen := by
      rw [List.map_map]
      exact List.map_id chosen
    have hmem : (⟨i, []⟩ : Target) ∈ chosen.map fun i => (⟨i, []⟩ : Target) :=
      List.mem_map_of_mem hi
    obtain ⟨result, hinject, hsub⟩ := hkeep _ hitems
    rw [inject_of_declared (hdecl _ hitems), Except.ok.injEq] at hinject
    subst hinject
    refine not_beginsInString_of_sublist (hdecl _ hitems) (fun t ht => ?_) hsub hmem hrun
    obtain ⟨_, -, rfl⟩ := List.mem_map.mp ht
    rfl
  · rintro hout targets rfl
    refine ⟨_, inject_of_declared (hdecl targets rfl), keptLines_sublist (hdecl targets rfl) ?_⟩
    exact fun t ht row hrun => hout t.item (List.mem_map_of_mem ht) row hrun

/-- Where the string ends above the run, the function is documented anew and the string stays. -/
theorem keeps_strings_above_run :
    let text := "x <- \"abc\n#' foo\"\ny <- 1\n#' Doc.\nf <- function() 1\n".toList
    (items text).map (·.name) = ["f".toList] ∧
      beginsInString (Text.splitLines text) 1 = true ∧
      ∀ targets : List Target, targets.map (·.item) = items text →
        ∃ result, inject .patternBrace text targets = .ok result ∧
          (keptLines text).Sublist (Text.splitLines result) := by
  intro text
  refine ⟨by decide +kernel, by decide +kernel, ?_⟩
  refine (keeps_strings_iff text (items text) fun _ hi => hi).mpr fun i hi row hrun => ?_
  have hlines : ∀ i ∈ items text, i.firstLine - 1 = 4 := by decide +kernel
  have hstart : startAbove isMarked (Text.splitLines text) 4 = 3 := by decide +kernel
  have hlen : 4 ≤ (Text.splitLines text).length := by decide +kernel
  rw [hlines i hi, inRunAbove_iff hlen, hstart] at hrun
  have hrow : row = 3 := by omega
  rw [hrow]
  decide +kernel

/-- **A line that begins inside a string is lost** when it looks like documentation of the function
below it: the string is opened two lines above, and its last line starts with the marker. -/
theorem loses_line_of_string :
    let text := "x <- \"abc\n#' foo\"\nf <- function() 1\n".toList
    let targets := (items text).map fun i => ⟨i, "Doc.".toList⟩
    let result := "x <- \"abc\n#' Doc.\nf <- function() 1\n".toList
    beginsInString (Text.splitLines text) 1 = true ∧
      inject .patternBrace text targets = .ok result ∧
      ¬ (keptLines text).Sublist (Text.splitLines result) := by
  decide +kernel

end Brace

end DocSplice
