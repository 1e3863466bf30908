import DocSplice.Proofs.Query.NormalForm
import DocSplice.Proofs.Query.RoutineNames

/-!
# Documentation that is injected twice

Documentation is injected for the unit of a query file, and then once more for the unit that is
found in the result.  The second injection finds what the first one wrote, so one would expect that
it changes nothing.  Two things can go wrong.

The name of the unit is searched in all lines.  It is lost when the old documentation gave it, and
changed when the new one quotes a declaration (`unitName_installed`); the title follows the name.

The separator below the block is an empty line.  At the end of a file that no newline closes, it is
not read back as a line but as the newline that closes the block, so the second injection writes
another one (`toText_installed_installed_of_open`).

`document_document_iff` says that nothing else goes wrong.  `quotes_declaration` shows both.
-/

namespace DocSplice.Query

open Text

variable {text documentation : Text} {lines : List Text} {t : Target}

/-- Inject documentation for all items of a query file; there is one. -/
def document [Parser] (text documentation : Text) : Except Failure Text :=
  inject .singleUnit text ((items text).map fun item => ⟨item, documentation⟩)

/-- The target for the unit of a query file. -/
def unitTarget (text documentation : Text) : Target where
  item := Item.ofSpan .queryUnit (unitName (splitLines text)) (splitLines text) 1
    (splitLines text).length ((block (splitLines text)).map (·.text (splitLines text)))
  documentation := documentation

theorem document_eq [Parser] (text documentation : Text) :
    document text documentation = .ok (installed text (unitTarget text documentation)).toText :=
  inject_singleton text (unitTarget text documentation)

/-! ## The name of the result -/

/-- The line ending of a new line does not matter for what the line declares. -/
theorem routineName?_endLike (lines : List Text) (line : Text) :
    routineName? (endLike lines line) = routineName? line := by
  unfold endLike Splice.addReturn
  split
  · split
    · rfl
    · exact routineName?_append_blank (by decide) line
  · rfl

/-- Of the block that is written for a unit, the title declares nothing. -/
theorem findSome?_written (text documentation : Text) :
    (written (splitLines text) (unitTarget text documentation)).findSome? routineName? =
      (render documentation).findSome? routineName? := by
  have hends : routineName? ∘ endLike (splitLines text) = routineName? :=
    funext (routineName?_endLike (splitLines text))
  have hname : (unitTarget text documentation).item.name = unitName (splitLines text) := rfl
  rw [written, List.findSome?_map, hends, hname, renderTitled_eq]
  split
  · rfl
  · rw [List.findSome?_cons, routineName?_titleLine]
    rfl

theorem newline_notMem_unitName (text : Text) : '\n' ∉ unitName (splitLines text) :=
  notMem_unitName (by decide) (by decide) _

/-- **The name of the result** is the one that the documentation gives, or else the body. -/
theorem unitName_installed (text documentation : Text) :
    unitName (splitLines (installed text (unitTarget text documentation)).toText) =
      unitName (render documentation ++ body (splitLines text)) := by
  have hne : (installed text (unitTarget text documentation)).lines ≠ [] :=
    List.append_ne_nil_of_right_ne_nil _ (List.cons_ne_nil _ _)
  have hall : (installed text (unitTarget text documentation)).lines.findSome? routineName? =
      (render documentation ++ body (splitLines text)).findSome? routineName? := by
    have hblank : routineName? (endLike (splitLines text) []) = none := by
      rw [routineName?_endLike]
      rfl
    rw [installed, List.findSome?_append, findSome?_written, List.findSome?_cons, hblank,
      List.findSome?_append]
  rw [unitName, unitName, ← hall]
  rcases LineBuffer.splitLines_toText_or hne fun line hline =>
      newline_notMem_of_mem_installed (newline_notMem_unitName text) hline with
    ⟨hlines, -⟩ | ⟨front, hfront, -, hlines⟩
  · rw [hlines]
  · -- the line that is not read back is empty
    have hempty : routineName? [] = none := rfl
    rw [hlines, hfront, List.findSome?_append, List.findSome?_cons, hempty, List.findSome?_nil,
      Option.or_none]

/-! ## The text of the result -/

theorem written_ne_nil (lines : List Text) (t : Target) : written lines t ≠ [] := by
  obtain ⟨first, rest, hcons, -⟩ := exists_written_eq_cons lines t
  rw [hcons]
  exact List.cons_ne_nil first rest

theorem newline_notMem_of_mem_written (hname : '\n' ∉ t.item.name) {line : Text}
    (h : line ∈ written (splitLines text) t) : '\n' ∉ line := by
  have hinstalled : line ∈ (installed text t).lines := List.mem_append_left _ h
  exact newline_notMem_of_mem_installed hname hinstalled

/-- Without a title that brings a carriage return, a second injection for the same name writes the
same block above what is left below the first one. -/
theorem installed_installed_eq (hname : '\n' ∉ t.item.name) (htitle : titleReturns t = false)
    {below : List Text} (hread : ReadBack text t below) :
    installed (installed text t).toText t =
      ⟨written (splitLines text) t ++ endLike (splitLines text) [] :: dropSeparator below,
        endsWithNewline (installed text t).toText⟩ := by
  obtain ⟨first, rest, -, hheaded⟩ := hread.headed
  have hends : endLike (splitLines (installed text t).toText) = endLike (splitLines text) := by
    funext line
    rw [endLike, endLike, head_installed text hname, htitle, Bool.or_false]
  rw [installed, written, hends, hheaded.body_eq]
  rfl

/-- A second injection for the same name changes nothing in a file whose lines are read back. -/
theorem installed_installed_of_proper (hname : '\n' ∉ t.item.name) (htitle : titleReturns t = false)
    (hproper : (installed text t).Proper) :
    installed (installed text t).toText t = installed text t := by
  obtain ⟨below, hread⟩ := exists_readBack text hname
  have hbelow : below = endLike (splitLines text) [] :: body (splitLines text) := by
    have hlines := hread.lines_eq
    rw [LineBuffer.splitLines_toText hproper] at hlines
    exact (List.append_cancel_left hlines).symm
  rw [installed_installed_eq hname htitle hread, hbelow, dropSeparator,
    if_pos (allBlank_endLike_nil _), LineBuffer.endsWithNewline_toText hproper]
  rfl

/-- In the empty file the first injection leaves two empty lines that no newline closes.  One of
them is read back as a line and the other one as the newline that closes it. -/
theorem toText_installed_installed_nil (hname : '\n' ∉ t.item.name)
    (htitle : titleReturns t = false) :
    (installed (installed [] t).toText t).toText = (installed [] t).toText := by
  have htext : (installed [] t).toText =
      LineBuffer.toText ⟨written (splitLines []) t ++ [[]], true⟩ := by
    have hlines : installed [] t = ⟨(written (splitLines []) t ++ [[]]) ++ [[]], false⟩ := by
      rw [List.append_assoc]
      rfl
    rw [hlines, LineBuffer.toText_append_nil (by simp)]
  have hproper : LineBuffer.Proper ⟨written (splitLines []) t ++ [[]], true⟩ := by
    refine ⟨by simp, fun line hline => ?_, fun h => absurd h (by simp)⟩
    rcases List.mem_append.mp hline with hline | hline
    · exact newline_notMem_of_mem_written hname hline
    · rw [List.mem_singleton.mp hline]
      exact List.not_mem_nil
  obtain ⟨below, hread⟩ := exists_readBack [] hname
  have hbelow : below = [[]] := by
    have hlines := hread.lines_eq
    rw [htext, LineBuffer.splitLines_toText hproper] at hlines
    exact (List.append_cancel_left hlines).symm
  rw [installed_installed_eq hname htitle hread, hbelow, htext,
    LineBuffer.endsWithNewline_toText hproper]
  rfl

/-- A block at the end of a file that no newline closes is closed by the newline below it, which
stands for the separator; the second injection writes another one. -/
theorem toText_installed_installed_of_open (hname : '\n' ∉ t.item.name)
    (htitle : titleReturns t = false) (hbody : body (splitLines text) = [])
    (hfinal : endsWithNewline text = false)
    (hfirst : (splitLines text).head?.any Splice.hasReturn = false) :
    (installed (installed text t).toText t).toText = (installed text t).toText ++ ['\n'] := by
  have hwritten : written (splitLines text) t ≠ [] := written_ne_nil _ t
  have hseparator : endLike (splitLines text) [] = [] := by
    rw [endLike, hfirst, if_neg Bool.false_ne_true]
  have htext : (installed text t).toText = LineBuffer.toText ⟨written (splitLines text) t, true⟩ := by
    rw [installed, hbody, hseparator, hfinal, LineBuffer.toText_append_nil hwritten]
  have hproper : LineBuffer.Proper ⟨written (splitLines text) t, true⟩ :=
    ⟨hwritten, fun _ => newline_notMem_of_mem_written hname, fun h => absurd h (by simp)⟩
  obtain ⟨below, hread⟩ := exists_readBack text hname
  have hbelow : below = [] := by
    have hlines := hread.lines_eq
    rw [htext, LineBuffer.splitLines_toText hproper] at hlines
    exact List.append_right_eq_self.mp hlines.symm
  rw [installed_installed_eq hname htitle hread, hbelow, htext,
    LineBuffer.endsWithNewline_toText hproper, hseparator, dropSeparator]
  simp only [LineBuffer.toText, joinLines]
  rw [join_append_singleton [] hwritten]
  rfl

/-- Whether a file that ends with its documentation keeps the separator below it apart from the
newline that closes the block. -/
def KeepsSeparator (text : Text) : Prop :=
  body (splitLines text) = [] →
    endsWithNewline text = true ∨ (splitLines text).head?.any Splice.hasReturn = true

/-- Apart from the empty file, where the separator is kept the lines are read back. -/
theorem proper_installed (hname : '\n' ∉ t.item.name) (htext : text ≠ [])
    (hkeeps : KeepsSeparator text) : (installed text t).Proper where
  nonempty := List.append_ne_nil_of_right_ne_nil _ (List.cons_ne_nil _ _)
  clean _ := newline_notMem_of_mem_installed hname
  closed := by
    intro hfinal hlast
    have hopen : endsWithNewline text = false := hfinal
    exfalso
    cases hbody : body (splitLines text) with
    | nil =>
      rcases hkeeps hbody with hends | hfirst
      · exact absurd (hends.symm.trans hopen) (by decide)
      · rw [installed, hbody, List.getLast?_concat, endLike, if_pos hfirst] at hlast
        exact absurd hlast (by decide)
    | cons line rest =>
      rw [installed, List.getLast?_append_of_ne_nil _ (List.cons_ne_nil _ _), hbody,
        List.getLast?_cons_of_ne_nil (List.cons_ne_nil line rest), ← hbody] at hlast
      exact htext (eq_nil_of_body_last hopen hlast)

/-- **A second injection for the same name changes nothing** unless it has to write the separator
once more. -/
theorem toText_installed_installed_iff (hname : '\n' ∉ t.item.name)
    (htitle : titleReturns t = false) :
    (installed (installed text t).toText t).toText = (installed text t).toText ↔
      KeepsSeparator text := by
  constructor
  · intro hsame hbody
    by_contra hno
    rw [not_or, Bool.not_eq_true, Bool.not_eq_true] at hno
    rw [toText_installed_installed_of_open hname htitle hbody hno.1 hno.2] at hsame
    exact absurd (List.append_right_eq_self.mp hsame) (List.cons_ne_nil _ _)
  · intro hkeeps
    by_cases htext : text = []
    · rw [htext, toText_installed_installed_nil hname htitle]
    · rw [installed_installed_of_proper hname htitle (proper_installed hname htext hkeeps)]

/-! ## Both together -/

theorem titleReturns_unitTarget (text documentation : Text) :
    titleReturns (unitTarget text documentation) = false := by
  have hname : Splice.hasReturn (unitName (splitLines text)) = false := by
    refine Bool.eq_false_iff.mpr fun hreturn => ?_
    have hmem := List.mem_of_getLast? (beq_iff_eq.mp hreturn)
    exact notMem_unitName (by decide) (by decide) _ hmem
  rw [titleReturns, Bool.and_eq_false_iff]
  exact Or.inr hname

/-- What is installed for a target is decided by its name and its documentation. -/
theorem installed_eq_of_name {u : Target} (hname : u.item.name = t.item.name)
    (hdocumentation : u.documentation = t.documentation) : installed text u = installed text t := by
  rw [installed, installed, written, written, hname, hdocumentation]

/-- **Reinjection.**  For every query file and every documentation, the unit keeps its name and the
same documentation injected again changes nothing, exactly when the first routine that the
documentation or else the body declares is the one that named the unit before, and the file keeps
the separator. -/
theorem document_document_iff [Parser] (text documentation : Text) :
    ∃ out, document text documentation = .ok out ∧
      ((items out).map (·.name) = (items text).map (·.name) ∧
          document out documentation = .ok out ↔
        unitName (render documentation ++ body (splitLines text)) = unitName (splitLines text) ∧
          (body (splitLines text) = [] → endsWithNewline text = true ∨
            (splitLines text).head?.any Splice.hasReturn = true)) := by
  refine ⟨_, document_eq text documentation, ?_⟩
  have hnames : (items (installed text (unitTarget text documentation)).toText).map (·.name) =
        (items text).map (·.name) ↔
      unitName (render documentation ++ body (splitLines text)) = unitName (splitLines text) := by
    rw [← unitName_installed text documentation]
    exact List.singleton_inj
  have hclean : '\n' ∉ (unitTarget text documentation).item.name := newline_notMem_unitName text
  have htitle := titleReturns_unitTarget text documentation
  rw [hnames]
  refine and_congr_right fun hsame => ?_
  have hagain : installed (installed text (unitTarget text documentation)).toText
      (unitTarget (installed text (unitTarget text documentation)).toText documentation) =
      installed (installed text (unitTarget text documentation)).toText
        (unitTarget text documentation) :=
    installed_eq_of_name ((unitName_installed text documentation).trans hsame) rfl
  rw [document_eq, hagain, Except.ok.injEq]
  exact toText_installed_installed_iff hclean htitle

/-- **Documentation that quotes a declaration, and a file that is only a block.**  The first names
the unit of a file that declares nothing, and the next injection writes another title; the second
grows by a line with every injection. -/
theorem quotes_declaration :
    (items "SELECT 1;\n".toList).map (·.name) = [placeholderName] ∧
      document "SELECT 1;\n".toList "CREATE FUNCTION foo()".toList =
        .ok "-- # SQL Query\n-- CREATE FUNCTION foo()\n\nSELECT 1;\n".toList ∧
      (items "-- # SQL Query\n-- CREATE FUNCTION foo()\n\nSELECT 1;\n".toList).map (·.name) =
        ["foo".toList] ∧
      document "-- # SQL Query\n-- CREATE FUNCTION foo()\n\nSELECT 1;\n".toList
          "CREATE FUNCTION foo()".toList =
        .ok "-- # foo\n-- CREATE FUNCTION foo()\n\nSELECT 1;\n".toList ∧
      document "-- # T".toList "# T".toList = .ok "-- # T\n".toList ∧
      document "-- # T\n".toList "# T".toList = .ok "-- # T\n\n".toList := by
  decide +kernel

end DocSplice.Query
