import DocSplice.Checking
import DocSplice.Proofs.Documenting.AllOrNothing
import DocSplice.Proofs.Documenting.Settling

/-!
# Documenting twice

A file that is documented with a good generator is in order afterwards, and documenting it again has
nothing to do.

* `Scribe`: a generator that leaves the files alone.
* `Convincing`: its reply to an item is documentation that validation accepts, read from the lines
  that are planned for it.
* `InOrder`: a check has no issue to report, and documenting the file again changes nothing and
  skips every item, whatever generator there is.
* `inOrder_of_settled`: a file is in order when no item of it needs documentation.
* `documentFile_converges`: one run with a scribe whose replies are convincing puts a file in order.

The replies are judged by the lines that are planned.  That the lines in the file may end otherwise
makes no difference (`issues_returned`), and that the other items are found again with the
documentation they had is `Brace.carried_of_inject`.
-/

namespace DocSplice

variable {μ : Type} {settings : ProcessingSettings} {path : Path} {w : World μ} {f : SourceFile}

/-! ## Generators that leave the files alone -/

/-- A generator without file side effects: it remembers and replies. -/
abbrev Scribe (μ : Type) := Call → StateM μ (Except GenerationFailure Text)

/-- A scribe is a party that changes no file. -/
def Scribe.party (scribe : Scribe μ) : Party μ := fun call shared =>
  let (reply, memory) := scribe call shared.1
  (reply, memory, shared.2)

@[simp] theorem storage_ask_scribe (scribe : Scribe μ) (f : SourceFile) (detail : Detail)
    (items : List Item) (w : World μ) :
    (World.ask scribe.party f detail items w).2.storage = w.storage := by
  induction items generalizing w with
  | nil => rfl
  | cons item rest ih => exact ih _

/-- A reply that validation accepts as the documentation of an item. -/
def Convincing [Parser] (kind : SourceKind) (text : Text) (item : Item)
    (reply : Except GenerationFailure Text) : Prop :=
  ∃ documentation, reply = .ok documentation ∧ Text.allBlank documentation = false ∧
    Accepted kind text ⟨item, documentation⟩

/-- Convincing replies make a target of every item. -/
theorem answered_of_convincing [Parser] {kind : SourceKind} {text : Text} {items : List Item}
    {replies : List (Except GenerationFailure Text)}
    (h : List.Forall₂ (Convincing kind text) items replies) :
    (answered items replies).map (·.item) = items ∧
      ∀ t ∈ answered items replies, Text.allBlank t.documentation = false ∧
        Accepted kind text t := by
  induction h with
  | nil => exact ⟨rfl, fun t ht => absurd ht List.not_mem_nil⟩
  | @cons item reply items replies hreply _ ih =>
    obtain ⟨documentation, rfl, hblank, haccepted⟩ := hreply
    rw [answered_cons_ok hblank, List.map_cons, ih.1]
    refine ⟨rfl, fun t ht => ?_⟩
    rcases List.mem_cons.mp ht with rfl | ht
    · exact ⟨hblank, haccepted⟩
    · exact ih.2 t ht

/-- Convincing replies are what an injection asks for. -/
theorem settles_answered [Parser] {kind : SourceKind} {text : Text}
    {replies : List (Except GenerationFailure Text)}
    (h : List.Forall₂ (Convincing kind text) (unsettled kind text) replies) :
    Settles kind text (answered (unsettled kind text) replies) := by
  obtain ⟨hitems, hgood⟩ := answered_of_convincing h
  exact ⟨hitems, fun t ht => (hgood t ht).1, fun t ht => (hgood t ht).2⟩

/-! ## A file in order -/

theorem checkFile_apply [Parser] : checkFile World.host settings path w =
    match World.opened settings path w with
    | .error e => (⟨path, none, [], some e.message⟩, w)
    | .ok f => (f.check, w) := by
  rw [checkFile, bind_apply, World.read_apply]
  cases World.opened settings path w with
  | error e => rfl
  | ok f => rfl

/-- The file at a path, with so many items, is in order. -/
structure InOrder [Parser] (settings : ProcessingSettings) (path : Path) (w : World μ)
    (count : Nat) : Prop where
  /-- A check reports on every item, and has no issue to report. -/
  checked : let check := (checkFile World.host settings path w).1
    check.error = none ∧ check.items.length = count ∧ ∀ report ∈ check.items, report.issues = []
  /-- Documenting the file changes nothing and skips every item, whatever generator there is. -/
  skipped : ∀ (generator : Option (Generator (StateM (World μ)))) (detail : Detail),
    let run := documentFile World.host settings generator detail false path w
    run.2 = w ∧ run.1.success = true ∧ run.1.processed = count ∧ run.1.skipped = count

/-- The items of a text that need documentation are the unsettled ones. -/
theorem pendingItems_ofText [Parser] (path : Path) (kind : SourceKind) (text : Text) :
    (SourceFile.ofText path kind text).pendingItems = unsettled kind text :=
  SourceFile.pendingItems_eq _

/-- Documenting a file in order changes nothing, whatever generator there is. -/
theorem documentFile_settled [Parser] (hopen : World.opened settings path w = .ok f)
    (hsettled : f.pendingItems = []) (generator : Option (Generator (StateM (World μ))))
    (detail : Detail) :
    documentFile World.host settings generator detail false path w = (f.outcome false, w) := by
  rw [documentFile_apply, hopen]
  dsimp only
  rw [documentSource_settled hsettled]
  rfl

/-- A file that was read and has no item that needs documentation is in order. -/
theorem inOrder_of_settled [Parser] (hopen : World.opened settings path w = .ok f)
    (hsettled : f.pendingItems = []) : InOrder settings path w f.items.length where
  checked := by
    rw [checkFile_apply, hopen]
    refine ⟨rfl, List.length_map _, fun report hreport => ?_⟩
    obtain ⟨item, hitem, rfl⟩ := List.mem_map.mp hreport
    have hnone : f.kind.issues item = [] := by
      rw [SourceFile.pendingItems_eq] at hsettled
      simpa using List.filter_eq_nil_iff.mp hsettled item hitem
    exact hnone
  skipped generator detail := by
    rw [documentFile_settled hopen hsettled]
    have hinorder : ∀ item ∈ f.items, f.kind.isInOrder item = true := by
      simpa [SourceFile.pendingItems] using hsettled
    refine ⟨rfl, rfl, rfl, ?_⟩
    show (f.items.filter f.kind.isInOrder).length = f.items.length
    rw [List.filter_eq_self.mpr hinorder]

/-! ## Convergence -/

/-- A run with a scribe whose replies are convincing puts the rewritten text into the file. -/
theorem get_documentFile [Parser] {scribe : Scribe μ} {detail : Detail} {kind : SourceKind}
    {text new : Text} {l : Location} {permissions : Nat}
    (hopen : World.opened settings path w = .ok (.ofText path kind text))
    (hget : w.storage.get path = .ok (l, .file (.text text) permissions))
    (hinject : inject kind text (World.offered settings scribe.party detail path w) = .ok new)
    (hnone : World.offered settings scribe.party detail path w = [] → unsettled kind text = []) :
    let run := documentFile World.host settings (some scribe.party.generator) detail false path w
    run.1.success = true ∧ run.2.storage.get path = .ok (l, .file (.text new) permissions) := by
  by_cases hoffered : World.offered settings scribe.party detail path w = []
  · rw [hoffered, inject_nil, Except.ok.injEq] at hinject
    rw [documentFile_settled hopen ((pendingItems_ofText path kind text).trans (hnone hoffered))]
    exact ⟨rfl, hinject ▸ hget⟩
  · have hafter : (World.afterCalls settings scribe.party detail path w).storage = w.storage := by
      rw [afterCalls_of_opened hopen, storage_ask_scribe]
    have hreplaces : Replaces (.ofText path kind text)
        (World.offered settings scribe.party detail path w)
        (World.afterCalls settings scribe.party detail path w).storage l permissions new :=
      ⟨hoffered, hinject, text, hafter ▸ hget, rfl⟩
    obtain ⟨hsuccess, hrun⟩ := documentFile_of_replaces hopen hreplaces
    refine ⟨hsuccess, ?_⟩
    rw [hrun, hafter]
    exact Storage.get_set hget (.text new) permissions

/-- **Documenting converges.**  A query file, or a file of functions whose lines close the strings
they open, is documented by a generator that leaves the files alone and whose replies are
convincing.  The run succeeds, and if the rewritten file is not too large it is in order: a check
finds nothing to report, and a second run leaves the world as it is and counts every item as
skipped.  It does so with any generator: without one it still succeeds, and one that remembers its
calls has none to remember, so no call is made. -/
theorem documentFile_converges [Parser] (settings : ProcessingSettings) (scribe : Scribe μ)
    (detail : Detail) (path : Path) (w : World μ) (kind : SourceKind) (text : Text)
    (hkind : SourceKind.ofPath path = .ok kind) (hstructured : kind ≠ .structured)
    (hread : w.storage.read path = .ok text)
    (hsize : (Utf8.encode text).length ≤ settings.maxFileSize)
    (hclosed : kind = .patternBrace → ∀ line ∈ Text.splitLines text, Brace.ClosesStrings line)
    (hreplies : List.Forall₂ (Convincing kind text) (unsettled kind text)
      (World.ask scribe.party (.ofText path kind text) detail (unsettled kind text) w).1) :
    let run := documentFile World.host settings (some scribe.party.generator) detail false path w
    ∃ new, inject kind text (World.offered settings scribe.party detail path w) = .ok new ∧
      run.1.success = true ∧ run.2.storage.read path = .ok new ∧
      ((Utf8.encode new).length ≤ settings.maxFileSize →
        InOrder settings path run.2 (kind.items new).length) := by
  intro run
  obtain ⟨l, permissions, hget⟩ := Storage.read_eq_ok_iff.mp hread
  have hopen : World.opened settings path w = .ok (.ofText path kind text) :=
    World.opened_eq_ok_iff.mpr ⟨kind, _, text, hkind, Storage.status_of_get hget, hsize, hread, rfl⟩
  have hsettles : Settles kind text (World.offered settings scribe.party detail path w) := by
    rw [offered_of_opened hopen, pendingItems_ofText]
    exact settles_answered hreplies
  obtain ⟨new, hinject, hnew⟩ := settled_of_inject hstructured hclosed hsettles
  have hnone (hoffered : World.offered settings scribe.party detail path w = []) :
      unsettled kind text = [] := by
    rw [← hsettles.items_eq, hoffered]
    rfl
  obtain ⟨hsuccess, hget'⟩ := get_documentFile hopen hget hinject hnone
  have hread' : run.2.storage.read path = .ok new :=
    Storage.read_eq_ok_iff.mpr ⟨l, permissions, hget'⟩
  refine ⟨new, hinject, hsuccess, hread', fun hsize' => ?_⟩
  have hopen' : World.opened settings path run.2 = .ok (.ofText path kind new) :=
    World.opened_eq_ok_iff.mpr
      ⟨kind, _, new, hkind, Storage.status_of_get hget', hsize', hread', rfl⟩
  exact inOrder_of_settled hopen' ((pendingItems_ofText path kind new).trans hnew)

/-- Of two functions in a file with carriage returns one is in order.  The scribe is called for the
other one, and the carriage returns that its documentation gets do no harm. -/
theorem documentFile_converges_two_functions :
    let path : Path := "pair.R".toList
    let f := "#' Gives it back.\r\n#' @param a It.\r\n#' @return It.\r\nf = \\(a) a\r\n".toList
    let g := "g = \\(b) b\r\n".toList
    let block := "#' Gives it back.\r\n#' @param b It.\r\n#' @return It.\r\n".toList
    let reply := "Gives it back.\n@param b It.\n@return It.".toList
    let scribe : Scribe (List Text) := fun call calls => (.ok reply, calls ++ [call.code])
    let w : World (List Text) := ⟨⟨[([path], .file (.text (f ++ g)) 0o600)]⟩, [], []⟩
    let settings : ProcessingSettings := ⟨1000, true, false⟩
    let run := documentFile World.host settings (some scribe.party.generator) .concise false path w
    (SourceKind.ofPath path = .ok .patternBrace ∧ w.storage.read path = .ok (f ++ g) ∧
        (∀ line ∈ Text.splitLines (f ++ g), Brace.ClosesStrings line) ∧
        List.Forall₂ (Convincing .patternBrace (f ++ g)) (unsettled .patternBrace (f ++ g))
          (World.ask scribe.party (.ofText path .patternBrace (f ++ g)) .concise
            (unsettled .patternBrace (f ++ g)) w).1) ∧
      run.1.success = true ∧ run.2.storage.read path = .ok (f ++ block ++ g) ∧
      InOrder settings path run.2 2 := by
  intro path f g block reply scribe w settings run
  have hkind : SourceKind.ofPath path = .ok .patternBrace := by decide
  have hread : w.storage.read path = .ok (f ++ g) := rfl
  have hclosed : ∀ line ∈ Text.splitLines (f ++ g), Brace.ClosesStrings line := by decide +kernel
  have hpending : unsettled .patternBrace (f ++ g) =
      [⟨['g'], .routine, "g = \\(b) b\r".toList, 5, 5, none⟩] := by decide +kernel
  have hreplies : List.Forall₂ (Convincing .patternBrace (f ++ g))
      (unsettled .patternBrace (f ++ g))
      (World.ask scribe.party (.ofText path .patternBrace (f ++ g)) .concise
        (unsettled .patternBrace (f ++ g)) w).1 := by
    have hasked (item : Item) : (World.ask scribe.party (.ofText path .patternBrace (f ++ g))
        .concise [item] w).1 = [.ok reply] := rfl
    rw [hpending, hasked]
    exact .cons ⟨reply, rfl, by decide, by decide +kernel⟩ .nil
  obtain ⟨new, hinject, hsuccess, hwritten, hafter⟩ := documentFile_converges settings scribe
    .concise path w .patternBrace (f ++ g) hkind (by decide) hread (by decide +kernel)
    (fun _ => hclosed) hreplies
  have hoffered : World.offered settings scribe.party .concise path w =
      [⟨⟨['g'], .routine, "g = \\(b) b\r".toList, 5, 5, none⟩, reply⟩] := by decide +kernel
  have hnew : inject .patternBrace (f ++ g)
      [⟨⟨['g'], .routine, "g = \\(b) b\r".toList, 5, 5, none⟩, reply⟩] =
        .ok (f ++ block ++ g) := by decide +kernel
  rw [hoffered, hnew, Except.ok.injEq] at hinject
  have hcount : (SourceKind.items .patternBrace new).length = 2 := by
    rw [← hinject]
    decide +kernel
  have hsmall : (Utf8.encode new).length ≤ settings.maxFileSize := by
    rw [← hinject]
    decide +kernel
  have hrun : run = documentFile World.host settings (some scribe.party.generator) .concise false
      path w := rfl
  have horder := hafter hsmall
  rw [← hrun] at hsuccess hwritten horder
  rw [← hinject] at hwritten
  rw [hcount] at horder
  exact ⟨⟨hkind, hread, hclosed, hreplies⟩, hsuccess, hwritten, horder⟩

end DocSplice
