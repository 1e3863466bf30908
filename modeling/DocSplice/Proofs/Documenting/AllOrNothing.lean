import DocSplice.Grammar.Parser
import DocSplice.Proofs.Documenting.World
import Mathlib.Data.Set.Function

/-!
# All or nothing

Documenting a file reads it, makes its calls, and then writes the file once or not at all.  Whatever
the generator does to the files meanwhile, the work does not write over it.

* `World.afterCalls` and `World.offered`: the world that the calls leave behind, and the targets
  that they offer.
* `Replaces`: what has to hold after the calls for the file to be written.  There is something to
  install, it can be installed, and the file still has the fingerprint that was taken when it was
  read.
* `documentFile_of_replaces` and `documentFile_of_not_replaces`: the world after a run, when this
  holds and when it does not.
* `documentFile_all_or_nothing`: the two cases together.

The fingerprints are compared, and not the texts.  That the file still holds the text that was read
needs two texts that it held to have different fingerprints, which is the one assumption made here.
-/

namespace DocSplice

variable {μ : Type} {settings : ProcessingSettings} {party : Party μ} {detail : Detail}
  {path : Path} {w : World μ} {f : SourceFile}

/-! ## One run -/

namespace World

/-- The world after the calls that documenting a file makes, and before anything is written. -/
def afterCalls [Parser] (settings : ProcessingSettings) (party : Party μ) (detail : Detail)
    (path : Path) (w : World μ) : World μ :=
  match opened settings path w with
  | .error _ => w
  | .ok f => (ask party f detail f.pendingItems w).2

/-- What the calls have to offer: in the order of the file, the items that need documentation and
whose call returned a text that is not blank. -/
def offered [Parser] (settings : ProcessingSettings) (party : Party μ) (detail : Detail)
    (path : Path) (w : World μ) : List Target :=
  match opened settings path w with
  | .error _ => []
  | .ok f => answered f.pendingItems (ask party f detail f.pendingItems w).1

end World

/-- The text `new` is to take the place of a file that was read: there is something to install, it
can be installed, and where the path leads now there is still a file with the fingerprint that was
taken when it was read. -/
structure Replaces [Parser] (f : SourceFile) (offered : List Target) (s : Storage) (l : Location)
    (permissions : Nat) (new : Text) : Prop where
  some_offered : offered ≠ []
  inject_eq : inject f.kind f.text offered = .ok new
  unchanged : ∃ current, s.get f.path = .ok (l, .file (.text current) permissions) ∧
    Text.fingerprint current = f.fingerprint

/-- Documenting a file that was read and has items that need documentation. -/
theorem documentSource_pending [Parser] (hpending : f.pendingItems ≠ []) :
    documentSource World.host (some party.generator) detail false f w =
      installSettled World.host f
        (List.zipWith settle f.pendingItems (World.ask party f detail f.pendingItems w).1)
        (f.outcome false) (World.ask party f detail f.pendingItems w).2 := by
  have hsome : f.pendingItems.isEmpty = false := by simpa using hpending
  simp only [documentSource, hsome, Bool.or_self, Bool.false_eq_true, if_false, bind_apply,
    askAll_apply]

/-- Without items that need documentation no call is made. -/
theorem documentSource_settled [Parser] {m : Type → Type} [Monad m] {host : Host m}
    {generator : Option (Generator m)} (hpending : f.pendingItems = []) :
    documentSource host generator detail false f = pure (f.outcome false) := by
  simp [documentSource, hpending]

/-- What was offered is installed when nothing stands against it. -/
theorem installSettled_of_replaces [Parser] {settled : List Settled} {o : FileOutcome}
    {l : Location} {permissions : Nat} {new : Text}
    (h : Replaces f (targets settled) w.storage l permissions new) :
    installSettled World.host f settled o w =
      ({ (failures settled).foldl FileOutcome.recordFailure o with
          documented := (targets settled).length },
        { w with
          storage := w.storage.set l (.file (.text new) permissions)
          writes := w.writes ++ [(f.path, new)] }) := by
  obtain ⟨current, hget, hsame⟩ := h.unchanged
  have hsome : (targets settled).isEmpty = false := by simpa using h.some_offered
  simp only [installSettled, hsome, Bool.false_eq_true, if_false, h.inject_eq, bind_apply,
    World.replace_apply hget hsame new, pure_apply]

/-- Otherwise nothing is written and the file fails. -/
theorem installSettled_of_not_replaces [Parser] {settled : List Settled} (o : FileOutcome)
    (h : ∀ l permissions new, ¬ Replaces f (targets settled) w.storage l permissions new) :
    (installSettled World.host f settled o w).2 = w ∧
      (installSettled World.host f settled o w).1.success = false := by
  unfold installSettled
  by_cases hsome : (targets settled).isEmpty = true
  · simp [hsome, pure_apply, FileOutcome.fail, FileOutcome.success]
  · have hne : targets settled ≠ [] := by simpa using hsome
    simp only [hsome]
    cases hinject : inject f.kind f.text (targets settled) with
    | error failure => simp [pure_apply, FileOutcome.fail, FileOutcome.success]
    | ok new =>
      have hchanged : ∀ current, w.storage.read f.path = .ok current →
          Text.fingerprint current ≠ f.fingerprint := by
        intro current hread hsame
        obtain ⟨l, permissions, hget⟩ := Storage.read_eq_ok_iff.mp hread
        exact h l permissions new ⟨hne, hinject, current, hget, hsame⟩
      obtain ⟨failure, hrefused⟩ := World.replace_refused hchanged new
      simp [bind_apply, hrefused, pure_apply, FileOutcome.fail, FileOutcome.success]

theorem documentFile_apply [Parser] (generator : Option (Generator (StateM (World μ))))
    (dryRun : Bool) :
    documentFile World.host settings generator detail dryRun path w =
      match World.opened settings path w with
      | .error e => ((FileOutcome.start path dryRun).fail e.message, w)
      | .ok f => documentSource World.host generator detail dryRun f w := by
  rw [documentFile, bind_apply, World.read_apply]
  cases World.opened settings path w with
  | error e => rfl
  | ok f => rfl

theorem afterCalls_of_opened [Parser] (hopen : World.opened settings path w = .ok f) :
    World.afterCalls settings party detail path w =
      (World.ask party f detail f.pendingItems w).2 := by
  rw [World.afterCalls, hopen]

theorem offered_of_opened [Parser] (hopen : World.opened settings path w = .ok f) :
    World.offered settings party detail path w =
      answered f.pendingItems (World.ask party f detail f.pendingItems w).1 := by
  rw [World.offered, hopen]

theorem path_of_opened (hopen : World.opened settings path w = .ok f) : f.path = path := by
  obtain ⟨kind, status, text, -, -, -, -, rfl⟩ := World.opened_eq_ok_iff.mp hopen
  rfl

/-- Nothing that the party does is recorded as written by the work. -/
@[simp] theorem writes_afterCalls [Parser] :
    (World.afterCalls settings party detail path w).writes = w.writes := by
  unfold World.afterCalls
  cases World.opened settings path w with
  | error e => rfl
  | ok f => exact writes_ask party f detail f.pendingItems w

/-- The calls are made, and what they offer is installed. -/
theorem documentFile_pending [Parser] (party : Party μ) (detail : Detail)
    (hopen : World.opened settings path w = .ok f) (hpending : f.pendingItems ≠ []) :
    ∃ settled, targets settled = World.offered settings party detail path w ∧
      documentFile World.host settings (some party.generator) detail false path w =
        installSettled World.host f settled (f.outcome false)
          (World.afterCalls settings party detail path w) := by
  refine ⟨List.zipWith settle f.pendingItems (World.ask party f detail f.pendingItems w).1, ?_, ?_⟩
  · rw [targets_settle, offered_of_opened hopen]
  · rw [documentFile_apply, hopen, afterCalls_of_opened hopen]
    exact documentSource_pending hpending

/-! ## All or nothing -/

/-- A file whose new text may take its place is written, once, with that text. -/
theorem documentFile_of_replaces [Parser] {l : Location} {permissions : Nat} {new : Text}
    (hopen : World.opened settings path w = .ok f)
    (h : Replaces f (World.offered settings party detail path w)
      (World.afterCalls settings party detail path w).storage l permissions new) :
    let run := documentFile World.host settings (some party.generator) detail false path w
    let after := World.afterCalls settings party detail path w
    run.1.success = true ∧ run.2 = { after with
      storage := after.storage.set l (.file (.text new) permissions)
      writes := w.writes ++ [(path, new)] } := by
  have hpending : f.pendingItems ≠ [] := by
    intro hnil
    refine h.some_offered ?_
    rw [offered_of_opened hopen, hnil]
    rfl
  obtain ⟨settled, htargets, hrun⟩ :=
    documentFile_pending party detail hopen hpending
  rw [← htargets] at h
  rw [hrun, installSettled_of_replaces h, writes_afterCalls, path_of_opened hopen,
    FileOutcome.foldl_recordFailure]
  exact ⟨rfl, rfl⟩

/-- Otherwise nothing is written; and when a call was made the outcome is a failure. -/
theorem documentFile_of_not_replaces [Parser]
    (h : ∀ f l permissions new, World.opened settings path w = .ok f →
      ¬ Replaces f (World.offered settings party detail path w)
        (World.afterCalls settings party detail path w).storage l permissions new) :
    let run := documentFile World.host settings (some party.generator) detail false path w
    let after := World.afterCalls settings party detail path w
    run.2 = after ∧ (after = w ∨ run.1.success = false) := by
  cases hopen : World.opened settings path w with
  | error e =>
    rw [documentFile_apply, World.afterCalls, hopen]
    exact ⟨rfl, Or.inl rfl⟩
  | ok f =>
    by_cases hpending : f.pendingItems = []
    · have hnone : World.afterCalls settings party detail path w = w := by
        rw [afterCalls_of_opened hopen, hpending, ask_nil]
      rw [documentFile_apply, hopen, hnone]
      dsimp only
      rw [documentSource_settled hpending]
      exact ⟨rfl, Or.inl rfl⟩
    · obtain ⟨settled, htargets, hrun⟩ :=
        documentFile_pending party detail hopen hpending
      rw [← htargets] at h
      have hnot := installSettled_of_not_replaces (f.outcome false)
        fun l permissions new => h f l permissions new hopen
      rw [hrun]
      exact ⟨hnot.1, Or.inr hnot.2⟩

/-- **No update is lost, and a file is written as a whole or not at all.**  The generator may change
any file during its calls.  When the calls have something to offer that can be installed, and the
path still leads to a file with the fingerprint taken at the first read, the work writes the text of
the injection there, keeps the permissions and writes nothing else; and then the file still held the
text that was read, unless two texts that it held have the same fingerprint.  In every other case
the work writes nothing, and if the file has changed the outcome is a failure. -/
theorem documentFile_all_or_nothing [Parser] (settings : ProcessingSettings) (party : Party μ)
    (detail : Detail) (path : Path) (w : World μ)
    (hsha : Set.InjOn Text.fingerprint {t | w.storage.read path = .ok t ∨
      (World.afterCalls settings party detail path w).storage.read path = .ok t}) :
    let run := documentFile World.host settings (some party.generator) detail false path w
    let after := World.afterCalls settings party detail path w
    let offered := World.offered settings party detail path w
    (∀ f l permissions new, World.opened settings path w = .ok f →
      Replaces f offered after.storage l permissions new →
        w.storage.read path = .ok f.text ∧
        after.storage.get path = .ok (l, .file (.text f.text) permissions) ∧
        run.1.success = true ∧
        run.2 = { after with
          storage := after.storage.set l (.file (.text new) permissions)
          writes := w.writes ++ [(path, new)] } ∧
        run.2.storage.get path = .ok (l, .file (.text new) permissions)) ∧
      ((∀ f l permissions new, World.opened settings path w = .ok f →
          ¬ Replaces f offered after.storage l permissions new) →
        run.2 = after ∧ run.2.writes = w.writes ∧
        (run.2.storage.read path ≠ w.storage.read path → run.1.success = false)) := by
  intro run after offered
  constructor
  · intro f l permissions new hopen hreplaces
    obtain ⟨hsuccess, hrun⟩ := documentFile_of_replaces hopen hreplaces
    obtain ⟨current, hget, hsame⟩ := hreplaces.unchanged
    obtain ⟨kind, status, text, -, -, -, hread, rfl⟩ := World.opened_eq_ok_iff.mp hopen
    have hcurrent : after.storage.read path = .ok current :=
      Storage.read_eq_ok_iff.mpr ⟨l, permissions, hget⟩
    obtain rfl : current = text := hsha (Or.inr hcurrent) (Or.inl hread) hsame
    refine ⟨hread, hget, hsuccess, hrun, ?_⟩
    rw [hrun]
    exact Storage.get_set hget (.text new) permissions
  · intro hnone
    obtain ⟨hrun, hfail⟩ := documentFile_of_not_replaces hnone
    refine ⟨hrun, ?_, fun hchanged => hfail.resolve_left fun hsame => ?_⟩
    · rw [hrun, writes_afterCalls]
    · rw [hrun, hsame] at hchanged
      exact hchanged rfl

/-- A generator that answers its first call only, and writes a file of its own during every call. -/
def busyParty : Party Nat := fun _ shared =>
  let reply := if shared.1 = 0 then .ok "Gives a.".toList else .error (.serviceError "busy")
  (reply, shared.1 + 1, shared.2.set ["notes".toList] (.file (.text "Called.".toList) 0o644))

/-- The first of two functions is documented; the notes of the generator are there afterwards, and
they are not the work's. -/
theorem documentFile_all_or_nothing_busy_party :
    let path : Path := "pair.R".toList
    let text : Text := "f <- function(a) a\n\tg = \\(b) b\n".toList
    let new : Text := "#' Gives a.\nf <- function(a) a\n\tg = \\(b) b\n".toList
    let w : World Nat := ⟨⟨[([path], .file (.text text) 0o600)]⟩, 0, []⟩
    let settings : ProcessingSettings := ⟨1000, true, false⟩
    let run := documentFile World.host settings (some busyParty.generator) .concise false path w
    Set.InjOn Text.fingerprint {t | w.storage.read path = .ok t ∨
        (World.afterCalls settings busyParty .concise path w).storage.read path = .ok t} ∧
      run.1.success = true ∧ run.2.writes = [(path, new)] ∧
      run.2.storage.get path = .ok ([path], .file (.text new) 0o600) := by
  intro path text new w settings run
  have hopen : World.opened settings path w = .ok (.ofText path .patternBrace text) :=
    World.opened_eq_ok_iff.mpr ⟨.patternBrace, .file 31, text, by decide, by decide, by decide,
      by decide, rfl⟩
  have hoffered : World.offered settings busyParty .concise path w =
      [⟨⟨['f'], .routine, "f <- function(a) a".toList, 1, 1, none⟩, "Gives a.".toList⟩] := by
    rw [offered_of_opened hopen]
    decide +kernel
  have hget : (World.afterCalls settings busyParty .concise path w).storage.get path =
      .ok ([path], .file (.text text) 0o600) := by
    rw [afterCalls_of_opened hopen]
    decide +kernel
  have hread : (World.afterCalls settings busyParty .concise path w).storage.read path = .ok text :=
    Storage.read_eq_ok_iff.mpr ⟨_, _, hget⟩
  have hsha : Set.InjOn Text.fingerprint {t | w.storage.read path = .ok t ∨
      (World.afterCalls settings busyParty .concise path w).storage.read path = .ok t} := by
    have honly : ∀ t, w.storage.read path = .ok t ∨
        (World.afterCalls settings busyParty .concise path w).storage.read path = .ok t →
          t = text := by
      rintro t (ht | ht)
      · exact (Except.ok.inj ht).symm
      · rw [hread] at ht
        exact (Except.ok.inj ht).symm
    exact fun a ha b hb _ => (honly a ha).trans (honly b hb).symm
  have hreplaces : Replaces (.ofText path .patternBrace text)
      (World.offered settings busyParty .concise path w)
      (World.afterCalls settings busyParty .concise path w).storage [path] 0o600 new := by
    rw [hoffered]
    exact ⟨by decide, by decide +kernel, text, hget, rfl⟩
  obtain ⟨hwritten, -⟩ := documentFile_all_or_nothing settings busyParty .concise path w hsha
  obtain ⟨-, -, hsuccess, hrun, hnew⟩ := hwritten _ _ _ _ hopen hreplaces
  refine ⟨hsha, hsuccess, ?_, hnew⟩
  show run.2.writes = _
  rw [hrun]
  rfl

/-- A generator that rewrites the file while it is asked about it. -/
def meddlingParty : Party Unit := fun _ shared =>
  (.ok "Gives a.".toList, (), shared.2.set ["pair.R".toList] (.file (.text "f = 1\n".toList) 0o644))

/-- A file that has changed during the calls keeps what the other party wrote. -/
example :
    let path : Path := "pair.R".toList
    let w : World Unit := ⟨⟨[([path], .file (.text "f = \\(a) a\n".toList) 0o600)]⟩, (), []⟩
    let run := documentFile World.host ⟨1000, true, false⟩ (some meddlingParty.generator) .concise
      false path w
    run.1.error = some (Failure.changedOnDisk path).message ∧ run.2.writes = [] ∧
      run.2.storage.read path = .ok "f = 1\n".toList := by
  decide +kernel

end DocSplice
