import DocSplice.Documenting
import DocSplice.Proofs.Staging
import DocSplice.Proofs.Steps

/-!
# Documenting beside another party

While a file is being documented its generator may do anything: it keeps a memory of its own, it may
change any file during a call, and then it replies or fails.  Such a generator is a `Party`.

A `World` is the storage that the work and the party share, the memory of the party, and a record of
every file that the work has written.  `World.host` is the host of the work; only what succeeds
through it is recorded, and a staged text only when it takes the place of a file, so the record
tells what the work did and the storage tells what came of it.

* `World.ask`: the replies of a party to a list of items, and the world after the last call;
  `askAll_apply` says that the work makes these calls and no others.
* `answered`: the targets that come of the replies, in the order of the items (`targets_settle`).
* `World.opened`: the first read, which changes nothing (`World.read_apply`); what it gives is said
  by `World.opened_eq_ok_iff`.
* `World.install_apply`: the steps of an installation, run one after the other, put the new text
  into the place of the file under its permissions and leave nothing else behind.
* `World.replace_apply` and `World.replace_refused`: a file is replaced when its text still has the
  expected fingerprint, and nothing happens when there is no such text.
-/

namespace DocSplice

variable {α μ : Type}

/-- What the work and a generator share. -/
structure World (μ : Type) where
  storage : Storage
  /-- What the generator remembers. -/
  memory : μ
  /-- The files that the work has written, with the texts, the latest last. -/
  writes : List (Path × Text)

/-- A generator that may do anything during a call. -/
abbrev Party (μ : Type) := Call → StateM (μ × Storage) (Except GenerationFailure Text)

/-- The calls of a party leave no record: it is not the work that writes. -/
def Party.generator (party : Party μ) : Generator (StateM (World μ)) := fun call w =>
  let (reply, memory, storage) := party call (w.memory, w.storage)
  (reply, { w with memory := memory, storage := storage })

namespace World

/-- Look at the storage. -/
def look (view : Storage → α) : StateM (World μ) α := fun w => (view w.storage, w)

theorem look_apply (view : Storage → α) (w : World μ) : look view w = (view w.storage, w) := rfl

/-- Change the storage, and record the text that was written at a path. -/
def change (path : Path) (t : Text) (edit : Storage → Except StorageFailure Storage) :
    StateM (World μ) (Except StorageFailure Unit) := fun w =>
  match edit w.storage with
  | .ok s => (.ok (), { w with storage := s, writes := w.writes ++ [(path, t)] })
  | .error e => (.error e, w)

/-- Change the storage without a record. -/
def alter (edit : Storage → Except StorageFailure (α × Storage)) :
    StateM (World μ) (Except StorageFailure α) := fun w =>
  match edit w.storage with
  | .ok (a, s) => (.ok a, { w with storage := s })
  | .error e => (.error e, w)

/-- Put a file into the place that another path names, and record the text that it holds. -/
def moveInto (source target : Path) : StateM (World μ) (Except StorageFailure Unit) := fun w =>
  match w.storage.rename source target with
  | .ok s =>
    (.ok (), { w with
      storage := s
      writes := w.writes ++ (w.storage.read source).toOption.toList.map fun t => (target, t) })
  | .error e => (.error e, w)

/-- The host whose state is a world. -/
def host : Host (StateM (World μ)) where
  status path := look (·.status path)
  read path := look (·.read path)
  names path := look (·.names path)
  around path := look (·.around path)
  write path t := change path t (·.write path t)
  permissions path := look (·.permissions path)
  stage directory t := alter (·.stage directory t)
  setPermissions path permissions := alter fun s =>
    (s.setPermissions path permissions).map fun s' => ((), s')
  rename source target := moveInto source target
  remove path := fun w => ((), { w with storage := w.storage.remove path })

/-- The replies of a party to some items, and the world after the calls. -/
def ask (party : Party μ) (f : SourceFile) (detail : Detail) :
    List Item → World μ → List (Except GenerationFailure Text) × World μ
  | [], w => ([], w)
  | item :: rest, w =>
    let (reply, next) := party.generator (f.callFor detail item) w
    let (replies, last) := ask party f detail rest next
    (reply :: replies, last)

end World

/-- The target that an item and the reply to its call make. -/
def answer? (item : Item) : Except GenerationFailure Text → Option Target
  | .ok text => if Text.allBlank text then none else some ⟨item, text⟩
  | .error _ => none

/-- The items whose call returned a text that is not blank, in their order, with that text. -/
def answered (items : List Item) (replies : List (Except GenerationFailure Text)) : List Target :=
  (items.zip replies).filterMap fun call => answer? call.1 call.2

theorem answered_cons_ok {documentation : Text} (h : Text.allBlank documentation = false)
    (item : Item) (items : List Item) (replies : List (Except GenerationFailure Text)) :
    answered (item :: items) (.ok documentation :: replies) =
      ⟨item, documentation⟩ :: answered items replies := by
  simp [answered, answer?, h]

/-! ## Asking -/

theorem target?_settle (item : Item) (reply : Except GenerationFailure Text) :
    (settle item reply).target? = answer? item reply := by
  cases reply with
  | error e => rfl
  | ok text =>
    by_cases h : Text.allBlank text = true
    · simp [settle, answer?, Settled.target?, h]
    · simp [settle, answer?, Settled.target?, h]

/-- Asking for all items settles each of them with its reply. -/
theorem askAll_apply (party : Party μ) (f : SourceFile) (detail : Detail) (items : List Item)
    (w : World μ) :
    askAll party.generator f detail items w =
      (List.zipWith settle items (World.ask party f detail items w).1,
        (World.ask party f detail items w).2) := by
  induction items generalizing w with
  | nil => rfl
  | cons item rest ih =>
    rw [askAll, List.mapM_cons]
    simp only [bind_apply, pure_apply]
    have ih := ih (party.generator (f.callFor detail item) w).2
    rw [askAll] at ih
    rw [ih]
    rfl

theorem targets_settle (items : List Item) (replies : List (Except GenerationFailure Text)) :
    targets (List.zipWith settle items replies) = answered items replies := by
  rw [targets, answered, ← List.map_uncurry_zip_eq_zipWith, List.filterMap_map]
  refine congrArg (fun pick => (items.zip replies).filterMap pick) ?_
  funext call
  exact target?_settle call.1 call.2

@[simp] theorem ask_nil (party : Party μ) (f : SourceFile) (detail : Detail) (w : World μ) :
    World.ask party f detail [] w = ([], w) := rfl

/-- The calls of a party write nothing for the work. -/
@[simp] theorem writes_ask (party : Party μ) (f : SourceFile) (detail : Detail) (items : List Item)
    (w : World μ) : (World.ask party f detail items w).2.writes = w.writes := by
  induction items generalizing w with
  | nil => rfl
  | cons item rest ih => exact ih _

/-! ## Reading and replacing -/

namespace World

/-- What reading a file gives; the world stays as it is. -/
def opened (settings : ProcessingSettings) (path : Path) (w : World μ) :
    Except Failure SourceFile :=
  (SourceFile.read host settings path w).1

theorem still_host : (host : Host (StateM (World μ))).Still where
  status _ _ := rfl
  read _ _ := rfl
  names _ _ := rfl
  around _ _ := rfl

theorem read_apply (settings : ProcessingSettings) (path : Path) (w : World μ) :
    SourceFile.read host settings path w = (opened settings path w, w) :=
  Prod.ext rfl (still_host.readSource settings path w)

/-- A file that was read is of the kind its path says, and no larger than the settings allow. -/
theorem opened_eq_ok_iff {settings : ProcessingSettings} {path : Path} {w : World μ}
    {f : SourceFile} :
    opened settings path w = .ok f ↔
      ∃ kind status text, SourceKind.ofPath path = .ok kind ∧
        w.storage.status path = .ok status ∧ status.size ≤ settings.maxFileSize ∧
        w.storage.read path = .ok text ∧ f = SourceFile.ofText path kind text := by
  unfold opened SourceFile.read
  cases SourceKind.ofPath path with
  | error e => simp [pure_apply]
  | ok kind =>
    simp only [SourceFile.readAs, host, look_apply, bind_apply]
    cases w.storage.status path with
    | error e => simp [pure_apply]
    | ok status =>
      simp only
      split
      · rename_i hlarge
        simp [pure_apply, Nat.not_le.mpr hlarge]
      · rename_i hsmall
        simp only [bind_apply, look_apply]
        cases w.storage.read path with
        | error e => simp [pure_apply]
        | ok t => simp [pure_apply, Nat.not_lt.mp hsmall, eq_comm]

/-- **An installation** puts the new text into the place of a file, under the same permissions. -/
theorem install_apply {path : Path} {content : Content} {l : Location} {permissions : Nat}
    {w : World μ} (hget : w.storage.get path = .ok (l, .file content permissions)) (new : Text) :
    SourceFile.install host path new w =
      (.ok (), { w with
        storage := w.storage.set l (.file (.text new) permissions)
        writes := w.writes ++ [(path, new)] }) := by
  obtain ⟨staged, written, ready, hstage, -, hmode, -, hread, hrename⟩ :=
    Storage.installation_steps hget new
  simp only [SourceFile.install, SourceFile.putInPlace, host, bind_apply, look_apply,
    Storage.permissions_of_get hget, alter, hstage, hmode, Except.map, moveInto, hrename, hread,
    pure_apply, Except.toOption, Option.toList, List.map]

/-- Replacing a file that still has the expected fingerprint. -/
theorem replace_apply {path : Path} {expected : Fingerprint} {current : Text} {l : Location}
    {permissions : Nat} {w : World μ}
    (hget : w.storage.get path = .ok (l, .file (.text current) permissions))
    (hsame : Text.fingerprint current = expected) (rewritten : Text) :
    SourceFile.replace host path expected rewritten w =
      (.ok (), { w with
        storage := w.storage.set l (.file (.text rewritten) permissions)
        writes := w.writes ++ [(path, rewritten)] }) := by
  have hread : w.storage.read path = .ok current :=
    Storage.read_eq_ok_iff.mpr ⟨l, permissions, hget⟩
  have hlook : host.read path w = (.ok current, w) := by rw [← hread]; rfl
  simp only [SourceFile.replace, bind_apply, hlook, if_pos hsame]
  exact install_apply hget rewritten

/-- A file that does not have the expected fingerprint any more is not replaced. -/
theorem replace_refused {path : Path} {expected : Fingerprint} {w : World μ}
    (h : ∀ current, w.storage.read path = .ok current → Text.fingerprint current ≠ expected)
    (rewritten : Text) :
    ∃ failure, SourceFile.replace host path expected rewritten w = (.error failure, w) := by
  cases hread : w.storage.read path with
  | error e =>
    refine ⟨.storage e, ?_⟩
    simp only [SourceFile.replace, host, look_apply, bind_apply, hread, pure_apply]
  | ok current =>
    refine ⟨.changedOnDisk path, ?_⟩
    simp only [SourceFile.replace, host, look_apply, bind_apply, hread, if_neg (h current hread),
      pure_apply]

end World

end DocSplice
