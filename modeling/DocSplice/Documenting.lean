import DocSplice.Discovery
import DocSplice.Generator
import DocSplice.Injection
import DocSplice.SourceFile
import DocSplice.Validation

/-!
# Documenting files

Documenting a file goes in four steps: read it, see which items have documentation that is missing
or not in order, ask the generator for each of these, and install what came back.

A call that fails, or that gives a blank text, costs its item the documentation and nothing else;
only when no call succeeds the file fails.  The file is written at most once, at the very end, and
only if it still holds the text that the items were found in.  In a dry run the work ends before
the generator is asked.

The steps between reading and writing are functions of values (`pendingItems`, `settle`, `targets`,
`failures`), so what they do can be stated without any file system.
-/

namespace DocSplice

/-- An item that got no documentation, and why. -/
structure FailedItem where
  name : Text
  firstLine : Nat
  reason : String
  deriving DecidableEq, Repr

/-- What documenting a file came to. -/
structure FileOutcome where
  path : Path
  /-- The kind of the file, once it was read. -/
  kind : Option SourceKind
  dryRun : Bool
  /-- The number of items in the file. -/
  processed : Nat
  /-- The number of items that need documentation. -/
  pending : Nat
  /-- The number of items whose documentation was written. -/
  documented : Nat
  /-- The number of items that are in order. -/
  skipped : Nat
  /-- The number of items whose call failed. -/
  failed : Nat
  /-- The items whose call failed. -/
  failures : List FailedItem
  /-- Why the file failed, if it did. -/
  error : Option String
  deriving DecidableEq, Repr

namespace FileOutcome

/-- Nothing is known of the file yet. -/
def start (path : Path) (dryRun : Bool) : FileOutcome :=
  ⟨path, none, dryRun, 0, 0, 0, 0, 0, [], none⟩

/-- The file failed. -/
def fail (o : FileOutcome) (reason : String) : FileOutcome := { o with error := some reason }

/-- Whether the file did not fail. -/
def success (o : FileOutcome) : Bool := o.error.isNone

/-- Count an item that got no documentation, and say why. -/
def recordFailure (o : FileOutcome) (item : FailedItem) : FileOutcome :=
  { o with failed := o.failed + 1, failures := o.failures ++ [item] }

/-- Recording failures counts them all, and changes nothing else. -/
theorem foldl_recordFailure (items : List FailedItem) (o : FileOutcome) :
    items.foldl recordFailure o =
      { o with failed := o.failed + items.length, failures := o.failures ++ items } := by
  induction items generalizing o with
  | nil => simp
  | cons item rest ih =>
    rw [List.foldl_cons, ih, recordFailure]
    simp only [List.length_cons, List.append_assoc, List.singleton_append]
    congr 1
    omega

end FileOutcome

/-- The issues of an item's documentation. -/
def SourceKind.issues (kind : SourceKind) (item : Item) : List Issue :=
  validate (kind.documentation? item)

/-- Whether an item is left as it is: it has documentation, and nothing is wrong with it. -/
def SourceKind.isInOrder (kind : SourceKind) (item : Item) : Bool :=
  match item.documentation with
  | none => false
  | some _ => (kind.issues item).isEmpty

/-- An item without documentation has an issue too, the one that says so. -/
theorem SourceKind.isInOrder_eq (kind : SourceKind) (item : Item) :
    kind.isInOrder item = (kind.issues item).isEmpty := by
  unfold SourceKind.isInOrder
  split
  · rename_i hnone
    rw [SourceKind.issues, SourceKind.documentation?, hnone]
    rfl
  · rfl

namespace SourceFile

/-- The items whose documentation is missing or not in order. -/
def pendingItems [Parser] (f : SourceFile) : List Item :=
  f.items.filter fun i => !f.kind.isInOrder i

/-- The items that need documentation are those that have an issue. -/
theorem pendingItems_eq [Parser] (f : SourceFile) :
    f.pendingItems = f.items.filter fun i => !(f.kind.issues i).isEmpty := by
  simp only [pendingItems, SourceKind.isInOrder_eq]

/-- The call that asks for the documentation of an item. -/
def callFor (f : SourceFile) (detail : Detail) (item : Item) : Call :=
  ⟨f.kind, detail, item.documentation, item.source⟩

/-- What is known of a file once it was read. -/
def outcome [Parser] (f : SourceFile) (dryRun : Bool) : FileOutcome :=
  { FileOutcome.start f.path dryRun with
    kind := some f.kind
    processed := f.items.length
    pending := f.pendingItems.length
    skipped := (f.items.filter f.kind.isInOrder).length }

end SourceFile

/-! ## Replies -/

/-- An item with the documentation that it got, or the reason why it got none. -/
structure Settled where
  item : Item
  reply : Except String Text

/-- The documentation in a reply, or the reason why there is none. -/
def settle (item : Item) (reply : Except GenerationFailure Text) : Settled :=
  match reply with
  | .ok text =>
    if Text.allBlank text then ⟨item, .error "generator returned empty documentation"⟩
    else ⟨item, .ok text⟩
  | .error e => ⟨item, .error e.message⟩

/-- The target that a settled item becomes, if it got documentation. -/
def Settled.target? (s : Settled) : Option Target :=
  match s.reply with
  | .ok text => some ⟨s.item, text⟩
  | .error _ => none

/-- The failure that a settled item becomes, if it got no documentation. -/
def Settled.failure? (s : Settled) : Option FailedItem :=
  match s.reply with
  | .ok _ => none
  | .error reason => some ⟨s.item.name, s.item.firstLine, reason⟩

/-- The targets among settled items. -/
def targets (settled : List Settled) : List Target := settled.filterMap Settled.target?

/-- The failures among settled items. -/
def failures (settled : List Settled) : List FailedItem := settled.filterMap Settled.failure?

/-! ## The work on a file -/

section

variable {m : Type → Type} [Monad m]

/-- Ask the generator for the documentation of each item, one after the other. -/
def askAll (generator : Generator m) (f : SourceFile) (detail : Detail) (items : List Item) :
    m (List Settled) :=
  items.mapM fun item => do return settle item (← generator (f.callFor detail item))

/-- The reason why a file fails when no call succeeds. -/
def nothingGenerated : String := "Failed to generate documentation for any items"

/-- Install what the generator gave. -/
def installSettled [Parser] (host : Host m) (f : SourceFile) (settled : List Settled)
    (o : FileOutcome) : m FileOutcome := do
  let o := (failures settled).foldl FileOutcome.recordFailure o
  if (targets settled).isEmpty then return o.fail nothingGenerated
  else
    match inject f.kind f.text (targets settled) with
    | .error e => return o.fail e.message
    | .ok rewritten =>
      match ← SourceFile.replace host f.path f.fingerprint rewritten with
      | .error e => return o.fail e.message
      | .ok () => return { o with documented := (targets settled).length }

/-- The complaint that there is no generator to ask. -/
def noGenerator : Failure := .configuration "no documentation generator configured"

/-- Document a file that was read. -/
def documentSource [Parser] (host : Host m) (generator : Option (Generator m)) (detail : Detail)
    (dryRun : Bool) (f : SourceFile) : m FileOutcome := do
  let o := f.outcome dryRun
  if f.pendingItems.isEmpty || dryRun then return o
  else
    match generator with
    | none => return o.fail noGenerator.message
    | some generator =>
      let settled ← askAll generator f detail f.pendingItems
      installSettled host f settled o

/-- Document the file at a path. -/
def documentFile [Parser] (host : Host m) (settings : ProcessingSettings)
    (generator : Option (Generator m)) (detail : Detail) (dryRun : Bool) (path : Path) :
    m FileOutcome := do
  match ← SourceFile.read host settings path with
  | .error e => return (FileOutcome.start path dryRun).fail e.message
  | .ok f => documentSource host generator detail dryRun f

end

end DocSplice
