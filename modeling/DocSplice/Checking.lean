import DocSplice.Documenting

/-!
# Checking files

Checking a file reports the issues of every item and changes nothing.  A file is compliant when it
could be read and no item has an issue; a file without items is compliant.
-/

namespace DocSplice

/-- What was found about an item. -/
structure ItemReport where
  name : Text
  kind : ItemKind
  firstLine : Nat
  lastLine : Nat
  /-- Whether there is any documentation. -/
  documented : Bool
  issues : List Issue
  deriving DecidableEq, Repr

/-- What was found about a file. -/
structure CheckOutcome where
  path : Path
  /-- The kind of the file, once it was read. -/
  kind : Option SourceKind
  items : List ItemReport
  /-- Why the file could not be checked, if it could not. -/
  error : Option String
  deriving DecidableEq, Repr

namespace CheckOutcome

/-- Whether everything is in order. -/
def isCompliant (o : CheckOutcome) : Bool := o.error.isNone && o.items.all (·.issues.isEmpty)

end CheckOutcome

/-- What is to be reported about an item. -/
def ItemReport.of (kind : SourceKind) (item : Item) : ItemReport :=
  ⟨item.name, item.kind, item.firstLine, item.lastLine, item.documentation.isSome,
    kind.issues item⟩

/-- What is to be reported about a file that was read. -/
def SourceFile.check [Parser] (f : SourceFile) : CheckOutcome :=
  ⟨f.path, some f.kind, f.items.map (ItemReport.of f.kind), none⟩

variable {m : Type → Type} [Monad m]

/-- Check the file at a path. -/
def checkFile [Parser] (host : Host m) (settings : ProcessingSettings) (path : Path) :
    m CheckOutcome := do
  match ← SourceFile.read host settings path with
  | .error e => return ⟨path, none, [], some e.message⟩
  | .ok f => return f.check

/-- Check every file that a path stands for. -/
def checkPath [Parser] (host : Host m) (settings : ProcessingSettings) (path : Path) :
    m (Except Failure (List CheckOutcome)) := do
  match ← Discovery.files host settings path with
  | .error e => return .error e
  | .ok files => return .ok (← files.mapM (checkFile host settings))

end DocSplice
