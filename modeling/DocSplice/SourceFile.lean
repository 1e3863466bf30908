import DocSplice.Analysis
import DocSplice.Digest.Sha256
import DocSplice.Host
import DocSplice.Settings

/-!
# Source files

A source file that was read, with the fingerprint that its text had then.  The kind is settled
before the file is touched, so a file of no known kind is never opened, and a file that is too
large is not read.

`SourceFile.replace` puts a new text into the place of the file, but only while the file still holds
the text that was read: whoever changed it in the meantime keeps that change.
-/

namespace DocSplice

/-- A source file that was read. -/
structure SourceFile where
  path : Path
  kind : SourceKind
  text : Text
  /-- The fingerprint of the text. -/
  fingerprint : Fingerprint
  deriving DecidableEq, Repr

namespace SourceFile

/-- The items of the file. -/
def items [Parser] (f : SourceFile) : List Item := f.kind.items f.text

/-- The file at a path with a text that was read there. -/
def ofText (path : Path) (kind : SourceKind) (text : Text) : SourceFile :=
  ⟨path, kind, text, Text.fingerprint text⟩

/-- The complaint that a file is too large. -/
def tooLarge (path : Path) : Failure :=
  .fileSystem ("File " ++ String.ofList path ++ " exceeds maximum size limit")

variable {m : Type → Type} [Monad m]

/-- Read the file of a known kind. -/
def readAs (host : Host m) (settings : ProcessingSettings) (path : Path) (kind : SourceKind) :
    m (Except Failure SourceFile) := do
  match ← host.status path with
  | .error e => return .error (.storage e)
  | .ok status =>
    if settings.maxFileSize < status.size then return .error (tooLarge path)
    else
      match ← host.read path with
      | .error e => return .error (.storage e)
      | .ok text => return .ok (ofText path kind text)

/-- Read the file at a path. -/
def read (host : Host m) (settings : ProcessingSettings) (path : Path) :
    m (Except Failure SourceFile) :=
  match SourceKind.ofPath path with
  | .error e => pure (.error e)
  | .ok kind => readAs host settings path kind

/-- The complaint that a new text cannot take the place of a file. -/
def notReplaced (path : Path) (cause : StorageFailure) : Failure :=
  .fileSystem ("Failed to replace " ++ String.ofList path ++ ": " ++ cause.message)

/-- Put a staged file into the place of another under the given permissions; where that cannot be
done the staged file is removed. -/
def putInPlace (host : Host m) (staged path : Path) (permissions : Nat) :
    m (Except Failure Unit) := do
  match ← host.setPermissions staged permissions with
  | .error e =>
    host.remove staged
    return .error (.storage e)
  | .ok () =>
    match ← host.rename staged path with
    | .error e =>
      host.remove staged
      return .error (notReplaced path e)
    | .ok () => return .ok ()

/-- Put a new text into the place of a file.  The text is staged in a file of its own in the same
directory, which takes over the permissions and then the place of the old file. -/
def install (host : Host m) (path : Path) (text : Text) : m (Except Failure Unit) := do
  match ← host.permissions path with
  | .error e => return .error (.storage e)
  | .ok permissions =>
    match ← host.stage (Path.directory path) text with
    | .error e => return .error (.storage e)
    | .ok staged => putInPlace host staged path permissions

/-- Put a new text into the place of a file whose text still has the given fingerprint. -/
def replace (host : Host m) (path : Path) (expected : Fingerprint) (rewritten : Text) :
    m (Except Failure Unit) := do
  match ← host.read path with
  | .error e => return .error (.storage e)
  | .ok current =>
    if Text.fingerprint current = expected then install host path rewritten
    else return .error (.changedOnDisk path)

end SourceFile

end DocSplice
