import DocSplice.Failure

/-!
# Hosts

The work on files is described without saying what a file system is.  A `Host` holds the few
operations that the work needs, in a monad of its own choice: a model of a file system is one host,
and the operating system is another.

Nothing else of the outside world is visible to the work, so whatever is proved of it for all hosts
holds of the running program.
-/

namespace DocSplice

/-- What a path leads to. -/
inductive FileStatus where
  /-- A file of so many bytes. -/
  | file (size : Nat)
  /-- A directory, whose own entry takes so many bytes. -/
  | directory (size : Nat)
  deriving DecidableEq, Repr

namespace FileStatus

/-- The number of bytes. -/
def size : FileStatus → Nat
  | .file n => n
  | .directory n => n

/-- Whether it is a file. -/
def isFile : FileStatus → Bool
  | .file _ => true
  | .directory _ => false

/-- Whether it is a directory. -/
def isDirectory (s : FileStatus) : Bool := !s.isFile

end FileStatus

/-- The operations on files that the work needs. -/
structure Host (m : Type → Type) where
  /-- What a path leads to. -/
  status : Path → m (Except StorageFailure FileStatus)
  /-- The text of a file. -/
  read : Path → m (Except StorageFailure Text)
  /-- The names in a directory, in any order. -/
  names : Path → m (List Text)
  /-- The directories around a directory, nearest first, each with the names that lead from it to
  the directory. -/
  around : Path → m (List (Path × List Text))
  /-- Write a file, making it if need be. -/
  write : Path → Text → m (Except StorageFailure Unit)
  /-- The permissions of a file. -/
  permissions : Path → m (Except StorageFailure Nat)
  /-- Write a text to a new file in a directory; what comes back is the path of the new file. -/
  stage : Path → Text → m (Except StorageFailure Path)
  /-- Change the permissions of a file. -/
  setPermissions : Path → Nat → m (Except StorageFailure Unit)
  /-- Put a file into the place that another path names, at once. -/
  rename : Path → Path → m (Except StorageFailure Unit)
  /-- Remove a file, if it is there. -/
  remove : Path → m Unit

namespace Host

variable {m n : Type → Type}

/-- The same host in a richer monad. -/
def lift (up : {α : Type} → m α → n α) (host : Host m) : Host n where
  status path := up (host.status path)
  read path := up (host.read path)
  names path := up (host.names path)
  around path := up (host.around path)
  write path text := up (host.write path text)
  permissions path := up (host.permissions path)
  stage directory text := up (host.stage directory text)
  setPermissions path permissions := up (host.setPermissions path permissions)
  rename source target := up (host.rename source target)
  remove path := up (host.remove path)

variable [Monad m]

/-- Whether a path leads anywhere. -/
def pathExists (host : Host m) (path : Path) : m Bool := do
  return (← host.status path).toBool

/-- Whether a path leads to a file. -/
def isFile (host : Host m) (path : Path) : m Bool := do
  match ← host.status path with
  | .ok status => return status.isFile
  | .error _ => return false

/-- Whether a path leads to a directory. -/
def isDirectory (host : Host m) (path : Path) : m Bool := do
  match ← host.status path with
  | .ok status => return status.isDirectory
  | .error _ => return false

end Host

end DocSplice
