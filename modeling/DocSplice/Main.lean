import DocSplice.Command.Execution
import DocSplice.Storage
import Std.Time.Format

/-!
# The program

The outer layer of the program: the file system, the clock and the environment of the operating
system, and the two streams that it prints to.  It decides nothing; what is to be done is said by
`Command.runWords`.

There is no way to the network from here, so every service is unreachable.  There is no way to ask
for permissions either, so a file takes the place of another by being written over it, which leaves
the permissions of that place as they are.
-/

namespace DocSplice.Program

/-- The reason for a refusal. -/
def failureOf : IO.Error → StorageFailure
  | .noFileOrDirectory _ _ _ => .notFound
  | .noSuchThing _ _ _ => .notFound
  | .permissionDenied _ _ _ => .permissionDenied
  | .inappropriateType _ code _ => if code = 20 then .notADirectory else .isADirectory
  | e => .other (toString e)

/-- An action that may be refused. -/
def attempt {α : Type} (action : IO α) : IO (Except StorageFailure α) := do
  match ← action.toBaseIO with
  | .ok a => return .ok a
  | .error e => return .error (failureOf e)

/-- A path for the operating system. -/
def place (p : Path) := System.mkFilePath [String.ofList p]

/-- What a path leads to. -/
def status (p : Path) : IO FileStatus := do
  let found ← (place p).metadata
  let size := found.byteSize.toNat
  return if found.type == .dir then .directory size else .file size

/-- The text of a file. -/
def read (p : Path) : IO (Except StorageFailure Text) := do
  match ← attempt (IO.FS.readBinFile (place p)) with
  | .error e => return .error e
  | .ok bytes =>
    match Content.ofBytes bytes.toList with
    | .text t => return .ok t
    | .bytes _ => return .error .notText

/-- The names in a directory. -/
def names (p : Path) : IO (List Text) := do
  match ← attempt (place p).readDir with
  | .ok entries => return entries.toList.map (·.fileName.toList)
  | .error _ => return []

/-- The directories around a directory. -/
def around (p : Path) : IO (List (Path × List Text)) := do
  match ← attempt (IO.FS.realPath (place p)) with
  | .ok real =>
    let steps := Path.parts real.toString.toList
    return (Storage.above steps).map fun a => ('/' :: Text.join '/' a.1, a.2)
  | .error _ => return []

/-- Write a file. -/
def write (p : Path) (t : Text) : IO (Except StorageFailure Unit) :=
  attempt (IO.FS.writeBinFile (place p) (String.ofList t).toUTF8)

/-- Write a text to a new file in a directory; what comes back is the path of the new file. -/
def stage (directory : Path) (t : Text) : IO (Except StorageFailure Path) := do
  let staged := Path.join directory (".tmp" ++ toString (← IO.monoNanosNow)).toList
  attempt do
    let handle ← IO.FS.Handle.mk (place staged) .writeNew
    handle.write (String.ofList t).toUTF8
    handle.flush
    return staged

/-- Remove a file, if it is there. -/
def remove (p : Path) : IO Unit := do
  let _ ← attempt (IO.FS.removeFile (place p))

/-- Put the text of a file into the place that another path names. -/
def rename (source target : Path) : IO (Except StorageFailure Unit) := do
  match ← read source with
  | .error e => return .error e
  | .ok t =>
    match ← write target t with
    | .error e => return .error e
    | .ok () =>
      remove source
      return .ok ()

/-- The host that the operating system is. -/
def host : Host IO where
  status p := attempt (status p)
  read := read
  names := names
  around := around
  write := write
  permissions _ := return .ok Storage.newPermissions
  stage := stage
  setPermissions _ _ := return .ok ()
  rename := rename
  remove := remove

/-- The present time. -/
def time : IO Text := do
  let now ← Std.Time.Timestamp.now
  let moment := Std.Time.PlainDateTime.ofWallTime (now.toWallTime .zero)
  return (moment.format "uuuu-MM-dd'T'HH:mm:ss.SSSSSSSSS'Z'").toList

/-- The keys in the environment. -/
def environment : IO (String → Option Text) := do
  let found ← GenerationSettings.keyVariables.mapM fun name => do
    return (name, (← IO.getEnv name).map String.toList)
  return fun name => (found.lookup name).join

/-- Everything outside. -/
def surroundings : IO (Surroundings IO) := do
  let environment ← environment
  return ⟨host, fun _ => return .unreachable, environment, time, return false⟩

/-- What is printed for the user: the usage, where the command line cannot be read, or the
complaint. -/
def notice (o : Command.Outcome) : Text :=
  if o.code = Command.usageCode then Command.linesText Command.usageLines else o.complaintText

/-- Carry out a command line. -/
def run (words : List String) : IO UInt32 := do
  let outcome ← Command.runWords (← surroundings) (words.map String.toList)
  IO.print (String.ofList outcome.output)
  IO.eprint (String.ofList (notice outcome))
  return outcome.code.toUInt32

end DocSplice.Program

/-- Carry out the command line and end with its code. -/
def main (words : List String) : IO UInt32 := DocSplice.Program.run words
