import DocSplice.Host
import DocSplice.Settings

/-!
# Configuration files

Settings are kept in a configuration file.  A file that is asked for by name has to be there;
without a name the first of the usual files is taken, and where there is none the defaults hold.
-/

namespace DocSplice.Settings

/-- The complaint that there is no configuration file of a given name. -/
def missingFile (path : Path) : Failure :=
  .configuration ("Configuration file not found: " ++ String.ofList path)

/-- The settings in the text of a configuration file, or the complaint that there are none. -/
def ofText (t : Text) : Except Failure Settings :=
  match read? t with
  | some settings => .ok settings
  | none => .error .malformedSettings

variable {m : Type → Type} [Monad m]

/-- The settings in the file at a path. -/
def load (host : Host m) (path : Path) : m (Except Failure Settings) := do
  match ← host.read path with
  | .ok t => return ofText t
  | .error e => return .error (.storage e)

/-- The first of some paths that leads anywhere. -/
def firstExisting? (host : Host m) : List Path → m (Option Path)
  | [] => return none
  | path :: rest => do
    if ← host.pathExists path then return some path else firstExisting? host rest

/-- The settings in the file at a path that was asked for. -/
def loadNamed (host : Host m) (path : Path) : m (Except Failure Settings) := do
  if ← host.pathExists path then load host path else return .error (missingFile path)

/-- The settings in the first of the usual files, or the defaults. -/
def loadUsual (host : Host m) : m (Except Failure Settings) := do
  match ← firstExisting? host candidates with
  | some path => load host path
  | none => return .ok Settings.default

/-- The settings in the file that was asked for, if one was. -/
def loadOrDefault (host : Host m) : Option Path → m (Except Failure Settings)
  | some path => loadNamed host path
  | none => loadUsual host

/-- Write the settings to the file at a path. -/
def save (host : Host m) (path : Path) (s : Settings) : m (Except StorageFailure Unit) :=
  host.write path s.text

end DocSplice.Settings
