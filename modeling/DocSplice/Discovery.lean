import DocSplice.Host
import DocSplice.Ignore.Rules
import DocSplice.Settings

/-!
# Discovery

Which files a path stands for.  The path of a file stands for that file, if its kind is known.  The
path of a directory stands for all files of a known kind in it and below, apart from those that are
hidden or that an ignore file leaves out.

A directory may hold ignore files of three sorts.  For each sort the nearest directory whose file
says something about a path decides, and of the sorts the first one that says something.  Ignore
files of the directories around the one that was asked for count as well, but whatever was asked
for by name is looked at.  A file that a rule keeps is looked at even if it is hidden.

The files come in the order of their names, directory by directory.
-/

namespace DocSplice

/-- The rules of one directory, sort by sort. -/
structure DirectoryRules where
  /-- The names that lead from the directory to the one whose files are looked at. -/
  inner : List Text
  sorts : List (List Ignore.Rule)
  deriving Repr

namespace Discovery

/-- The ignore files of a directory, the sort that counts most first. -/
def ignoreFiles : List Text :=
  [".ignore".toList, ".gitignore".toList, ".git/info/exclude".toList]

/-- What the rules of a sort say about a name in the directory that is looked at. -/
def sortVerdict? (levels : List DirectoryRules) (isDirectory : Bool) (name : Text) (sort : Nat) :
    Option Ignore.Verdict :=
  levels.findSome? fun level =>
    Ignore.verdict? (level.sorts[sort]?.getD []) isDirectory
      (Text.join '/' (level.inner ++ [name]))

/-- What the rules say about a name in the directory that is looked at. -/
def verdict? (levels : List DirectoryRules) (isDirectory : Bool) (name : Text) :
    Option Ignore.Verdict :=
  (List.range ignoreFiles.length).findSome? (sortVerdict? levels isDirectory name)

/-- Whether a name is looked at. -/
def isWanted (settings : ProcessingSettings) (levels : List DirectoryRules) (isDirectory : Bool)
    (name : Text) : Bool :=
  match verdict? levels isDirectory name with
  | some .ignored => false
  | some .kept => true
  | none => settings.includeHidden || name.head? != some '.'

/-- Put a name into a sorted list. -/
def insertName (name : Text) : List Text → List Text
  | [] => [name]
  | first :: rest => if name < first then name :: first :: rest else first :: insertName name rest

/-- Names in order. -/
def sortNames (names : List Text) : List Text := names.foldr insertName []

/-- How deep directories may be nested; no path can be long enough to lead further down. -/
def depthLimit : Nat := 2048

variable {m : Type → Type} [Monad m]

/-- The rules of the ignore files of a directory. -/
def directoryRules (host : Host m) (settings : ProcessingSettings) (directory : Path)
    (inner : List Text) : m DirectoryRules := do
  if settings.respectIgnoreFiles then
    let sorts ← ignoreFiles.mapM fun name => do
      match ← host.read (Path.join directory name) with
      | .ok t => return Ignore.rules t
      | .error _ => return []
    return ⟨inner, sorts⟩
  else return ⟨inner, []⟩

/-- The files in a directory and below. -/
def walk (host : Host m) (settings : ProcessingSettings) :
    Nat → List DirectoryRules → Path → m (List Path)
  | 0, _, _ => return []
  | fuel + 1, outer, directory => do
    let own ← directoryRules host settings directory []
    let levels := own :: outer
    let names := sortNames (← host.names directory)
    let found ← names.mapM fun name => do
      let path := Path.join directory name
      let isDirectory ← host.isDirectory path
      if !isWanted settings levels isDirectory name then return []
      else if isDirectory then
        walk host settings fuel
          (levels.map fun level => { level with inner := level.inner ++ [name] }) path
      else if (SourceKind.ofPath? path).isSome && (← host.isFile path) then return [path]
      else return []
    return found.flatten

/-- The files that a path stands for. -/
def files (host : Host m) (settings : ProcessingSettings) (path : Path) :
    m (Except Failure (List Path)) := do
  match ← host.status path with
  | .error _ => return .error (.fileSystem ("Path not found: " ++ String.ofList path))
  | .ok (.file _) => return .ok (if (SourceKind.ofPath? path).isSome then [path] else [])
  | .ok (.directory _) =>
    let outer ← (← host.around path).mapM fun around =>
      directoryRules host settings around.1 around.2
    return .ok (← walk host settings depthLimit outer path)

end Discovery

end DocSplice
