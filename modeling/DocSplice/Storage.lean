import DocSplice.Host
import DocSplice.Text.Utf8

/-!
# Storage

A `Storage` is a file system as a finite map.  Its keys are locations: the names that lead from the
top directory down.  What a location holds is a file with its content and permissions, or a
directory.

* `Storage.find?` looks at a location and `Storage.set` changes one and no other (`find?_set_self`,
  `find?_set_of_ne`).
* `Storage.locate` follows a path, through directories only.
* `Storage.host` is the host whose state is a storage.
-/

namespace DocSplice

/-- What a file holds: a text, or bytes that are the form of none. -/
inductive Content where
  | text (t : Text)
  | bytes (bs : List UInt8)
  deriving DecidableEq, Repr

namespace Content

/-- The content that bytes make. -/
def ofBytes (bs : List UInt8) : Content :=
  match Utf8.decode? bs with
  | some t => .text t
  | none => .bytes bs

/-- The number of bytes. -/
def size : Content → Nat
  | .text t => (Utf8.encode t).length
  | .bytes bs => bs.length

end Content

/-- What a location holds. -/
inductive Entry where
  | file (content : Content) (permissions : Nat)
  | directory
  deriving DecidableEq, Repr

/-- The names that lead from the top directory to a file or a directory. -/
abbrev Location := List Text

/-- A file system.  The top directory has no entry of its own. -/
structure Storage where
  entries : List (Location × Entry)
  deriving DecidableEq, Repr

namespace Storage

/-- Nothing but the top directory. -/
def empty : Storage := ⟨[]⟩

/-- What a location holds. -/
def find? (s : Storage) (l : Location) : Option Entry :=
  if l.isEmpty then some .directory else s.entries.lookup l

/-- Change what a location holds. -/
def set (s : Storage) (l : Location) (e : Entry) : Storage :=
  ⟨(l, e) :: s.entries.filter fun other => other.1 != l⟩

/-- Remove what a location holds. -/
def erase (s : Storage) (l : Location) : Storage :=
  ⟨s.entries.filter fun other => other.1 != l⟩

@[simp] theorem find?_nil (s : Storage) : s.find? [] = some .directory := rfl

theorem find?_set_self (s : Storage) {l : Location} (e : Entry) (h : l ≠ []) :
    (s.set l e).find? l = some e := by
  simp [find?, set, h]

theorem lookup_filter_ne {α β : Type} [BEq α] [LawfulBEq α] (k l : α) (h : k ≠ l)
    (entries : List (α × β)) :
    (entries.filter fun other => other.1 != l).lookup k = entries.lookup k := by
  induction entries with
  | nil => rfl
  | cons e rest ih =>
    obtain ⟨a, b⟩ := e
    by_cases ha : a = l
    · have hk : (k == a) = false := by simpa [ha] using h
      simp [List.lookup_cons, ha ▸ hk, ha, ih]
    · simp [List.lookup_cons, ha, ih]

theorem find?_set_of_ne (s : Storage) {k l : Location} (e : Entry) (h : k ≠ l) :
    (s.set l e).find? k = s.find? k := by
  unfold find? set
  have hb : (k == l) = false := by simpa using h
  rw [List.lookup_cons]
  simp only [hb]
  rw [lookup_filter_ne k l h]

/-! ## Following paths -/

/-- Follow the steps of a path from a location. -/
def follow (s : Storage) (l : Location) : List Text → Except StorageFailure Location
  | [] => .ok l
  | step :: rest =>
    match s.find? l with
    | none => .error .notFound
    | some (.file _ _) => .error .notADirectory
    | some .directory =>
      if step.isEmpty || step = Path.dot then s.follow l rest
      else if step = Path.dotDot then s.follow l.dropLast rest
      else s.follow (l ++ [step]) rest

/-- The location that a path leads to, which need not hold anything.  Only relative paths lead
anywhere. -/
def locate (s : Storage) (path : Path) : Except StorageFailure Location :=
  if path.isEmpty || Path.isAbsolute path then .error .notFound
  else s.follow [] (Text.split '/' path)

/-- What the location of a path holds. -/
def get (s : Storage) (path : Path) : Except StorageFailure (Location × Entry) := do
  let l ← s.locate path
  match s.find? l with
  | some e => .ok (l, e)
  | none => .error .notFound

/-! ## Operations -/

/-- The permissions of a new file. -/
def newPermissions : Nat := 0o644

/-- The permissions of a file that is staged. -/
def stagedPermissions : Nat := 0o600

/-- The permissions of a directory. -/
def directoryPermissions : Nat := 0o755

/-- The size of the entry of a directory. -/
def directorySize : Nat := 4096

/-- What a path leads to. -/
def status (s : Storage) (path : Path) : Except StorageFailure FileStatus := do
  match (← s.get path).2 with
  | .file content _ => .ok (.file content.size)
  | .directory => .ok (.directory directorySize)

/-- The text of a file. -/
def read (s : Storage) (path : Path) : Except StorageFailure Text := do
  match (← s.get path).2 with
  | .file (.text t) _ => .ok t
  | .file (.bytes _) _ => .error .notText
  | .directory => .error .isADirectory

/-- The permissions of a file. -/
def permissions? (s : Storage) (path : Path) : Option Nat :=
  match s.get path with
  | .ok (_, .file _ permissions) => some permissions
  | _ => none

/-- The names directly below a location. -/
def namesBelow (s : Storage) (l : Location) : List Text :=
  s.entries.filterMap fun e =>
    match l.isPrefixOf? e.1 with
    | some [name] => some name
    | _ => none

/-- The names in a directory. -/
def names (s : Storage) (path : Path) : List Text :=
  match s.locate path with
  | .ok l => s.namesBelow l
  | .error _ => []

/-- The path of a location. -/
def pathOf (l : Location) : Path := if l.isEmpty then Path.dot else Text.join '/' l

/-- The locations above a location, nearest first, each with the names that lead down from it. -/
def above (l : Location) : List (Location × List Text) :=
  (List.range l.length).reverse.map fun n => (l.take n, l.drop n)

/-- The directories around a directory. -/
def around (s : Storage) (path : Path) : List (Path × List Text) :=
  match s.locate path with
  | .ok l => (above l).map fun a => (pathOf a.1, a.2)
  | .error _ => []

/-- Put a file at a location; a file that was there keeps its permissions. -/
def put (s : Storage) (l : Location) (content : Content) : Storage :=
  match s.find? l with
  | some (.file _ permissions) => s.set l (.file content permissions)
  | _ => s.set l (.file content newPermissions)

/-- Write a file, making it if need be. -/
def write (s : Storage) (path : Path) (t : Text) : Except StorageFailure Storage := do
  let l ← s.locate path
  match s.find? l with
  | some .directory => .error .isADirectory
  | _ => .ok (s.put l (.text t))

/-- The permissions that a path leads to. -/
def permissions (s : Storage) (path : Path) : Except StorageFailure Nat := do
  match (← s.get path).2 with
  | .file _ permissions => .ok permissions
  | .directory => .ok directoryPermissions

/-- A name that no location has: it is longer than all names together. -/
def newName (s : Storage) : Text :=
  ".tmp".toList ++ List.replicate (s.entries.flatMap fun e => e.1.flatten).length 'x'

/-- Write a text to a new file in a directory; the path of the new file comes with it. -/
def stage (s : Storage) (directory : Path) (t : Text) : Except StorageFailure (Path × Storage) := do
  let (l, e) ← s.get directory
  match e with
  | .file _ _ => .error .notADirectory
  | .directory =>
    .ok (directory ++ '/' :: s.newName,
      s.set (l ++ [s.newName]) (.file (.text t) stagedPermissions))

/-- Change the permissions of a file; those of a directory stay as they are. -/
def setPermissions (s : Storage) (path : Path) (permissions : Nat) :
    Except StorageFailure Storage := do
  let (l, e) ← s.get path
  match e with
  | .file content _ => .ok (s.set l (.file content permissions))
  | .directory => .ok s

/-- Put a file into the place that another path names. -/
def rename (s : Storage) (source target : Path) : Except StorageFailure Storage := do
  let (l, e) ← s.get source
  let place ← s.locate target
  match e, s.find? place with
  | .directory, _ => .error .isADirectory
  | _, some .directory => .error .isADirectory
  | _, _ => .ok ((s.erase l).set place e)

/-- Remove a file, if it is there. -/
def remove (s : Storage) (path : Path) : Storage :=
  match s.get path with
  | .ok (l, .file _ _) => s.erase l
  | _ => s

/-- Make the directories that lead to a location. -/
def makeWay (s : Storage) (l : Location) : Storage :=
  (List.range l.length).foldl
    (fun s n => if (s.find? (l.take n)).isSome then s else s.set (l.take n) .directory) s

/-! ## The host -/

/-- A change that may be refused, as a step of a state. -/
def attempt (change : Storage → Except StorageFailure Storage) :
    StateM Storage (Except StorageFailure Unit) := fun s =>
  match change s with
  | .ok s' => (.ok (), s')
  | .error e => (.error e, s)

/-- Staging, as a step of a state. -/
def stageStep (directory : Path) (t : Text) : StateM Storage (Except StorageFailure Path) :=
  fun s => match s.stage directory t with
    | .ok (staged, s') => (.ok staged, s')
    | .error e => (.error e, s)

/-- The host whose state is a storage. -/
def host : Host (StateM Storage) where
  status path := fun s => (s.status path, s)
  read path := fun s => (s.read path, s)
  names path := fun s => (s.names path, s)
  around path := fun s => (s.around path, s)
  write path t := attempt fun s => s.write path t
  permissions path := fun s => (s.permissions path, s)
  stage directory t := stageStep directory t
  setPermissions path permissions := attempt fun s => s.setPermissions path permissions
  rename source target := attempt fun s => s.rename source target
  remove path := fun s => ((), s.remove path)

end Storage

end DocSplice
