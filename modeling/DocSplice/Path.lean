import DocSplice.Text.Lines

/-!
# File paths

A path is kept exactly as it was given, because answers and messages repeat it.  What it names is
read off its parts: the stretches between slashes, where empty parts and inner dots say nothing.

* `Path.fileName?` is the last part when it is an ordinary name, so `a.py/` and `a.py/.` still name
  `a.py`, while `a/..` names no file of its own.
* `Path.extension?` is what follows the last dot of that name; a name whose only dot is its first
  character has none.
* `Path.directory` is the directory of the file that a path names, and `Path.join` goes one step
  down.
-/

namespace DocSplice

/-- A path as it was written. -/
abbrev Path := Text

namespace Path

/-- The single dot, which names the directory it stands in. -/
def dot : Text := ['.']

/-- Two dots, which name the directory above. -/
def dotDot : Text := ['.', '.']

/-- Whether the path starts at the root. -/
def isAbsolute (p : Path) : Bool := p.head? == some '/'

/-- The parts between slashes that say something: a dot counts only as the first part of a
relative path. -/
def parts (p : Path) : List Text :=
  match Text.split '/' p with
  | [] => []
  | first :: rest =>
    let inner := rest.filter fun part => !part.isEmpty && part != dot
    if first.isEmpty then inner else first :: inner

/-- The last part, when it is an ordinary name. -/
def fileName? (p : Path) : Option Text :=
  match (parts p).getLast? with
  | some name => if name == dot || name == dotDot then none else some name
  | none => none

/-- What follows the last dot of a name, if that dot is not its first character. -/
def nameExtension? (name : Text) : Option Text :=
  match (Text.split '.' name).reverse with
  | extension :: before :: earlier =>
    if before.isEmpty && earlier.isEmpty then none else some extension
  | _ => none

/-- The extension of the file that the path names. -/
def extension? (p : Path) : Option Text := (fileName? p).bind nameExtension?

/-- The directory of the file that a path names: what stands in front of the last slash, or, where
nothing does, the root or the directory that relative paths start from. -/
def directory (p : Path) : Path :=
  let above := Text.join '/' (Text.split '/' p).dropLast
  if above.isEmpty then (if isAbsolute p then ['/'] else dot) else above

/-- The path of `name` inside the directory `p`. -/
def join (p : Path) (name : Text) : Path :=
  if name.head? == some '/' || p.isEmpty then name
  else if p.getLast? == some '/' then p ++ name
  else p ++ '/' :: name

@[simp] theorem join_nil_left (name : Text) : join [] name = name := by
  simp [join]

end Path

end DocSplice
