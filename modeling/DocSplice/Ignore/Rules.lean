import DocSplice.Ignore.Glob
import DocSplice.Text.Blank
import DocSplice.Text.Lines

/-!
# Rules of ignore files

An ignore file holds one rule on a line: a glob for what is to be left out, or, behind an
exclamation mark, for what is to be kept after all.  A rule with a slash in it is about paths from
the directory of the file; any other rule is about names in that directory and in all directories
below.  A rule that ends with a slash is about directories only.

The last rule of a file that matches a path decides about it.
-/

namespace DocSplice.Ignore

/-- A rule. -/
structure Rule where
  /-- Whether what matches is kept. -/
  keeps : Bool
  /-- Whether only directories can match. -/
  directoriesOnly : Bool
  glob : Glob
  deriving DecidableEq, Repr

/-- What rules say about a path. -/
inductive Verdict where
  | ignored
  | kept
  deriving DecidableEq, Repr

/-- A line without the mark for what is kept, and whether it had one.  Behind a backslash the marks
of lines that are kept and of comments are plain characters. -/
def splitKeepMark (line : Text) : Bool × Text :=
  match line with
  | '!' :: rest => (true, rest)
  | '\\' :: '!' :: rest => (false, '!' :: rest)
  | '\\' :: '#' :: rest => (false, '#' :: rest)
  | _ => (false, line)

/-- A line without its final slash, and whether it had one. -/
def splitFinalSlash (line : Text) : Bool × Text :=
  match Text.stripSuffix? line ['/'] with
  | none => (false, line)
  | some rest => (true, (Text.stripSuffix? rest ['\\']).getD rest)

/-- Two stars and a slash, which stand for any directories. -/
def anyDirectories : Text := ['*', '*', '/']

/-- The glob of a rule, as a pattern for paths from the directory of its file. -/
def anchoredPattern (anchored : Bool) (pattern : Text) : Text :=
  let pattern :=
    if anchored || List.contains pattern '/' || pattern = ['*', '*'] then pattern
    else anyDirectories ++ pattern
  if Text.endsWith pattern ['/', '*', '*'] then pattern ++ ['/', '*'] else pattern

/-- The rule on a line, if there is one. -/
def rule? (line : Text) : Option Rule :=
  let line := if Text.endsWith line ['\\', ' '] then line else Text.trimEnd line
  if line.isEmpty || line.head? == some '#' then none
  else
    let (keeps, line) := splitKeepMark line
    let anchored := line.head? == some '/'
    let line := if anchored then line.drop 1 else line
    let (directoriesOnly, pattern) := splitFinalSlash line
    (Glob.read? (anchoredPattern anchored pattern)).map fun glob => ⟨keeps, directoriesOnly, glob⟩

/-- The rules of a file; a line that holds no proper rule is passed over. -/
def rules (t : Text) : List Rule :=
  let t := if t.head? == some '\uFEFF' then t.drop 1 else t
  (Text.terminatedLines t).filterMap rule?

/-- Whether a rule is about a path. -/
def Rule.applies (r : Rule) (isDirectory : Bool) (path : Text) : Bool :=
  (!r.directoriesOnly || isDirectory) && r.glob.isMatch path

/-- What the rules of a file say about a path from its directory. -/
def verdict? (rules : List Rule) (isDirectory : Bool) (path : Text) : Option Verdict :=
  (rules.reverse.find? (·.applies isDirectory path)).map fun r =>
    if r.keeps then .kept else .ignored

@[simp] theorem verdict?_nil (isDirectory : Bool) (path : Text) :
    verdict? [] isDirectory path = none := rfl

end DocSplice.Ignore
