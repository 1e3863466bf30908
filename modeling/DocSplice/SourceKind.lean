import DocSplice.Path
import DocSplice.Text.Word

/-!
# Kinds of source files

The extension of a file decides how its documentable units are found and which convention their
documentation follows.  There are three kinds.

* `structured`: parsed with a grammar; a docstring opens the body of a unit.
* `singleUnit`: the whole file is one unit; its documentation is a comment block at the top.
* `patternBrace`: an assignment of a function, with a braced or bare body; its documentation is a
  block of marked lines directly above.

Extensions are compared without regard to case, and `ofExtension?` ignores leading dots.
-/

namespace DocSplice

/-- How documentable units are found and documented. -/
inductive SourceKind where
  /-- Parsed with a grammar; docstring inside the body. -/
  | structured
  /-- The whole file is one unit; comment block at the top. -/
  | singleUnit
  /-- A function assigned to a name; marked block above. -/
  | patternBrace
  deriving DecidableEq, Repr

namespace SourceKind

/-- Every kind, in the order in which extensions are looked up. -/
def all : List SourceKind := [.structured, .singleUnit, .patternBrace]

theorem mem_all (k : SourceKind) : k ∈ all := by cases k <;> simp [all]

/-- Extensions of the files of a kind, in lower case. -/
def extensions : SourceKind → List Text
  | .structured => [['p', 'y']]
  | .singleUnit => [['s', 'q', 'l']]
  | .patternBrace => [['r']]

/-- The language of the files of a kind. -/
def language : SourceKind → String
  | .structured => "Python"
  | .singleUnit => "SQL"
  | .patternBrace => "R"

/-- The convention that documentation of the kind follows. -/
def standard : SourceKind → String
  | .structured => "NumPy docstring"
  | .singleUnit => "SQL markdown comment"
  | .patternBrace => "Roxygen2"

/-- The identifier under which the analysis of the kind is registered. -/
def frontEnd : SourceKind → String
  | .structured => "python"
  | .singleUnit => "sql"
  | .patternBrace => "r"

/-- The word for the kind in reports. -/
def tag : SourceKind → String
  | .structured => "structured"
  | .singleUnit => "single_unit"
  | .patternBrace => "pattern_brace"

/-- The kind of the files with an extension, whatever its case and leading dots. -/
def ofExtension? (extension : Text) : Option SourceKind :=
  let wanted := Text.lowerAscii (extension.dropWhile (· == '.'))
  all.find? fun kind => (extensions kind).contains wanted

/-- The kind of the file that a path names. -/
def ofPath? (path : Path) : Option SourceKind := (Path.extension? path).bind ofExtension?

theorem ofExtension?_extensions (k : SourceKind) {e : Text} (h : e ∈ extensions k) :
    ofExtension? e = some k := by
  cases k <;> simp only [extensions, List.mem_singleton] at h <;> subst h <;> decide

end SourceKind

end DocSplice
