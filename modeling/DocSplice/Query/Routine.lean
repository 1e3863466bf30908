import DocSplice.Text.Blank
import DocSplice.Text.Word

/-!
# Names of declared routines

A query file may declare a routine: `CREATE`, perhaps `OR REPLACE`, then `FUNCTION` or `PROCEDURE`
and a name, all on one line, in any case and with any blanks between.  The first declaration of the
file names its only unit; a file without one gets a placeholder.
-/

namespace DocSplice.Query

/-- The name of a query file that declares no routine. -/
def placeholderName : Text := "SQL Query".toList

/-- What follows a keyword, which is given in lower case and is matched in any case. -/
def afterKeyword? (keyword t : Text) : Option Text :=
  if Text.lowerAscii (t.take keyword.length) = keyword then some (t.drop keyword.length) else none

/-- What follows one or more blanks. -/
def afterBlanks? : Text → Option Text
  | [] => none
  | c :: t => if isBlank c then some (Text.trimStart t) else none

/-- What follows a keyword and the blanks after it. -/
def afterWord? (keyword t : Text) : Option Text := (afterKeyword? keyword t).bind afterBlanks?

/-- A character of a routine's name. -/
def isNameChar (c : Char) : Bool := isWord c || c == '.'

/-- The name of the routine whose declaration the text starts with. -/
def routineAtStart? (t : Text) : Option Text := do
  let afterCreate ← afterWord? "create".toList t
  let afterReplace :=
    ((afterWord? "or".toList afterCreate).bind (afterWord? "replace".toList)).getD afterCreate
  let rest ←
    (afterWord? "function".toList afterReplace).or (afterWord? "procedure".toList afterReplace)
  let name := rest.takeWhile isNameChar
  if name.isEmpty then none else some name

/-- The name of the first routine that is declared in the text, where no declaration may start
inside a word; `inWord` says whether a word character stands just before the text. -/
def routineFrom? (inWord : Bool) : Text → Option Text
  | [] => none
  | c :: t =>
    match if inWord then none else routineAtStart? (c :: t) with
    | some name => some name
    | none => routineFrom? (isWord c) t

/-- The name of the routine that a line declares. -/
def routineName? (line : Text) : Option Text := routineFrom? false line

/-- The name of the unit in a file with the given lines. -/
def unitName (lines : List Text) : Text := (lines.findSome? routineName?).getD placeholderName

@[simp] theorem unitName_nil : unitName [] = placeholderName := rfl

end DocSplice.Query
