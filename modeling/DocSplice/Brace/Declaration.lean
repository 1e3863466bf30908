import DocSplice.Text.Lines
import DocSplice.Text.Word

/-!
# Declarations of functions

A line declares a function when it assigns one to a name: a name, one of the arrows `<-` and `<<-`
or an equals sign, then `function` or its short form, a backslash, and the parenthesis that opens
the arguments.  Blanks may stand between any two of these and in front.

The parts of the pattern never start with each other's characters, so reading from left to right
without going back finds the only way to match.
-/

namespace DocSplice.Brace

/-- A character that may begin a name. -/
def startsName (c : Char) : Bool := isAsciiLetter c || c == '_' || c == '.'

/-- A character that may go on in a name. -/
def continuesName (c : Char) : Bool := isWord c || c == '.'

/-- The first of the given texts that the text starts with is removed. -/
def afterOneOf? (choices : List Text) (t : Text) : Option Text :=
  choices.findSome? (Text.stripPrefix? t)

/-- The ways to write an assignment; the long arrow comes before the short one it ends with. -/
def assignments : List Text := [['<', '<', '-'], ['<', '-'], ['=']]

/-- The ways to begin a function. -/
def functionWords : List Text := ["function".toList, ['\\']]

/-- The name to which a line assigns a function. -/
def declaredName? (line : Text) : Option Text :=
  match Text.trimStart line with
  | [] => none
  | c :: t =>
    if startsName c then do
      let name := c :: t.takeWhile continuesName
      let value ← afterOneOf? assignments (Text.trimStart (t.dropWhile continuesName))
      let arguments ← afterOneOf? functionWords (Text.trimStart value)
      if (Text.trimStart arguments).head? = some '(' then some name else none
    else none

/-- Whether a line declares a function. -/
def isDeclaration (line : Text) : Bool := (declaredName? line).isSome

end DocSplice.Brace
