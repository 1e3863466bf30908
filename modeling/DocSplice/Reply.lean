import DocSplice.Text.Lines

/-!
# Replies of a generator

A generator answers with documentation, often wrapped into blank lines or into a Markdown fence.
`Reply.clean?` takes the wrapping off and keeps the rest verbatim, in particular the relative
indentation of the lines and any fence that is part of the documentation itself.  A reply with
nothing in it is none.
-/

namespace DocSplice.Reply

/-- Three backticks, which open and close a fence. -/
def fence : Text := ['\x60', '\x60', '\x60']

/-- What follows the first newline, if there is one. -/
def afterFirstLine : Text → Text
  | [] => []
  | c :: t => if c = '\n' then t else afterFirstLine t

/-- The inside of a fence whose opening backticks were removed: the first line holds only the name
of a language, and the closing backticks go when they end the text. -/
def insideFence (t : Text) : Text :=
  let body := afterFirstLine t
  (Text.stripSuffix? (Text.trimEnd body) fence).getD body

/-- The documentation in a reply, without the wrapping. -/
def unwrap (reply : Text) : Text :=
  let trimmed := Text.trim reply
  let inner :=
    match Text.stripPrefix? trimmed fence with
    | some rest => insideFence rest
    | none => trimmed
  Text.trimEnd (Text.dropAroundWhile (· == '\n') inner)

/-- The documentation in a reply, if it has any. -/
def clean? (reply : Text) : Option Text :=
  let text := unwrap reply
  if Text.allBlank text then none else some text

end DocSplice.Reply
