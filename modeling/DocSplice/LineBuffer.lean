import DocSplice.Splice

/-!
# Line buffers

A line buffer holds the lines of a text and remembers whether the text ended with a newline, so that
`LineBuffer.toText` gives back the very text that `LineBuffer.ofText` took apart
(`toText_ofText`).

`LineBuffer.apply` applies splices that were planned against the lines the buffer holds.  They are
checked before anything changes: none may be inverted, none may reach past the last line, and no
two may overlap.
-/

namespace DocSplice

/-- The lines of a text and whether it ended with a newline. -/
structure LineBuffer where
  lines : List Text
  finalNewline : Bool
  deriving DecidableEq, Repr

/-- Why a list of splices is not applied. -/
inductive SpliceRejection where
  /-- The splice ends before it starts. -/
  | inverted (start stop : Nat)
  /-- The splice reaches past the last line. -/
  | outside (start stop count : Nat)
  /-- The splice reaches into another one that starts later. -/
  | overlapping (start stop : Nat)
  deriving DecidableEq, Repr

/-- The sentence for a rejected splice. -/
def SpliceRejection.message : SpliceRejection → String
  | .inverted start stop => "inverted splice " ++ toString start ++ ".." ++ toString stop
  | .outside start stop count =>
    "splice " ++ toString start ++ ".." ++ toString stop ++ " is outside the " ++ toString count
      ++ " line file"
  | .overlapping start stop =>
    "splice " ++ toString start ++ ".." ++ toString stop ++ " overlaps a later splice"

namespace LineBuffer

/-- Take a text apart. -/
def ofText (t : Text) : LineBuffer := ⟨Text.splitLines t, Text.endsWithNewline t⟩

/-- Put the text together. -/
def toText (b : LineBuffer) : Text :=
  Text.joinLines b.lines ++ (if b.finalNewline then ['\n'] else [])

/-- The number of lines. -/
def size (b : LineBuffer) : Nat := b.lines.length

/-- Check splices that are sorted for application.  `floor` is the start of the splice checked
before, or the number of lines for the first one; no splice may end after it. -/
def check (count : Nat) : Nat → List Splice → Except SpliceRejection Unit
  | _, [] => .ok ()
  | floor, s :: rest =>
    if s.stop < s.start then .error (.inverted s.start s.stop)
    else if floor < s.stop then
      if floor = count then .error (.outside s.start s.stop count)
      else .error (.overlapping s.start s.stop)
    else check count s.start rest

/-- Apply splices planned against the lines of the buffer, or say why not. -/
def apply (b : LineBuffer) (splices : List Splice) : Except SpliceRejection LineBuffer :=
  let ordered := Splice.sortDescending splices
  match check b.size b.size ordered with
  | .error rejection => .error rejection
  | .ok () => .ok { b with lines := ordered.foldl Splice.applyTo b.lines }

/-- Taking a text apart loses nothing. -/
@[simp] theorem toText_ofText (t : Text) : (ofText t).toText = t :=
  Text.joinLines_splitLines t

end LineBuffer

end DocSplice
