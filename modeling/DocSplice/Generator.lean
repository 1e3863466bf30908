import DocSplice.Failure
import DocSplice.Prompt

/-!
# Generators

A generator writes documentation for a piece of code.  It is called for one item at a time, and a
call either gives a text or fails; a failed call concerns that item only.

What a generator does besides is not restricted: it runs in the monad of the host and may change
anything there, so the files may look different after a call.
-/

namespace DocSplice

/-- What a generator is asked for. -/
structure Call where
  kind : SourceKind
  detail : Detail
  /-- The documentation that is to be repaired; without it new documentation is asked for. -/
  existing : Option Text
  /-- The source text of the item. -/
  code : Text
  deriving DecidableEq, Repr

/-- The prompt for a call. -/
def Call.prompt (call : Call) : Text :=
  match call.existing with
  | some existing => Prompt.update call.kind call.detail existing call.code
  | none => Prompt.generate call.kind call.detail call.code

/-- A generator of documentation. -/
abbrev Generator (m : Type → Type) := Call → m (Except GenerationFailure Text)

end DocSplice
