import DocSplice.SourceKind
import DocSplice.Section

/-!
# Documentation taken apart

A `Documentation` is the documentation of one item decomposed into its sections, with the text of
the block as it stands in the source.
-/

namespace DocSplice

/-- The documentation of one item.  A section is `none` when it was never opened and the empty text
when its header stood there without content. -/
structure Documentation where
  kind : SourceKind
  name : Option Text
  description : Option Text
  parameters : Option Text
  returns : Option Text
  examples : Option Text
  /-- The block as it appears in the source. -/
  raw : Text
  deriving DecidableEq, Repr

end DocSplice
