import DocSplice.Item

/-!
# Installation targets

A target asks for one documentation text to be installed for one item.  An edit finds the item by
the line of its declaration; the name serves for titles and for messages.
-/

namespace DocSplice

/-- Documentation to install for one item. -/
structure Target where
  item : Item
  documentation : Text
  deriving DecidableEq, Repr

/-- The row of the declaration, counted from zero. -/
def Target.row (t : Target) : Nat := t.item.firstLine - 1

end DocSplice
