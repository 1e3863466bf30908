import DocSplice.Analysis
import DocSplice.LineBuffer

/-!
# Injection

Injecting documentation into a text installs a documentation for every target and gives the
rewritten text, or says why that cannot be done.

Targets may come in any order.  A later target for the same line takes the place of an earlier one,
and no target at all leaves the text as it is, whatever it is.  All splices are planned on the lines
of the text before any is applied, new lines end the way the lines around them do, and the result is
verified before it is given out.
-/

namespace DocSplice

namespace Target

/-- Put a target into a list, in place of the one for the same line. -/
def place (t : Target) : List Target → List Target
  | [] => [t]
  | kept :: rest =>
    if kept.item.firstLine = t.item.firstLine then t :: rest else kept :: place t rest

/-- The last target for every line, in the order in which the lines came up first. -/
def latestPerLine (targets : List Target) : List Target :=
  targets.foldl (fun kept t => place t kept) []

/-- Put a target before the first one that is for a later line or for the same. -/
def insertByLine (t : Target) : List Target → List Target
  | [] => [t]
  | first :: rest =>
    if t.item.firstLine ≤ first.item.firstLine then t :: first :: rest
    else first :: insertByLine t rest

/-- Targets in the order of their lines. -/
def sortByLine : List Target → List Target
  | [] => []
  | t :: rest => insertByLine t (sortByLine rest)

/-- The targets that count, in the order of their lines. -/
def resolve (targets : List Target) : List Target := sortByLine (latestPerLine targets)

@[simp] theorem resolve_nil : resolve [] = [] := rfl

end Target

/-- Apply splices to a text after giving their lines the endings of the lines around. -/
def spliceText (kind : SourceKind) (text : Text) (splices : List Splice) : Except Failure Text :=
  let buffer := LineBuffer.ofText text
  match buffer.apply (splices.map (Splice.adoptEnding buffer.lines)) with
  | .ok rewritten => .ok rewritten.toText
  | .error rejection => .error (.corruption kind rejection.message)

/-- Install documentation and give the rewritten text. -/
def inject [Parser] (kind : SourceKind) (text : Text) (targets : List Target) :
    Except Failure Text :=
  match Target.resolve targets with
  | [] => .ok text
  | resolved => do
    let splices ← kind.planSplices text resolved
    let rewritten ← spliceText kind text splices
    kind.verify rewritten
    return rewritten

@[simp] theorem inject_nil [Parser] (kind : SourceKind) (text : Text) :
    inject kind text [] = .ok text := rfl

end DocSplice
