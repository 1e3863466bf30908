import DocSplice.Decimal.Binary
import DocSplice.Text.Basic

/-!
# TOML values and documents

A configuration file is a TOML document: a table whose values may be tables again.  `Toml.Value` is
what a finished document holds.

While a document is read its tables are open to additions, and which additions are allowed depends
on how a table came about.  `Toml.Node` keeps track of that: a table that was only named on the way
to another one may still be given a header of its own, a table made by dotted keys may be extended
by dotted keys only, and what was written as a value is closed for good.  Every operation on the
entries of an open table gives nothing where the addition is not allowed.
-/

namespace DocSplice.Toml

/-- What a finished document holds. -/
inductive Value where
  | string (t : Text)
  | integer (n : Int)
  | float (x : BinaryNumber)
  | boolean (b : Bool)
  /-- A date, a time of day, or both, as it was written. -/
  | moment (t : Text)
  | array (elements : List Value)
  | table (entries : List (Text × Value))
  deriving Repr

/-- How a table came about. -/
inductive Origin where
  /-- It was named on the way to another table. -/
  | implied
  /-- It was named by the dotted key of a value. -/
  | dotted
  /-- It has a header. -/
  | header
  deriving DecidableEq, Repr

/-- What stands under a key while a document is read. -/
inductive Node where
  | leaf (v : Value)
  | table (origin : Origin) (entries : List (Text × Node))
  /-- Tables that share one name, in order. -/
  | tables (elements : List (List (Text × Node)))

/-- The entries of a table that is open to additions. -/
abbrev Entries := List (Text × Node)

namespace Entries

/-- What stands under a key. -/
def find? (es : Entries) (key : Text) : Option Node := (List.find? (·.1 == key) es).map Prod.snd

/-- Put something under a key, in place of what stood there. -/
def set (es : Entries) (key : Text) (n : Node) : Entries :=
  match es with
  | [] => [(key, n)]
  | e :: rest => if e.1 == key then (key, n) :: rest else e :: set rest key n

/-- Change the entries of the table at the end of a path; tables on the way that do not exist yet
are implied. -/
def within (f : Entries → Option Entries) : List Text → Entries → Option Entries
  | [], es => f es
  | key :: path, es =>
    match es.find? key with
    | none => (within f path []).map fun inner => es.set key (.table .implied inner)
    | some (.table origin inner) =>
      (within f path inner).map fun inner => es.set key (.table origin inner)
    | some (.tables elements) =>
      match elements.reverse with
      | [] => none
      | last :: before =>
        (within f path last).map fun last => es.set key (.tables (before.reverse ++ [last]))
    | some (.leaf _) => none

/-- Put a value under a key that is not taken. -/
def add (key : Text) (v : Value) (es : Entries) : Option Entries :=
  if (es.find? key).isSome then none else some (es ++ [(key, .leaf v)])

/-- Put a value under a key of the table at the end of a dotted path, when the path led into a table
of the given origin. -/
def assignFrom (key : Text) (v : Value) (origin : Origin) : List Text → Entries → Option Entries
  | [], es => if origin = .dotted then es.add key v else none
  | step :: path, es =>
    match es.find? step with
    | none => (assignFrom key v .dotted path []).map fun inner => es.set step (.table .dotted inner)
    | some (.table .header _) => none
    | some (.table origin inner) =>
      (assignFrom key v origin path inner).map fun inner => es.set step (.table origin inner)
    | some (.tables elements) =>
      match elements.reverse with
      | [] => none
      | last :: before =>
        (assignFrom key v .header path last).map fun last =>
          es.set step (.tables (before.reverse ++ [last]))
    | some (.leaf _) => none

/-- Put a value under a dotted key of a table. -/
def assign (path : List Text) (key : Text) (v : Value) (es : Entries) : Option Entries :=
  if path.isEmpty then es.add key v else assignFrom key v .header path es

/-- Give the table under a key its header. -/
def openTable (key : Text) (es : Entries) : Option Entries :=
  match es.find? key with
  | none => some (es.set key (.table .header []))
  | some (.table .implied inner) => some (es.set key (.table .header inner))
  | some _ => none

/-- Begin another one of the tables that share a name. -/
def openElement (key : Text) (es : Entries) : Option Entries :=
  match es.find? key with
  | none => some (es.set key (.tables [[]]))
  | some (.tables elements) => some (es.set key (.tables (elements ++ [[]])))
  | some _ => none

end Entries

mutual

/-- The value that an open node becomes. -/
def Node.close : Node → Value
  | .leaf v => v
  | .table _ entries => .table (closeEntries entries)
  | .tables elements => .array (closeTables elements)

/-- The entries that the entries of an open table become. -/
def closeEntries : List (Text × Node) → List (Text × Value)
  | [] => []
  | (key, n) :: rest => (key, n.close) :: closeEntries rest

/-- The values that tables of one name become. -/
def closeTables : List (List (Text × Node)) → List Value
  | [] => []
  | entries :: rest => .table (closeEntries entries) :: closeTables rest

end

namespace Value

/-- What a table holds under a key. -/
def entry? (key : String) : Value → Option Value
  | .table entries => (entries.find? (·.1 == key.toList)).map Prod.snd
  | _ => none

/-- The text of a string. -/
def text? : Value → Option Text
  | .string t => some t
  | _ => none

/-- The truth value. -/
def boolean? : Value → Option Bool
  | .boolean b => some b
  | _ => none

/-- The whole number, if it is at least zero and below a bound. -/
def natBelow? (bound : Nat) : Value → Option Nat
  | .integer (.ofNat n) => if n < bound then some n else none
  | _ => none

/-- The number in a binary format. -/
def number? (f : BinaryFormat) : Value → Option BinaryNumber
  | .float x => some (f.convert x)
  | .integer n => some (f.round (n < 0) n.natAbs 1)
  | _ => none

end Value

end DocSplice.Toml
