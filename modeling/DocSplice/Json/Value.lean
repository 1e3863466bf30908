import DocSplice.Decimal.Shortest

/-!
# JSON values

Reports, and the messages that go to a generator and come back, are JSON values.  An object keeps
its members in order, and a number keeps the decimal that it was written as.
-/

namespace DocSplice.Json

/-- A JSON value. -/
inductive Value where
  | null
  | boolean (b : Bool)
  | number (negative : Bool) (magnitude : Decimal)
  | string (t : Text)
  | array (elements : List Value)
  | object (members : List (Text × Value))
  deriving Repr

namespace Value

/-- A whole number. -/
def ofNat (n : Nat) : Value := .number false ⟨n, 0⟩

/-- The text of a message or a name. -/
def ofString (s : String) : Value := .string s.toList

/-- A value that may be missing. -/
def ofOption {α : Type} (f : α → Value) : Option α → Value
  | some a => f a
  | none => .null

/-- A binary number, as the decimal that the format gives it; only finite numbers have one. -/
def ofBinary (f : BinaryFormat) : BinaryNumber → Value
  | .finite negative magnitude => .number negative (f.shortest magnitude)
  | .infinite _ => .null
  | .notANumber => .null

/-- An object with the given members. -/
def record (members : List (String × Value)) : Value :=
  .object (members.map fun m => (m.1.toList, m.2))

/-- The member of an object; of several with one name, the last. -/
def member? (name : String) : Value → Option Value
  | .object members => (members.reverse.find? fun m => m.1 = name.toList).map Prod.snd
  | _ => none

/-- The element of an array. -/
def element? (index : Nat) : Value → Option Value
  | .array elements => elements[index]?
  | _ => none

/-- The elements of an array. -/
def elements? : Value → Option (List Value)
  | .array elements => some elements
  | _ => none

/-- The text of a string. -/
def text? : Value → Option Text
  | .string t => some t
  | _ => none

end Value

end DocSplice.Json
