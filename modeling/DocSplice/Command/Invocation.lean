import DocSplice.Command.Argument

/-!
# Invocations

What a whole command line asks for: one task with its options, or an answer about the program
itself.  Before the task there may be options that hold for every task; given again behind it, the
later value counts.  Otherwise no option may be given twice.

A question about the program is answered as soon as it is read, so what stands behind it does not
matter, while a mistake in front of it does.
-/

namespace DocSplice

/-- Something to be done. -/
inductive Task where
  /-- Write the documentation that is missing or not in order. -/
  | document (path : Path) (detail : Option Detail) (dryRun : Bool) (key : Option Text)
      (report : Option Path)
  /-- Report the issues. -/
  | check (path : Path)
  /-- Write a configuration file. -/
  | init (directory : Option Path) (force : Bool)
  deriving DecidableEq, Repr

/-- A task, and the options that hold for every task. -/
structure Invocation where
  /-- The configuration file that is asked for. -/
  config : Option Path
  verbose : Bool
  task : Task
  deriving DecidableEq, Repr

/-- What a command line asks for. -/
inductive Command where
  | version
  | help
  | run (invocation : Invocation)
  deriving DecidableEq, Repr

namespace Command

open Argument

/-- The value of an option. -/
def valueOf? (o : OptionName) (as : List Argument) : Option Text :=
  as.findSome? fun a =>
    match a with
    | .value other t => if other = o then some t else none
    | _ => none

/-- Whether an option without a value is there. -/
def isGiven (o : OptionName) (as : List Argument) : Bool := as.contains (.flag o)

/-- The operands. -/
def operands (as : List Argument) : List Text := as.filterMap Argument.operand?

/-- The arguments in front of the task. -/
def beforeTask (as : List Argument) : List Argument := as.takeWhile fun a => !a.isTask

/-- The name of the task and the arguments behind it. -/
def task? (as : List Argument) : Option (TaskName × List Argument) :=
  match as.dropWhile fun a => !a.isTask with
  | .task t :: rest => some (t, rest)
  | _ => none

/-- Whether nothing is wrong with the arguments on one side of the task, which may hold so many
operands. -/
def isSoundSide (limit : Nat) (as : List Argument) : Bool :=
  as.all Argument.isSound && decide (as.filterMap Argument.option?).Nodup
    && decide ((operands as).length ≤ limit)

/-- Whether nothing is wrong with arguments, though some may be missing. -/
def isSound (as : List Argument) : Bool :=
  isSoundSide 0 (beforeTask as) &&
    match task? as with
    | some (t, rest) => isSoundSide t.operands rest
    | none => true

/-- The task with the arguments behind its name. -/
def taskOf? (as : List Argument) : TaskName → Option Task
  | .document => (operands as).head?.map fun path =>
    .document path ((valueOf? .detail as).bind Detail.ofWord?) (isGiven .dryRun as)
      (valueOf? .key as) (valueOf? .report as)
  | .check => (operands as).head?.map .check
  | .init => some (.init (valueOf? .directory as) (isGiven .force as))

/-- What arguments without a mistake or a question ask for. -/
def invocation? (as : List Argument) : Option Invocation := do
  let before := beforeTask as
  let (name, rest) ← task? as
  let task ← taskOf? rest name
  some ⟨(valueOf? .config rest).or (valueOf? .config before),
    isGiven .verbose rest || isGiven .verbose before, task⟩

/-- What arguments ask for. -/
def ofArguments? (as : List Argument) : Option Command :=
  if isSound (as.takeWhile fun a => !a.isQuestion) then
    match as.find? Argument.isQuestion with
    | some (.flag .version) => some .version
    | some _ => some .help
    | none => (invocation? as).map .run
  else none

/-- What the words of a command line ask for. -/
def ofWords? (words : List Text) : Option Command := ofArguments? (Argument.read none none words)

end Command

end DocSplice
