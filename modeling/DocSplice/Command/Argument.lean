import DocSplice.Detail
import DocSplice.Path

/-!
# Arguments of the command line

The words of a command line are read from left to right.  A word is the name of the task, an option,
the value of the option before it, or an operand.  Which options there are depends on the task, so
the first word that is none of the others has to name one.

* A long option stands in a word of its own, as in `--config FILE` or `--config=FILE`.
* Letters may share a word; the first one that takes a value takes the rest of the word, as in
  `-vcFILE` or `-c=FILE`.
* A word that looks like an option is never a value, and after `--` every word is an operand.

Reading does not stop at a mistake but leaves a mark there, so that what stands before it can still
be told from what stands behind it.
-/

namespace DocSplice.Command

/-- What the program can be told to do. -/
inductive TaskName where
  | document
  | check
  | init
  deriving DecidableEq, Repr

namespace TaskName

/-- Every task. -/
def all : List TaskName := [.document, .check, .init]

/-- The word for a task. -/
def word : TaskName → String
  | .document => "document"
  | .check => "check"
  | .init => "init"

/-- The task that a word stands for. -/
def ofWord? (word : Text) : Option TaskName := all.find? fun t => t.word.toList = word

@[simp] theorem ofWord?_word (t : TaskName) : ofWord? t.word.toList = some t := by
  cases t <;> decide

/-- How many operands a task takes at most. -/
def operands : TaskName → Nat
  | .document => 1
  | .check => 1
  | .init => 0

end TaskName

/-- An option. -/
inductive OptionName where
  /-- The configuration file. -/
  | config
  | verbose
  | help
  | version
  /-- The level of detail. -/
  | detail
  | dryRun
  /-- The key for the generator. -/
  | key
  /-- The file for the report. -/
  | report
  /-- The directory of a new configuration file. -/
  | directory
  /-- Whether a file may be overwritten. -/
  | force
  deriving DecidableEq, Repr

namespace OptionName

/-- The long name of an option. -/
def long : OptionName → String
  | .config => "config"
  | .verbose => "verbose"
  | .help => "help"
  | .version => "version"
  | .detail => "detail"
  | .dryRun => "dry-run"
  | .key => "api-key"
  | .report => "report"
  | .directory => "path"
  | .force => "force"

/-- The letter of an option, if it has one. -/
def letter? : OptionName → Option Char
  | .config => some 'c'
  | .verbose => some 'v'
  | .help => some 'h'
  | .version => some 'V'
  | .detail => some 'd'
  | .directory => some 'p'
  | .dryRun | .key | .report | .force => none

/-- Whether an option takes a value. -/
def takesValue : OptionName → Bool
  | .config | .detail | .key | .report | .directory => true
  | .verbose | .help | .version | .dryRun | .force => false

/-- Whether a text may be the value of an option. -/
def accepts (t : Text) : OptionName → Bool
  | .config | .report | .directory => !t.isEmpty
  | .detail => (Detail.ofWord? t).isSome
  | _ => true

/-- The options that are known once the task is known, or before. -/
def known : Option TaskName → List OptionName
  | none => [.config, .verbose, .help, .version]
  | some .document => [.config, .verbose, .help, .detail, .dryRun, .key, .report]
  | some .check => [.config, .verbose, .help]
  | some .init => [.config, .verbose, .help, .directory, .force]

end OptionName

/-- An argument. -/
inductive Argument where
  /-- An option without a value. -/
  | flag (o : OptionName)
  /-- An option with its value. -/
  | value (o : OptionName) (t : Text)
  | task (t : TaskName)
  | operand (t : Text)
  /-- Something that cannot be read. -/
  | mistake
  deriving DecidableEq, Repr

namespace Argument

/-- The option that an argument is about. -/
def option? : Argument → Option OptionName
  | .flag o => some o
  | .value o _ => some o
  | _ => none

/-- The text of an operand. -/
def operand? : Argument → Option Text
  | .operand t => some t
  | _ => none

/-- Whether an argument names the task. -/
def isTask : Argument → Bool
  | .task _ => true
  | _ => false

/-- Whether an argument asks something about the program itself. -/
def isQuestion (a : Argument) : Bool := a == .flag .help || a == .flag .version

/-- Whether there is nothing wrong with an argument by itself. -/
def isSound : Argument → Bool
  | .value o t => o.accepts t
  | .operand t => !t.isEmpty
  | .mistake => false
  | _ => true

/-! ## Reading words -/

/-- What a word or a part of it says, and the option whose value is still to come. -/
abbrev Part := List Argument × Option OptionName

/-- What an option says, when a value may be attached to it. -/
def ofOption (o : OptionName) (attached : Option Text) : Part :=
  match o.takesValue, attached with
  | true, some t => ([.value o t], none)
  | true, none => ([], some o)
  | false, none => ([.flag o], none)
  | false, some _ => ([.mistake], none)

/-- What the letters of a word say. -/
def ofLetters (known : List OptionName) : List Char → Part
  | [] => ([], none)
  | c :: rest =>
    match known.find? fun o => o.letter? = some c with
    | none => ([.mistake], none)
    | some o =>
      if o.takesValue then
        ofOption o (if rest.isEmpty then none else some ((Text.stripPrefix? rest ['=']).getD rest))
      else
        let (others, pending) := ofLetters known rest
        (.flag o :: others, pending)

/-- What a long option says. -/
def ofLong (known : List OptionName) (word : Text) : Part :=
  let name := word.takeWhile (· != '=')
  match known.find? fun o => o.long.toList = name with
  | none => ([.mistake], none)
  | some o => ofOption o ((word.drop name.length).tail?)

/-- What a word says that is no option. -/
def ofWord (task : Option TaskName) (word : Text) : Argument :=
  match task with
  | some _ => .operand word
  | none =>
    match TaskName.ofWord? word with
    | some t => .task t
    | none => if word = OptionName.help.long.toList then .flag .help else .mistake

/-- The task that is known after an argument. -/
def taskAfter (task : Option TaskName) : Argument → Option TaskName
  | .task t => some t
  | _ => task

/-- Whether a word looks like an option. -/
def looksLikeOption (word : Text) : Bool := word.head? == some '-' && 1 < word.length

/-- What a word says that looks like an option. -/
def ofOptionWord (known : List OptionName) (word : Text) : Part :=
  match Text.stripPrefix? word ['-', '-'] with
  | some long => ofLong known long
  | none => ofLetters known (word.drop 1)

/-- The word after which there are no options. -/
def separator : Text := ['-', '-']

/-- Read words, when the task and an option that waits for its value may be known. -/
def read (task : Option TaskName) : Option OptionName → List Text → List Argument
  | none, [] => []
  | some _, [] => [.mistake]
  | none, word :: rest =>
    if word = separator then rest.map .operand
    else if looksLikeOption word then
      let (said, pending) := ofOptionWord (OptionName.known task) word
      said ++ read task pending rest
    else
      let a := ofWord task word
      a :: read (taskAfter task a) none rest
  | some o, word :: rest =>
    if looksLikeOption word then [.mistake] else .value o word :: read task none rest

end Argument

end DocSplice.Command
