import DocSplice.Checking
import DocSplice.Command.Invocation
import DocSplice.Grammar.Parser
import DocSplice.Run
import DocSplice.Service.Provider
import DocSplice.Settings.File

/-!
# Execution

What the program does when it is invoked.  Everything outside is reached through `Surroundings`, so
an execution is a function of them; its `Outcome` says what is printed and with which code the
program ends.

The parser of structured sources is left open here as everywhere; where none is named, commands run
with the one that the grammar makes.

A command that cannot be carried out ends with a complaint: a sentence that says what failed,
followed by its causes from the outside in.  What was printed until then stays printed.
-/

namespace DocSplice

/-- Everything outside that a command may use. -/
structure Surroundings (m : Type → Type) where
  host : Host m
  transport : Service.Transport m
  /-- The variables of the environment. -/
  environment : String → Option Text
  /-- The present time, as it stands in reports. -/
  time : m Text
  /-- Whether the user asked to stop. -/
  cancelled : m Bool

/-- Why a command could not be carried out. -/
inductive Complaint where
  /-- The settings could not be read. -/
  | settings (cause : Failure)
  /-- The work itself failed. -/
  | work (cause : Failure)
  /-- The report could not be written. -/
  | report (path : Path) (cause : StorageFailure)
  /-- A configuration file cannot go there. -/
  | noDirectory (path : Path)
  /-- There is a configuration file already. -/
  | fileExists (path : Path)
  /-- The configuration file could not be written. -/
  | configurationFile (path : Path) (cause : StorageFailure)
  deriving DecidableEq, Repr

/-- The sentences for a failure, from the outside in. -/
def Failure.sentences (f : Failure) : List String :=
  f.message :: match f with
    | .storage cause => [cause.message]
    | .generation cause => [cause.message]
    | _ => []

namespace Complaint

/-- The sentences for a complaint, from the outside in. -/
def sentences : Complaint → List String
  | .settings cause => "Failed to load configuration" :: cause.sentences
  | .work cause => cause.sentences
  | .report path cause =>
    ("Failed to write report to " ++ String.ofList path) :: (Failure.storage cause).sentences
  | .noDirectory path => [String.ofList path ++ " is not a directory"]
  | .fileExists path =>
    [String.ofList path ++ " already exists; pass --force to overwrite it"]
  | .configurationFile path cause =>
    ("Failed to write " ++ String.ofList path) :: (Failure.storage cause).sentences

/-- A sentence as it stands below the heading for causes: behind a mark, with the following lines as
far in. -/
def indented (mark : String) (sentence : String) : Text :=
  let gap := '\n' :: List.replicate mark.length ' '
  mark.toList ++ sentence.toList.flatMap fun c => if c = '\n' then gap else [c]

/-- The mark of a numbered cause. -/
def numberMark (n : Nat) : String :=
  let digits := toString n
  String.ofList (List.replicate (5 - digits.length) ' ') ++ digits ++ ": "

/-- The causes as they stand below their heading; they are numbered if there are several. -/
def causeLines : List String → List Text
  | [cause] => [indented "    " cause]
  | causes => causes.mapIdx fun n cause => indented (numberMark n) cause

/-- The text of a complaint. -/
def text (c : Complaint) : Text :=
  match c.sentences with
  | [] => []
  | sentence :: causes =>
    ("Error: " ++ sentence ++ "\n").toList
      ++ if causes.isEmpty then []
        else "\nCaused by:\n".toList ++ (causeLines causes).flatMap (· ++ ['\n'])

end Complaint

namespace Command

/-- How a command ended. -/
structure Outcome where
  /-- The code that the program ends with. -/
  code : Nat
  /-- What was printed. -/
  output : Text
  /-- Why the command could not be carried out, if it could not. -/
  complaint : Option Complaint
  deriving DecidableEq, Repr

/-- The code of a command that did what it was asked for and found everything in order. -/
def successCode : Nat := 0

/-- The code of a command that could not be carried out, or that found something not in order. -/
def failureCode : Nat := 1

/-- The code for a command line that cannot be read. -/
def usageCode : Nat := 2

/-- The code of a run that was cancelled. -/
def cancelledCode : Nat := 130

namespace Outcome

/-- Nothing was printed but a complaint. -/
def failed (c : Complaint) : Outcome := ⟨failureCode, [], some c⟩

/-- Everything was printed. -/
def printed (code : Nat) (output : Text) : Outcome := ⟨code, output, none⟩

/-- The text of the complaint. -/
def complaintText (o : Outcome) : Text := (o.complaint.map Complaint.text).getD []

end Outcome

/-- Lines as they are printed. -/
def linesText (lines : List String) : Text := lines.flatMap fun line => line.toList ++ ['\n']

/-! ## What is printed -/

/-- The line for a file that failed. -/
def failedLine? (o : FileOutcome) : Option String :=
  o.error.map fun reason => "  FAILED " ++ String.ofList o.path ++ ": " ++ reason

/-- The line that sums up a run. -/
def totalLine (s : RunSummary) : String :=
  if s.dryRun then
    toString s.files.length ++ " file(s) scanned, " ++ toString s.pending
      ++ " item(s) need documentation"
  else
    toString s.files.length ++ " file(s) processed, " ++ toString s.documented
      ++ " item(s) documented, " ++ toString s.failedFiles ++ " file(s) failed"

/-- The lines for a run. -/
def runLines (s : RunSummary) : List String := totalLine s :: s.files.filterMap failedLine?

/-- The lines for an item that was checked. -/
def itemLines (path : Path) (r : ItemReport) : List String :=
  (String.ofList path ++ ":" ++ toString r.firstLine ++ " " ++ String.ofList r.name ++ " "
      ++ verdict r.issues)
    :: r.issues.map fun issue => "    - " ++ issue.message

/-- The lines for a file that was checked. -/
def checkLines (o : CheckOutcome) : List String :=
  match o.error with
  | some reason => [String.ofList o.path ++ ": ERROR " ++ reason]
  | none => o.items.flatMap (itemLines o.path)

/-- The files that are not in order. -/
def failing (os : List CheckOutcome) : List CheckOutcome := os.filter fun o => !o.isCompliant

/-- The line that sums up a check. -/
def checkedLine (os : List CheckOutcome) : String :=
  toString os.length ++ " file(s) checked, " ++ toString (failing os).length ++ " non-compliant"

/-- The code after a run. -/
def runCode (s : RunSummary) : Nat :=
  if s.interrupted then cancelledCode
  else if 0 < s.failedFiles then failureCode else successCode

/-- The code after a check. -/
def checkCode (os : List CheckOutcome) : Nat :=
  if (failing os).isEmpty then successCode else failureCode

/-- The name of the program and its version. -/
def versionLine : String := "docstamp 0.1.0"

/-- How the program is used. -/
def usageLines : List String :=
  ["Usage: docstamp [OPTIONS] <COMMAND>",
    "",
    "Commands:",
    "  document <PATH> [-d, --detail <LEVEL>] [--dry-run] [--api-key <KEY>] [--report <FILE>]",
    "  check <PATH>",
    "  init [-p, --path <DIR>] [--force]",
    "",
    "Options:",
    "  -c, --config <FILE>",
    "  -v, --verbose",
    "  -h, --help",
    "  -V, --version"]

/-! ## The tasks -/

section

variable {m : Type → Type} [Monad m]

/-- The generator for a run, which a dry run does not need. -/
def generatorFor (s : Surroundings m) (g : GenerationSettings) (dryRun : Bool) :
    Except Failure (Option (Generator m)) :=
  if dryRun then .ok none
  else (Service.ofSettings g).map fun service => some (service.generator s.transport)

/-- Write the report of a run, if one is asked for. -/
def writeReport (s : Surroundings m) (summary : RunSummary) (started finished : Text) :
    Option Path → m (Option Complaint)
  | none => return none
  | some path => do
    match ← s.host.write path (summary.report started finished).pretty with
    | .ok () => return none
    | .error cause => return some (.report path cause)

/-- How a run ends, with its report. -/
def finishRun (s : Surroundings m) (summary : RunSummary) (started : Text) (report : Option Path) :
    m Outcome := do
  let finished ← s.time
  let shown := linesText (runLines summary)
  match ← writeReport s summary started finished report with
  | some complaint => return ⟨failureCode, shown, some complaint⟩
  | none => return .printed (runCode summary) shown

/-- Document what a path stands for. -/
def document [Parser] (s : Surroundings m) (settings : Settings) (path : Path) (detail : Detail)
    (dryRun : Bool) (report : Option Path) : m Outcome := do
  match generatorFor s settings.generation dryRun with
  | .error e => return .failed (.work e)
  | .ok generator =>
    let started ← s.time
    match ← documentPath s.host settings.processing generator detail dryRun s.cancelled path with
    | .error e => return .failed (.work e)
    | .ok summary => finishRun s summary started report

/-- Check what a path stands for. -/
def check [Parser] (s : Surroundings m) (settings : Settings) (path : Path) : m Outcome := do
  match ← checkPath s.host settings.processing path with
  | .error e => return .failed (.work e)
  | .ok outcomes =>
    return .printed (checkCode outcomes)
      (linesText (outcomes.flatMap checkLines ++ [checkedLine outcomes]))

/-- The name of a new configuration file. -/
def configurationName : Text := "docstamp.toml".toList

/-- Write a configuration file with the defaults into a directory. -/
def init (s : Surroundings m) (directory : Path) (force : Bool) : m Outcome := do
  if ← s.host.isDirectory directory then
    let target := Path.join directory configurationName
    if (← s.host.pathExists target) && !force then return .failed (.fileExists target)
    else
      match ← Settings.default.save s.host target with
      | .ok () => return .printed successCode []
      | .error cause => return .failed (.configurationFile target cause)
  else return .failed (.noDirectory directory)

/-- The settings with the key that the command line gives, or else the environment. -/
def withKey (s : Surroundings m) (settings : Settings) : Option Text → Settings
  | some key => { settings with generation := { settings.generation with apiKey := some key } }
  | none => { settings with generation := settings.generation.resolveKey s.environment }

/-- Read the settings and go on with them. -/
def withSettings (s : Surroundings m) (config : Option Path) (key : Option Text)
    (go : Settings → m Outcome) : m Outcome := do
  match ← Settings.loadOrDefault s.host config with
  | .error e => return .failed (.settings e)
  | .ok settings => go (withKey s settings key)

/-- Carry out an invocation. -/
def execute [Parser] (s : Surroundings m) (i : Invocation) : m Outcome :=
  match i.task with
  | .document path detail dryRun key report =>
    withSettings s i.config key fun settings =>
      document s settings path (detail.getD settings.generation.detail) dryRun report
  | .check path => withSettings s i.config none fun settings => check s settings path
  | .init directory force => init s (directory.getD Path.dot) force

/-- Do what a command line asks for; one that cannot be read is answered with the usage code. -/
def runWords [Parser] (s : Surroundings m) (words : List Text) : m Outcome :=
  match ofWords? words with
  | none => return .printed usageCode []
  | some .version => return .printed successCode (linesText [versionLine])
  | some .help => return .printed successCode (linesText usageLines)
  | some (.run i) => execute s i

end

end Command

end DocSplice
