import DocSplice.Documenting
import DocSplice.Json.Printer

/-!
# Runs

A run documents every file that a path stands for, one after the other.  Before each file it looks
whether it was cancelled; then it stops, and what was written stays written.

A run can be reported as a JSON value.  Times are taken as they are given, since only the outer
layer has a clock.
-/

namespace DocSplice

/-- What a run came to. -/
structure RunSummary where
  detail : Detail
  dryRun : Bool
  /-- Whether the run stopped before all files were done. -/
  interrupted : Bool
  files : List FileOutcome
  deriving DecidableEq, Repr

namespace RunSummary

/-- The number of files that failed. -/
def failedFiles (s : RunSummary) : Nat := (s.files.filter fun o => !o.success).length

/-- The number of items whose documentation was written. -/
def documented (s : RunSummary) : Nat := (s.files.map (·.documented)).foldr (· + ·) 0

/-- The number of items that need documentation. -/
def pending (s : RunSummary) : Nat := (s.files.map (·.pending)).foldr (· + ·) 0

end RunSummary

section

variable {m : Type → Type} [Monad m]

/-- Document files until the run is cancelled; the result says whether it was. -/
def documentAll (document : Path → m FileOutcome) (cancelled : m Bool) :
    List Path → m (Bool × List FileOutcome)
  | [] => return (false, [])
  | path :: rest => do
    if ← cancelled then return (true, [])
    else
      let outcome ← document path
      let (interrupted, outcomes) ← documentAll document cancelled rest
      return (interrupted, outcome :: outcomes)

/-- Document every file that a path stands for. -/
def documentPath [Parser] (host : Host m) (settings : ProcessingSettings)
    (generator : Option (Generator m)) (detail : Detail) (dryRun : Bool) (cancelled : m Bool)
    (path : Path) : m (Except Failure RunSummary) := do
  match ← Discovery.files host settings path with
  | .error e => return .error e
  | .ok files =>
    let document := documentFile host settings generator detail dryRun
    let (interrupted, outcomes) ← documentAll document cancelled files
    return .ok ⟨detail, dryRun, interrupted, outcomes⟩

end

/-! ## Reports -/

open Json (Value)

/-- The report of an item that got no documentation. -/
def FailedItem.report (f : FailedItem) : Value := .record
  [("name", .string f.name), ("line_start", .ofNat f.firstLine), ("reason", .ofString f.reason)]

/-- The report of a file. -/
def FileOutcome.report (o : FileOutcome) : Value := .record
  [("path", .string o.path), ("kind", .ofOption (fun k => .ofString k.tag) o.kind),
    ("success", .boolean o.success), ("dry_run", .boolean o.dryRun),
    ("items_processed", .ofNat o.processed), ("items_pending", .ofNat o.pending),
    ("items_documented", .ofNat o.documented), ("items_skipped", .ofNat o.skipped),
    ("items_failed", .ofNat o.failed), ("failures", .array (o.failures.map FailedItem.report)),
    ("error", .ofOption .ofString o.error)]

/-- The report of a run that started and finished at the given times. -/
def RunSummary.report (s : RunSummary) (started finished : Text) : Value := .record
  [("started_at", .string started), ("finished_at", .string finished),
    ("detail_level", .ofString s.detail.word), ("dry_run", .boolean s.dryRun),
    ("interrupted", .boolean s.interrupted), ("files", .array (s.files.map FileOutcome.report))]

end DocSplice
