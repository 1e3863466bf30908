import DocSplice.Command.Execution
import DocSplice.Grammar.Parser
import DocSplice.Proofs.Lines
import DocSplice.Proofs.Steps
import Mathlib.Data.List.Basic

/-!
# Dry runs and checks

A check lists the issues of every item, and a dry run counts the items that it would ask the
generator about.  The two classify the items in different ways: a check validates whatever
documentation was found, and a dry run does not look further where there is none.  They go over the
files in different loops, too.  `Rehearses` says what they have in common file by file
(`rehearses_documentFile`).

Both only look, so in surroundings that change nothing by themselves (`Command.Calm`) they see the
same files: `checkPath_apply` and `documentPath_apply` read off what comes of every file.  So a
check finds everything in order exactly when a dry run fails for no file and has nothing to ask for
(`checkCode_iff_drySummary`), and the line that a dry run prints says whether it has
(`eq_of_scannedLine_eq`).  `dry_run_iff_check` puts these together.
-/

namespace DocSplice

variable {σ : Type} {host : Host (StateM σ)} {settings : ProcessingSettings}
  {generator : Option (Generator (StateM σ))} {detail : Detail} {path : Path} {state : σ}
  {run : FileOutcome} {check : CheckOutcome}

/-! ## One file -/

/-- A dry run says of a file what a check says: both fail with the same sentence or neither does,
and the items are counted by whether they have an issue.  In a file that failed there are none. -/
structure Rehearses (run : FileOutcome) (check : CheckOutcome) : Prop where
  error_eq : run.error = check.error
  processed_eq : run.processed = check.items.length
  pending_eq : run.pending = (check.items.filter fun report => !report.issues.isEmpty).length
  skipped_eq : run.skipped = (check.items.filter fun report => report.issues.isEmpty).length

/-- The work ends before the generator is asked. -/
theorem documentSource_dry [Parser] (host : Host (StateM σ))
    (generator : Option (Generator (StateM σ))) (detail : Detail) (f : SourceFile) :
    documentSource host generator detail true f = pure (f.outcome true) := by
  unfold documentSource
  rw [Bool.or_true]
  rfl

theorem rehearses_outcome [Parser] (f : SourceFile) : Rehearses (f.outcome true) f.check where
  error_eq := rfl
  processed_eq := (List.length_map _).symm
  pending_eq := by
    show f.pendingItems.length = ((f.items.map (ItemReport.of f.kind)).filter _).length
    rw [SourceFile.pendingItems_eq, List.filter_map, List.length_map]
    rfl
  skipped_eq := by
    have hinorder : f.kind.isInOrder =
        (fun report : ItemReport => report.issues.isEmpty) ∘ ItemReport.of f.kind :=
      funext fun item => f.kind.isInOrder_eq item
    show (f.items.filter f.kind.isInOrder).length =
      ((f.items.map (ItemReport.of f.kind)).filter _).length
    rw [List.filter_map, List.length_map, hinorder]

/-- **A dry run rehearses a check**, file by file. -/
theorem rehearses_documentFile [Parser] (host : Host (StateM σ)) (settings : ProcessingSettings)
    (generator : Option (Generator (StateM σ))) (detail : Detail) (path : Path) (state : σ) :
    Rehearses (documentFile host settings generator detail true path state).1
      (checkFile host settings path state).1 := by
  rw [documentFile, checkFile, bind_apply, bind_apply]
  cases (SourceFile.read host settings path state).1 with
  | error e => exact ⟨rfl, rfl, rfl, rfl⟩
  | ok f =>
    dsimp only
    rw [documentSource_dry]
    exact rehearses_outcome f

/-- A file is compliant when a dry run does not fail for it and has nothing to ask for. -/
theorem Rehearses.isCompliant_iff (h : Rehearses run check) :
    check.isCompliant = true ↔ run.success = true ∧ run.pending = 0 := by
  rw [CheckOutcome.isCompliant, Bool.and_eq_true, FileOutcome.success, h.error_eq, h.pending_eq,
    List.length_eq_zero_iff, List.filter_eq_nil_iff, List.all_eq_true]
  refine and_congr_right fun _ => forall₂_congr fun report _ => ?_
  rw [Bool.not_eq_true, Bool.not_eq_false']

/-! ## All files of a path -/

theorem still_documentFile [Parser] (h : host.Still) (path : Path) :
    Still (documentFile host settings generator detail true path) := by
  refine (h.readSource settings path).bind fun found => ?_
  cases found with
  | error e => exact still_pure _
  | ok f =>
    dsimp only
    rw [documentSource_dry]
    exact still_pure _

theorem still_checkFile [Parser] (h : host.Still) (path : Path) :
    Still (checkFile host settings path) := by
  refine (h.readSource settings path).bind fun found => ?_
  cases found with
  | error e => exact still_pure _
  | ok f => exact still_pure _

/-- A run that nobody cancels goes through all files. -/
theorem documentAll_apply {document : Path → StateM σ FileOutcome} {cancelled : StateM σ Bool}
    (hdocument : ∀ file, Still (document file))
    (hcancelled : ∀ state, cancelled state = (false, state)) (files : List Path) (state : σ) :
    documentAll document cancelled files state =
      ((false, files.map fun file => (document file state).1), state) := by
  induction files with
  | nil => rfl
  | cons file rest ih =>
    rw [documentAll, bind_apply, hcancelled]
    dsimp only
    rw [if_neg Bool.false_ne_true, bind_apply_of_still (hdocument file), bind_apply, ih]
    rfl

/-- What a dry run of a path comes to. -/
def drySummary [Parser] (host : Host (StateM σ)) (settings : ProcessingSettings) (detail : Detail)
    (files : List Path) (state : σ) : RunSummary :=
  ⟨detail, true, false,
    files.map fun file => (documentFile host settings none detail true file state).1⟩

/-- What checking the files comes to. -/
def checkOutcomes [Parser] (host : Host (StateM σ)) (settings : ProcessingSettings)
    (files : List Path) (state : σ) : List CheckOutcome :=
  files.map fun file => (checkFile host settings file state).1

theorem documentPath_apply [Parser] (h : host.Still) {cancelled : StateM σ Bool}
    (hcancelled : ∀ state, cancelled state = (false, state)) :
    documentPath host settings none detail true cancelled path state =
      ((Discovery.files host settings path state).1.map fun files =>
        drySummary host settings detail files state, state) := by
  rw [documentPath, bind_apply_of_still (h.files settings path)]
  cases (Discovery.files host settings path state).1 with
  | error e => rfl
  | ok files =>
    dsimp only
    rw [bind_apply, documentAll_apply (still_documentFile h) hcancelled]
    rfl

theorem checkPath_apply [Parser] (h : host.Still) :
    checkPath host settings path state =
      ((Discovery.files host settings path state).1.map fun files =>
        checkOutcomes host settings files state, state) := by
  rw [checkPath, bind_apply_of_still (h.files settings path)]
  cases (Discovery.files host settings path state).1 with
  | error e => rfl
  | ok files =>
    dsimp only
    rw [bind_apply, mapM_apply_of_still (still_checkFile h)]
    rfl

/-! ## How the commands end -/

namespace RunSummary

variable {summary : RunSummary}

theorem failedFiles_eq_zero_iff :
    summary.failedFiles = 0 ↔ ∀ run ∈ summary.files, run.success = true := by
  rw [failedFiles, List.length_eq_zero_iff, List.filter_eq_nil_iff]
  refine forall₂_congr fun run _ => ?_
  rw [Bool.not_eq_true, Bool.not_eq_false']

theorem pending_eq_zero_iff : summary.pending = 0 ↔ ∀ run ∈ summary.files, run.pending = 0 := by
  have hsum : summary.pending = (summary.files.map (·.pending)).sum := rfl
  rw [hsum, List.sum_eq_zero_iff_forall_eq_nat, List.forall_mem_map]

end RunSummary

namespace Command

theorem runCode_eq_successCode_iff {summary : RunSummary} (h : summary.interrupted = false) :
    runCode summary = successCode ↔ summary.failedFiles = 0 := by
  rw [runCode, h, if_neg Bool.false_ne_true]
  split
  · rename_i hfailed
    exact ⟨fun hcode => absurd hcode (by decide), fun hnone => absurd hnone (by omega)⟩
  · rename_i hnone
    exact ⟨fun _ => by omega, fun _ => rfl⟩

theorem checkCode_eq_successCode_iff {outcomes : List CheckOutcome} :
    checkCode outcomes = successCode ↔ ∀ check ∈ outcomes, check.isCompliant = true := by
  have hnone : failing outcomes = [] ↔ ∀ check ∈ outcomes, check.isCompliant = true := by
    rw [failing, List.filter_eq_nil_iff]
    refine forall₂_congr fun check _ => ?_
    rw [Bool.not_eq_true, Bool.not_eq_false']
  rw [checkCode, ← hnone, ← List.isEmpty_iff]
  split
  · rename_i hempty
    exact ⟨fun _ => hempty, fun _ => rfl⟩
  · rename_i hsome
    exact ⟨fun hcode => absurd hcode (by decide), fun hempty => absurd hempty hsome⟩

/-- **The codes agree**: all files are in order when no file fails in the dry run and nothing is
pending. -/
theorem checkCode_iff_drySummary [Parser] (host : Host (StateM σ)) (settings : ProcessingSettings)
    (detail : Detail) (files : List Path) (state : σ) :
    checkCode (checkOutcomes host settings files state) = successCode ↔
      (drySummary host settings detail files state).failedFiles = 0 ∧
        (drySummary host settings detail files state).pending = 0 := by
  rw [checkCode_eq_successCode_iff, RunSummary.failedFiles_eq_zero_iff,
    RunSummary.pending_eq_zero_iff, checkOutcomes, drySummary, List.forall_mem_map,
    List.forall_mem_map, List.forall_mem_map, ← forall₂_and]
  refine forall₂_congr fun file _ => ?_
  exact (rehearses_documentFile host settings none detail file state).isCompliant_iff

/-! ## What a dry run prints -/

/-- The line of a dry run of so many files in which so many items need documentation. -/
def scannedLine (files pending : Nat) : String :=
  toString files ++ " file(s) scanned, " ++ toString pending ++ " item(s) need documentation"

theorem space_notMem_toString (n : Nat) : ' ' ∉ (toString n).toList := by
  intro h
  rw [Nat.toString_eq_repr, Nat.toList_repr] at h
  exact absurd (Nat.isDigit_of_mem_toDigits (by decide) (by decide) h) (by decide)

theorem eq_of_toString_toList_eq {a b : Nat} (h : (toString a).toList = (toString b).toList) :
    a = b := by
  rw [Nat.toString_eq_repr, Nat.toString_eq_repr, Nat.toList_repr, Nat.toList_repr] at h
  rw [← Nat.ofDigitChars_toDigits (b := 10) (n := a) (by decide) (by decide), h,
    Nat.ofDigitChars_toDigits (by decide) (by decide)]

/-- **The counts are read off the line**: each of them is a word. -/
theorem eq_of_scannedLine_eq {a b c d : Nat} (h : scannedLine a b = scannedLine c d) :
    a = c ∧ b = d := by
  have hwords : ∀ n m : Nat, (Text.split ' ' (scannedLine n m).toList) =
      (toString n).toList :: "file(s)".toList :: "scanned,".toList :: (toString m).toList ::
        ["item(s)".toList, "need".toList, "documentation".toList] := by
    intro n m
    have hline : (scannedLine n m).toList = (toString n).toList ++ ' ' :: ("file(s)".toList ++
        ' ' :: ("scanned,".toList ++ ' ' :: ((toString m).toList ++
          ' ' :: "item(s) need documentation".toList))) := by
      rw [scannedLine, String.toList_append, String.toList_append, String.toList_append,
        List.append_assoc, List.append_assoc]
      rfl
    rw [hline, Text.split_append_cons (space_notMem_toString n),
      Text.split_append_cons (by decide), Text.split_append_cons (by decide),
      Text.split_append_cons (space_notMem_toString m)]
    rfl
  have hsame := hwords a b
  rw [h, hwords] at hsame
  simp only [List.cons.injEq, true_and, and_true] at hsame
  exact ⟨(eq_of_toString_toList_eq hsame.1).symm, (eq_of_toString_toList_eq hsame.2).symm⟩

theorem linesText_singleton_inj {a b : String} (h : linesText [a] = linesText [b]) : a = b := by
  rw [linesText, linesText, List.flatMap_singleton, List.flatMap_singleton] at h
  exact String.toList_injective (List.append_cancel_right h)

/-- Where no file failed a dry run prints one line. -/
theorem runLines_of_failedFiles {summary : RunSummary} (hdry : summary.dryRun = true)
    (h : summary.failedFiles = 0) :
    runLines summary = [scannedLine summary.files.length summary.pending] := by
  have hnone : summary.files.filterMap failedLine? = [] := by
    refine List.filterMap_eq_nil_iff.mpr fun run hrun => ?_
    have hsuccess := RunSummary.failedFiles_eq_zero_iff.mp h run hrun
    rw [FileOutcome.success, Option.isNone_iff_eq_none] at hsuccess
    rw [failedLine?, hsuccess]
    rfl
  rw [runLines, hnone, totalLine, if_pos hdry]
  rfl

/-! ## The commands -/

/-- Nothing outside changes while a command looks at it, and nobody asks to stop. -/
structure Calm (s : Surroundings (StateM σ)) : Prop where
  host : s.host.Still
  time : Still s.time
  cancelled : ∀ state, s.cancelled state = (false, state)

variable {s : Surroundings (StateM σ)} {config : Option Path} {key : Option Text}

/-- The key does not matter for what is done with files. -/
theorem processing_withKey (s : Surroundings (StateM σ)) (settings : Settings)
    (key : Option Text) : (withKey s settings key).processing = settings.processing := by
  cases key with
  | none => rfl
  | some key => rfl

theorem withSettings_apply (h : Calm s) (go : Settings → StateM σ Outcome) :
    withSettings s config key go state =
      match (Settings.loadOrDefault s.host config state).1 with
      | .error e => (.failed (.settings e), state)
      | .ok settings => go (withKey s settings key) state := by
  rw [withSettings, bind_apply_of_still (h.host.loadOrDefault config)]
  cases (Settings.loadOrDefault s.host config state).1 with
  | error e => rfl
  | ok settings => rfl

/-- A check prints what it found about the files, and its code says whether all are in order. -/
theorem check_apply [Parser] (h : Calm s) (settings : Settings) :
    (Command.check s settings path state).1 =
      match (Discovery.files s.host settings.processing path state).1 with
      | .error e => .failed (.work e)
      | .ok files =>
        let outcomes := checkOutcomes s.host settings.processing files state
        .printed (checkCode outcomes)
          (linesText (outcomes.flatMap checkLines ++ [checkedLine outcomes])) := by
  rw [Command.check, bind_apply, checkPath_apply h.host]
  cases (Discovery.files s.host settings.processing path state).1 with
  | error e => rfl
  | ok files => rfl

/-- A dry run prints its counts. -/
theorem document_dry_apply [Parser] (h : Calm s) (settings : Settings) :
    (Command.document s settings path detail true none state).1 =
      match (Discovery.files s.host settings.processing path state).1 with
      | .error e => .failed (.work e)
      | .ok files =>
        let summary := drySummary s.host settings.processing detail files state
        .printed (runCode summary) (linesText (runLines summary)) := by
  have hgenerator : generatorFor s settings.generation true = .ok none := rfl
  rw [Command.document, hgenerator]
  dsimp only
  rw [bind_apply_of_still h.time, bind_apply, documentPath_apply h.host h.cancelled]
  cases (Discovery.files s.host settings.processing path state).1 with
  | error e => rfl
  | ok files => rfl

theorem code_failed (complaint : Complaint) : (Outcome.failed complaint).code ≠ successCode := by
  show failureCode ≠ successCode
  decide

theorem failed_ne_printed (complaint : Complaint) (output : Text) :
    Outcome.failed complaint ≠ .printed successCode output :=
  fun h => code_failed complaint (congrArg Outcome.code h)

/-- **Over all files**: the code of a check is the one for success exactly when the dry run has this
code too and prints that nothing is pending. -/
theorem checkCode_iff_runLines [Parser] (host : Host (StateM σ)) (settings : ProcessingSettings)
    (detail : Detail) (files : List Path) (state : σ) :
    let summary := drySummary host settings detail files state
    checkCode (checkOutcomes host settings files state) = successCode ↔
      runCode summary = successCode ∧
        ∃ count, linesText (runLines summary) = linesText [scannedLine count 0] := by
  intro summary
  have hcode : runCode summary = successCode ↔ summary.failedFiles = 0 :=
    runCode_eq_successCode_iff rfl
  rw [checkCode_iff_drySummary host settings detail, hcode]
  refine and_congr_right fun hfailed => ?_
  rw [runLines_of_failedFiles rfl hfailed]
  constructor
  · intro hpending
    exact ⟨summary.files.length, by rw [hpending]⟩
  · rintro ⟨count, hprinted⟩
    exact (eq_of_scannedLine_eq (linesText_singleton_inj hprinted)).2

/-- **Check and dry run agree.**  In surroundings that change nothing by themselves, whatever the
state, the path and the configuration: for every file a dry run fails when a check does, with the
same sentence, and counts the items by whether the check has an issue to report.  Hence the check of
a path ends with success exactly when the dry run does and says that no item needs
documentation. -/
theorem dry_run_iff_check [Parser] (s : Surroundings (StateM σ)) (hcalm : Calm s)
    (config : Option Path)
    (verbose verbose' : Bool) (path : Path) (detail : Option Detail) (key : Option Text)
    (state : σ) :
    (∀ (settings : ProcessingSettings) (generator : Option (Generator (StateM σ)))
        (level : Detail) (file : Path),
      Rehearses (documentFile s.host settings generator level true file state).1
        (checkFile s.host settings file state).1) ∧
      ((execute s ⟨config, verbose, .check path⟩ state).1.code = successCode ↔
        ∃ files, (execute s ⟨config, verbose', .document path detail true key none⟩ state).1 =
          .printed successCode (linesText [scannedLine files 0])) := by
  refine ⟨fun settings generator level file =>
    rehearses_documentFile s.host settings generator level file state, ?_⟩
  rw [execute, execute]
  dsimp only
  rw [withSettings_apply hcalm, withSettings_apply hcalm]
  cases (Settings.loadOrDefault s.host config state).1 with
  | error e =>
    exact ⟨fun h => absurd h (code_failed _), fun ⟨_, h⟩ => absurd h (failed_ne_printed _ _)⟩
  | ok settings =>
    dsimp only
    rw [check_apply hcalm, document_dry_apply hcalm, processing_withKey, processing_withKey]
    cases (Discovery.files s.host settings.processing path state).1 with
    | error e =>
      exact ⟨fun h => absurd h (code_failed _), fun ⟨_, h⟩ => absurd h (failed_ne_printed _ _)⟩
    | ok files =>
      have hcodes := checkCode_iff_runLines s.host settings.processing
        (detail.getD (withKey s settings key).generation.detail) files state
      constructor
      · intro hcheck
        obtain ⟨hrun, count, hprinted⟩ := hcodes.mp hcheck
        refine ⟨count, ?_⟩
        dsimp only
        rw [hrun, hprinted]
      · rintro ⟨count, houtcome⟩
        have hrun := congrArg Outcome.code houtcome
        have hprinted := congrArg Outcome.output houtcome
        exact hcodes.mpr ⟨hrun, count, hprinted⟩

/-- A directory with one function in order, and the same directory with a query file besides that
has no documentation. -/
theorem dry_run_iff_check_directory :
    let s : Surroundings (StateM Storage) :=
      ⟨Storage.host, fun _ => pure .unreachable, fun _ => none, pure [], pure false⟩
    let inOrder : Location × Entry := (["a.R".toList], .file (.text
      "#' Gives it back.\n#' @param a It.\n#' @return It.\nf = \\(a) a\n".toList) 0o644)
    let query : Location × Entry := (["b.sql".toList], .file (.text "SELECT 1;\n".toList) 0o644)
    let checking : Invocation := ⟨none, false, .check Path.dot⟩
    let dryRun : Invocation := ⟨none, false, .document Path.dot none true none none⟩
    Calm s ∧ (execute s checking ⟨[inOrder]⟩).1.code = successCode ∧
      (∃ files, (execute s dryRun ⟨[inOrder]⟩).1 =
        .printed successCode (linesText [scannedLine files 0])) ∧
      (execute s checking ⟨[inOrder, query]⟩).1.code = failureCode ∧
      ∀ files, (execute s dryRun ⟨[inOrder, query]⟩).1 ≠
        .printed successCode (linesText [scannedLine files 0]) := by
  intro s inOrder query checking dryRun
  have hcalm : Calm s := ⟨Storage.still_host, fun _ => rfl, fun _ => rfl⟩
  have hagree : ∀ state : Storage, (execute s checking state).1.code = successCode ↔
      ∃ files, (execute s dryRun state).1 =
        .printed successCode (linesText [scannedLine files 0]) :=
    fun state => (dry_run_iff_check s hcalm none false false Path.dot none none state).2
  have hfine : (execute s checking ⟨[inOrder]⟩).1.code = successCode := by decide +kernel
  have hissues : (execute s checking ⟨[inOrder, query]⟩).1.code = failureCode := by decide +kernel
  refine ⟨hcalm, hfine, (hagree _).mp hfine, hissues, fun files hprinted => ?_⟩
  have hcode := (hagree _).mpr ⟨files, hprinted⟩
  rw [hissues] at hcode
  exact absurd hcode (by decide)

end Command

end DocSplice
