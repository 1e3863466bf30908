import DocSplice.Proofs.Documenting.AllOrNothing
import Mathlib.Data.List.Basic

/-!
# The books of a run

What documenting a file reports has to add up.  The calls are there to be compared with: a party
that keeps a log of its calls (`Party.recorded`) replies as it would without (`ask_recorded`), and
the log tells which items were asked about and what came back.

* `refused?`: the failure that an item and its reply make; `failures_settle` and
  `length_targets_add_length_failures` say that every reply makes a target or a failure.
* `installSettled_cases`, `Ends` and `documentFile_ends`: all ways in which a run can end, with
  everything that it reports.
* `documentFile_accounting`: what holds of the report in every case.  A dry run makes no calls and
  does not fail, though items are left (`dry_run_leaves_item`).
-/

namespace DocSplice

variable {μ : Type} {settings : ProcessingSettings} {detail : Detail} {path : Path}
  {f : SourceFile}

/-! ## A log of the calls -/

/-- A call with the reply to it. -/
structure Exchange where
  call : Call
  reply : Except GenerationFailure Text

/-- Whether the reply is a text that is not blank. -/
def Exchange.succeeded (e : Exchange) : Bool :=
  match e.reply with
  | .ok text => !Text.allBlank text
  | .error _ => false

/-- The party with a log of its calls, the latest last. -/
def Party.recorded (party : Party μ) : Party (μ × List Exchange) := fun call shared =>
  let (reply, memory, storage) := party call (shared.1.1, shared.2)
  (reply, (memory, shared.1.2 ++ [⟨call, reply⟩]), storage)

namespace World

/-- The world without the log. -/
def unlogged (w : World (μ × List Exchange)) : World μ := ⟨w.storage, w.memory.1, w.writes⟩

/-- The calls for some items, with the replies to them. -/
def exchanges (party : Party μ) (f : SourceFile) (detail : Detail) (items : List Item)
    (w : World μ) : List Exchange :=
  List.zipWith Exchange.mk (items.map (f.callFor detail)) (ask party f detail items w).1

theorem length_ask (party : Party μ) (f : SourceFile) (detail : Detail) (items : List Item)
    (w : World μ) : (ask party f detail items w).1.length = items.length := by
  induction items generalizing w with
  | nil => rfl
  | cons item rest ih => exact congrArg Nat.succ (ih _)

/-- **The log** does not change the replies, and it holds every call with its reply. -/
theorem ask_recorded (party : Party μ) (f : SourceFile) (detail : Detail) (items : List Item)
    (w : World (μ × List Exchange)) :
    (ask party.recorded f detail items w).1 = (ask party f detail items w.unlogged).1 ∧
      (ask party.recorded f detail items w).2.unlogged = (ask party f detail items w.unlogged).2 ∧
      (ask party.recorded f detail items w).2.memory.2 =
        w.memory.2 ++ exchanges party f detail items w.unlogged := by
  induction items generalizing w with
  | nil => exact ⟨rfl, rfl, (List.append_nil _).symm⟩
  | cons item rest ih =>
    obtain ⟨hreplies, hworld, hlog⟩ := ih (party.recorded.generator (f.callFor detail item) w).2
    refine ⟨congrArg _ hreplies, hworld, hlog.trans ?_⟩
    exact List.append_assoc _ _ _

theorem map_call_exchanges (party : Party μ) (f : SourceFile) (detail : Detail)
    (items : List Item) (w : World μ) :
    (exchanges party f detail items w).map (·.call) = items.map (f.callFor detail) := by
  have hlength : (items.map (f.callFor detail)).length ≤ (ask party f detail items w).1.length := by
    rw [List.length_map, length_ask]
  rw [exchanges, ← List.map_uncurry_zip_eq_zipWith, List.map_map]
  exact List.map_fst_zip hlength

theorem map_reply_exchanges (party : Party μ) (f : SourceFile) (detail : Detail)
    (items : List Item) (w : World μ) :
    (exchanges party f detail items w).map (·.reply) = (ask party f detail items w).1 := by
  have hlength : (ask party f detail items w).1.length ≤ (items.map (f.callFor detail)).length := by
    rw [List.length_map, length_ask]
  rw [exchanges, ← List.map_uncurry_zip_eq_zipWith, List.map_map]
  exact List.map_snd_zip hlength

end World

/-! ## Replies that fail -/

/-- The failure that an item and the reply to its call make. -/
def refused? (item : Item) : Except GenerationFailure Text → Option FailedItem
  | .ok text =>
    if Text.allBlank text then
      some ⟨item.name, item.firstLine, "generator returned empty documentation"⟩
    else none
  | .error e => some ⟨item.name, item.firstLine, e.message⟩

theorem failure?_settle (item : Item) (reply : Except GenerationFailure Text) :
    (settle item reply).failure? = refused? item reply := by
  cases reply with
  | error e => rfl
  | ok text =>
    by_cases h : Text.allBlank text = true
    · simp [settle, refused?, Settled.failure?, h]
    · simp [settle, refused?, Settled.failure?, h]

theorem failures_settle (items : List Item) (replies : List (Except GenerationFailure Text)) :
    failures (List.zipWith settle items replies) =
      (items.zip replies).filterMap fun call => refused? call.1 call.2 := by
  rw [failures, ← List.map_uncurry_zip_eq_zipWith, List.filterMap_map]
  refine congrArg (fun pick => (items.zip replies).filterMap pick) ?_
  funext call
  exact failure?_settle call.1 call.2

/-- Every settled item becomes a target or a failure. -/
theorem length_targets_add_length_failures (settled : List Settled) :
    (targets settled).length + (failures settled).length = settled.length := by
  induction settled with
  | nil => rfl
  | cons s rest ih =>
    rw [targets, failures] at ih ⊢
    obtain ⟨item, reply⟩ := s
    cases reply with
    | ok text =>
      simp only [List.filterMap_cons, Settled.target?, Settled.failure?, List.length_cons]
      omega
    | error reason =>
      simp only [List.filterMap_cons, Settled.target?, Settled.failure?, List.length_cons]
      omega

/-! ## How a run can end -/

/-- **An installation** fails, or it documents all targets; the memory of the party stays. -/
theorem installSettled_cases [Parser] (f : SourceFile) (settled : List Settled) (o : FileOutcome)
    (w : World μ) :
    (installSettled World.host f settled o w).2.memory = w.memory ∧
      ((∃ reason, (installSettled World.host f settled o w).1 =
          ((failures settled).foldl FileOutcome.recordFailure o).fail reason) ∨
        targets settled ≠ [] ∧ (installSettled World.host f settled o w).1 =
          { (failures settled).foldl FileOutcome.recordFailure o with
            documented := (targets settled).length }) := by
  unfold installSettled
  by_cases hnone : (targets settled).isEmpty = true
  · rw [if_pos hnone]
    exact ⟨rfl, Or.inl ⟨_, rfl⟩⟩
  · have hne : targets settled ≠ [] := fun hnil => hnone (hnil ▸ rfl)
    rw [if_neg hnone]
    cases hinject : inject f.kind f.text (targets settled) with
    | error failure => exact ⟨rfl, Or.inl ⟨_, rfl⟩⟩
    | ok new =>
      simp only [bind_apply]
      by_cases hsame : ∃ current, w.storage.read f.path = .ok current ∧
          Text.fingerprint current = f.fingerprint
      · obtain ⟨current, hread, hsame⟩ := hsame
        obtain ⟨l, permissions, hget⟩ := Storage.read_eq_ok_iff.mp hread
        rw [World.replace_apply hget hsame new]
        exact ⟨rfl, Or.inr ⟨hne, rfl⟩⟩
      · have hchanged : ∀ current, w.storage.read f.path = .ok current →
            Text.fingerprint current ≠ f.fingerprint :=
          fun current hread heq => hsame ⟨current, hread, heq⟩
        obtain ⟨failure, hrefused⟩ := World.replace_refused hchanged new
        rw [hrefused]
        exact ⟨rfl, Or.inl ⟨_, rfl⟩⟩

/-- **How a run can end**, with its report and the calls that it made. -/
inductive Ends [Parser] (settings : ProcessingSettings) (party : Option (Party μ)) (detail : Detail)
    (dryRun : Bool) (path : Path) (w : World (μ × List Exchange)) (o : FileOutcome)
    (log : List Exchange) : Prop where
  /-- The file could not be read. -/
  | unread {e : Failure} (hopen : World.opened settings path w = .error e) (hlog : log = [])
      (ho : o = (FileOutcome.start path dryRun).fail e.message)
  /-- There is nothing to do, or it is a dry run. -/
  | idle {f : SourceFile} (hopen : World.opened settings path w = .ok f) (hlog : log = [])
      (hidle : f.pendingItems = [] ∨ dryRun = true) (ho : o = f.outcome dryRun)
  /-- There is no generator to ask. -/
  | unserved {f : SourceFile} (hopen : World.opened settings path w = .ok f) (hlog : log = [])
      (hparty : party = none) (ho : o = (f.outcome false).fail noGenerator.message)
  /-- The calls were made, and nothing was written. -/
  | failed {f : SourceFile} (hopen : World.opened settings path w = .ok f) (hdry : dryRun = false)
      (hparty : party ≠ none)
      (hcalls : log.map (·.call) = f.pendingItems.map (f.callFor detail)) {reason : String}
      (ho : o = (((f.pendingItems.zip (log.map (·.reply))).filterMap fun call =>
        refused? call.1 call.2).foldl FileOutcome.recordFailure (f.outcome false)).fail reason)
  /-- The calls were made, and what they gave was written. -/
  | documented {f : SourceFile} (hopen : World.opened settings path w = .ok f)
      (hdry : dryRun = false) (hparty : party ≠ none)
      (hcalls : log.map (·.call) = f.pendingItems.map (f.callFor detail))
      (hanswered : answered f.pendingItems (log.map (·.reply)) ≠ [])
      (ho : o = { ((f.pendingItems.zip (log.map (·.reply))).filterMap fun call =>
          refused? call.1 call.2).foldl FileOutcome.recordFailure (f.outcome false) with
        documented := (answered f.pendingItems (log.map (·.reply))).length })

/-- Without items to ask about, and in a dry run, the work ends at once. -/
theorem documentSource_idle [Parser] {m : Type → Type} [Monad m] (host : Host m)
    (generator : Option (Generator m)) {dryRun : Bool}
    (hidle : f.pendingItems = [] ∨ dryRun = true) :
    documentSource host generator detail dryRun f = pure (f.outcome dryRun) := by
  have hnone : (f.pendingItems.isEmpty || dryRun) = true := by
    rw [Bool.or_eq_true, List.isEmpty_iff]
    exact hidle
  simp only [documentSource, hnone, if_true]

theorem documentSource_unserved [Parser] {m : Type → Type} [Monad m] (host : Host m)
    (hpending : f.pendingItems ≠ []) :
    documentSource host (none : Option (Generator m)) detail false f =
      pure ((f.outcome false).fail noGenerator.message) := by
  have hsome : (f.pendingItems.isEmpty || false) = false := by
    rw [Bool.or_false, List.isEmpty_eq_false_iff]
    exact hpending
  simp only [documentSource, hsome, Bool.false_eq_true, if_false]

/-- Asking a party about the items of a file. -/
theorem ends_of_asked [Parser] {party : Party μ} {w : World (μ × List Exchange)}
    (hopen : World.opened settings path w = .ok f) (hpending : f.pendingItems ≠ []) :
    ∃ log, (documentSource World.host (some party.recorded.generator) detail false f w).2.memory.2 =
        w.memory.2 ++ log ∧
      Ends settings (some party) detail false path w
        (documentSource World.host (some party.recorded.generator) detail false f w).1 log := by
  obtain ⟨hreplies, -, hlog⟩ := World.ask_recorded party f detail f.pendingItems w
  obtain ⟨hmemory, hends⟩ := installSettled_cases f
    (List.zipWith settle f.pendingItems (World.ask party f detail f.pendingItems w.unlogged).1)
    (f.outcome false) (World.ask party.recorded f detail f.pendingItems w).2
  have hcalls := World.map_call_exchanges party f detail f.pendingItems w.unlogged
  have hreply := World.map_reply_exchanges party f detail f.pendingItems w.unlogged
  rw [failures_settle, targets_settle] at hends
  rw [documentSource_pending hpending, hreplies]
  refine ⟨World.exchanges party f detail f.pendingItems w.unlogged,
    (congrArg Prod.snd hmemory).trans hlog, ?_⟩
  rcases hends with ⟨reason, ho⟩ | ⟨hanswered, ho⟩
  · exact .failed hopen rfl (Option.some_ne_none party) hcalls (by rw [hreply]; exact ho)
  · exact .documented hopen rfl (Option.some_ne_none party) hcalls (by rw [hreply]; exact hanswered)
      (by rw [hreply]; exact ho)

theorem documentFile_ends [Parser] (settings : ProcessingSettings) (party : Option (Party μ))
    (detail : Detail) (dryRun : Bool) (path : Path) (w : World (μ × List Exchange)) :
    let run := documentFile World.host settings (party.map fun p => p.recorded.generator) detail
      dryRun path w
    ∃ log, run.2.memory.2 = w.memory.2 ++ log ∧
      Ends settings party detail dryRun path w run.1 log := by
  intro run
  have hrun : run = _ := documentFile_apply _ dryRun
  cases hopen : World.opened settings path w with
  | error e =>
    rw [hopen] at hrun
    rw [hrun]
    exact ⟨[], (List.append_nil _).symm, .unread hopen rfl rfl⟩
  | ok f =>
    rw [hopen] at hrun
    dsimp only at hrun
    by_cases hidle : f.pendingItems = [] ∨ dryRun = true
    · rw [documentSource_idle _ _ hidle] at hrun
      rw [hrun]
      exact ⟨[], (List.append_nil _).symm, .idle hopen rfl hidle rfl⟩
    · rw [not_or, Bool.not_eq_true] at hidle
      obtain ⟨hpending, rfl⟩ := hidle
      cases party with
      | none =>
        rw [Option.map_none, documentSource_unserved _ hpending] at hrun
        rw [hrun]
        exact ⟨[], (List.append_nil _).symm, .unserved hopen rfl rfl rfl⟩
      | some party =>
        rw [hrun]
        exact ends_of_asked hopen hpending

/-! ## The report -/

/-- Without a reply that gives something, no item is answered. -/
theorem answered_eq_nil {log : List Exchange} (h : ∀ e ∈ log, e.succeeded = false)
    (items : List Item) : answered items (log.map (·.reply)) = [] := by
  refine List.filterMap_eq_nil_iff.mpr fun call hcall => ?_
  obtain ⟨e, he, hreply⟩ := List.mem_map.mp (List.of_mem_zip hcall).2
  have hfailed := h e he
  rw [Exchange.succeeded, hreply] at hfailed
  cases hcase : call.2 with
  | error failure => rfl
  | ok text =>
    rw [hcase] at hfailed
    exact if_pos (by simpa using hfailed)

/-- Every reply makes a target or a failure. -/
theorem length_answered_add {log : List Exchange} {items : List Item} {g : Item → Call}
    (hcalls : log.map (·.call) = items.map g) :
    items.length = (answered items (log.map (·.reply))).length +
      ((items.zip (log.map (·.reply))).filterMap fun call => refused? call.1 call.2).length := by
  have hlength : log.length = items.length := by
    rw [← List.length_map (f := g), ← hcalls, List.length_map]
  rw [← targets_settle, ← failures_settle, length_targets_add_length_failures,
    List.length_zipWith, List.length_map, hlength, Nat.min_self]

/-- What is known of a file when its failures were recorded. -/
theorem SourceFile.foldl_recordFailure_outcome [Parser] (f : SourceFile) (items : List FailedItem) :
    items.foldl FileOutcome.recordFailure (f.outcome false) =
      { f.outcome false with failed := items.length, failures := items } := by
  rw [FileOutcome.foldl_recordFailure]
  simp only [outcome, FileOutcome.start, Nat.zero_add, List.nil_append]

theorem SourceFile.length_items [Parser] (f : SourceFile) :
    f.items.length = f.pendingItems.length + (f.items.filter f.kind.isInOrder).length := by
  rw [pendingItems, Nat.add_comm]
  exact List.length_eq_length_filter_add f.kind.isInOrder

section

variable {party : Option (Party μ)} {dryRun : Bool} {w : World (μ × List Exchange)}
  {o : FileOutcome} {log : List Exchange}

theorem Ends.log_eq_nil [Parser] (h : Ends settings party detail dryRun path w o log)
    (hquiet : dryRun = true ∨ party = none) : log = [] := by
  cases h with
  | unread hopen hlog ho => exact hlog
  | idle hopen hlog hidle ho => exact hlog
  | unserved hopen hlog hparty ho => exact hlog
  | failed hopen hdry hparty hcalls ho =>
    rcases hquiet with hquiet | hquiet
    · exact absurd (hquiet.symm.trans hdry) (by decide)
    · exact absurd hquiet hparty
  | documented hopen hdry hparty hcalls hanswered ho =>
    rcases hquiet with hquiet | hquiet
    · exact absurd (hquiet.symm.trans hdry) (by decide)
    · exact absurd hquiet hparty

/-- **The count of failures** goes along with the list of them. -/
theorem Ends.failed_eq [Parser] (h : Ends settings party detail dryRun path w o log) :
    o.failed = o.failures.length := by
  cases h with
  | unread hopen hlog ho => rw [ho]; rfl
  | idle hopen hlog hidle ho => rw [ho]; rfl
  | unserved hopen hlog hparty ho => rw [ho]; rfl
  | failed hopen hdry hparty hcalls ho =>
    rw [ho, SourceFile.foldl_recordFailure_outcome]
    rfl
  | documented hopen hdry hparty hcalls hanswered ho =>
    rw [ho, SourceFile.foldl_recordFailure_outcome]

/-- A run that does not fail accounts for every pending item. -/
theorem Ends.pending_eq [Parser] (h : Ends settings party detail dryRun path w o log)
    (hsuccess : o.success = true) (hdry : dryRun = false) :
    o.pending = o.documented + o.failed := by
  cases h with
  | unread hopen hlog ho =>
    rw [ho] at hsuccess
    exact absurd hsuccess Bool.false_ne_true
  | idle hopen hlog hidle ho =>
    rcases hidle with hnone | htrue
    · rw [ho]
      exact List.length_eq_zero_iff.mpr hnone
    · exact absurd (htrue.symm.trans hdry) (by decide)
  | unserved hopen hlog hparty ho =>
    rw [ho] at hsuccess
    exact absurd hsuccess Bool.false_ne_true
  | failed hopen hdry' hparty hcalls ho =>
    rw [ho] at hsuccess
    exact absurd hsuccess Bool.false_ne_true
  | documented hopen hdry' hparty hcalls hanswered ho =>
    rw [ho, SourceFile.foldl_recordFailure_outcome]
    exact length_answered_add hcalls

/-- Items are documented only by a run that does not fail. -/
theorem Ends.success_of_documented [Parser] (h : Ends settings party detail dryRun path w o log)
    (hsome : 0 < o.documented) : o.success = true := by
  cases h with
  | unread hopen hlog ho =>
    rw [ho] at hsome
    exact absurd hsome (Nat.lt_irrefl 0)
  | idle hopen hlog hidle ho => rw [ho]; rfl
  | unserved hopen hlog hparty ho =>
    rw [ho] at hsome
    exact absurd hsome (Nat.lt_irrefl 0)
  | failed hopen hdry hparty hcalls ho =>
    rw [ho, SourceFile.foldl_recordFailure_outcome] at hsome
    exact absurd hsome (Nat.lt_irrefl 0)
  | documented hopen hdry hparty hcalls hanswered ho =>
    rw [ho, SourceFile.foldl_recordFailure_outcome]
    rfl

/-- A run that got nothing for its pending items fails. -/
theorem Ends.fails [Parser] (h : Ends settings party detail dryRun path w o log)
    (hdry : dryRun = false)
    (hpending : 0 < o.pending) (hnone : ∀ e ∈ log, e.succeeded = false) : o.success = false := by
  cases h with
  | unread hopen hlog ho => rw [ho]; rfl
  | idle hopen hlog hidle ho =>
    rcases hidle with hempty | htrue
    · rw [ho] at hpending
      exact absurd (List.length_pos_iff.mp hpending) (not_not.mpr hempty)
    · exact absurd (htrue.symm.trans hdry) (by decide)
  | unserved hopen hlog hparty ho => rw [ho]; rfl
  | failed hopen hdry' hparty hcalls ho => rw [ho]; rfl
  | documented hopen hdry' hparty hcalls hanswered ho =>
    exact absurd (answered_eq_nil hnone _) hanswered

/-- What the report on a file that was read says of its items. -/
theorem Ends.report [Parser] (h : Ends settings party detail dryRun path w o log)
    (hopen : World.opened settings path w = .ok f) :
    o.failures = (f.pendingItems.zip (log.map (·.reply))).filterMap
        (fun call => refused? call.1 call.2) ∧
      o.pending = f.pendingItems.length ∧ o.processed = o.pending + o.skipped := by
  have hitems := f.length_items
  cases h with
  | unread hread hlog ho => exact absurd (hopen.symm.trans hread) (by simp)
  | idle hread hlog hidle ho =>
    obtain rfl := Except.ok.inj (hopen.symm.trans hread)
    rw [hlog, ho]
    exact ⟨by simp [SourceFile.outcome, FileOutcome.start], rfl, hitems⟩
  | unserved hread hlog hparty ho =>
    obtain rfl := Except.ok.inj (hopen.symm.trans hread)
    rw [hlog, ho]
    exact ⟨by simp [SourceFile.outcome, FileOutcome.start, FileOutcome.fail], rfl, hitems⟩
  | failed hread hdry hparty hcalls ho =>
    obtain rfl := Except.ok.inj (hopen.symm.trans hread)
    rw [ho, SourceFile.foldl_recordFailure_outcome]
    exact ⟨rfl, rfl, hitems⟩
  | documented hread hdry hparty hcalls hanswered ho =>
    obtain rfl := Except.ok.inj (hopen.symm.trans hread)
    rw [ho, SourceFile.foldl_recordFailure_outcome]
    exact ⟨rfl, rfl, hitems⟩

/-- A file that was not read. -/
theorem Ends.unread_eq [Parser] (h : Ends settings party detail dryRun path w o log) {e : Failure}
    (hopen : World.opened settings path w = .error e) :
    log = [] ∧ o = (FileOutcome.start path dryRun).fail e.message := by
  cases h with
  | unread hread hlog ho =>
    obtain rfl := Except.error.inj (hopen.symm.trans hread)
    exact ⟨hlog, ho⟩
  | idle hread hlog hidle ho => exact absurd (hopen.symm.trans hread) (by simp)
  | unserved hread hlog hparty ho => exact absurd (hopen.symm.trans hread) (by simp)
  | failed hread hdry hparty hcalls ho => exact absurd (hopen.symm.trans hread) (by simp)
  | documented hread hdry hparty hcalls hanswered ho =>
    exact absurd (hopen.symm.trans hread) (by simp)

/-- The calls of a run that may make them. -/
theorem Ends.calls_eq [Parser] (h : Ends settings party detail dryRun path w o log)
    (hopen : World.opened settings path w = .ok f) (hdry : dryRun = false) (hparty : party ≠ none) :
    log.map (·.call) = f.pendingItems.map (f.callFor detail) := by
  cases h with
  | unread hread hlog ho => exact absurd (hopen.symm.trans hread) (by simp)
  | idle hread hlog hidle ho =>
    obtain rfl := Except.ok.inj (hopen.symm.trans hread)
    rcases hidle with hempty | htrue
    · rw [hlog, hempty]
      rfl
    · exact absurd (htrue.symm.trans hdry) (by decide)
  | unserved hread hlog hnone ho => exact absurd hnone hparty
  | failed hread hdry' hparty' hcalls ho =>
    obtain rfl := Except.ok.inj (hopen.symm.trans hread)
    exact hcalls
  | documented hread hdry' hparty' hcalls hanswered ho =>
    obtain rfl := Except.ok.inj (hopen.symm.trans hread)
    exact hcalls

end

/-- **The report adds up.**  Whatever the generator replies, it is asked once about every item that
needs documentation, in the order of the file and with the documentation that the item has; it is
asked about none in a dry run.  The failures are the items whose reply failed or was blank.  Every
item is pending or skipped, and every pending one is documented or failed unless the file fails,
which it does when items are pending and no reply gives anything, except in a dry run. -/
theorem documentFile_accounting [Parser] (settings : ProcessingSettings) (party : Option (Party μ))
    (detail : Detail) (dryRun : Bool) (path : Path) (w : World (μ × List Exchange)) :
    let run := documentFile World.host settings (party.map fun p => p.recorded.generator) detail
      dryRun path w
    let o := run.1
    ∃ log, run.2.memory.2 = w.memory.2 ++ log ∧
      (dryRun = true ∨ party = none → log = []) ∧
      o.failed = o.failures.length ∧
      (o.success = true → dryRun = false → o.pending = o.documented + o.failed) ∧
      (0 < o.documented → o.success = true) ∧
      (dryRun = false → 0 < o.pending → (∀ e ∈ log, e.succeeded = false) → o.success = false) ∧
      match World.opened settings path w with
      | .error e => log = [] ∧ o = (FileOutcome.start path dryRun).fail e.message
      | .ok f =>
        (dryRun = false → party ≠ none → log.map (·.call) =
          f.pendingItems.map fun i => ⟨f.kind, detail, i.documentation, i.source⟩) ∧
        o.failures = (f.pendingItems.zip (log.map (·.reply))).filterMap
          (fun call => refused? call.1 call.2) ∧
        o.pending = f.pendingItems.length ∧ o.processed = o.pending + o.skipped := by
  intro run o
  obtain ⟨log, hlog, hends⟩ := documentFile_ends settings party detail dryRun path w
  refine ⟨log, hlog, hends.log_eq_nil, hends.failed_eq, hends.pending_eq,
    hends.success_of_documented, hends.fails, ?_⟩
  cases hopen : World.opened settings path w with
  | error e => exact hends.unread_eq hopen
  | ok f => exact ⟨hends.calls_eq hopen, hends.report hopen⟩

/-- **A dry run leaves its items**: one is pending, none is documented, and the file does not
fail. -/
theorem dry_run_leaves_item :
    let path : Path := "q.sql".toList
    let w : World (Unit × List Exchange) :=
      ⟨⟨[([path], .file (.text "SELECT 1;\n".toList) 0o644)]⟩, ((), []), []⟩
    let party : Party Unit := fun _ shared => (.ok "# Ones".toList, shared)
    let run := documentFile World.host ⟨1000, true, false⟩ (some party.recorded.generator) .concise
      true path w
    run.1.pending = 1 ∧ run.1.documented = 0 ∧ run.1.failures = [] ∧ run.1.success = true ∧
      run.2.memory.2.isEmpty = true := by
  decide +kernel

end DocSplice
