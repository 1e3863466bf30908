import DocSplice.Discovery
import DocSplice.Settings.File
import DocSplice.SourceFile
import DocSplice.Storage

/-!
# Steps of a state

A host may be a file system that changes under the work.  Then the work is a step of that state, and
many steps only look: they are `Still`, whatever they find.  Still steps that follow each other see
the same state, so what they give can be read off one by one (`bind_apply_of_still`,
`mapM_apply_of_still`).

`Host.Still` says of a host that looking changes nothing.  Then the discovery of files, the reading
of a source file and the reading of settings change nothing.  It holds of every file system that is
a finite map (`Storage.still_host`).
-/

namespace DocSplice

variable {α β σ : Type} {state : σ}

/-- One step of a state after another. -/
theorem bind_apply (x : StateM σ α) (f : α → StateM σ β) (s : σ) :
    (x >>= f) s = f (x s).1 (x s).2 := rfl

theorem pure_apply (a : α) (s : σ) : (pure a : StateM σ α) s = (a, s) := rfl

/-- The step leaves the state as it is. -/
def Still (x : StateM σ α) : Prop := ∀ state, (x state).2 = state

theorem still_pure (a : α) : Still (pure a : StateM σ α) := fun _ => rfl

theorem Still.bind {x : StateM σ α} {f : α → StateM σ β} (hx : Still x) (hf : ∀ a, Still (f a)) :
    Still (x >>= f) := by
  intro state
  rw [bind_apply, hf, hx]

/-- What follows a still step sees the same state. -/
theorem bind_apply_of_still {x : StateM σ α} (hx : Still x) (f : α → StateM σ β) (state : σ) :
    (x >>= f) state = f (x state).1 state := by
  rw [bind_apply, hx]

/-- Still steps for every element of a list all see the same state. -/
theorem mapM_apply_of_still {f : α → StateM σ β} (hf : ∀ a, Still (f a)) (as : List α)
    (state : σ) : as.mapM f state = (as.map fun a => (f a state).1, state) := by
  induction as with
  | nil => rfl
  | cons a rest ih =>
    rw [List.mapM_cons, bind_apply_of_still (hf a), bind_apply, ih]
    rfl

theorem Still.mapM {f : α → StateM σ β} (hf : ∀ a, Still (f a)) (as : List α) :
    Still (as.mapM f) := by
  intro state
  rw [mapM_apply_of_still hf]

/-! ## Hosts -/

/-- Looking changes nothing. -/
structure Host.Still (host : Host (StateM σ)) : Prop where
  status : ∀ path, DocSplice.Still (host.status path)
  read : ∀ path, DocSplice.Still (host.read path)
  names : ∀ path, DocSplice.Still (host.names path)
  around : ∀ path, DocSplice.Still (host.around path)

theorem Storage.still_host : Storage.host.Still where
  status _ _ := rfl
  read _ _ := rfl
  names _ _ := rfl
  around _ _ := rfl

namespace Host.Still

variable {host : Host (StateM σ)} {settings : ProcessingSettings} {path : Path}

theorem pathExists (h : host.Still) (path : Path) : DocSplice.Still (host.pathExists path) :=
  (h.status path).bind fun _ => still_pure _

theorem isFile (h : host.Still) (path : Path) : DocSplice.Still (host.isFile path) := by
  refine (h.status path).bind fun found => ?_
  cases found with
  | error e => exact still_pure _
  | ok status => exact still_pure _

theorem isDirectory (h : host.Still) (path : Path) : DocSplice.Still (host.isDirectory path) := by
  refine (h.status path).bind fun found => ?_
  cases found with
  | error e => exact still_pure _
  | ok status => exact still_pure _

/-- Reading a source file changes nothing. -/
theorem readSource (h : host.Still) (settings : ProcessingSettings) (path : Path) :
    DocSplice.Still (SourceFile.read host settings path) := by
  unfold SourceFile.read
  cases SourceKind.ofPath path with
  | error e => exact still_pure _
  | ok kind =>
    refine (h.status path).bind fun found => ?_
    cases found with
    | error e => exact still_pure _
    | ok status =>
      dsimp only
      split
      · exact still_pure _
      · refine (h.read path).bind fun text => ?_
        cases text with
        | error e => exact still_pure _
        | ok t => exact still_pure _

/-! ## Discovery -/

theorem directoryRules (h : host.Still) (settings : ProcessingSettings) (directory : Path)
    (inner : List Text) :
    DocSplice.Still (Discovery.directoryRules host settings directory inner) := by
  unfold Discovery.directoryRules
  split
  · refine (Still.mapM (fun name => ?_) _).bind fun _ => still_pure _
    refine (h.read _).bind fun found => ?_
    cases found with
    | error e => exact still_pure _
    | ok t => exact still_pure _
  · exact still_pure _

/-- Walking through directories changes nothing. -/
theorem walk (h : host.Still) (settings : ProcessingSettings) (fuel : Nat)
    (outer : List DirectoryRules) (directory : Path) :
    DocSplice.Still (Discovery.walk host settings fuel outer directory) := by
  induction fuel generalizing outer directory with
  | zero => exact still_pure _
  | succ fuel ih =>
    unfold Discovery.walk
    refine (h.directoryRules settings directory []).bind fun own => ?_
    refine (h.names directory).bind fun names => ?_
    refine (Still.mapM (fun name => ?_) _).bind fun _ => still_pure _
    refine (h.isDirectory _).bind fun isDirectory => ?_
    split
    · exact still_pure _
    · split
      · exact ih _ _
      · refine (h.isFile _).bind fun isFile => ?_
        split
        · exact still_pure _
        · exact still_pure _

/-- **Discovery** changes nothing. -/
theorem files (h : host.Still) (settings : ProcessingSettings) (path : Path) :
    DocSplice.Still (Discovery.files host settings path) := by
  refine (h.status path).bind fun found => ?_
  match found with
  | .error _ => exact still_pure _
  | .ok (.file _) => exact still_pure _
  | .ok (.directory _) =>
    refine (h.around path).bind fun around => ?_
    refine (Still.mapM (fun _ => h.directoryRules settings _ _) around).bind fun outer => ?_
    exact (h.walk settings _ outer path).bind fun _ => still_pure _

/-! ## Settings -/

theorem load (h : host.Still) (path : Path) : DocSplice.Still (Settings.load host path) := by
  refine (h.read path).bind fun found => ?_
  cases found with
  | error e => exact still_pure _
  | ok t => exact still_pure _

theorem firstExisting? (h : host.Still) (paths : List Path) :
    DocSplice.Still (Settings.firstExisting? host paths) := by
  induction paths with
  | nil => exact still_pure _
  | cons path rest ih =>
    refine (h.pathExists path).bind fun there => ?_
    split
    · exact still_pure _
    · exact ih

/-- Reading the settings changes nothing. -/
theorem loadOrDefault (h : host.Still) (config : Option Path) :
    DocSplice.Still (Settings.loadOrDefault host config) := by
  cases config with
  | some path =>
    refine (h.pathExists path).bind fun there => ?_
    split
    · exact h.load path
    · exact still_pure _
  | none =>
    refine (h.firstExisting? Settings.candidates).bind fun found => ?_
    cases found with
    | some path => exact h.load path
    | none => exact still_pure _

end Host.Still

end DocSplice
