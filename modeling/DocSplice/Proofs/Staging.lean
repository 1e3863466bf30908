import DocSplice.Proofs.Lines
import DocSplice.Proofs.Storage

/-!
# Staged files

A new text takes the place of a file by way of a second file in the same directory.  The second file
is at a location that held nothing before (`unused_newName`), so whatever led somewhere leads there
still (`Unused.get_set`), and when it is gone nothing is left of it (`Unused.erase_set`).

* `follow_cons_eq_ok_iff`, `follow_append_eq_ok_iff`: what the steps of a path come to, one by one and
  where the path is cut.
* `exists_directory_of_get`: a path that leads to a file goes through a directory, and that is where
  `Path.directory` leads.
* `locate_below`: the path of the second file leads to it.
* `installation_steps`: the three steps of an installation.  Until the last one the path leads to
  the old file as it was; the last one puts the new text there, under the old permissions, and
  changes nothing else.
-/

namespace DocSplice.Storage

variable {s : Storage} {path : Path} {l k : Location} {steps : List Text} {content : Content}
  {permissions : Nat}

/-! ## Steps through directories -/

/-- Where a step leads from a directory. -/
def after (l : Location) (step : Text) : Location :=
  if step.isEmpty || step = Path.dot then l
  else if step = Path.dotDot then l.dropLast
  else l ++ [step]

/-- **One step** leads on from a directory, and from nothing else. -/
theorem follow_cons_eq_ok_iff {start : Location} {step : Text} :
    s.follow start (step :: steps) = .ok l ↔
      s.find? start = some .directory ∧ s.follow (after start step) steps = .ok l := by
  rw [follow]
  cases s.find? start with
  | none => simp
  | some e =>
    cases e with
    | file c p => simp
    | directory =>
      unfold after
      dsimp only
      split
      · simp
      · split <;> simp

/-- Steps may be cut anywhere. -/
theorem follow_append_eq_ok_iff {start : Location} {rest : List Text} :
    s.follow start (steps ++ rest) = .ok l ↔
      ∃ k, s.follow start steps = .ok k ∧ s.follow k rest = .ok l := by
  induction steps generalizing start with
  | nil => simp [follow]
  | cons step steps ih =>
    rw [List.cons_append, follow_cons_eq_ok_iff, ih]
    simp only [follow_cons_eq_ok_iff, and_assoc, exists_and_left]

theorem locate_eq_ok_iff : s.locate path = .ok l ↔
    path ≠ [] ∧ Path.isAbsolute path = false ∧ s.follow [] (Text.split '/' path) = .ok l := by
  rw [locate]
  cases path with
  | nil => simp
  | cons c rest => cases hc : Path.isAbsolute (c :: rest) <;> simp

/-! ## New locations -/

/-- No entry is kept for a location. -/
def Unused (s : Storage) (l : Location) : Prop := ∀ e ∈ s.entries, e.1 ≠ l

/-- **A new name** makes a new location in every directory. -/
theorem unused_newName (s : Storage) (l : Location) : s.Unused (l ++ [s.newName]) := by
  intro e he hsame
  have hname : s.newName.Sublist e.1.flatten := by
    rw [hsame]
    exact List.sublist_flatten_of_mem (List.mem_append_right l (List.mem_singleton.mpr rfl))
  have hall : e.1.flatten.Sublist (s.entries.flatMap fun e => e.1.flatten) :=
    List.sublist_flatten_of_mem (List.mem_map_of_mem he)
  have hlength := (hname.trans hall).length_le
  rw [newName, List.length_append, List.length_replicate] at hlength
  have hpositive : 0 < ".tmp".toList.length := by decide
  omega

theorem Unused.find?_eq_none (h : s.Unused l) (hne : l ≠ []) : s.find? l = none := by
  rw [find?, if_neg (by simpa using hne), List.lookup_eq_none_iff]
  intro e he
  simpa using (h e he).symm

/-- What is kept at a new location can be removed without a trace. -/
theorem Unused.erase_set (h : s.Unused l) (e : Entry) : (s.set l e).erase l = s := by
  have hkept : s.entries.filter (fun other => other.1 != l) = s.entries :=
    List.filter_eq_self.mpr fun other hother => by simpa using h other hother
  rw [set, erase, List.filter_cons, hkept, hkept]
  simp

/-- The last change of a location counts. -/
theorem set_set (s : Storage) (l : Location) (e e' : Entry) :
    (s.set l e).set l e' = s.set l e' := by
  simp [set, List.filter_filter]

/-- Steps that lead somewhere lead there still when a file is kept at a new location. -/
theorem Unused.follow_set (h : s.Unused k) (hne : k ≠ []) (steps : List Text) :
    ∀ {start : Location}, s.follow start steps = .ok l →
      (s.set k (.file content permissions)).follow start steps = .ok l := by
  induction steps with
  | nil => exact fun hl => hl
  | cons step rest ih =>
    intro start hl
    obtain ⟨hdirectory, hrest⟩ := follow_cons_eq_ok_iff.mp hl
    have hold : start ≠ k := by
      rintro rfl
      rw [h.find?_eq_none hne] at hdirectory
      exact absurd hdirectory (by simp)
    exact follow_cons_eq_ok_iff.mpr ⟨(find?_set_of_ne s _ hold).trans hdirectory, ih hrest⟩

theorem Unused.locate_set (h : s.Unused k) (hne : k ≠ []) (hl : s.locate path = .ok l) :
    (s.set k (.file content permissions)).locate path = .ok l := by
  obtain ⟨hpath, hrelative, hfollow⟩ := locate_eq_ok_iff.mp hl
  exact locate_eq_ok_iff.mpr ⟨hpath, hrelative, h.follow_set hne _ hfollow⟩

/-- **A path that leads somewhere** leads there still when a file is kept at a new location. -/
theorem Unused.get_set {e : Entry} (h : s.Unused k) (hne : k ≠ []) (hl : s.get path = .ok (l, e)) :
    (s.set k (.file content permissions)).get path = .ok (l, e) := by
  obtain ⟨hlocate, hfind⟩ := get_eq_ok_iff.mp hl
  have hother : l ≠ k := by
    rintro rfl
    rw [h.find?_eq_none hne] at hfind
    exact absurd hfind (by simp)
  exact get_eq_ok_iff.mpr ⟨h.locate_set hne hlocate, (find?_set_of_ne s _ hother).trans hfind⟩

/-! ## The directory of a file -/

/-- The directory of a relative path of several steps is the relative path of the steps before the
last one. -/
theorem split_directory {above : List Text} {last : Text} (hrelative : Path.isAbsolute path = false)
    (hsteps : Text.split '/' path = above ++ [last]) (habove : above ≠ []) :
    Path.directory path ≠ [] ∧ Path.isAbsolute (Path.directory path) = false ∧
      Text.split '/' (Path.directory path) = above := by
  have hjoin := Text.join_split '/' path
  rw [hsteps, Text.join_append_singleton last habove] at hjoin
  have hne : Text.join '/' above ≠ [] := by
    intro hnil
    rw [← hjoin, hnil] at hrelative
    exact absurd hrelative (by simp [Path.isAbsolute])
  have hdirectory : Path.directory path = Text.join '/' above := by
    rw [Path.directory, hsteps, List.dropLast_concat]
    exact if_neg (by simpa using hne)
  have hpieces : ∀ piece ∈ above, '/' ∉ piece := fun piece hpiece =>
    Text.notMem_of_mem_split (by rw [hsteps]; exact List.mem_append_left _ hpiece)
  rw [hdirectory]
  refine ⟨hne, ?_, Text.split_join habove hpieces⟩
  rwa [← hjoin, Path.isAbsolute, List.head?_append_of_ne_nil _ hne] at hrelative

/-- **The directory of a file** is where the path in front of its name leads. -/
theorem exists_directory_of_get (h : s.get path = .ok (l, .file content permissions)) :
    ∃ k, s.get (Path.directory path) = .ok (k, .directory) := by
  obtain ⟨-, hrelative, hfollow⟩ := locate_eq_ok_iff.mp (get_eq_ok_iff.mp h).1
  obtain ⟨above, last, hsteps⟩ : ∃ above last, Text.split '/' path = above ++ [last] :=
    ⟨_, _, (List.dropLast_append_getLast (Text.split_ne_nil '/' path)).symm⟩
  rw [hsteps] at hfollow
  obtain ⟨k, hk, hlast⟩ := follow_append_eq_ok_iff.mp hfollow
  refine ⟨k, get_eq_ok_iff.mpr ⟨?_, (follow_cons_eq_ok_iff.mp hlast).1⟩⟩
  by_cases habove : above = []
  · -- a name alone stands in the directory that relative paths start from
    rw [Path.directory, hsteps, habove, hrelative]
    rw [habove] at hk
    exact hk
  · obtain ⟨hne, hrelative', hsplit⟩ := split_directory hrelative hsteps habove
    exact locate_eq_ok_iff.mpr ⟨hne, hrelative', by rw [hsplit]; exact hk⟩

/-- The path of a name in a directory leads below the directory. -/
theorem locate_below {name : Text} (h : s.get path = .ok (l, .directory)) (hslash : '/' ∉ name)
    (hempty : name ≠ []) (hdot : name ≠ Path.dot) (hdotDot : name ≠ Path.dotDot) :
    s.locate (path ++ '/' :: name) = .ok (l ++ [name]) := by
  obtain ⟨hlocate, hdirectory⟩ := get_eq_ok_iff.mp h
  obtain ⟨hne, hrelative, hfollow⟩ := locate_eq_ok_iff.mp hlocate
  refine locate_eq_ok_iff.mpr ⟨by simp, ?_, ?_⟩
  · rwa [Path.isAbsolute, List.head?_append_of_ne_nil _ hne]
  · rw [Text.split_append_sep, Text.split_of_notMem hslash]
    have hstep : after l name = l ++ [name] := by
      rw [after, if_neg (by simp [hempty, hdot]), if_neg hdotDot]
    have hlast : s.follow l [name] = .ok (l ++ [name]) :=
      follow_cons_eq_ok_iff.mpr ⟨hdirectory, by rw [hstep]; rfl⟩
    exact follow_append_eq_ok_iff.mpr ⟨l, hfollow, hlast⟩

/-! ## An installation -/

/-- A new name is an ordinary one. -/
theorem newName_ordinary (s : Storage) : '/' ∉ s.newName ∧ s.newName ≠ [] ∧
    s.newName ≠ Path.dot ∧ s.newName ≠ Path.dotDot := by
  have hlong : ".tmp".toList.length ≤ s.newName.length := by
    rw [newName, List.length_append]
    exact Nat.le_add_right _ _
  have hother : ∀ word : Text, word.length < ".tmp".toList.length → s.newName ≠ word := by
    rintro word hshort rfl
    omega
  refine ⟨?_, hother [] (by decide), hother Path.dot (by decide), hother Path.dotDot (by decide)⟩
  rw [newName, List.mem_append, not_or]
  exact ⟨by decide, fun h => absurd (List.eq_of_mem_replicate h) (by decide)⟩

/-- **The steps of an installation.**  The text is staged in the directory of the file, under
permissions of its own; it takes over those of the file, and then its place.  Until the last step
the path leads to the file as it was, and after it nothing else has changed. -/
theorem installation_steps (h : s.get path = .ok (l, .file content permissions)) (t : Text) :
    ∃ staged written ready, s.stage (Path.directory path) t = .ok (staged, written) ∧
      written.get path = .ok (l, .file content permissions) ∧
      written.setPermissions staged permissions = .ok ready ∧
      ready.get path = .ok (l, .file content permissions) ∧
      ready.read staged = .ok t ∧
      ready.rename staged path = .ok (s.set l (.file (.text t) permissions)) := by
  obtain ⟨k, hdirectory⟩ := exists_directory_of_get h
  obtain ⟨hslash, hempty, hdot, hdotDot⟩ := newName_ordinary s
  have hnew := unused_newName s k
  have hne : k ++ [s.newName] ≠ [] := by simp
  have hkept : ∀ mode, (s.set (k ++ [s.newName]) (.file (.text t) mode)).get path =
      .ok (l, .file content permissions) := fun mode => hnew.get_set hne h
  have hstaged : ∀ mode, (s.set (k ++ [s.newName]) (.file (.text t) mode)).get
      (Path.directory path ++ '/' :: s.newName) = .ok (k ++ [s.newName], .file (.text t) mode) := by
    intro mode
    have hkeeps : (s.set (k ++ [s.newName]) (.file (.text t) mode)).get (Path.directory path) =
        .ok (k, .directory) := hnew.get_set hne hdirectory
    exact get_eq_ok_iff.mpr
      ⟨locate_below hkeeps hslash hempty hdot hdotDot, find?_set_self s _ hne⟩
  refine ⟨_, _, _, stage_of_get hdirectory t, hkept _,
    (setPermissions_of_get (hstaged _) permissions).trans (by rw [set_set]), hkept permissions,
    read_eq_ok_iff.mpr ⟨_, _, hstaged permissions⟩, ?_⟩
  obtain ⟨hlocate, hfind⟩ := get_eq_ok_iff.mp (hkept permissions)
  rw [rename_of_get (hstaged permissions) hlocate hfind, hnew.erase_set]

end DocSplice.Storage
