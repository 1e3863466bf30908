import DocSplice.Storage

/-!
# Files that keep their place

A file that gets another content stays where it is: paths lead through directories only, so what a
file holds has no say in where a path leads (`follow_set`), and a path that led to the file leads to
it still (`get_set`).

`read_eq_ok_iff`, `permissions_of_get` and `rename_of_get` say what these operations come to in
terms of the locations that the paths lead to.
-/

namespace DocSplice.Storage

variable {s : Storage} {path : Path} {l k : Location} {content : Content} {permissions : Nat}

/-! ## Operations on files -/

theorem read_eq_ok_iff {t : Text} :
    s.read path = .ok t ↔ ∃ l permissions, s.get path = .ok (l, .file (.text t) permissions) := by
  rw [read]
  cases s.get path with
  | error e => simp [bind, Except.bind]
  | ok found =>
    obtain ⟨l, entry⟩ := found
    cases entry with
    | directory => simp [bind, Except.bind]
    | file content permissions =>
      cases content with
      | text held => simp [bind, Except.bind]
      | bytes held => simp [bind, Except.bind]

theorem permissions_of_get (h : s.get path = .ok (l, .file content permissions)) :
    s.permissions path = .ok permissions := by
  rw [Storage.permissions, h]
  rfl

theorem setPermissions_of_get (h : s.get path = .ok (l, .file content permissions)) (mode : Nat) :
    s.setPermissions path mode = .ok (s.set l (.file content mode)) := by
  rw [setPermissions, h]
  rfl

theorem stage_of_get (h : s.get path = .ok (l, .directory)) (t : Text) :
    s.stage path t = .ok (path ++ '/' :: s.newName,
      s.set (l ++ [s.newName]) (.file (.text t) stagedPermissions)) := by
  rw [stage, h]
  rfl

theorem rename_of_get {target : Path} {old : Content} {mode : Nat}
    (hsource : s.get path = .ok (l, .file content permissions))
    (htarget : s.locate target = .ok k) (hfile : s.find? k = some (.file old mode)) :
    s.rename path target = .ok ((s.erase l).set k (.file content permissions)) := by
  rw [rename, hsource]
  simp only [bind, Except.bind, htarget, hfile]

theorem status_of_get (h : s.get path = .ok (l, .file content permissions)) :
    s.status path = .ok (.file content.size) := by
  rw [status, h]
  rfl

/-! ## A file gets another content -/

/-- A path leads to what is held at its location. -/
theorem get_eq_ok_iff {entry : Entry} :
    s.get path = .ok (l, entry) ↔ s.locate path = .ok l ∧ s.find? l = some entry := by
  rw [get]
  cases s.locate path with
  | error e => simp [bind, Except.bind]
  | ok found =>
    rw [Except.ok.injEq]
    cases hfind : s.find? found with
    | none =>
      simp only [bind, Except.bind, hfind, reduceCtorEq, false_iff, not_and]
      rintro rfl
      simp [hfind]
    | some held =>
      simp only [bind, Except.bind, hfind, Except.ok.injEq, Prod.mk.injEq]
      refine and_congr_right fun hsame => ?_
      rw [← hsame, hfind, Option.some.injEq]

/-- The top directory holds no content. -/
theorem ne_nil_of_find? (h : s.find? l = some (.file content permissions)) : l ≠ [] := by
  rintro rfl
  simp at h

/-- Steps go through directories only, and a file is none whatever it holds. -/
theorem follow_set (h : s.find? l = some (.file content permissions)) (new : Content)
    (mode : Nat) (steps : List Text) (k : Location) :
    (s.set l (.file new mode)).follow k steps = s.follow k steps := by
  induction steps generalizing k with
  | nil => rfl
  | cons step rest ih =>
    rw [follow, follow]
    by_cases hk : k = l
    · subst hk
      rw [find?_set_self s _ (ne_nil_of_find? h), h]
    · rw [find?_set_of_ne s _ hk]
      simp only [ih]

theorem locate_set (h : s.find? l = some (.file content permissions)) (new : Content)
    (mode : Nat) (path : Path) : (s.set l (.file new mode)).locate path = s.locate path := by
  rw [locate, locate, follow_set h]

/-- **A path that leads to a file leads to it still** when the file gets another content. -/
theorem get_set (h : s.get path = .ok (l, .file content permissions)) (new : Content) (mode : Nat) :
    (s.set l (.file new mode)).get path = .ok (l, .file new mode) := by
  obtain ⟨hlocate, hfind⟩ := get_eq_ok_iff.mp h
  exact get_eq_ok_iff.mpr
    ⟨(locate_set hfind new mode path).trans hlocate, find?_set_self s _ (ne_nil_of_find? hfind)⟩

end DocSplice.Storage
