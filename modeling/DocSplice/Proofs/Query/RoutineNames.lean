import DocSplice.Proofs.Blanks
import DocSplice.Proofs.Query.Rendering

/-!
# The name of a unit

The name of a query file is the one that its first declaration gives, and the lines of the
documentation are searched like all others.

* `notMem_unitName`: the name is made of name characters, unless it is the placeholder.
* `routineName?_append_blank`: a blank behind a line does not change what the line declares, so line
  endings do not matter.
* `routineName?_titleLine`: the title that is made from the name of a unit declares nothing.
-/

namespace DocSplice.Query

/-! ## The characters of a name -/

theorem isNameChar_of_mem_routineAtStart? {line name : Text} {c : Char}
    (h : routineAtStart? line = some name) (hc : c ∈ name) : isNameChar c = true := by
  simp only [routineAtStart?, Option.bind_eq_bind, Option.bind_eq_some_iff] at h
  obtain ⟨_, -, rest, -, hname⟩ := h
  split at hname
  · simp at hname
  · obtain rfl := Option.some.inj hname
    exact List.mem_takeWhile_imp hc

theorem isNameChar_of_mem_routineFrom? {name : Text} {c : Char} :
    ∀ {line : Text} {inWord : Bool}, routineFrom? inWord line = some name → c ∈ name →
      isNameChar c = true
  | [], _, h, _ => by simp [routineFrom?] at h
  | d :: line, inWord, h, hc => by
    rw [routineFrom?] at h
    split at h
    · rename_i found hfound
      obtain rfl := Option.some.inj h
      cases inWord with
      | true => simp at hfound
      | false => exact isNameChar_of_mem_routineAtStart? (by simpa using hfound) hc
    · exact isNameChar_of_mem_routineFrom? h hc

/-- The name of a unit is the placeholder or made of name characters. -/
theorem unitName_eq_or (lines : List Text) :
    unitName lines = placeholderName ∨ ∀ c ∈ unitName lines, isNameChar c = true := by
  rw [unitName]
  cases hfind : lines.findSome? routineName? with
  | none => exact Or.inl rfl
  | some name =>
    obtain ⟨line, -, hline⟩ := List.exists_of_findSome?_eq_some hfind
    exact Or.inr fun c hc => isNameChar_of_mem_routineFrom? hline hc

/-- The name of a unit is made of name characters, unless it is the placeholder. -/
theorem notMem_unitName {c : Char} (hname : isNameChar c = false)
    (hplaceholder : c ∉ placeholderName) (lines : List Text) : c ∉ unitName lines := by
  rcases unitName_eq_or lines with h | h
  · rw [h]
    exact hplaceholder
  · intro hc
    rw [h c hc] at hname
    exact Bool.false_ne_true hname.symm

/-- A blank is no name character. -/
theorem isNameChar_of_isBlank {c : Char} (h : isBlank c = true) : isNameChar c = false := by
  rw [isNameChar, isWord_of_isBlank h, Bool.false_or, beq_eq_false_iff_ne]
  rintro rfl
  exact absurd h (by decide)

/-! ## A blank behind a line -/

variable {b : Char} {keyword t : Text}

/-- What is left to read of a line, and of the same line with a blank behind it: the blank is still
to come, or nothing is left of either, or the blank was read where the line had ended. -/
inductive ReadsAlike (b : Char) : Option Text → Option Text → Prop
  | lost : ReadsAlike b none none
  | ended : ReadsAlike b none (some [])
  | atEnd : ReadsAlike b (some []) (some [])
  | before (t : Text) : ReadsAlike b (some t) (some (t ++ [b]))

theorem afterKeyword?_append_blank (hb : lowerAscii b ∉ keyword) (t : Text) :
    afterKeyword? keyword (t ++ [b]) = (afterKeyword? keyword t).map (· ++ [b]) := by
  unfold afterKeyword?
  by_cases hle : keyword.length ≤ t.length
  · rw [List.take_append_of_le_length hle, List.drop_append_of_le_length hle]
    split
    · rfl
    · rfl
  · -- the line is too short for the keyword, and the blank is no part of it
    have hlong : Text.lowerAscii ((t ++ [b]).take keyword.length) ≠ keyword := by
      intro hread
      have htake : (t ++ [b]).take keyword.length = t ++ [b] := by
        refine List.take_of_length_le ?_
        rw [List.length_append, List.length_singleton]
        omega
      rw [htake, Text.lowerAscii, List.map_append, List.map_singleton] at hread
      exact hb (hread ▸ List.mem_append_right _ (List.mem_singleton.mpr rfl))
    have hshort : Text.lowerAscii (t.take keyword.length) ≠ keyword := by
      intro hread
      have hlength := congrArg List.length hread
      rw [Text.lowerAscii, List.length_map, List.length_take] at hlength
      omega
    rw [if_neg hlong, if_neg hshort]
    rfl

theorem trimStart_append_blank (hb : isBlank b = true) (t : Text) :
    Text.trimStart t = [] ∧ Text.trimStart (t ++ [b]) = [] ∨
      Text.trimStart (t ++ [b]) = Text.trimStart t ++ [b] := by
  by_cases h : Text.trimStart t = []
  · have hall : ∀ c ∈ t ++ [b], isBlank c = true := by
      intro c hc
      rcases List.mem_append.mp hc with hc | hc
      · exact List.dropWhile_eq_nil_iff.mp h c hc
      · exact List.mem_singleton.mp hc ▸ hb
    exact Or.inl ⟨h, List.dropWhile_eq_nil_iff.mpr hall⟩
  · refine Or.inr ?_
    rw [Text.trimStart, List.dropWhile_append]
    simp only [Text.trimStart] at h
    simp [h, Text.trimStart]

theorem afterWord?_append_blank (hb : isBlank b = true) (hkeyword : lowerAscii b ∉ keyword)
    (t : Text) : ReadsAlike b (afterWord? keyword t) (afterWord? keyword (t ++ [b])) := by
  rw [afterWord?, afterWord?, afterKeyword?_append_blank hkeyword]
  cases afterKeyword? keyword t with
  | none => exact .lost
  | some u =>
    cases u with
    | nil =>
      simp only [Option.map_some, Option.bind_some, List.nil_append, afterBlanks?, hb, if_true]
      exact .ended
    | cons c u =>
      simp only [Option.map_some, Option.bind_some, List.cons_append, afterBlanks?]
      by_cases hc : isBlank c = true
      · rw [if_pos hc, if_pos hc]
        rcases trimStart_append_blank hb u with ⟨hu, hub⟩ | hub
        · rw [hu, hub]
          exact .atEnd
        · rw [hub]
          exact .before _
      · rw [if_neg hc, if_neg hc]
        exact .lost

/-- Where nothing is left of a line there is no keyword. -/
theorem ReadsAlike.bind_afterWord? {x y : Option Text} (h : ReadsAlike b x y)
    (hb : isBlank b = true) (hkeyword : lowerAscii b ∉ keyword) (hne : keyword ≠ []) :
    ReadsAlike b (x.bind (afterWord? keyword)) (y.bind (afterWord? keyword)) := by
  have hnil : afterWord? keyword [] = none := by
    simp [afterWord?, afterKeyword?, Text.lowerAscii, hne.symm]
  cases h with
  | lost => exact .lost
  | ended =>
    rw [Option.bind_some, hnil]
    exact .lost
  | atEnd =>
    rw [Option.bind_some, hnil]
    exact .lost
  | before t => exact afterWord?_append_blank hb hkeyword t

/-- A line that starts with a keyword starts with its first letter, in either case. -/
theorem head?_of_afterWord? {a : Char} {rest : Text} (h : afterWord? (a :: keyword) t = some rest) :
    t.head?.map lowerAscii = some a := by
  rw [afterWord?, Option.bind_eq_some_iff] at h
  obtain ⟨u, hu, -⟩ := h
  unfold afterKeyword? at hu
  split at hu
  · rename_i hread
    cases t with
    | nil => exact absurd hread (by simp [Text.lowerAscii])
    | cons c t =>
      rw [List.length_cons, List.take_succ_cons, Text.lowerAscii, List.map_cons] at hread
      rw [List.head?_cons, Option.map_some, (List.cons.inj hread).1]
  · exact absurd hu (by simp)

/-- The name that a text starts with. -/
def nameAtStart? (t : Text) : Option Text :=
  let name := t.takeWhile isNameChar
  if name.isEmpty then none else some name

/-- The name behind the word that says what is declared. -/
def declaredName? (t : Text) : Option Text :=
  ((afterWord? "function".toList t).or (afterWord? "procedure".toList t)).bind nameAtStart?

/-- A declaration, word by word. -/
theorem routineAtStart?_eq (t : Text) :
    routineAtStart? t = (afterWord? "create".toList t).bind fun u => declaredName?
      (((afterWord? "or".toList u).bind (afterWord? "replace".toList)).getD u) := rfl

theorem ReadsAlike.bind_nameAtStart? {x y : Option Text} (h : ReadsAlike b x y)
    (hb : isBlank b = true) : x.bind nameAtStart? = y.bind nameAtStart? := by
  cases h with
  | lost => rfl
  | ended => rfl
  | atEnd => rfl
  | before t =>
    have hread : (t ++ [b]).takeWhile isNameChar = t.takeWhile isNameChar := by
      have hstop : [b].takeWhile isNameChar = [] := by simp [isNameChar_of_isBlank hb]
      rw [List.takeWhile_append, hstop, List.append_nil]
      split
      · rename_i hall
        exact ((List.takeWhile_prefix isNameChar).eq_of_length hall).symm
      · rfl
    rw [Option.bind_some, Option.bind_some, nameAtStart?, nameAtStart?, hread]

/-- No keyword of a declaration holds a blank. -/
theorem lowerAscii_notMem_of_isBlank (keyword : Text) (hb : isBlank b = true)
    (h : keyword ∈ ["create".toList, "or".toList, "replace".toList, "function".toList,
      "procedure".toList]) : lowerAscii b ∉ keyword := by
  have hall : (blanks.all fun b => ["create".toList, "or".toList, "replace".toList,
      "function".toList, "procedure".toList].all fun keyword =>
        !keyword.contains (lowerAscii b)) = true := by decide +kernel
  have hkeyword := List.all_eq_true.mp (List.all_eq_true.mp hall b (mem_blanks hb)) keyword h
  rw [Bool.not_eq_true'] at hkeyword
  intro hmem
  rw [List.contains_iff_mem.mpr hmem] at hkeyword
  exact Bool.false_ne_true hkeyword.symm

/-- Of two words that start differently, a line starts with one at most. -/
theorem afterWord?_eq_none_of_head? {a : Char} {word rest : Text} (hne : keyword.head? ≠ some a)
    (h : afterWord? keyword t = some rest) (hkeyword : keyword ≠ []) :
    afterWord? (a :: word) t = none := by
  cases hother : afterWord? (a :: word) t with
  | none => rfl
  | some other =>
    cases keyword with
    | nil => exact absurd rfl hkeyword
    | cons c keyword =>
      have hhead := head?_of_afterWord? h
      rw [head?_of_afterWord? hother] at hhead
      exact absurd hhead.symm hne

theorem declaredName?_append_blank (hb : isBlank b = true) (t : Text) :
    declaredName? (t ++ [b]) = declaredName? t := by
  have hfunction := afterWord?_append_blank hb
    (lowerAscii_notMem_of_isBlank "function".toList hb (by simp)) t
  have hprocedure := afterWord?_append_blank hb
    (lowerAscii_notMem_of_isBlank "procedure".toList hb (by simp)) t
  rw [declaredName?, declaredName?]
  generalize hx : afterWord? "function".toList t = x at hfunction
  generalize hy : afterWord? "function".toList (t ++ [b]) = y at hfunction
  cases hfunction with
  | lost => exact (hprocedure.bind_nameAtStart? hb).symm
  | ended =>
    have hother : afterWord? "procedure".toList (t ++ [b]) = none :=
      afterWord?_eq_none_of_head? (by decide) hy (by decide)
    rw [hother] at hprocedure
    generalize afterWord? "procedure".toList t = z at hprocedure
    cases hprocedure
    rfl
  | atEnd => rfl
  | before u => exact ((ReadsAlike.before u).bind_nameAtStart? hb).symm

/-- A blank behind a line does not start a declaration or change one. -/
theorem routineAtStart?_append_blank (hb : isBlank b = true) (t : Text) :
    routineAtStart? (t ++ [b]) = routineAtStart? t := by
  have hcreate := afterWord?_append_blank hb
    (lowerAscii_notMem_of_isBlank "create".toList hb (by simp)) t
  rw [routineAtStart?_eq, routineAtStart?_eq]
  generalize afterWord? "create".toList t = x at hcreate
  generalize afterWord? "create".toList (t ++ [b]) = y at hcreate
  cases hcreate with
  | lost => rfl
  | ended => rfl
  | atEnd => rfl
  | before u =>
    have hor := afterWord?_append_blank hb
      (lowerAscii_notMem_of_isBlank "or".toList hb (by simp)) u
    have hreplace := hor.bind_afterWord? hb
      (lowerAscii_notMem_of_isBlank "replace".toList hb (by simp)) (by decide)
    rw [Option.bind_some, Option.bind_some]
    generalize hv : (afterWord? "or".toList u).bind (afterWord? "replace".toList) = v at hreplace
    generalize hw : (afterWord? "or".toList (u ++ [b])).bind (afterWord? "replace".toList) = w
      at hreplace
    cases hreplace with
    | lost => exact declaredName?_append_blank hb u
    | ended =>
      -- the line starts with `OR`, so what it declares would have to stand behind `REPLACE`
      have hu : declaredName? (u ++ [b]) = none := by
        obtain ⟨rest, hrest, -⟩ := Option.bind_eq_some_iff.mp hw
        have hfunction : afterWord? "function".toList (u ++ [b]) = none :=
          afterWord?_eq_none_of_head? (by decide) hrest (by decide)
        have hprocedure : afterWord? "procedure".toList (u ++ [b]) = none :=
          afterWord?_eq_none_of_head? (by decide) hrest (by decide)
        rw [declaredName?, hfunction, hprocedure]
        rfl
      rw [declaredName?_append_blank hb] at hu
      exact hu.symm
    | atEnd => rfl
    | before v => exact declaredName?_append_blank hb v

theorem routineFrom?_append_blank (hb : isBlank b = true) : ∀ (inWord : Bool) (t : Text),
    routineFrom? inWord (t ++ [b]) = routineFrom? inWord t
  | inWord, [] => by
    have hstart : routineAtStart? [b] = none := by
      rw [← List.nil_append [b], routineAtStart?_append_blank hb]
      rfl
    cases inWord with
    | false => simp [routineFrom?, hstart]
    | true => simp [routineFrom?]
  | inWord, c :: t => by
    rw [List.cons_append, routineFrom?, routineFrom?, routineFrom?_append_blank hb, ← List.cons_append,
      routineAtStart?_append_blank hb]

/-- **A blank behind a line** does not change what the line declares. -/
theorem routineName?_append_blank (hb : isBlank b = true) (line : Text) :
    routineName? (line ++ [b]) = routineName? line :=
  routineFrom?_append_blank hb false line

/-! ## The title -/

/-- A declaration starts with the first letter of its first word. -/
theorem routineAtStart?_eq_none {c : Char} (hc : lowerAscii c ≠ 'c') (t : Text) :
    routineAtStart? (c :: t) = none := by
  have hcreate : afterWord? "create".toList (c :: t) = none := by
    cases h : afterWord? "create".toList (c :: t) with
    | none => rfl
    | some rest => exact absurd (Option.some.inj (head?_of_afterWord? h)) hc
  rw [routineAtStart?_eq, hcreate]
  rfl

/-- Behind a keyword stands a blank. -/
theorem exists_blank_of_afterWord? {rest : Text} (h : afterWord? keyword t = some rest) :
    ∃ c ∈ t, isBlank c = true := by
  rw [afterWord?, Option.bind_eq_some_iff] at h
  obtain ⟨u, hu, hrest⟩ := h
  have hdrop : t.drop keyword.length = u := by
    unfold afterKeyword? at hu
    split at hu
    · exact Option.some.inj hu
    · exact absurd hu (by simp)
  cases u with
  | nil => exact absurd hrest (by simp [afterBlanks?])
  | cons c u =>
    have hmem : c ∈ t := List.mem_of_mem_drop (hdrop ▸ List.mem_cons_self)
    by_cases hc : isBlank c = true
    · exact ⟨c, hmem, hc⟩
    · exact absurd hrest (by simp [afterBlanks?, hc])

/-- A text without a blank declares nothing. -/
theorem routineFrom?_of_not_blank : ∀ {t : Text}, (∀ c ∈ t, isBlank c = false) →
    ∀ inWord, routineFrom? inWord t = none
  | [], _, _ => rfl
  | c :: t, h, inWord => by
    have hstart : routineAtStart? (c :: t) = none := by
      cases hcreate : afterWord? "create".toList (c :: t) with
      | none => rw [routineAtStart?_eq, hcreate, Option.bind_none]
      | some rest =>
        obtain ⟨d, hd, hblank⟩ := exists_blank_of_afterWord? hcreate
        rw [h d hd] at hblank
        exact absurd hblank Bool.false_ne_true
    rw [routineFrom?, hstart, ite_self]
    exact routineFrom?_of_not_blank (fun d hd => h d (List.mem_cons_of_mem c hd)) (isWord c)

/-- **The title that is made from the name of a unit declares nothing.** -/
theorem routineName?_titleLine (lines : List Text) :
    routineName? (titleLine (unitName lines)) = none := by
  rcases unitName_eq_or lines with h | h
  · rw [h]
    decide +kernel
  · have hname : ∀ c ∈ unitName lines, isBlank c = false := by
      intro c hc
      refine Bool.eq_false_iff.mpr fun hblank => ?_
      have hno := isNameChar_of_isBlank hblank
      rw [h c hc] at hno
      exact Bool.false_ne_true hno.symm
    have hstep : ∀ {c : Char}, lowerAscii c ≠ 'c' → ∀ (inWord : Bool) (t : Text),
        routineFrom? inWord (c :: t) = routineFrom? (isWord c) t := by
      intro c hc inWord t
      rw [routineFrom?, routineAtStart?_eq_none hc, ite_self]
    rw [routineName?, titleLine, opener]
    simp only [List.cons_append, List.nil_append]
    rw [hstep (by decide), hstep (by decide), hstep (by decide), hstep (by decide),
      hstep (by decide)]
    exact routineFrom?_of_not_blank hname _

end DocSplice.Query
