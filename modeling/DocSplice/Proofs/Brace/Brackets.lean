import DocSplice.Brace.Body
import Mathlib.Data.List.Infix

/-!
# Brackets that are closed

Where an argument list or a braced body ends is a matter of counting: it ends with the first closing
bracket at which the code holds as many closing brackets as opening ones.  The scan of a body counts
otherwise, by a depth that goes up and down and is never looked at as a count.

* `Closed` and `FirstClosed` say the former, of any pair of brackets, without a depth.
* `Pending` is what holds before that: with so many brackets open at first, the code has not closed
  them all at any place.  Code is pending, or the bracket that closes it can be found
  (`pending_or_closing`).
* `Counts`: a family of states of the body scan that goes by such a depth.  The arguments and the
  braced body are two of them, and `Counts.run` reads the depth off the count.
* `Balanced` brackets leave no depth (`foldl_nesting_of_balanced`).
-/

namespace DocSplice.Brace

variable {opening closing : Char} {depth : Nat} {code inner : List Char} {c : Char}

/-! ## Counting -/

/-- The code ends with a closing bracket and holds as many of either kind. -/
structure Closed (opening closing : Char) (code : List Char) : Prop where
  ends : code.getLast? = some closing
  count_eq : code.count opening = code.count closing

/-- The code is closed, and nothing shorter that it begins with is. -/
structure FirstClosed (opening closing : Char) (code : List Char) : Prop where
  closed : Closed opening closing code
  first : ∀ front, front <+: code → Closed opening closing front → front = code

instance (opening closing : Char) (code : List Char) : Decidable (Closed opening closing code) :=
  decidable_of_iff (code.getLast? = some closing ∧ code.count opening = code.count closing)
    ⟨fun h => ⟨h.1, h.2⟩, fun h => ⟨h.ends, h.count_eq⟩⟩

instance (opening closing : Char) (code : List Char) :
    Decidable (FirstClosed opening closing code) :=
  decidable_of_iff (Closed opening closing code ∧
      ∀ front ∈ code.inits, Closed opening closing front → front = code)
    ⟨fun h => ⟨h.1, fun front hfront => h.2 front ((List.mem_inits front code).mpr hfront)⟩,
      fun h => ⟨h.closed, fun front hfront =>
        h.first front ((List.mem_inits front code).mp hfront)⟩⟩

/-- Where something is closed, something is closed first. -/
theorem exists_firstClosed {front : List Char} (h : Closed opening closing front) :
    ∃ least, least <+: front ∧ FirstClosed opening closing least := by
  induction hlength : front.length using Nat.strong_induction_on generalizing front with
  | _ length ih =>
    by_cases hfirst : ∀ shorter, shorter <+: front → Closed opening closing shorter →
        shorter = front
    · exact ⟨front, List.prefix_refl front, h, hfirst⟩
    · simp only [not_forall] at hfirst
      obtain ⟨shorter, hpart, hclosed, hne⟩ := hfirst
      have hlt : shorter.length < length := by
        refine lt_of_le_of_ne (hlength ▸ hpart.length_le) fun heq => hne ?_
        exact hpart.eq_of_length (heq.trans hlength.symm)
      obtain ⟨least, hleast, hclosed⟩ := ih _ hlt hclosed rfl
      exact ⟨least, hleast.trans hpart, hclosed⟩

/-- With so many brackets open before the code, some stay open at every place in it. -/
def Pending (opening closing : Char) (depth : Nat) (code : List Char) : Prop :=
  ∀ front, front <+: code → front.count closing < depth + front.count opening

theorem Pending.count_lt (h : Pending opening closing depth code) :
    code.count closing < depth + code.count opening := h code (List.prefix_refl code)

theorem pending_nil : Pending opening closing depth [] ↔ 0 < depth := by
  simp [Pending]

/-- Pending code, character by character. -/
theorem pending_cons :
    Pending opening closing depth (c :: code) ↔ 0 < depth ∧ ∀ front, front <+: code →
      (c :: front).count closing < depth + (c :: front).count opening := by
  constructor
  · intro h
    refine ⟨?_, fun front hfront => h (c :: front) (List.cons_prefix_cons.mpr ⟨rfl, hfront⟩)⟩
    have hnil := h [] List.nil_prefix
    simpa using hnil
  · rintro ⟨hdepth, hcons⟩ front hfront
    rcases List.prefix_cons_iff.mp hfront with rfl | ⟨more, rfl, hmore⟩
    · simpa using hdepth
    · exact hcons more hmore

theorem pending_cons_opening (hne : opening ≠ closing) (hdepth : 0 < depth) :
    Pending opening closing depth (opening :: code) ↔ Pending opening closing (depth + 1) code := by
  rw [pending_cons, and_iff_right hdepth]
  refine forall₂_congr fun front _ => ?_
  rw [List.count_cons_self, List.count_cons_of_ne hne]
  omega

theorem pending_cons_closing (hne : opening ≠ closing) :
    Pending opening closing (depth + 1) (closing :: code) ↔ Pending opening closing depth code := by
  rw [pending_cons, and_iff_right (Nat.succ_pos depth)]
  refine forall₂_congr fun front _ => ?_
  rw [List.count_cons_self, List.count_cons_of_ne hne.symm]
  omega

theorem pending_cons_other (hopening : c ≠ opening) (hclosing : c ≠ closing) :
    Pending opening closing depth (c :: code) ↔ Pending opening closing depth code := by
  rw [pending_cons]
  constructor
  · rintro ⟨-, hcons⟩ front hfront
    have hcount := hcons front hfront
    rwa [List.count_cons_of_ne hclosing, List.count_cons_of_ne hopening] at hcount
  · intro h
    refine ⟨pending_nil.mp fun front hfront => h front (hfront.trans List.nil_prefix), ?_⟩
    intro front hfront
    rw [List.count_cons_of_ne hclosing, List.count_cons_of_ne hopening]
    exact h front hfront

/-- **Brackets stay open, or the last of them is closed** at a place that can be found. -/
theorem pending_or_closing (hne : opening ≠ closing) (hdepth : 0 < depth) (code : List Char) :
    Pending opening closing depth code ∨ ∃ inner rest, code = inner ++ closing :: rest ∧
      Pending opening closing depth inner ∧
        inner.count closing + 1 = depth + inner.count opening := by
  induction code generalizing depth with
  | nil => exact Or.inl (pending_nil.mpr hdepth)
  | cons c code ih =>
    by_cases hopening : c = opening
    · subst hopening
      rcases ih (Nat.succ_pos depth) with hpending | ⟨inner, rest, rfl, hinner, hcount⟩
      · exact Or.inl ((pending_cons_opening hne hdepth).mpr hpending)
      · refine Or.inr ⟨c :: inner, rest, rfl, (pending_cons_opening hne hdepth).mpr hinner, ?_⟩
        rw [List.count_cons_self, List.count_cons_of_ne hne]
        omega
    · by_cases hclosing : c = closing
      · subst hclosing
        obtain ⟨depth, rfl⟩ := Nat.exists_eq_add_of_lt hdepth
        rw [Nat.zero_add]
        by_cases hlast : depth = 0
        · subst hlast
          exact Or.inr ⟨[], code, rfl, pending_nil.mpr (by omega), rfl⟩
        · rcases ih (Nat.pos_of_ne_zero hlast) with hpending | ⟨inner, rest, rfl, hinner, hcount⟩
          · exact Or.inl ((pending_cons_closing hne).mpr hpending)
          · refine Or.inr ⟨c :: inner, rest, rfl, (pending_cons_closing hne).mpr hinner, ?_⟩
            rw [List.count_cons_self, List.count_cons_of_ne hne.symm]
            omega
      · rcases ih hdepth with hpending | ⟨inner, rest, rfl, hinner, hcount⟩
        · exact Or.inl ((pending_cons_other hopening hclosing).mpr hpending)
        · refine Or.inr
            ⟨c :: inner, rest, rfl, (pending_cons_other hopening hclosing).mpr hinner, ?_⟩
          rw [List.count_cons_of_ne hclosing, List.count_cons_of_ne hopening]
          exact hcount

/-! ## The first closing bracket -/

section First

variable {front more : List Char} (hne : opening ≠ closing) (hopening : opening ∉ front)
  (hclosing : closing ∉ front)

include hne hopening hclosing

/-- From the bracket that opens first to a closing one, counting is a matter of what is between. -/
theorem closed_framed_iff :
    Closed opening closing (front ++ opening :: (inner ++ [closing])) ↔
      inner.count closing = inner.count opening := by
  have hlast : (front ++ opening :: (inner ++ [closing])).getLast? = some closing := by
    rw [← List.cons_append, ← List.append_assoc]
    exact List.getLast?_concat
  have hopens : (front ++ opening :: (inner ++ [closing])).count opening =
      inner.count opening + 1 := by
    rw [List.count_append, List.count_eq_zero_of_not_mem hopening, List.count_cons_self,
      List.count_append, List.count_singleton, if_neg (by simpa using hne.symm)]
    omega
  have hcloses : (front ++ opening :: (inner ++ [closing])).count closing =
      inner.count closing + 1 := by
    rw [List.count_append, List.count_eq_zero_of_not_mem hclosing, List.count_cons_of_ne hne,
      List.count_append, List.count_singleton_self]
    omega
  constructor
  · intro h
    have hcount := h.count_eq
    omega
  · exact fun hcount => ⟨hlast, by omega⟩

/-- What is closed first closes the bracket that opened first, and until then that one is open. -/
theorem FirstClosed.exists_inner (h : FirstClosed opening closing code)
    (hcode : code <+: front ++ opening :: more) :
    ∃ inner, code = front ++ opening :: (inner ++ [closing]) ∧ Pending opening closing 1 inner ∧
      inner.count closing = inner.count opening := by
  have hmem : closing ∈ code := List.mem_of_getLast? h.closed.ends
  obtain ⟨inner, rfl⟩ : ∃ inner, code = front ++ opening :: (inner ++ [closing]) := by
    rcases List.prefix_or_prefix_of_prefix hcode (List.prefix_append front _) with hin | ⟨tail, rfl⟩
    · exact absurd (hin.subset hmem) hclosing
    · have htail := (List.prefix_append_right_inj front).mp hcode
      rcases List.prefix_cons_iff.mp htail with rfl | ⟨below, rfl, -⟩
      · rw [List.append_nil] at hmem
        exact absurd hmem hclosing
      · have hends := h.closed.ends
        rcases List.eq_nil_or_concat below with rfl | ⟨inner, last, rfl⟩
        · rw [List.getLast?_concat] at hends
          exact absurd (Option.some.inj hends) hne
        · rw [List.concat_eq_append, ← List.cons_append, ← List.append_assoc,
            List.getLast?_concat] at hends
          exact ⟨inner, by rw [Option.some.inj hends, List.concat_eq_append]⟩
  refine ⟨inner, rfl, ?_, (closed_framed_iff hne hopening hclosing).mp h.closed⟩
  refine (pending_or_closing hne Nat.one_pos inner).resolve_right ?_
  rintro ⟨early, rest, rfl, -, hcount⟩
  have hclosed : Closed opening closing (front ++ opening :: (early ++ [closing])) :=
    (closed_framed_iff hne hopening hclosing).mpr (by omega)
  have hshort : front ++ opening :: (early ++ [closing]) <+:
      front ++ opening :: (early ++ closing :: rest ++ [closing]) := by
    refine (List.prefix_append_right_inj front).mpr (List.cons_prefix_cons.mpr ⟨rfl, ?_⟩)
    exact ⟨rest ++ [closing], by simp⟩
  have hlength := congrArg List.length (h.first _ hshort hclosed)
  simp at hlength

/-- Where nothing is closed, the bracket that opened first stays open. -/
theorem pending_of_not_closed
    (h : ∀ code, code <+: front ++ opening :: more → ¬Closed opening closing code) :
    Pending opening closing 1 more := by
  refine (pending_or_closing hne Nat.one_pos more).resolve_right ?_
  rintro ⟨inner, rest, rfl, -, hcount⟩
  refine h (front ++ opening :: (inner ++ [closing])) ?_
    ((closed_framed_iff hne hopening hclosing).mpr (by omega))
  exact (List.prefix_append_right_inj front).mpr
    (List.cons_prefix_cons.mpr ⟨rfl, ⟨rest, by simp⟩⟩)

end First

/-! ## Depths of the scan -/

/-- The states of a scan that goes by the depth of one pair of brackets. -/
structure Counts (opening closing : Char) (state : Nat → BodyState) : Prop where
  ne : opening ≠ closing
  opens : ∀ depth, (state depth).step opening = some (state (depth + 1))
  closes : ∀ depth, 0 < depth → (state (depth + 1)).step closing = some (state depth)
  other : ∀ depth c, c ≠ opening → c ≠ closing → (state depth).step c = some (state depth)

theorem counts_arguments : Counts '(' ')' .arguments where
  ne := by decide
  opens depth := by simp [BodyState.step]
  closes depth hdepth := by
    have hnot : ¬depth + 1 ≤ 1 := by omega
    simp [BodyState.step, hnot]
  other depth c hopening hclosing := by simp [BodyState.step, hopening, hclosing]

theorem counts_braced : Counts '{' '}' .braced where
  ne := by decide
  opens depth := by simp [BodyState.step]
  closes depth hdepth := by
    have hnot : ¬depth + 1 ≤ 1 := by omega
    simp [BodyState.step, hnot]
  other depth c hopening hclosing := by simp [BodyState.step, hopening, hclosing]

/-- **The depth is read off the count**, as long as some bracket stays open. -/
theorem Counts.run {state : Nat → BodyState} (hstate : Counts opening closing state)
    (h : Pending opening closing depth code) :
    ∃ last, last + code.count closing = depth + code.count opening ∧
      (state depth).run code = some (state last) := by
  induction code generalizing depth with
  | nil => exact ⟨depth, rfl, rfl⟩
  | cons c code ih =>
    have hdepth : 0 < depth := (pending_cons.mp h).1
    by_cases hopening : c = opening
    · subst hopening
      obtain ⟨last, hlast, hrun⟩ := ih ((pending_cons_opening hstate.ne hdepth).mp h)
      refine ⟨last, ?_, by rw [BodyState.run_cons, hstate.opens, Option.bind_some, hrun]⟩
      rw [List.count_cons_self, List.count_cons_of_ne hstate.ne]
      omega
    · by_cases hclosing : c = closing
      · subst hclosing
        obtain ⟨less, rfl⟩ := Nat.exists_eq_add_of_lt hdepth
        rw [Nat.zero_add] at h ⊢
        have hless := (pending_cons_closing hstate.ne).mp h
        obtain ⟨last, hlast, hrun⟩ := ih hless
        have hpos : 0 < less := pending_nil.mp fun front hfront =>
          hless front (hfront.trans List.nil_prefix)
        refine ⟨last, ?_, by
          rw [BodyState.run_cons, hstate.closes less hpos, Option.bind_some, hrun]⟩
        rw [List.count_cons_self, List.count_cons_of_ne hstate.ne.symm]
        omega
      · obtain ⟨last, hlast, hrun⟩ := ih ((pending_cons_other hopening hclosing).mp h)
        refine ⟨last, ?_, by
          rw [BodyState.run_cons, hstate.other _ _ hopening hclosing, Option.bind_some, hrun]⟩
        rw [List.count_cons_of_ne hclosing, List.count_cons_of_ne hopening]
        exact hlast

/-- Code without these brackets leaves the depth. -/
theorem Counts.run_other {state : Nat → BodyState} (hstate : Counts opening closing state)
    (hopening : opening ∉ code) (hclosing : closing ∉ code) :
    (state depth).run code = some (state depth) := by
  induction code with
  | nil => rfl
  | cons c code ih =>
    rw [List.mem_cons, not_or] at hopening hclosing
    rw [BodyState.run_cons, hstate.other _ _ (Ne.symm hopening.1) (Ne.symm hclosing.1),
      Option.bind_some, ih hopening.2 hclosing.2]

/-! ## Balanced brackets -/

/-- Nothing is closed that was not opened before, and nothing is left open. -/
structure Balanced (opening closing : Char) (code : List Char) : Prop where
  count_le : ∀ front, front <+: code → front.count closing ≤ front.count opening
  count_eq : code.count opening = code.count closing

instance (opening closing : Char) (code : List Char) : Decidable (Balanced opening closing code) :=
  decidable_of_iff ((∀ front ∈ code.inits, front.count closing ≤ front.count opening) ∧
      code.count opening = code.count closing)
    ⟨fun h => ⟨fun front hfront => h.1 front ((List.mem_inits front code).mpr hfront), h.2⟩,
      fun h => ⟨fun front hfront => h.count_le front ((List.mem_inits front code).mp hfront),
        h.count_eq⟩⟩

/-- A bracket that opens one of the three kinds. -/
def isOpening (c : Char) : Bool := c == '(' || c == '[' || c == '{'

/-- A bracket that closes one of the three kinds. -/
def isClosing (c : Char) : Bool := c == ')' || c == ']' || c == '}'

/-- Characters of three kinds are counted one kind after the other. -/
theorem countP_three {a b d : Char} (hab : a ≠ b) (had : a ≠ d) (hbd : b ≠ d)
    (code : List Char) : code.countP (fun c => c == a || c == b || c == d) =
      code.count a + code.count b + code.count d := by
  induction code with
  | nil => rfl
  | cons c code ih =>
    rw [List.countP_cons, List.count_cons, List.count_cons, List.count_cons, ih]
    by_cases ha : c = a
    · simp [ha, hab, had]
      omega
    · by_cases hb : c = b
      · simp [hb, hab.symm, hbd]
        omega
      · by_cases hd : c = d
        · simp [hd, had.symm, hbd.symm]
          omega
        · simp [ha, hb, hd]

theorem countP_isOpening (code : List Char) :
    code.countP isOpening = code.count '(' + code.count '[' + code.count '{' :=
  countP_three (by decide) (by decide) (by decide) code

theorem countP_isClosing (code : List Char) :
    code.countP isClosing = code.count ')' + code.count ']' + code.count '}' :=
  countP_three (by decide) (by decide) (by decide) code

theorem nesting_eq (depth : Nat) (c : Char) :
    nesting depth c =
      if isOpening c then depth + 1 else if isClosing c then depth - 1 else depth := by
  simp only [nesting, isOpening, isClosing, Bool.or_eq_true, beq_iff_eq, or_assoc]

theorem isClosing_of_isOpening (h : isOpening c = true) : isClosing c = false := by
  simp only [isOpening, Bool.or_eq_true, beq_iff_eq] at h
  rcases h with (rfl | rfl) | rfl
  · rfl
  · rfl
  · rfl

/-- A depth that is never too small for what is closed comes out as the counts say. -/
theorem foldl_nesting_add (depth : Nat) (h : ∀ front, front <+: code →
      front.countP isClosing ≤ depth + front.countP isOpening) :
    code.foldl nesting depth + code.countP isClosing = depth + code.countP isOpening := by
  induction code generalizing depth with
  | nil => rfl
  | cons c code ih =>
    have hcons : ∀ front, front <+: code →
        (c :: front).countP isClosing ≤ depth + (c :: front).countP isOpening :=
      fun front hfront => h _ (List.cons_prefix_cons.mpr ⟨rfl, hfront⟩)
    simp only [List.countP_cons, List.foldl_cons, nesting_eq] at hcons ⊢
    by_cases hopening : isOpening c = true
    · simp only [hopening, isClosing_of_isOpening hopening, if_true, Bool.false_eq_true,
        if_false] at hcons ⊢
      have hrest := ih (depth + 1) fun front hfront => by
        have hcount := hcons front hfront
        omega
      omega
    · by_cases hclosing : isClosing c = true
      · simp only [hopening, hclosing, if_true, if_false, Bool.false_eq_true] at hcons ⊢
        have hfirst := hcons [] List.nil_prefix
        rw [List.countP_nil, List.countP_nil] at hfirst
        have hrest := ih (depth - 1) fun front hfront => by
          have hcount := hcons front hfront
          omega
        omega
      · simp only [hopening, hclosing, if_false, Bool.false_eq_true] at hcons ⊢
        exact ih depth hcons

/-- **Balanced brackets leave no depth.** -/
theorem foldl_nesting_of_balanced (hround : Balanced '(' ')' code) (hsquare : Balanced '[' ']' code)
    (hcurly : Balanced '{' '}' code) : code.foldl nesting 0 = 0 := by
  have hcount : ∀ front, front <+: code →
      front.countP isClosing ≤ 0 + front.countP isOpening := by
    intro front hfront
    have hle := hround.count_le front hfront
    have hle' := hsquare.count_le front hfront
    have hle'' := hcurly.count_le front hfront
    rw [countP_isOpening, countP_isClosing]
    omega
  have hdepth := foldl_nesting_add 0 hcount
  have heq := hround.count_eq
  have heq' := hsquare.count_eq
  have heq'' := hcurly.count_eq
  rw [countP_isOpening, countP_isClosing] at hdepth
  omega

end DocSplice.Brace
