import DocSplice.Grammar.Chart
import Mathlib.Data.List.Basic

/-!
# What a chart has read

A chart is a book-keeping of rules under way.  `Derives` says what the rules mean, and this file
proves that the book-keeping is true to it: a rule that is under way at some position has made all
of its symbols but the ones that it still needs out of the terminals since it began
(`Progress.Sound`).

* `close_sound`: closing a column adds only rules of that sort.  The induction is on the fuel; what
  is on the agenda is sound, and so is what the column holds.
* `Chart.Reads`: a chart whose columns are sound for the terminals that were read.  The first chart
  has read nothing (`reads_initial`), and reading a terminal adds it (`Reads.read`).
* `Reads.exists_of_read`: a terminal that is read is needed by a rule under way.
-/

namespace DocSplice.Chart

variable {T N : Type}

/-- The symbols make the terminals: each of them stands for itself, and a category for what some
rule for it makes. -/
inductive Derives (g : Grammar T N) : List (Symbol T N) → List T → Prop
  | nil : Derives g [] []
  | terminal {a : T} {symbols : List (Symbol T N)} {word : List T} (rest : Derives g symbols word) :
    Derives g (.terminal a :: symbols) (a :: word)
  | category {x : N} {rule symbols : List (Symbol T N)} {made word : List T}
    (mem : rule ∈ g.productions x) (inner : Derives g rule made) (rest : Derives g symbols word) :
    Derives g (.category x :: symbols) (made ++ word)

variable {g : Grammar T N}

/-- One phrase after the other. -/
theorem Derives.append {a b : List (Symbol T N)} {u v : List T} (ha : Derives g a u)
    (hb : Derives g b v) : Derives g (a ++ b) (u ++ v) := by
  induction ha with
  | nil => exact hb
  | terminal _ ih => exact .terminal ih
  | category mem inner _ _ ih =>
    rw [List.append_assoc]
    exact .category mem inner ih

theorem Derives.singleton_terminal (a : T) : Derives g [.terminal a] [a] := .terminal .nil

theorem Derives.singleton_category {x : N} {rule : List (Symbol T N)} {made : List T}
    (mem : rule ∈ g.productions x) (h : Derives g rule made) : Derives g [.category x] made := by
  rw [← List.append_nil made]
  exact .category mem h .nil

/-! ## Rules under way -/

/-- The rule under way at a position has made, out of the terminals since it began, all of its
symbols but the ones that it still needs.  A rule for a complete text began at the start. -/
structure Progress.Sound (g : Grammar T N) (word : List T) (position : Nat) (p : Progress T N) :
    Prop where
  origin_le : p.origin ≤ position
  origin_eq : p.made = g.start → p.origin = 0
  made : ∃ done, done ++ p.rest ∈ g.productions p.made ∧
    Derives g done ((word.take position).drop p.origin)

/-- The rules of the column are sound, with the symbol that each of them needs next. -/
structure Column.Sound (g : Grammar T N) (word : List T) (position : Nat) (column : Column T N) :
    Prop where
  waiting : ∀ w ∈ column.waiting,
    Progress.Sound g word position { w.2 with rest := .category w.1 :: w.2.rest }
  ready : ∀ r ∈ column.ready,
    Progress.Sound g word position { r.2 with rest := .terminal r.1 :: r.2.rest }

/-- No rule makes a complete text as a part of something. -/
def Grammar.StartsAlone (g : Grammar T N) : Prop :=
  ∀ x, ∀ rule ∈ g.productions x, .category g.start ∉ rule

variable {word : List T} {position : Nat} {p q : Progress T N} {column : Column T N}

theorem Column.sound_empty : Column.Sound g word position .empty :=
  ⟨fun _ h => absurd h List.not_mem_nil, fun _ h => absurd h List.not_mem_nil⟩

/-- Only the terminals before the position count. -/
theorem Progress.Sound.congr {other : List T} (h : Progress.Sound g word position p)
    (htake : other.take position = word.take position) : Progress.Sound g other position p := by
  obtain ⟨hle, hstart, hmade⟩ := h
  exact ⟨hle, hstart, htake ▸ hmade⟩

theorem Column.Sound.congr {other : List T} (h : Column.Sound g word position column)
    (htake : other.take position = word.take position) : Column.Sound g other position column :=
  ⟨fun w hw => (h.waiting w hw).congr htake, fun r hr => (h.ready r hr).congr htake⟩

/-- The category that a rule needs next is not that of a complete text. -/
theorem Progress.Sound.ne_start {x : N} {rest : List (Symbol T N)} (hstart : g.StartsAlone)
    (h : Progress.Sound g word position p) (hrest : p.rest = .category x :: rest) : x ≠ g.start := by
  rintro rfl
  obtain ⟨done, hmem, -⟩ := h.made
  refine hstart p.made _ hmem (List.mem_append_right done ?_)
  rw [hrest]
  exact List.mem_cons_self

/-- A rule that is started has made nothing. -/
theorem Progress.sound_start {x : N} {rule : List (Symbol T N)} (hx : x = g.start → position = 0)
    (hmem : rule ∈ g.productions x) : Progress.Sound g word position ⟨position, x, rule⟩ where
  origin_le := Nat.le_refl _
  origin_eq := hx
  made := by
    refine ⟨[], hmem, ?_⟩
    rw [List.drop_eq_nil_of_le (List.length_take_le _ _)]
    exact .nil

/-- A rule that needs nothing more moves on a rule that waited for its category. -/
theorem Progress.Sound.complete (hp : Progress.Sound g word position p) (hrest : p.rest = [])
    (hq : Progress.Sound g word p.origin { q with rest := .category p.made :: q.rest }) :
    Progress.Sound g word position q where
  origin_le := Nat.le_trans hq.origin_le hp.origin_le
  origin_eq := hq.origin_eq
  made := by
    obtain ⟨done, hmem, hdone⟩ := hq.made
    obtain ⟨rule, hrule, hmade⟩ := hp.made
    rw [hrest, List.append_nil] at hrule
    have hle : q.origin ≤ p.origin := hq.origin_le
    have hcut : (word.take position).drop q.origin =
        (word.take p.origin).drop q.origin ++ (word.take position).drop p.origin := by
      have htake : word.take p.origin = (word.take position).take p.origin := by
        rw [List.take_take, Nat.min_eq_left hp.origin_le]
      have hdrop : (word.take position).drop p.origin =
          ((word.take position).drop q.origin).drop (p.origin - q.origin) := by
        rw [List.drop_drop, Nat.add_sub_cancel' hle]
      have hkept : ((word.take position).take p.origin).drop q.origin =
          ((word.take position).drop q.origin).take (p.origin - q.origin) := List.drop_take
      rw [htake, hdrop, hkept, List.take_append_drop]
    refine ⟨done ++ [.category p.made], ?_, ?_⟩
    · rw [List.append_assoc]
      exact hmem
    · rw [hcut]
      exact hdone.append (.singleton_category hrule hmade)

/-- Reading the terminal that a rule needs next moves the rule on. -/
theorem Progress.Sound.read {a : T}
    (h : Progress.Sound g word word.length { p with rest := .terminal a :: p.rest }) :
    Progress.Sound g (word ++ [a]) (word.length + 1) p where
  origin_le := Nat.le_succ_of_le h.origin_le
  origin_eq := h.origin_eq
  made := by
    obtain ⟨done, hmem, hdone⟩ := h.made
    have hle : p.origin ≤ word.length := h.origin_le
    refine ⟨done ++ [.terminal a], ?_, ?_⟩
    · rw [List.append_assoc]
      exact hmem
    · rw [List.take_length] at hdone
      rw [List.take_of_length_le (by simp), List.drop_append_of_le_length hle]
      exact hdone.append (.singleton_terminal a)

/-! ## Closing a column -/

theorem Column.mem_accepting [DecidableEq T] {a : T} : q ∈ column.accepting a ↔ (a, q) ∈ column.ready := by
  rw [Column.accepting, List.mem_filterMap]
  constructor
  · rintro ⟨⟨b, r⟩, hmem, hb⟩
    obtain ⟨hab, hr⟩ : b = a ∧ r = q := by simpa using hb
    exact hab ▸ hr ▸ hmem
  · exact fun h => ⟨(a, q), h, if_pos rfl⟩

variable [DecidableEq N]

theorem Column.mem_after {x : N} : q ∈ column.after x ↔ (x, q) ∈ column.waiting := by
  rw [Column.after, List.mem_filterMap]
  constructor
  · rintro ⟨⟨y, r⟩, hmem, hy⟩
    obtain ⟨hxy, hr⟩ : y = x ∧ r = q := by simpa using hy
    exact hxy ▸ hr ▸ hmem
  · exact fun h => ⟨(x, q), h, if_pos rfl⟩

variable [DecidableEq T]

/-- **Closing a column** adds only rules that are sound. -/
theorem close_sound (hstart : g.StartsAlone) {earlier : Array (Column T N)}
    (hearlier : ∀ i c, earlier[i]? = some c → Column.Sound g word i c) :
    ∀ {fuel : Nat} {agenda : List (Progress T N)} {c : Closing T N},
      (∀ p ∈ agenda, Progress.Sound g word position p) → Column.Sound g word position c.column →
      Column.Sound g word position (close g earlier position fuel agenda c)
  | 0, _, _, _, hcolumn => hcolumn
  | _ + 1, [], _, _, hcolumn => hcolumn
  | fuel + 1, p :: agenda, c, hagenda, hcolumn => by
    have hp : Progress.Sound g word position p := hagenda p List.mem_cons_self
    have hrest : ∀ q ∈ agenda, Progress.Sound g word position q :=
      fun q hq => hagenda q (List.mem_cons_of_mem p hq)
    unfold close
    split
    · rename_i a rest hneeds
      refine close_sound hstart hearlier hrest ⟨hcolumn.waiting, fun r hr => ?_⟩
      rcases List.mem_cons.mp hr with rfl | hr
      · exact hneeds ▸ hp
      · exact hcolumn.ready r hr
    · rename_i x rest hneeds
      have hwaits : Column.Sound g word position
          { c.column with waiting := (x, { p with rest := rest }) :: c.column.waiting } := by
        refine ⟨fun w hw => ?_, hcolumn.ready⟩
        rcases List.mem_cons.mp hw with rfl | hw
        · exact hneeds ▸ hp
        · exact hcolumn.waiting w hw
      split
      · exact close_sound hstart hearlier hrest hwaits
      · refine close_sound hstart hearlier (fun q hq => ?_) hwaits
        rcases List.mem_append.mp hq with hq | hq
        · obtain ⟨rule, hrule, rfl⟩ := List.mem_map.mp hq
          exact Progress.sound_start (fun hx => absurd hx (hp.ne_start hstart hneeds)) hrule
        · exact hrest q hq
    · rename_i hneeds
      split
      · exact close_sound hstart hearlier hrest hcolumn
      · rename_i column hlook
        refine close_sound hstart hearlier (fun q hq => ?_) hcolumn
        rcases List.mem_append.mp hq with hq | hq
        · have hwaited : (p.made, q) ∈ column.waiting :=
            Column.mem_after.mp (List.mem_filter.mp hq).1
          exact hp.complete hneeds ((hearlier p.origin column hlook).waiting _ hwaited)
        · exact hrest q hq

/-! ## Charts -/

/-- The columns of the chart are sound for the terminals that were read, one for each position. -/
structure Reads (g : Grammar T N) (word : List T) (chart : Chart T N) : Prop where
  size_eq : chart.earlier.size = word.length
  earlier : ∀ i c, chart.earlier[i]? = some c → Column.Sound g word i c
  last : Column.Sound g word word.length chart.last

/-- At first nothing was read. -/
theorem reads_initial (hstart : g.StartsAlone) : Reads g [] (initial g) where
  size_eq := rfl
  earlier i c h := by simp [initial] at h
  last := by
    refine close_sound hstart (fun i c h => by simp at h) (fun p hp => ?_) Column.sound_empty
    obtain ⟨rule, hrule, rfl⟩ := List.mem_map.mp hp
    exact Progress.sound_start (fun _ => rfl) hrule

variable {chart next : Chart T N} {a : T}

/-- **Reading a terminal.** -/
theorem Reads.read (hstart : g.StartsAlone) (h : Reads g word chart)
    (hread : chart.read? g a = some next) : Reads g (word ++ [a]) next := by
  have hearlier : ∀ i c, (chart.earlier.push chart.last)[i]? = some c →
      Column.Sound g (word ++ [a]) i c := by
    intro i c hlook
    rw [Array.getElem?_push, h.size_eq] at hlook
    split at hlook
    · rename_i heq
      rw [← Option.some.inj hlook, heq]
      exact h.last.congr (by rw [List.take_left, List.take_length])
    · have hlt : i < word.length := by
        have := (Array.getElem?_eq_some_iff.mp hlook).1
        rwa [h.size_eq] at this
      exact (h.earlier i c hlook).congr (List.take_append_of_le_length (Nat.le_of_lt hlt))
  have hsize : (chart.earlier.push chart.last).size = word.length + 1 := by
    rw [Array.size_push, h.size_eq]
  unfold read? at hread
  split at hread
  · exact absurd hread (by simp)
  · rw [← Option.some.inj hread]
    refine ⟨by rw [hsize, List.length_append, List.length_singleton], hearlier, ?_⟩
    rw [List.length_append, List.length_singleton]
    dsimp only
    rw [columnOf, hsize]
    refine close_sound hstart hearlier (fun p hp => ?_) Column.sound_empty
    have hready : (a, p) ∈ chart.last.ready :=
      Column.mem_accepting.mp (List.mem_eraseDups.mp hp)
    exact (h.last.ready _ hready).read

/-- A terminal is read because a rule under way needs it. -/
theorem Reads.exists_of_read (h : Reads g word chart) (hread : chart.read? g a = some next) :
    ∃ p : Progress T N,
      Progress.Sound g word word.length { p with rest := .terminal a :: p.rest } := by
  unfold read? at hread
  split at hread
  · exact absurd hread (by simp)
  · rename_i hne
    obtain ⟨p, hp⟩ := List.exists_mem_of_ne_nil _ hne
    exact ⟨p, h.last.ready _ (Column.mem_accepting.mp hp)⟩

end DocSplice.Chart
