/-!
# Charts

A chart tells, for a context-free grammar and the terminals read so far, which terminals may come
next.  It has one column for every position between terminals.  A column holds the rules that are
under way there: each is a `Progress`, the category that the rule makes, the symbols that it still
needs, and the position where it began.

Reading a terminal makes a new column from the rules that were ready for it.  The column is then
closed under two steps: a rule that needs a category starts the rules that make this category, and a
rule that needs nothing more moves on all the rules that waited for its category where it began.
No rule of the grammar makes a category out of nothing, so the columns looked up by the second step
are finished.

The grammar is a value, so the whole of it can be read in one place and the chart knows nothing
about any language.
-/

namespace DocSplice

namespace Chart

/-- A symbol of a grammar: a terminal, or a category that rules make. -/
inductive Symbol (T N : Type) where
  | terminal (a : T)
  | category (x : N)
  deriving DecidableEq, Repr

/-- A grammar. -/
structure Grammar (T N : Type) where
  /-- The category of a complete text. -/
  start : N
  /-- The ways to make a category; none of them is empty. -/
  productions : N → List (List (Symbol T N))
  /-- A number for every category, different from those of all others. -/
  index : N → Nat
  /-- At least the number of suffixes of productions. -/
  size : Nat

/-- A rule under way. -/
structure Progress (T N : Type) where
  /-- The position where the rule began. -/
  origin : Nat
  /-- The category that the rule makes. -/
  made : N
  /-- The symbols that the rule still needs. -/
  rest : List (Symbol T N)
  deriving DecidableEq, Repr

/-- The rules under way at one position, by the symbol that each needs next; the symbol itself is
removed from what is needed. -/
structure Column (T N : Type) where
  waiting : List (N × Progress T N)
  ready : List (T × Progress T N)
  deriving Repr

/-- The empty column. -/
def Column.empty {T N : Type} : Column T N := ⟨[], []⟩

/-- A column that is being closed. -/
structure Closing (T N : Type) where
  /-- The categories whose rules were started here, as a set of bits. -/
  started : Nat
  /-- The rules that were moved on to here. -/
  moved : List (Progress T N)
  column : Column T N

variable {T N : Type} [DecidableEq T] [DecidableEq N]

/-- The rules of a column that waited for a category, moved on. -/
def Column.after (column : Column T N) (x : N) : List (Progress T N) :=
  column.waiting.filterMap fun w => if w.1 = x then some w.2 else none

/-- The rules of a column that were ready for a terminal, moved on. -/
def Column.accepting (column : Column T N) (a : T) : List (Progress T N) :=
  column.ready.filterMap fun r => if r.1 = a then some r.2 else none

/-- Whether some rule of the column is ready for a terminal. -/
def Column.expects (column : Column T N) (a : T) : Bool := column.ready.any fun r => r.1 = a

/-- Close a column at `position` under starting and completing rules; `agenda` holds the rules that
were not looked at yet. -/
def close (g : Grammar T N) (earlier : Array (Column T N)) (position : Nat) :
    Nat → List (Progress T N) → Closing T N → Column T N
  | 0, _, c => c.column
  | _ + 1, [], c => c.column
  | fuel + 1, p :: agenda, c =>
    match p.rest with
    | .terminal a :: rest =>
      let column := { c.column with ready := (a, { p with rest := rest }) :: c.column.ready }
      close g earlier position fuel agenda { c with column := column }
    | .category x :: rest =>
      let column :=
        { c.column with waiting := (x, { p with rest := rest }) :: c.column.waiting }
      if c.started.testBit (g.index x) then
        close g earlier position fuel agenda { c with column := column }
      else
        close g earlier position fuel ((g.productions x).map (⟨position, x, ·⟩) ++ agenda)
          { c with started := c.started ||| 1 <<< g.index x, column := column }
    | [] =>
      match earlier[p.origin]? with
      | none => close g earlier position fuel agenda c
      | some column =>
        let fresh := (column.after p.made).filter fun q => !c.moved.elem q
        close g earlier position fuel (fresh ++ agenda) { c with moved := fresh ++ c.moved }

/-- The column at `position` that grows out of the given rules. -/
def columnOf (g : Grammar T N) (earlier : Array (Column T N)) (position : Nat)
    (seeds : List (Progress T N)) : Column T N :=
  close g earlier position ((position + 1) * g.size) seeds ⟨0, seeds, .empty⟩

end Chart

/-- The columns of all positions up to now. -/
structure Chart (T N : Type) where
  earlier : Array (Chart.Column T N)
  last : Chart.Column T N

namespace Chart

variable {T N : Type} [DecidableEq T] [DecidableEq N]

/-- The chart before anything was read. -/
def initial (g : Grammar T N) : Chart T N :=
  ⟨#[], columnOf g #[] 0 ((g.productions g.start).map (⟨0, g.start, ·⟩))⟩

/-- Whether the terminal may come next. -/
def expects (chart : Chart T N) (a : T) : Bool := chart.last.expects a

/-- The chart after reading a terminal, which has to be one that may come next. -/
def read? (g : Grammar T N) (chart : Chart T N) (a : T) : Option (Chart T N) :=
  match chart.last.accepting a with
  | [] => none
  | seeds =>
    let earlier := chart.earlier.push chart.last
    some ⟨earlier, columnOf g earlier earlier.size seeds.eraseDups⟩

end Chart

end DocSplice
