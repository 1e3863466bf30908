import DocSplice.Grammar.Productions
import DocSplice.Proofs.Grammar.Derivation

/-!
# Brackets, colons and indents

The outline of a source finds the end of a header by counting brackets, and takes what comes next for
the first statement of the body.  That this is a statement is a fact about the grammar, which an
automaton over the terminals sees: it counts the brackets that are open and remembers, outside of
them, what the terminal before calls for.

* `Spot.step` is the automaton.  It stops at a bracket that closes none, at a declaration or its
  colon in the wrong place, and at a terminal that is not called for.
* `Spot.run` runs it over the symbols of a rule, where a category is assumed to leave no bracket
  open; `checksOut_eq` bears that assumption out for every rule of the grammar.
* `scan_of_derives`: so the automaton accepts whatever the grammar makes.
-/

namespace DocSplice.Grammar

open Chart (Derives)

/-! ## The automaton -/

/-- What a terminal calls for outside of brackets. -/
inductive Cue where
  /-- Nothing in particular. -/
  | free
  /-- A name, behind the word that starts a declaration. -/
  | name
  /-- A body or an expression, behind a colon. -/
  | body
  /-- Statements, at the start of a block. -/
  | block
  /-- Another statement or an end, behind what ended a statement. -/
  | line
  deriving DecidableEq, Repr

/-- Where a phrase has got to: whether it stands inside brackets, how many brackets it has opened
itself, and what is called for. -/
structure Spot where
  enclosed : Bool
  depth : Nat
  cue : Cue
  deriving DecidableEq, Repr

/-- A terminal that a statement may start with; some others are let in, but none that is a stretch of
a string or that takes no characters. -/
def opensStatement : Terminal → Bool
  | .keyword _ => true
  | .mark sign => sign != .semicolon
  | .name => true
  | .integer => true
  | .float => true
  | .stringStart => true
  | _ => false

/-- Whether a terminal stands between statements and belongs to none. -/
def separates : Terminal → Bool
  | .newline | .indent | .dedent | .endOfText | .mark .semicolon => true
  | _ => false

/-- Whether a terminal starts a declaration. -/
def startsDeclaration (a : Terminal) : Bool := a == .keyword .def_ || a == .keyword .class_

namespace Cue

/-- What a terminal calls for. -/
def after (a : Terminal) : Cue :=
  if startsDeclaration a then .name
  else if a = .mark .colon then .body
  else if a = .indent then .block
  else if separates a then .line
  else .free

/-- Whether a terminal is what is called for. -/
def answers : Cue → Terminal → Bool
  | .free, _ => true
  | .name, a => a == .name
  | .body, a => opensStatement a || a == .newline || a == .indent
  | .block, a => opensStatement a || a == .dedent
  | .line, a => opensStatement a || a == .newline || a == .dedent || a == .endOfText

/-- Every cue. -/
def all : List Cue := [.free, .name, .body, .block, .line]

theorem mem_all (cue : Cue) : cue ∈ all := by cases cue <;> decide

end Cue

/-- Whether a terminal opens a bracket. -/
def opensBracket : Terminal → Bool
  | .mark .leftParen | .mark .leftBracket | .mark .leftBrace => true
  | _ => false

/-- Whether a terminal closes a bracket. -/
def closesBracket : Terminal → Bool
  | .mark .rightParen | .mark .rightBracket | .mark .rightBrace => true
  | _ => false

/-- The number of open brackets after a terminal; a bracket that closes none has no place. -/
def bracketsAfter (depth : Nat) (a : Terminal) : Option Nat :=
  if opensBracket a then some (depth + 1)
  else if closesBracket a then if depth = 0 then none else some (depth - 1)
  else some depth

namespace Spot

/-- Whether some bracket is open. -/
def inside (s : Spot) : Bool := s.enclosed || 0 < s.depth

/-- Whether a terminal may come next: inside brackets nothing is declared and no statement ends, and
outside of them there is no format and what is called for has to come. -/
def admits (s : Spot) (a : Terminal) : Bool :=
  if s.inside then !startsDeclaration a && !separates a else a != .formatText && s.cue.answers a

/-- The spot after a terminal. -/
def step (s : Spot) (a : Terminal) : Option Spot :=
  if s.admits a then
    (bracketsAfter s.depth a).map fun depth =>
      ⟨s.enclosed, depth, if s.enclosed || 0 < depth then .free else .after a⟩
  else none

/-- The spot after some terminals. -/
def scan : Spot → List Terminal → Option Spot
  | s, [] => some s
  | s, a :: word => (s.step a).bind (scan · word)

variable {s s' : Spot} {a : Terminal} {word : List Terminal}

theorem scan_cons (s : Spot) (a : Terminal) (word : List Terminal) :
    s.scan (a :: word) = (s.step a).bind (scan · word) := rfl

theorem scan_append (s : Spot) (u v : List Terminal) :
    s.scan (u ++ v) = (s.scan u).bind (scan · v) := by
  induction u generalizing s with
  | nil => rfl
  | cons a u ih =>
    rw [List.cons_append, scan_cons, scan_cons]
    cases s.step a with
    | none => rfl
    | some next => exact ih next

end Spot

/-! ## Categories -/

/-- The categories that the statements of a text are made of, down to what fills a line. -/
def holdsStatements (x : Category) : Bool :=
  [.file, .statements, .statement, .compound, .conditional, .elifs, .elif, .alternative, .loop,
   .whileLoop, .attempt, .excepts, .except, .exceptGroups, .exceptGroup, .cleanup, .context,
   .function, .class_, .decorated, .decorators, .decorator, .selection, .cases, .caseList, .caseClause, .suite, .block,
   .line, .simples].contains x

/-- What a category calls for: all that statements are made of end a statement, but for what is put
between semicolons. -/
def leaves (x : Category) : Cue := if holdsStatements x && x != .simples then .line else .free

/-- The categories that stand only inside brackets: the parts of a format, and slices, which may end
with a colon. -/
def needsBrackets (x : Category) : Bool :=
  [.formatSpec, .specParts, .specPart, .subscriptList, .subscriptItem].contains x

/-- The categories that do not start like a statement. -/
def startsOtherwise (x : Category) : Bool :=
  [.file, .suite, .cases, .block, .stringParts, .stringPart, .specParts, .specPart].contains x

/-- Whether a category is what is called for. -/
def Cue.answersCategory : Cue → Category → Bool
  | .free, _ => true
  | .name, _ => false
  | .body, x => !startsOtherwise x || x == .suite || x == .cases
  | .block, x => !startsOtherwise x || x == .block
  | .line, x => !startsOtherwise x || x == .file

namespace Spot

/-- Whether a category may come next. -/
def admitsCategory (s : Spot) (x : Category) : Bool :=
  if s.inside then !holdsStatements x else !needsBrackets x && s.cue.answersCategory x

/-- The spot after some symbols, where a category leaves no bracket open and calls for the next
statement if it ended one. -/
def run : Spot → List Sym → Option Spot
  | s, [] => some s
  | s, .terminal a :: rest => (s.step a).bind (run · rest)
  | s, .category x :: rest => if s.admitsCategory x then run { s with cue := leaves x } rest else none

/-- Whether the rules of a category bear out what is assumed of it. -/
def checksOut (x : Category) : Bool :=
  (productions x).all fun rule => [false, true].all fun inside => Cue.all.all fun cue =>
    !admitsCategory ⟨inside, 0, cue⟩ x || run ⟨inside, 0, cue⟩ rule == some ⟨inside, 0, leaves x⟩

/-- **Every category** leaves no bracket open, and ends a statement where it is said to. -/
theorem checksOut_eq (x : Category) : checksOut x = true := by
  cases x <;> decide +kernel

variable {s : Spot} {a : Terminal} {word : List Terminal}

theorem run_rule {x : Category} {rule : List Sym} (hrule : rule ∈ productions x) (inside : Bool)
    (cue : Cue) (h : admitsCategory ⟨inside, 0, cue⟩ x = true) :
    run ⟨inside, 0, cue⟩ rule = some ⟨inside, 0, leaves x⟩ := by
  have hcheck := checksOut_eq x
  simp only [checksOut, List.all_eq_true] at hcheck
  have hspot := hcheck rule hrule inside (by cases inside <;> decide) cue (Cue.mem_all cue)
  rw [h] at hspot
  exact beq_iff_eq.mp hspot

/-! ## Phrases inside phrases -/

/-- A phrase inside another one, and what it has opened on top of that. -/
def within (s : Spot) (inner : Spot) : Spot := ⟨s.enclosed, s.depth + inner.depth, inner.cue⟩

theorem inside_within {inner : Spot} (h : inner.enclosed = s.inside) :
    (s.within inner).inside = inner.inside := by
  rw [inside, inside, h, within, inside, Bool.or_assoc]
  congr 1
  rw [Bool.eq_iff_iff]
  simp only [Bool.or_eq_true, decide_eq_true_eq]
  omega

theorem bracketsAfter_add {depth after : Nat} (outer : Nat)
    (h : bracketsAfter depth a = some after) :
    bracketsAfter (outer + depth) a = some (outer + after) := by
  unfold bracketsAfter at h ⊢
  split at h
  · rename_i hopens
    rw [if_pos hopens, ← Option.some.inj h, Nat.add_assoc]
  · rename_i hopens
    rw [if_neg hopens]
    split at h
    · rename_i hcloses
      rw [if_pos hcloses]
      split at h
      · exact absurd h (by simp)
      · rename_i hdepth
        rw [if_neg (by omega), ← Option.some.inj h, Nat.add_sub_assoc (by omega)]
    · rename_i hcloses
      rw [if_neg hcloses, ← Option.some.inj h]

/-- What a phrase does, it does inside another one. -/
theorem step_within {inner next : Spot} (henclosed : inner.enclosed = s.inside)
    (h : inner.step a = some next) :
    next.enclosed = s.inside ∧ (s.within inner).step a = some (s.within next) := by
  unfold step at h
  split at h
  · rename_i hadmits
    obtain ⟨depth, hdepth, rfl⟩ := Option.map_eq_some_iff.mp h
    have hsame : (s.within inner).admits a = inner.admits a := by
      rw [admits, admits, inside_within henclosed]
      rfl
    refine ⟨henclosed, ?_⟩
    have hin : (s.enclosed || decide (0 < s.depth + depth)) =
        (inner.enclosed || decide (0 < depth)) := by
      rw [henclosed, inside, Bool.or_assoc]
      congr 1
      rw [Bool.eq_iff_iff]
      simp only [Bool.or_eq_true, decide_eq_true_eq]
      omega
    have hbrackets : bracketsAfter (s.within inner).depth a = some (s.depth + depth) :=
      bracketsAfter_add s.depth hdepth
    rw [step, hsame, if_pos hadmits, hbrackets, Option.map_some]
    simp only [within, hin]
  · exact absurd h (by simp)

theorem scan_within : ∀ {word : List Terminal} {inner next : Spot},
    inner.enclosed = s.inside → inner.scan word = some next →
    (s.within inner).scan word = some (s.within next)
  | [], _, _, _, h => congrArg (fun o => o.map s.within) h
  | a :: word, inner, next, henclosed, h => by
    rw [scan_cons] at h ⊢
    obtain ⟨middle, hstep, hrest⟩ := Option.bind_eq_some_iff.mp h
    obtain ⟨hmiddle, hstep'⟩ := step_within henclosed hstep
    rw [hstep', Option.bind_some]
    exact scan_within hmiddle hrest

/-- **The automaton accepts what the grammar makes.**  The induction is on the derivation: a category
is scanned as the phrase that it is, inside what has been opened so far. -/
theorem scan_of_derives {symbols : List Sym} (h : Derives grammar symbols word) :
    ∀ {s s' : Spot}, s.run symbols = some s' → s.scan word = some s' := by
  induction h with
  | nil => exact fun hrun => hrun
  | terminal rest ih =>
    intro s s' hrun
    rw [run] at hrun
    obtain ⟨next, hstep, hnext⟩ := Option.bind_eq_some_iff.mp hrun
    rw [scan_cons, hstep, Option.bind_some]
    exact ih hnext
  | category mem inner rest ihinner ihrest =>
    intro s s' hrun
    rw [run] at hrun
    split at hrun
    · rename_i x _ _ _ _ hadmits
      have hphrase := ihinner (run_rule mem s.inside s.cue (by
        rw [admitsCategory] at hadmits ⊢
        have hin : inside ⟨s.inside, 0, s.cue⟩ = s.inside := by simp [inside]
        rw [hin]
        exact hadmits))
      have hscan := scan_within (s := s) rfl hphrase
      have hhere : s.within ⟨s.inside, 0, s.cue⟩ = s := rfl
      rw [hhere] at hscan
      rw [scan_append, hscan, Option.bind_some]
      exact ihrest hrun
    · exact absurd hrun (by simp)

end Spot

end DocSplice.Grammar
