import DocSplice.Text.Basic

/-!
# Levels of detail

How much documentation is asked for.  The level changes what the generator is told and nothing else:
every level has the same sections.
-/

namespace DocSplice

/-- How much documentation is asked for. -/
inductive Detail where
  /-- The essentials only. -/
  | minimal
  /-- Every section, briefly. -/
  | concise
  /-- Long explanations and several examples. -/
  | verbose
  deriving DecidableEq, Repr

namespace Detail

/-- Every level. -/
def all : List Detail := [.minimal, .concise, .verbose]

theorem mem_all (d : Detail) : d ∈ all := by cases d <;> simp [all]

/-- The word for a level. -/
def word : Detail → String
  | .minimal => "minimal"
  | .concise => "concise"
  | .verbose => "verbose"

/-- The level that a word stands for. -/
def ofWord? (word : Text) : Option Detail := all.find? fun d => d.word.toList = word

@[simp] theorem ofWord?_word (d : Detail) : ofWord? d.word.toList = some d := by
  cases d <;> decide

end Detail

end DocSplice
