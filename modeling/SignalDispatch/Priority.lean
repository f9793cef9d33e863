/-!
# Priorities

A priority is a signed 32-bit level; slots of a signal run from the highest level to the lowest.
Levels are compared through `rank`, the integer they stand for.
-/

namespace SignalDispatch

/-- How early a slot runs: higher levels first. -/
structure Priority where
  level : Int32
  deriving DecidableEq, Repr, Inhabited

namespace Priority

def low : Priority := ⟨0⟩
def normal : Priority := ⟨5⟩
def high : Priority := ⟨10⟩
def critical : Priority := ⟨15⟩

/-- The integer a priority stands for. -/
def rank (priority : Priority) : Int :=
  priority.level.toInt

/-- The decimal text of a priority. -/
def text (priority : Priority) : String :=
  toString priority.rank

/-- Ascending order of a list of priorities; equal ones keep their places. -/
def sorted (priorities : List Priority) : List Priority :=
  priorities.mergeSort fun left right => left.rank ≤ right.rank

/-- The highest of a list of priorities. -/
def highest? (priorities : List Priority) : Option Priority :=
  (sorted priorities).getLast?

theorem rank_injective {left right : Priority}
    (equal : left.rank = right.rank) : left = right := by
  cases left
  cases right
  simpa [rank] using Int32.toInt.inj equal

/-- The named levels ascend. -/
theorem named_levels_ascend :
    low.rank < normal.rank ∧ normal.rank < high.rank ∧ high.rank < critical.rank := by
  decide

end Priority

end SignalDispatch
