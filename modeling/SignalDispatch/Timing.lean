import SignalDispatch.Limits

/-!
# Emission timing

How long the emissions of one signal took: their number, and the total, mean, least and greatest
elapsed time in nanoseconds.  The total stops at the largest 64-bit count instead of passing it,
and the mean is the whole quotient of the total by the number.
-/

namespace SignalDispatch

/-- The times of the emissions recorded so far; all zero when there is none. -/
structure Timing where
  emissions : Nat := 0
  total : Nat := 0
  mean : Nat := 0
  least : Nat := 0
  greatest : Nat := 0
  deriving DecidableEq, Repr, Inhabited

namespace Timing

/-- No emission recorded. -/
def zero : Timing := {}

/-- Add one emission that took `elapsed` nanoseconds. -/
def record (timing : Timing) (elapsed : Nat) : Timing :=
  let emissions := timing.emissions + 1
  let total := min (timing.total + elapsed) Limits.maxCounter
  { emissions := emissions
    total := total
    mean := total / emissions
    least :=
      if emissions = 1 ∨ elapsed < timing.least then elapsed else timing.least
    greatest := max timing.greatest elapsed }

/-- Whether the figures can belong together: all zero without emissions, else the mean is the
quotient and lies between the least and the greatest. -/
def consistent (timing : Timing) : Bool :=
  if timing.emissions = 0 then timing = zero
  else
    timing.least ≤ timing.mean && timing.mean ≤ timing.greatest &&
      timing.mean == timing.total / timing.emissions

@[simp]
theorem emissions_record (timing : Timing) (elapsed : Nat) :
    (timing.record elapsed).emissions = timing.emissions + 1 :=
  rfl

end Timing

end SignalDispatch
