import SignalDispatch.Limits

/-!
# Bus configuration

The settings a bus starts from, with the presets for small single-threaded targets and for hosts
with several threads.
-/

namespace SignalDispatch

/-- The settings a bus starts from. -/
structure Config where
  /-- Most live slots one signal may have. -/
  maxSlots : Nat := Limits.slotsPerSignal
  /-- Whether the concurrency guard is on from the start. -/
  threadSafe : Bool := false
  /-- Whether emissions are timed. -/
  profiling : Bool := false
  /-- Capacity of the deferred queue; zero counts as one. -/
  deferredCapacity : Nat := Limits.deferredCapacity
  deriving DecidableEq, Repr, Inhabited

namespace Config

/-- The settings of a bus that asks for nothing in particular. -/
def standard : Config := {}

/-- Settings for small single-threaded targets. -/
def embedded : Config where
  maxSlots := 10
  deferredCapacity := 8

/-- Settings for hosts with several threads: the guard is on from the start. -/
def threaded : Config where
  threadSafe := true

end Config

end SignalDispatch
