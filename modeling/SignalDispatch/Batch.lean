import SignalDispatch.Deferred
import SignalDispatch.Payload.Display

/-!
# Batches

Emissions collected up front and fired together, in the order in which they were added.
-/

namespace SignalDispatch

/-- Emissions collected up front. -/
structure Batch where
  entries : List Emission := []
  deriving DecidableEq, Repr, Inhabited

namespace Batch

/-- Add an emission at the end. -/
def add (batch : Batch) (emission : Emission) : Batch :=
  { batch with entries := batch.entries ++ [emission] }

def length (batch : Batch) : Nat :=
  batch.entries.length

def isEmpty (batch : Batch) : Bool :=
  batch.entries.isEmpty

/-- One entry in readable form. -/
def entryText? (emission : Emission) : Option String :=
  emission.payload.display?.map fun payload =>
    "(InlineString \x7b inner: " ++ Quoted.quote emission.name ++ " \x7d, " ++ payload ++ ")"

/-- A batch in readable form; none if a payload has no readable form. -/
def display? (batch : Batch) : Option String :=
  (batch.entries.mapM entryText?).map fun entries =>
    "Batch \x7b entries: [" ++ ", ".intercalate entries ++ "] \x7d"

end Batch

end SignalDispatch
