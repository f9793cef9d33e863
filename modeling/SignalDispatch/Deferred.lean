import SignalDispatch.Payload.Basic

/-!
# The deferred queue

Emissions waiting to be replayed, first in, first out, and never more than the capacity.
-/

namespace SignalDispatch

/-- An emission that has not happened yet. -/
structure Emission where
  name : String
  payload : Payload
  deriving DecidableEq, Repr, Inhabited

/-- Emissions waiting to be replayed, the oldest in front. -/
structure DeferredQueue where
  capacity : Nat
  waiting : List Emission := []
  deriving DecidableEq, Repr, Inhabited

namespace DeferredQueue

/-- An empty queue; a capacity of zero counts as one. -/
def ofCapacity (capacity : Nat) : DeferredQueue where
  capacity := max 1 capacity

/-- The number of waiting emissions. -/
def length (queue : DeferredQueue) : Nat :=
  queue.waiting.length

/-- Add an emission at the end, if there is room. -/
def push (queue : DeferredQueue) (emission : Emission) : Except Fault DeferredQueue :=
  if queue.length < queue.capacity then
    .ok { queue with waiting := queue.waiting ++ [emission] }
  else .error (.resourceExhausted (.deferredQueue queue.capacity))

/-- Take the oldest emission. -/
def pop? (queue : DeferredQueue) : Option (Emission × DeferredQueue) :=
  match queue.waiting with
  | [] => none
  | emission :: rest => some (emission, { queue with waiting := rest })

/-- Forget every waiting emission. -/
def clear (queue : DeferredQueue) : DeferredQueue :=
  { queue with waiting := [] }

theorem waiting_of_push
    {queue pushed : DeferredQueue}
    {emission : Emission}
    (accepted : queue.push emission = .ok pushed) :
    pushed.waiting = queue.waiting ++ [emission] := by
  unfold push at accepted
  split at accepted
  · cases accepted
    rfl
  · cases accepted

end DeferredQueue

end SignalDispatch
