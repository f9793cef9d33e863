import SignalDispatch.Arena
import SignalDispatch.Context
import SignalDispatch.Fault
import SignalDispatch.Handle
import SignalDispatch.Priority
import SignalDispatch.Timing

/-!
# The registry

Signals and slots of one bus, each kind in its own arena.  The slots of a signal form a chain: the
signal knows the index of its first slot and every slot the index of the next.  A chain runs from
the highest priority to the lowest, equal priorities in the order of connection.

While a signal is being emitted its removed slots stay in the chain as tombstones; they leave it
once no emission of the signal is in progress.  `Registry.chain` is the chain as a list of
indices, and `Registry.relink` writes the links of a list of indices; every change of a chain is a
change of that list.
-/

namespace SignalDispatch

/-- One connection. -/
structure Slot where
  handle : Handle
  /-- The callback; the same number means the same callback. -/
  callback : RoutineId
  context : Option Context
  priority : Priority
  /-- Whether the slot is a tombstone. -/
  removed : Bool := false
  /-- The index of the slot after this one. -/
  next : Option Nat := none
  deriving DecidableEq, Repr, Inhabited

/-- One registered signal. -/
structure Signal where
  name : String
  description : Option String
  priority : Priority
  /-- The index of the first slot. -/
  head : Option Nat := none
  /-- The number of slots that are not tombstones. -/
  live : Nat := 0
  tombstones : Nat := 0
  /-- The number of emissions in progress. -/
  emitting : Nat := 0
  /-- The number of this registration; indices are reused, serials are not. -/
  serial : Nat
  timing : Timing := {}
  deriving DecidableEq, Repr, Inhabited

/-- Signals and slots of one bus. -/
structure Registry where
  signals : Arena Signal
  slots : Arena Slot
  /-- The most slots linked at once since the last reset. -/
  peakSlots : Nat := 0
  deriving DecidableEq, Repr, Inhabited

namespace Registry

/-- A registry without signals. -/
def empty (signalPolicy slotPolicy : StoragePolicy) : Registry where
  signals := Arena.empty signalPolicy
  slots := Arena.empty slotPolicy

/-! ## Chains -/

/-- The indices met by following links from a start, at most `limit` of them. -/
def follow (slots : Arena Slot) : Nat → Option Nat → List Nat
  | 0, _ => []
  | _ + 1, none => []
  | limit + 1, some index =>
      match slots.get? index with
      | none => []
      | some slot => index :: follow slots limit slot.next

/-- The chain that starts at `head`; it is no longer than the storage. -/
def chainFrom (slots : Arena Slot) (head : Option Nat) : List Nat :=
  follow slots slots.reserved head

/-- The chain of the signal at an index. -/
def chain (registry : Registry) (index : Nat) : List Nat :=
  match registry.signals.get? index with
  | none => []
  | some signal => chainFrom registry.slots signal.head

/-- The slots of the signal at an index, tombstones included. -/
def slotsOf (registry : Registry) (index : Nat) : List Slot :=
  (registry.chain index).filterMap registry.slots.get?

/-- Write the links of a list of slots: each leads to the one after it, the last to none. -/
def thread (slots : Arena Slot) : List Nat → Arena Slot
  | [] => slots
  | index :: rest =>
      thread (slots.modify index fun slot => { slot with next := rest.head? }) rest

/-- Make a list of slots the chain of a signal. -/
def relink (registry : Registry) (index : Nat) (order : List Nat) : Registry :=
  { registry with
    signals := registry.signals.modify index fun signal => { signal with head := order.head? }
    slots := thread registry.slots order }

/-! ## Looking up -/

/-- The index of the signal of a name. -/
def find? (registry : Registry) (name : String) : Option Nat :=
  (registry.signals.toList.find? fun entry => entry.2.name = name).map Prod.fst

/-- The index of the signal of a name, or the fault that there is none. -/
def lookup (registry : Registry) (name : String) : Except Fault Nat :=
  match registry.find? name with
  | some index => .ok index
  | none => .error (.notFound name)

/-- The number of signals. -/
def count (registry : Registry) : Nat :=
  registry.signals.size

/-- The live slot of a chain, if any, that a test accepts first. -/
def firstLive? (registry : Registry) (index : Nat) (accepts : Slot → Bool) : Option Nat :=
  (registry.chain index).find? fun position =>
    match registry.slots.get? position with
    | none => false
    | some slot => !slot.removed && accepts slot

/-- The signal whose chain holds the live slot of a handle. -/
def owner? (registry : Registry) (handle : Handle) : Option Nat :=
  (registry.signals.toList.find? fun entry =>
    (registry.firstLive? entry.1 fun slot => slot.handle == handle).isSome).map Prod.fst

end Registry

end SignalDispatch
