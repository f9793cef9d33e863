import SignalDispatch.Registry.Basic

/-!
# Registering signals and connecting slots

What enters a registry.  A connection is made in two moves, because the handle is drawn between
them: `grant` checks the cap of the signal and the room in slot storage, `attach` stores the slot
and puts it behind every slot of the chain whose priority is at least its own.
-/

namespace SignalDispatch.Registry

/-- The fault of signal storage that took no further signal. -/
def signalStorageFault : StorageFault → Fault
  | .full capacity => .resourceExhausted (.signalPool capacity)
  | .outOfMemory => Fault.signalMemory

/-- The fault of slot storage that took no further slot. -/
def slotStorageFault : StorageFault → Fault
  | .full capacity => .resourceExhausted (.slotPool capacity)
  | .outOfMemory => Fault.slotMemory

/-- Add a signal under a name that is already known to be admissible. -/
def register
    (registry : Registry)
    (name : String)
    (description : Option String)
    (priority : Priority)
    (serial : Nat) :
    Except Fault Registry :=
  if (registry.find? name).isSome then .error (.alreadyExists name)
  else
    let signal : Signal :=
      { name := name, description := description, priority := priority, serial := serial }
    match registry.signals.insert signal with
    | .error fault => .error (signalStorageFault fault)
    | .ok (_, signals) => .ok { registry with signals := signals }

/-- Whether the signal at an index may take one more slot; its declared priority if so. -/
def grant (registry : Registry) (index limit : Nat) : Except Fault Priority :=
  match registry.signals.get? index with
  | none => .error (.notFound "signal")
  | some signal =>
      if limit ≤ signal.live then .error (.resourceExhausted (.slotsPerSignal limit))
      else
        match registry.slots.reserve with
        | .error fault => .error (slotStorageFault fault)
        | .ok () => .ok signal.priority

/-- Whether the slot at a position goes before a slot of the given priority. -/
def precedes (slots : Arena Slot) (priority : Priority) (position : Nat) : Bool :=
  match slots.get? position with
  | none => false
  | some slot => priority.rank ≤ slot.priority.rank

/-- Put a position behind the last slot of a chain whose priority is at least its own. -/
def ordered
    (slots : Arena Slot)
    (priority : Priority)
    (position : Nat)
    (order : List Nat) :
    List Nat :=
  order.takeWhile (precedes slots priority) ++
    position :: order.dropWhile (precedes slots priority)

/-- Store a slot and link it into the chain of a signal. -/
def attach (registry : Registry) (index : Nat) (slot : Slot) : Except Fault Registry :=
  match registry.slots.insert slot with
  | .error fault => .error (slotStorageFault fault)
  | .ok (position, slots) =>
      let order := ordered registry.slots slot.priority position (registry.chain index)
      let linked := { registry with slots := slots }.relink index order
      .ok
        { linked with
          signals :=
            linked.signals.modify index fun signal => { signal with live := signal.live + 1 }
          peakSlots := max registry.peakSlots slots.size }

end SignalDispatch.Registry
