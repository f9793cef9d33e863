import SignalDispatch.Registry.Basic

/-!
# Removing signals and slots

What leaves a registry.  A slot of an idle signal is taken out of the chain and out of storage at
once; a slot of a signal that is being emitted becomes a tombstone, and `sweep` takes all
tombstones out when the signal is idle again.  Every operation returns the slots that left
storage, in the order in which they left, so that their contexts can be let go of afterwards.
-/

namespace SignalDispatch.Registry

/-- Take the whole chain of a signal out of storage, tombstones included. -/
def freeChain (registry : Registry) (index : Nat) : Registry × List Slot :=
  let (released, slots) := registry.slots.removeAll (registry.chain index)
  ({ registry with
      signals := registry.signals.modify index fun signal =>
        { signal with head := none, live := 0, tombstones := 0 }
      slots := slots },
    released)

/-- Take a signal and every slot of it out of storage. -/
def unregister (registry : Registry) (name : String) : Except Fault (Registry × List Slot) :=
  match registry.lookup name with
  | .error fault => .error fault
  | .ok index =>
      let (freed, released) := registry.freeChain index
      .ok ({ freed with signals := freed.signals.vacate index }, released)

/-- Turn the slot at a position into a tombstone. -/
def bury (registry : Registry) (position : Nat) : Registry :=
  { registry with
    slots := registry.slots.modify position fun slot => { slot with removed := true } }

/-- Take one slot out of the chain of a signal and out of storage. -/
def unlink (registry : Registry) (index position : Nat) : Registry × List Slot :=
  let relinked := registry.relink index ((registry.chain index).erase position)
  let (released, slots) := relinked.slots.removeAll [position]
  ({ relinked with slots := slots }, released)

/-- Remove one live slot: at once from an idle signal, as a tombstone from one being emitted. -/
def retire (registry : Registry) (index position : Nat) : Registry × List Slot :=
  match registry.signals.get? index with
  | none => (registry, [])
  | some signal =>
      if signal.emitting = 0 then
        let counted :=
          { registry with
            signals := registry.signals.modify index fun signal =>
              { signal with live := signal.live - 1 } }
        counted.unlink index position
      else
        let counted :=
          { registry with
            signals := registry.signals.modify index fun signal =>
              { signal with live := signal.live - 1, tombstones := signal.tombstones + 1 } }
        (counted.bury position, [])

/-- Remove the first live slot of a signal that a test accepts. -/
def removeFirst
    (registry : Registry)
    (index : Nat)
    (accepts : Slot → Bool) :
    Option (Registry × List Slot) :=
  (registry.firstLive? index accepts).map (registry.retire index)

/-- Remove the live slot of a handle, wherever it is. -/
def removeHandle (registry : Registry) (handle : Handle) : Option (Registry × List Slot) :=
  (registry.owner? handle).bind fun index =>
    registry.removeFirst index fun slot => slot.handle == handle

/-- Remove every live slot of a signal; the number removed comes first. -/
def retireAll (registry : Registry) (index : Nat) : Nat × Registry × List Slot :=
  match registry.signals.get? index with
  | none => (0, registry, [])
  | some signal =>
      if signal.emitting = 0 then (signal.live, registry.freeChain index)
      else
        let buried := (registry.chain index).foldl bury registry
        (signal.live,
          { buried with
            signals := buried.signals.modify index fun signal =>
              { signal with live := 0, tombstones := signal.tombstones + signal.live } },
          [])

/-- Whether the slot at a position is a tombstone. -/
def isTombstone (slots : Arena Slot) (position : Nat) : Bool :=
  match slots.get? position with
  | none => false
  | some slot => slot.removed

/-- Take every tombstone of an idle signal out of its chain and out of storage. -/
def sweep (registry : Registry) (index : Nat) : Registry × List Slot :=
  match registry.signals.get? index with
  | none => (registry, [])
  | some signal =>
      if signal.emitting = 0 ∧ 0 < signal.tombstones then
        let order := registry.chain index
        let relinked :=
          registry.relink index (order.filter fun position =>
            !isTombstone registry.slots position)
        let (released, slots) :=
          relinked.slots.removeAll (order.filter (isTombstone registry.slots))
        ({ relinked with
            signals := relinked.signals.modify index fun signal =>
              { signal with tombstones := 0 }
            slots := slots },
          released)
      else (registry, [])

end SignalDispatch.Registry
