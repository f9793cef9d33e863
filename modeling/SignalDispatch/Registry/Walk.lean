import SignalDispatch.Registry.Removal

/-!
# Walking a chain

An emission enters a signal, reads its slots one at a time and leaves it.  Between two readings
anything may happen to the registry, so the walk remembers the registration it began with and
stops as soon as the index holds another one.  The link to the following slot is read together
with the slot, before its callback runs.
-/

namespace SignalDispatch

/-- One registration, recognised also when its index has been reused. -/
structure SignalRef where
  index : Nat
  serial : Nat
  deriving DecidableEq, Repr, Inhabited

/-- What a walk reads at a position: the position after it, and the slot if it is live. -/
structure SlotReading where
  next : Option Nat
  target : Option Slot
  deriving DecidableEq, Repr, Inhabited

namespace Registry

/-- The signal of a registration, while it lasts. -/
def resolve? (registry : Registry) (signalRef : SignalRef) : Option Signal :=
  (registry.signals.get? signalRef.index).filter fun signal => signal.serial == signalRef.serial

/-- Enter an emission of a signal; the walk starts at the head of its chain. -/
def beginEmission
    (registry : Registry)
    (name : String) :
    Except Fault (Registry × SignalRef × Option Nat) :=
  match registry.lookup name with
  | .error fault => .error fault
  | .ok index =>
      match registry.signals.get? index with
      | none => .error (.notFound name)
      | some signal =>
          .ok
            ({ registry with
                signals := registry.signals.modify index fun signal =>
                  { signal with emitting := signal.emitting + 1 } },
              { index := index, serial := signal.serial },
              signal.head)

/-- Read the slot at a position, if the registration being walked is still there. -/
def read? (registry : Registry) (signalRef : SignalRef) (position : Nat) : Option SlotReading :=
  match registry.resolve? signalRef with
  | none => none
  | some _ =>
      (registry.slots.get? position).map fun slot =>
        { next := slot.next, target := if slot.removed then none else some slot }

/-- Leave an emission: record its time if it was taken, and sweep the signal if it is idle now. -/
def endEmission
    (registry : Registry)
    (signalRef : SignalRef)
    (elapsed : Option Nat) :
    Registry × List Slot :=
  match registry.resolve? signalRef with
  | none => (registry, [])
  | some _ =>
      let left :=
        { registry with
          signals := registry.signals.modify signalRef.index fun signal =>
            { signal with
              emitting := signal.emitting - 1
              timing :=
                match elapsed with
                | none => signal.timing
                | some elapsed => signal.timing.record elapsed } }
      left.sweep signalRef.index

/-- A registration is resolved exactly while its index holds the signal of its serial. -/
theorem resolve?_eq_some_iff (registry : Registry) (signalRef : SignalRef) (signal : Signal) :
    registry.resolve? signalRef = some signal ↔
      registry.signals.get? signalRef.index = some signal ∧
        signal.serial = signalRef.serial := by
  simp [resolve?, Option.filter_eq_some_iff]

/-- A reading needs the registration and a stored slot; it is the slot's link, with the slot itself
if it is live. -/
theorem read?_eq_some_iff
    (registry : Registry)
    (signalRef : SignalRef)
    (position : Nat)
    (reading : SlotReading) :
    registry.read? signalRef position = some reading ↔
      (registry.resolve? signalRef).isSome ∧
        ∃ slot, registry.slots.get? position = some slot ∧
          reading = ⟨slot.next, if slot.removed then none else some slot⟩ := by
  unfold read?
  cases registry.resolve? signalRef with
  | none => simp
  | some signal =>
      simp only [Option.map_eq_some_iff, Option.isSome_some, true_and]
      constructor
      · rintro ⟨slot, found, rfl⟩
        exact ⟨slot, found, rfl⟩
      · rintro ⟨slot, found, rfl⟩
        exact ⟨slot, found, rfl⟩

/-- Leaving a registration that is gone changes nothing. -/
theorem endEmission_of_resolve?_eq_none
    (registry : Registry)
    (signalRef : SignalRef)
    (elapsed : Option Nat)
    (gone : registry.resolve? signalRef = none) :
    registry.endEmission signalRef elapsed = (registry, []) := by
  simp [endEmission, gone]

end Registry

end SignalDispatch
