import SignalDispatch.Proofs.Bus.Retirement
import SignalDispatch.Proofs.Registry.AlikeCalls

/-!
# Disconnecting by handle

A handle that was never issued is refused in every state.  Any other handle names at most one live
slot of an initialized bus: if there is one, that slot is removed and nothing else; if not,
nothing is found.
-/

namespace SignalDispatch.Bus

variable {bus : Bus}

/-- A live slot is stored at a position. -/
structure Live (bus : Bus) (handle : Handle) (position : Nat) (slot : Slot) : Prop where
  stored : bus.slotAt position = some slot
  handle_eq : slot.handle = handle
  live : slot.removed = false

/-- One slot is removed: it goes out of storage, or stays as a tombstone while it may be read. -/
structure Removes (before after : Bus) (position : Nat) (slot : Slot) : Prop where
  gone : after.slotAt position = none ∨ after.slotAt position = some slot.buried
  others : ∀ other, other ≠ position → after.slotAt other = before.slotAt other
  /-- The signals that the slot is not connected to. -/
  elsewhere :
    ∀ index, position ∉ before.chain index →
      after.signalAt index = before.signalAt index ∧ after.chain index = before.chain index

/-- The number of a handle that was never issued. -/
theorem disconnectHandle_zero (bus : Bus) :
    bus.disconnectHandle ⟨0⟩ = bus.failing Fault.unissuedHandle :=
  rfl

theorem disconnectHandle_of_none {handle : Handle} (absent : bus.registry = none)
    (valid : handle.isValid) :
    bus.disconnectHandle handle = bus.failing Fault.notInitialized := by
  rw [disconnectHandle, if_pos valid, withRegistry_of_none absent]

/-- What removing the first live slot of a signal does to the bus. -/
theorem Sane.removes_retire
    {registry : Registry}
    {index position : Nat}
    {accepts : Slot → Bool}
    {slot : Slot}
    (sane : bus.Sane)
    (present : bus.registry = some registry)
    (first : registry.firstLive? index accepts = some position)
    (stored : bus.slotAt position = some slot) :
    bus.Removes (bus.setRegistry (registry.retire index position).1) position slot := by
  rw [slotAt_of_some present] at stored
  rcases Registry.firstLive?_eq_some first with ⟨passed, rest, _, linked, _⟩
  have member : position ∈ registry.chain index := by simp [linked]
  have apart (other : Nat) (unlinked : position ∉ registry.chain other) : index ≠ other := by
    rintro rfl
    exact unlinked member
  cases (sane.registry present).formed.retires first with
  | idle _ _ detaches =>
      refine ⟨Or.inl ?_, ?_, ?_⟩
      · rw [slotAt_of_some rfl, detaches.slots, if_pos List.mem_cons_self]
      · intro other different
        rw [slotAt_of_some rfl, slotAt_of_some present, detaches.slots,
          if_neg (fun same => different (List.mem_singleton.mp same))]
      · intro other unlinked
        rw [chain_of_some present] at unlinked
        rw [signalAt_of_some rfl, signalAt_of_some present, chain_of_some rfl,
          chain_of_some present, detaches.signals, if_neg (apart other unlinked), detaches.chain,
          Function.update_of_ne (apart other unlinked).symm]
        exact ⟨rfl, rfl⟩
  | busy _ _ buries =>
      refine ⟨Or.inr ?_, ?_, ?_⟩
      · rw [slotAt_of_some rfl, buries.slots, if_pos List.mem_cons_self, stored, Option.map_some]
      · intro other different
        rw [slotAt_of_some rfl, slotAt_of_some present, buries.slots,
          if_neg (fun same => different (List.mem_singleton.mp same))]
      · intro other unlinked
        rw [chain_of_some present] at unlinked
        rw [signalAt_of_some rfl, signalAt_of_some present, chain_of_some rfl,
          chain_of_some present, buries.signals, if_neg (apart other unlinked), buries.chain]
        exact ⟨rfl, rfl⟩

/-- Disconnecting by an issued handle removes the live slot of that handle, or finds none. -/
theorem Sane.disconnectHandle_outcome
    {registry : Registry}
    {handle : Handle}
    (sane : bus.Sane)
    (present : bus.registry = some registry)
    (valid : handle.isValid) :
    (∃ position slot, bus.Live handle position slot ∧
        (bus.disconnectHandle handle).result = .ok .done ∧
        bus.Removes (bus.disconnectHandle handle).bus position slot) ∨
      (∀ position slot, ¬ bus.Live handle position slot) ∧
        bus.disconnectHandle handle = bus.failing (Fault.noSuchSlot handle.text) := by
  rw [disconnectHandle, if_pos valid, withRegistry_of_some present]
  cases owner : registry.owner? handle with
  | none =>
      have nobody := (Registry.owner?_eq_none_iff registry handle).mp owner
      have removed : registry.removeHandle handle = none := by
        rw [Registry.removeHandle, owner, Option.bind_none]
      rw [removed]
      refine Or.inr ⟨?_, rfl⟩
      intro position slot shown
      have found := shown.stored
      rw [slotAt_of_some present] at found
      rcases (sane.registry present).formed.covered (Option.isSome_of_eq_some found) with
        ⟨index, linked⟩
      rcases (sane.registry present).formed.chained.registered linked with ⟨signal, registered⟩
      exact nobody index signal.content (Registry.signalAt_of_get? registered) slot
        ((Registry.mem_contentsOf_iff _ _ _).mpr ⟨position, linked, found⟩)
        ⟨shown.live, shown.handle_eq⟩
  | some index =>
      have accepted : (registry.firstLive? index fun slot => slot.handle == handle).isSome := by
        rw [Registry.owner?, Option.map_eq_some_iff] at owner
        rcases owner with ⟨entry, first, rfl⟩
        have accepted := List.find?_some first
        exact accepted
      rcases Option.isSome_iff_exists.mp accepted with ⟨position, first⟩
      rcases Registry.firstLive?_eq_some first with ⟨_, _, slot, _, stored, ⟨live, same⟩, _⟩
      have found : bus.slotAt position = some slot.content := slotAt_of_get? present stored
      have removed : registry.removeHandle handle = some (registry.retire index position) := by
        rw [Registry.removeHandle, owner, Option.bind_some, Registry.removeFirst, first,
          Option.map_some]
      rw [removed]
      exact Or.inl ⟨position, slot.content, ⟨found, beq_iff_eq.mp same, live⟩, rfl,
        sane.removes_retire present first found⟩

end SignalDispatch.Bus
