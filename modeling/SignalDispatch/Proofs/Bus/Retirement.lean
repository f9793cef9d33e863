import SignalDispatch.Machine.Step
import SignalDispatch.Proofs.Bus.Invariant

/-!
# Retired handles

A handle is retired when it has been issued and no live slot has it.  Handles are not issued twice
and tombstones stay tombstones, so a retired handle stays retired whatever happens to the bus.

`World.Withdraws` says which handles a successful removal takes away: the ones of the slots that it
removes, be they live or tombstones already.  All of them are retired afterwards, although the slots
may still be linked.
-/

namespace SignalDispatch

namespace Registry

/-- No live slot has a handle. -/
def Dead (registry : Registry) (handle : Handle) : Prop :=
  ∀ position slot, contentAt registry.slots position = some slot →
    slot.handle = handle → slot.removed = true

variable {before after : Registry} {index position : Nat} {slot : Slot}

/-- A slot that left storage has no live slot in its place. -/
theorem Detaches.dead
    {change : Signal → Signal}
    {kept gone : List Nat}
    (detaches : Detaches before after index change kept gone)
    (formed : before.WellFormed)
    (found : contentAt before.slots position = some slot)
    (left : position ∈ gone) :
    after.Dead slot.handle := by
  intro other later present same
  rcases detaches.slot_before present with ⟨stays, earlier⟩
  rw [formed.handles_apart earlier found same] at stays
  exact absurd left stays

/-- A slot that became a tombstone is not live. -/
theorem Buries.dead
    {change : Signal → Signal}
    {marked : List Nat}
    (buries : Buries before after index change marked)
    (formed : before.WellFormed)
    (found : contentAt before.slots position = some slot)
    (member : position ∈ marked) :
    after.Dead slot.handle := by
  intro other later present same
  rcases buries.slot_before present with ⟨earlier, stored, marking⟩
  have handle : later.handle = earlier.handle := by
    rw [marking]
    split <;> rfl
  have place := formed.handles_apart stored found (handle.symm.trans same)
  rw [marking, place, if_pos member]
  rfl

/-- A slot of a signal that was dropped is not live. -/
theorem Drops.dead
    (drops : Drops before after index)
    (formed : before.WellFormed)
    (found : contentAt before.slots position = some slot)
    (member : position ∈ before.chain index) :
    after.Dead slot.handle := by
  intro other later present same
  rw [drops.slots] at present
  split at present
  · cases present
  next stays =>
    rw [formed.handles_apart present found same] at stays
    exact absurd member stays

/-- A slot that was removed is not live. -/
theorem Retires.dead
    {kept gone : List Nat}
    {left marked : Signal → Signal}
    (retires : Retires before after index kept gone left marked)
    (formed : before.WellFormed)
    (found : contentAt before.slots position = some slot)
    (member : position ∈ gone) :
    after.Dead slot.handle := by
  cases retires with
  | idle _ _ detaches => exact detaches.dead formed found member
  | busy _ _ buries => exact buries.dead formed found member

end Registry

namespace Bus

/-- A handle that was issued and that no live slot has. -/
structure Retired (bus : Bus) (handle : Handle) : Prop where
  issued : handle.number < bus.nextHandle
  dead :
    ∀ {position slot}, bus.slotAt position = some slot → slot.handle = handle →
      slot.removed = true

/-- A retired handle stays retired. -/
theorem Retains.retired
    {before after : Bus}
    {depth : Nat → Nat → Nat}
    {handle : Handle}
    (retains : Retains depth before after)
    (retired : before.Retired handle) :
    after.Retired handle := by
  refine ⟨Nat.lt_of_lt_of_le retired.issued retains.counts.nextHandle, ?_⟩
  intro position slot found same
  rcases retains.slots found with ⟨earlier, stored, outlasts⟩ | ⟨_, fresh, _⟩
  · exact outlasts.removed_of_removed
      (retired.dead stored (outlasts.handle_eq.symm.trans same))
  · have issued := retired.issued
    rw [same] at fresh
    omega

/-- The handle of a stored slot is retired once no live slot of the new registry has it. -/
theorem Sane.retired
    {bus after : Bus}
    {registry next : Registry}
    {position : Nat}
    {slot : Slot}
    (sane : bus.Sane)
    (present : bus.registry = some registry)
    (stored : registry.slots.get? position = some slot)
    (replaced : after.registry = some next)
    (counts : bus.nextHandle ≤ after.nextHandle)
    (dead : next.Dead slot.handle) :
    after.Retired slot.handle := by
  have issued := sane.handles (slotAt_of_get? present stored)
  rw [Slot.content_handle] at issued
  refine ⟨Nat.lt_of_lt_of_le issued counts, ?_⟩
  intro other later found same
  rw [slotAt_of_some replaced] at found
  exact dead _ _ found same

end Bus

/-! ## Removals -/

/-- An operation succeeds, and a handle is among those that it takes away. -/
inductive World.Withdraws (world : World) : Operation → Handle → Prop where
  | disconnect
      {registry : Registry}
      {name : String}
      {callback : RoutineId}
      {index position : Nat}
      {slot : Slot} :
      (world.bus.disconnect name callback).result = .ok .done →
      world.bus.registry = some registry →
      registry.find? name = some index →
      registry.firstLive? index (fun slot => slot.callback == callback) = some position →
      registry.slots.get? position = some slot →
      Withdraws world (.disconnect name callback) slot.handle
  | disconnectHandle {source : HandleSource} :
      (world.bus.disconnectHandle (world.handleOf source)).result = .ok .done →
      Withdraws world (.disconnectHandle source) (world.handleOf source)
  | disconnectAll {registry : Registry} {name : String} {index : Nat} {slot : Slot} :
      (world.bus.disconnectAll name).result = .ok .done →
      world.bus.registry = some registry →
      registry.find? name = some index →
      slot ∈ registry.slotsOf index →
      Withdraws world (.disconnectAll name) slot.handle
  | unregister {registry : Registry} {name : String} {index : Nat} {slot : Slot} :
      (world.bus.unregister name).result = .ok .done →
      world.bus.registry = some registry →
      registry.find? name = some index →
      slot ∈ registry.slotsOf index →
      Withdraws world (.unregister name) slot.handle
  | cleanup {registry : Registry} {position : Nat} {slot : Slot} :
      world.bus.cleanup.result = .ok .done →
      world.bus.registry = some registry →
      registry.slots.get? position = some slot →
      Withdraws world .cleanup slot.handle

namespace Bus

variable {bus : Bus} {registry : Registry} {name : String} {index position : Nat} {slot : Slot}

theorem Sane.retired_disconnect
    {callback : RoutineId}
    (sane : bus.Sane)
    (present : bus.registry = some registry)
    (located : registry.find? name = some index)
    (first :
      registry.firstLive? index (fun slot => slot.callback == callback) = some position)
    (stored : registry.slots.get? position = some slot) :
    (bus.disconnect name callback).bus.Retired slot.handle := by
  have looked := (lookup_eq_ok_iff _ _ _).mpr located
  have removed :
      registry.removeFirst index (fun slot => slot.callback == callback) =
        some (registry.retire index position) := by
    rw [Registry.removeFirst, first, Option.map_some]
  have formed := (sane.registry present).formed
  have dead := (formed.retires first).dead formed (Registry.contentAt_of_get? stored)
    List.mem_cons_self
  rw [disconnect, withRegistry_of_some present]
  simp only [looked, removed]
  exact sane.retired present stored rfl (Nat.le_refl _) dead

theorem Sane.retired_disconnectHandle
    {handle : Handle}
    (sane : bus.Sane)
    (done : (bus.disconnectHandle handle).result = .ok .done) :
    (bus.disconnectHandle handle).bus.Retired handle := by
  rw [disconnectHandle] at done ⊢
  split at done
  next valid =>
    rw [if_pos valid]
    cases present : bus.registry with
    | none =>
        rw [withRegistry_of_none present] at done
        cases done
    | some registry =>
        rw [withRegistry_of_some present] at done ⊢
        cases removed : registry.removeHandle handle with
        | none =>
            simp only [removed] at done
            cases done
        | some result =>
            have retired := removed
            rw [Registry.removeHandle, Option.bind_eq_some_iff] at retired
            rcases retired with ⟨index, _, retired⟩
            rw [Registry.removeFirst, Option.map_eq_some_iff] at retired
            rcases retired with ⟨position, first, rfl⟩
            rcases Registry.firstLive?_eq_some first with
              ⟨_, _, slot, _, stored, ⟨_, same⟩, _⟩
            rw [beq_iff_eq] at same
            subst same
            have formed := (sane.registry present).formed
            have dead := (formed.retires first).dead formed (Registry.contentAt_of_get? stored)
              List.mem_cons_self
            exact sane.retired present stored rfl (Nat.le_refl _) dead
  next => cases done

theorem Sane.retired_disconnectAll
    (sane : bus.Sane)
    (present : bus.registry = some registry)
    (located : registry.find? name = some index)
    (member : slot ∈ registry.slotsOf index) :
    (bus.disconnectAll name).bus.Retired slot.handle := by
  have looked := (lookup_eq_ok_iff _ _ _).mpr located
  rcases List.mem_filterMap.mp member with ⟨position, linked, stored⟩
  have content := Registry.contentAt_of_get? stored
  have formed := (sane.registry present).formed
  have dead := (formed.retiresAll located).dead formed content linked
  rw [disconnectAll, withRegistry_of_some present]
  simp only [looked]
  exact sane.retired present stored rfl (Nat.le_refl _) dead

theorem Sane.retired_unregister
    (sane : bus.Sane)
    (done : (bus.unregister name).result = .ok .done)
    (present : bus.registry = some registry)
    (located : registry.find? name = some index)
    (member : slot ∈ registry.slotsOf index) :
    (bus.unregister name).bus.Retired slot.handle := by
  rcases List.mem_filterMap.mp member with ⟨position, linked, stored⟩
  have content := Registry.contentAt_of_get? stored
  rw [unregister, withRegistry_of_some present] at done ⊢
  cases removed : registry.unregister name with
  | error fault =>
      simp only [removed] at done
      cases done
  | ok result =>
      rcases (sane.registry present).formed.unregister removed with
        ⟨other, signal, registered, named, drops, _⟩
      have same : other = index := by
        have found := ((sane.registry present).formed.find?_eq_some_iff name other).mpr
          ⟨signal, registered, named⟩
        rw [located, Option.some.injEq] at found
        exact found.symm
      subst same
      have dead := drops.dead (sane.registry present).formed content linked
      exact sane.retired present stored rfl (Nat.le_refl _) dead

theorem Sane.retired_cleanup
    (sane : bus.Sane)
    (present : bus.registry = some registry)
    (stored : registry.slots.get? position = some slot) :
    bus.cleanup.bus.Retired slot.handle := by
  have issued := sane.handles (slotAt_of_get? present stored)
  rw [cleanup, present]
  refine ⟨issued, ?_⟩
  intro other later found
  rw [slotAt_of_none rfl] at found
  cases found

end Bus

namespace Machine

theorem bus_apply (machine : Machine) (effect : Effect) :
    (machine.apply effect).world.bus = effect.bus := by
  have same := world_log (machine.setBus effect.bus) effect.before
  rw [apply]
  exact congrArg World.bus same

/-- What a successful removal takes away is retired as soon as the operation was started. -/
theorem retired_of_withdraws
    (program : Program)
    {machine : Machine}
    (payload : Payload)
    {operation : Operation}
    {handle : Handle}
    (sane : machine.world.bus.Sane)
    (withdraws : machine.world.Withdraws operation handle) :
    (machine.execute program payload operation).world.bus.Retired handle := by
  cases withdraws with
  | disconnect _ present located first stored =>
      rw [execute, bus_apply]
      exact sane.retired_disconnect present located first stored
  | disconnectHandle done =>
      rw [execute, bus_apply]
      exact sane.retired_disconnectHandle done
  | disconnectAll _ present located member =>
      rw [execute, bus_apply]
      exact sane.retired_disconnectAll present located member
  | unregister done present located member =>
      rw [execute, bus_apply]
      exact sane.retired_unregister done present located member
  | cleanup _ present stored =>
      rw [execute, bus_apply]
      exact sane.retired_cleanup present stored

end Machine

end SignalDispatch
