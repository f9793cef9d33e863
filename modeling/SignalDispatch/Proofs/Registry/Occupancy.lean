import SignalDispatch.Proofs.Registry.WellFormed
import SignalDispatch.Registry.Report
import Mathlib.Algebra.GroupWithZero.Nat
import Mathlib.Data.List.Nodup

/-!
# Occupied storage

The chains of a well-formed registry are disjoint and hold every stored slot.  So the number of
stored slots is the sum, over all signals, of their live slots and their tombstones.
-/

namespace SignalDispatch.Registry

/-- The number of slots of a signal that are not tombstones. -/
def liveSlots (registry : Registry) (index : Nat) : Nat :=
  (registry.contents index).countP fun slot => !slot.removed

/-- The number of slots in the chains of all signals, tombstones included. -/
def linkedSlots (registry : Registry) : Nat :=
  (registry.signals.toList.map fun entry => (registry.contents entry.1).length).sum

namespace WellFormed

variable {registry : Registry}

/-- The positions in the chains of all signals are the occupied ones, each of them once. -/
theorem positions_perm (formed : registry.WellFormed) :
    (registry.signals.toList.flatMap fun entry => registry.chain entry.1).Perm
      (registry.slots.toList.map Prod.fst) := by
  have distinct :
      (registry.signals.toList.flatMap fun entry => registry.chain entry.1).Nodup := by
    rw [List.nodup_flatMap]
    refine ⟨fun entry _ => formed.chained.distinct entry.1, ?_⟩
    have apart := registry.signals.nodup_toList_map_fst
    rw [List.Nodup, List.pairwise_map] at apart
    refine apart.imp ?_
    intro left right different position inLeft inRight
    exact different (formed.chained.apart inLeft inRight)
  refine (List.perm_ext_iff_of_nodup distinct registry.slots.nodup_toList_map_fst).mpr ?_
  intro position
  rw [List.mem_flatMap, List.mem_map]
  constructor
  · rintro ⟨_, _, linked⟩
    rcases Option.isSome_iff_exists.mp (formed.chained.stored linked) with ⟨slot, stored⟩
    exact ⟨⟨position, slot⟩, (Arena.mem_toList_iff _ _ _).mpr stored, rfl⟩
  · rintro ⟨⟨_, slot⟩, listed, rfl⟩
    have occupied := (Arena.mem_toList_iff _ _ _).mp listed
    rcases formed.covered (Option.isSome_of_eq_some (contentAt_of_get? occupied)) with
      ⟨index, linked⟩
    rcases formed.chained.registered linked with ⟨signal, registered⟩
    exact ⟨⟨index, signal⟩, (Arena.mem_toList_iff _ _ _).mpr registered, linked⟩

/-- Every position of a chain holds a slot. -/
theorem length_contents (formed : registry.WellFormed) (index : Nat) :
    (registry.contents index).length = (registry.chain index).length := by
  rw [contents, contentsOf, List.length_filterMap_eq_countP, List.countP_eq_length]
  exact fun position linked => formed.contentAt_isSome linked

/-- A chain has a position for every live slot and for every tombstone. -/
theorem length_chain
    (formed : registry.WellFormed)
    {index : Nat}
    {signal : Signal}
    (found : registry.signalAt index = some signal) :
    (registry.chain index).length = signal.live + signal.tombstones := by
  have stored := formed.length_contents index
  have parts := List.length_eq_countP_add_countP Slot.removed (l := registry.contents index)
  simp only [decide_not, Bool.decide_eq_true] at parts
  rw [← stored, parts, formed.live_eq found, formed.tombstones_eq found, Nat.add_comm]

/-- The stored slots are the live slots and the tombstones of all signals. -/
theorem size_slots (formed : registry.WellFormed) :
    registry.slots.size =
      (registry.signals.toList.map fun entry => entry.2.live + entry.2.tombstones).sum := by
  have lengths := formed.positions_perm.length_eq
  rw [List.length_flatMap, List.length_map, Arena.length_toList] at lengths
  rw [formed.slots_sound.size_eq, ← lengths]
  congr 1
  refine List.map_congr_left ?_
  rintro ⟨index, signal⟩ listed
  have registered := (Arena.mem_toList_iff _ _ _).mp listed
  have counted := formed.length_chain (signalAt_of_get? registered)
  exact counted

/-- The linked slots are the stored ones. -/
theorem linkedSlots_eq (formed : registry.WellFormed) :
    registry.linkedSlots = registry.slots.size := by
  rw [formed.size_slots, linkedSlots]
  congr 1
  refine List.map_congr_left ?_
  rintro ⟨index, signal⟩ listed
  have registered := (Arena.mem_toList_iff _ _ _).mp listed
  rw [formed.length_contents, formed.length_chain (signalAt_of_get? registered)]
  rfl

/-- A pool has no more slots linked than it has entries. -/
theorem linkedSlots_le
    (formed : registry.WellFormed)
    {capacity : Nat}
    (pooled : registry.slots.policy = .pool capacity) :
    registry.linkedSlots ≤ capacity := by
  rw [formed.linkedSlots_eq, formed.slots_sound.size_eq,
    ← (formed.slots_sound.pool capacity pooled).1]
  exact List.countP_le_length

end WellFormed

end SignalDispatch.Registry
