import SignalDispatch.Proofs.Bus.Housing
import SignalDispatch.Proofs.Bus.Requests
import SignalDispatch.Proofs.Registry.Leaving

/-!
# How long chains are

A chain becomes longer by connections only, by one position each; every other call, and every
emission that enters or leaves, leaves chains as they are or shortens them.  In a pool no chain is
longer than the number of its entries.
-/

namespace SignalDispatch

namespace Registry

variable {registry before after : Registry} {index : Nat}

theorem length_ordered
    (slots : Arena Slot)
    (priority : Priority)
    (position : Nat)
    (positions : List Nat) :
    (ordered slots priority position positions).length = positions.length + 1 := by
  have whole := congrArg List.length
    (List.takeWhile_append_dropWhile (p := precedes slots priority) (l := positions))
  rw [List.length_append] at whole
  rw [ordered, List.length_append, List.length_cons, ← Nat.add_assoc, whole]

/-- Only the chain of the signal that a slot is connected to becomes longer. -/
theorem Attaches.length_chain
    {position : Nat}
    {slot : Slot}
    (attaches : Attaches before after index slot position)
    (other : Nat) :
    (after.chain other).length = (before.chain other).length + if index = other then 1 else 0 := by
  rw [attaches.chain]
  by_cases same : index = other
  · subst same
    rw [Function.update_self, length_ordered, if_pos rfl]
  · rw [Function.update_of_ne (Ne.symm same), if_neg same, Nat.add_zero]

theorem Detaches.length_chain_le
    {change : Signal → Signal}
    {kept gone : List Nat}
    (detaches : Detaches before after index change kept gone)
    (other : Nat) :
    (after.chain other).length ≤ (before.chain other).length := by
  rw [detaches.chain]
  by_cases same : other = index
  · subst same
    rw [Function.update_self]
    exact detaches.sublist.length_le
  · rw [Function.update_of_ne same]

theorem Retires.length_chain_le
    {kept gone : List Nat}
    {left marked : Signal → Signal}
    (retires : Retires before after index kept gone left marked)
    (other : Nat) :
    (after.chain other).length ≤ (before.chain other).length := by
  cases retires with
  | idle _ _ detaches => exact detaches.length_chain_le other
  | busy _ _ buries => rw [buries.chain]

theorem Drops.length_chain_le (drops : Drops before after index) (other : Nat) :
    (after.chain other).length ≤ (before.chain other).length := by
  rw [drops.chain]
  by_cases same : other = index
  · subst same
    rw [Function.update_self]
    exact Nat.zero_le _
  · rw [Function.update_of_ne same]

/-- An emission that leaves its signal makes no chain longer. -/
theorem WellFormed.length_chain_endEmission_le
    (formed : registry.WellFormed)
    (signalRef : SignalRef)
    (elapsed : Option Nat)
    (other : Nat) :
    ((registry.endEmission signalRef elapsed).1.chain other).length ≤
      (registry.chain other).length := by
  cases resolved : registry.resolve? signalRef with
  | none => rw [endEmission_of_resolve?_eq_none _ _ _ resolved]
  | some signal =>
      rcases formed.endEmission resolved elapsed with ⟨left, adjusts, formedLeft, present, ended⟩
      rw [ended, ← adjusts.chain]
      by_cases due :
        (exited elapsed signal).emitting = 0 ∧ 0 < (exited elapsed signal).tombstones
      · exact (formedLeft.sweep present due).1.length_chain_le other
      · rw [sweep_of_not present due]

/-- A pool bounds the length of every chain. -/
theorem WellFormed.length_chain_le_of_pool
    (formed : registry.WellFormed)
    {capacity : Nat}
    (pooled : registry.slots.policy = .pool capacity)
    (index : Nat) :
    (registry.chain index).length ≤ capacity := by
  cases registered : registry.signals.get? index with
  | none =>
      rw [formed.chained.unregistered registered]
      exact Nat.zero_le _
  | some signal =>
      rw [← (formed.slots_sound.pool capacity pooled).1]
      exact (formed.chained.linked registered).length_le_reserved (formed.chained.distinct index)

end Registry

namespace Bus

variable {before after : Bus}

/-- A call that draws no handle makes no chain longer. -/
theorem Shifts.length_chain_le
    {operation : Option Operation}
    (shifts : Shifts operation before after)
    (sane : before.Sane)
    (same : after.nextHandle = before.nextHandle)
    (index : Nat) :
    (after.chain index).length ≤ (before.chain index).length := by
  cases shifts with
  | keep kept => rw [chain_congr kept]
  | init =>
      have empty : (before.backend.registry.chain index) = [] := by
        refine (Registry.wellFormed_empty _ _).chained.unregistered ?_
        exact Arena.get?_empty _ _
      rw [chain_of_some rfl, empty]
      exact Nat.zero_le _
  | cleanup absent =>
      rw [chain, absent]
      exact Nat.zero_le _
  | register present registered =>
      rw [chain_of_some rfl, chain_of_some present,
        (Registry.register_chained (sane.registry present).formed registered).chain_eq]
  | unregister present removed =>
      rcases (sane.registry present).formed.unregister removed with ⟨_, _, _, _, drops, _⟩
      rw [chain_of_some rfl, chain_of_some present]
      exact drops.length_chain_le index
  | connect => exact absurd same (Nat.succ_ne_self _)
  | retire present first =>
      rw [chain_of_some rfl, chain_of_some present]
      exact ((sane.registry present).formed.retires first).length_chain_le index
  | retireAll present located =>
      rw [chain_of_some rfl, chain_of_some present]
      exact ((sane.registry present).formed.retiresAll located).length_chain_le index
  | resetTiming present =>
      rw [chain_of_some rfl, chain_of_some present,
        (sane.registry present).formed.resetTiming.1.chain]
  | resetPeak present =>
      rw [chain_of_some rfl, chain_of_some present]
      exact Nat.le_refl _

/-- A request to connect makes the chain of its signal longer by one position if it is accepted, and
no other chain. -/
theorem length_chain_connect_le
    (sane : before.Sane)
    (name : String)
    (callback : RoutineId)
    (context : Option Context)
    (priority : Option Priority)
    (index : Nat) :
    ((before.connect name callback context priority).bus.chain index).length ≤
        (before.chain index).length ∨
      ((before.connect name callback context priority).bus.chain index).length =
          (before.chain index).length + 1 ∧
        (∃ handle, (before.connect name callback context priority).result =
          .ok (.connected handle)) ∧
        ∃ registry, before.registry = some registry ∧ registry.find? name = some index := by
  rcases connect_cases name callback context priority before with
    kept | ⟨registry, found, _, next, present, named, attached, stored, result⟩
  · exact Or.inl (Nat.le_of_eq (by rw [chain_congr kept]))
  · rcases sane.attaches_slotFor present named attached with ⟨position, attaches⟩
    have longer := attaches.length_chain index
    rw [chain_of_some stored, chain_of_some present]
    by_cases same : found = index
    · subst same
      rw [if_pos rfl] at longer
      exact Or.inr ⟨longer, ⟨_, result⟩, registry, present, named⟩
    · rw [if_neg same] at longer
      exact Or.inl (Nat.le_of_eq longer)

/-- In a pool of slots no chain is longer than the number of entries. -/
theorem length_chain_le_of_pool
    {bus : Bus}
    {signals capacity : Nat}
    (sane : bus.Sane)
    (housed : bus.Housed)
    (pool : bus.backend = .pool signals capacity)
    (index : Nat) :
    (bus.chain index).length ≤ capacity := by
  cases present : bus.registry with
  | none =>
      rw [chain, present]
      exact Nat.zero_le _
  | some registry =>
      have pooled : registry.slots.policy = .pool capacity := by
        rw [(housed registry present).slots, pool]
        rfl
      rw [chain_of_some present]
      exact (sane.registry present).formed.length_chain_le_of_pool pooled index

end Bus

end SignalDispatch
