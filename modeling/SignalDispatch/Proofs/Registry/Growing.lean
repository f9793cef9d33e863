import SignalDispatch.Proofs.Storage.Growth
import SignalDispatch.Registry.Registration
import SignalDispatch.Registry.Walk

/-!
# Registries on growing storage

Growing storage takes every value.  No operation changes how a registry is stored, so a registry on
growing storage never fails for want of room.
-/

namespace SignalDispatch

namespace Arena

variable {α : Type}

/-- Taking values out leaves the policy as it was. -/
theorem policy_removeAll (arena : Arena α) (indices : List Nat) :
    (arena.removeAll indices).2.policy = arena.policy := by
  induction indices generalizing arena with
  | nil => rfl
  | cons first rest ih =>
      rw [removeAll]
      cases removed : arena.remove? first with
      | none => exact ih arena
      | some result =>
          rcases result with ⟨value, left⟩
          have vacated := ((remove?_eq_some_iff _ _ _ _).mp removed).2
          refine (ih left).trans ?_
          rw [vacated]
          rfl

end Arena

namespace Registry

/-- Signals and slots are kept on growing storage. -/
structure Growing (registry : Registry) : Prop where
  signals : registry.signals.policy = .growing
  slots : registry.slots.policy = .growing

theorem policy_thread (slots : Arena Slot) (order : List Nat) :
    (thread slots order).policy = slots.policy := by
  induction order generalizing slots with
  | nil => rfl
  | cons first rest ih => exact ih _

theorem policy_foldl_bury (registry : Registry) (positions : List Nat) :
    (positions.foldl bury registry).signals.policy = registry.signals.policy ∧
      (positions.foldl bury registry).slots.policy = registry.slots.policy := by
  induction positions generalizing registry with
  | nil => exact ⟨rfl, rfl⟩
  | cons first rest ih => exact ih (registry.bury first)

theorem growing_empty : (empty .growing .growing).Growing :=
  ⟨rfl, rfl⟩

namespace Growing

variable {registry after : Registry}

theorem unlink (growing : registry.Growing) (index position : Nat) :
    (registry.unlink index position).1.Growing := by
  have threaded := policy_thread registry.slots ((registry.chain index).erase position)
  have removed := Arena.policy_removeAll
    (thread registry.slots ((registry.chain index).erase position)) [position]
  exact ⟨growing.signals, removed.trans (threaded.trans growing.slots)⟩

/-- A registration on growing storage fails only if the name is in use. -/
theorem register_of_unknown
    (growing : registry.Growing)
    {name : String}
    (unknown : registry.find? name = none)
    (description : Option String)
    (priority : Priority)
    (serial : Nat) :
    ∃ after, registry.register name description priority serial = .ok after ∧
      after.Growing := by
  rcases Arena.insert_of_growing growing.signals
    ({ name := name, description := description, priority := priority, serial := serial } : Signal)
    with ⟨index, inserted⟩
  rw [register, unknown]
  simp only [Option.isSome_none, Bool.false_eq_true, if_false, inserted]
  exact ⟨_, rfl, growing.signals, growing.slots⟩

/-- A slot is always attached. -/
theorem attach (growing : registry.Growing) (index : Nat) (slot : Slot) :
    ∃ after, registry.attach index slot = .ok after ∧ after.Growing := by
  rcases Arena.insert_of_growing growing.slots slot with ⟨position, inserted⟩
  rw [Registry.attach, inserted]
  refine ⟨_, rfl, growing.signals, ?_⟩
  exact (policy_thread _ _).trans growing.slots

/-- A slot is granted to a signal exactly if the signal has fewer than its limit. -/
theorem grant_eq
    (growing : registry.Growing)
    {index : Nat}
    {signal : Signal}
    (registered : registry.signals.get? index = some signal)
    (limit : Nat) :
    registry.grant index limit =
      if limit ≤ signal.live then .error (.resourceExhausted (.slotsPerSignal limit))
      else .ok signal.priority := by
  rw [grant, registered]
  simp only [Arena.reserve_of_growing growing.slots]

theorem freeChain (growing : registry.Growing) (index : Nat) :
    (registry.freeChain index).1.Growing :=
  ⟨growing.signals, (Arena.policy_removeAll _ _).trans growing.slots⟩

theorem unregister
    (growing : registry.Growing)
    {name : String}
    {released : List Slot}
    (done : registry.unregister name = .ok (after, released)) :
    after.Growing := by
  rw [Registry.unregister] at done
  cases located : registry.lookup name with
  | error fault =>
      rw [located] at done
      cases done
  | ok index =>
      rw [located] at done
      cases done
      have freed := growing.freeChain index
      exact ⟨freed.signals, freed.slots⟩

theorem retire (growing : registry.Growing) (index position : Nat) :
    (registry.retire index position).1.Growing := by
  rw [Registry.retire]
  cases registry.signals.get? index with
  | none => exact growing
  | some signal =>
      dsimp only
      split
      · refine unlink ?_ index position
        exact ⟨growing.signals, growing.slots⟩
      · exact ⟨growing.signals, growing.slots⟩

theorem retireAll (growing : registry.Growing) (index : Nat) :
    (registry.retireAll index).2.1.Growing := by
  rw [Registry.retireAll]
  cases registry.signals.get? index with
  | none => exact growing
  | some signal =>
      dsimp only
      split
      · exact growing.freeChain index
      · rcases policy_foldl_bury registry (registry.chain index) with ⟨signals, slots⟩
        exact ⟨signals.trans growing.signals, slots.trans growing.slots⟩

theorem sweep (growing : registry.Growing) (index : Nat) :
    (registry.sweep index).1.Growing := by
  rw [Registry.sweep]
  cases registry.signals.get? index with
  | none => exact growing
  | some signal =>
      dsimp only
      split
      · refine ⟨growing.signals, (Arena.policy_removeAll _ _).trans ?_⟩
        exact (policy_thread _ _).trans growing.slots
      · exact growing

theorem beginEmission
    (growing : registry.Growing)
    {name : String}
    {signalRef : SignalRef}
    {head : Option Nat}
    (begun : registry.beginEmission name = .ok (after, signalRef, head)) :
    after.Growing := by
  rw [Registry.beginEmission] at begun
  cases located : registry.lookup name with
  | error fault =>
      rw [located] at begun
      cases begun
  | ok index =>
      rw [located] at begun
      dsimp only at begun
      cases stored : registry.signals.get? index with
      | none =>
          rw [stored] at begun
          cases begun
      | some signal =>
          rw [stored] at begun
          cases begun
          exact ⟨growing.signals, growing.slots⟩

theorem endEmission
    (growing : registry.Growing)
    (signalRef : SignalRef)
    (elapsed : Option Nat) :
    (registry.endEmission signalRef elapsed).1.Growing := by
  rw [Registry.endEmission]
  cases registry.resolve? signalRef with
  | none => exact growing
  | some signal =>
      refine Growing.sweep ?_ signalRef.index
      exact ⟨growing.signals, growing.slots⟩

end Growing

end Registry

end SignalDispatch
