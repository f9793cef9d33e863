import Mathlib.Order.MinMax
import SignalDispatch.Proofs.Registry.Shown
import SignalDispatch.Proofs.Storage.Growth
import SignalDispatch.Proofs.Storage.Mapping

/-!
# The meters of a registry

Three numbers of a registry are never read by it and only reported: the entries that its two arenas
have set aside, and the peak of linked slots.  `Registry.Raises` is what a call does to them: each
goes up to the present use if that has become larger, and does not change otherwise.  Only a
registration and a connection can make the use larger; everything that is taken out leaves the
meters where they are.
-/

namespace SignalDispatch

/-- Removing values sets no entry aside and gives none up. -/
theorem Arena.reserved_removeAll {α : Type} (arena : Arena α) (indices : List Nat) :
    (arena.removeAll indices).2.reserved = arena.reserved := by
  induction indices generalizing arena with
  | nil => rfl
  | cons first rest ih =>
      rw [removeAll]
      cases removed : arena.remove? first with
      | none => exact ih arena
      | some result =>
          rcases result with ⟨value, left⟩
          have vacated := ((remove?_eq_some_iff _ _ _ _).mp removed).2
          refine (ih left).trans ?_
          rw [vacated, reserved_vacate]

namespace Registry

variable {registry before after : Registry} {index : Nat}

/-! ## Calls that insert nothing -/

/-- The meters are as before. -/
structure KeepsMeters (before after : Registry) : Prop where
  signals : after.signals.reserved = before.signals.reserved
  slots : after.slots.reserved = before.slots.reserved
  peak : after.peakSlots = before.peakSlots

namespace KeepsMeters

theorem refl (registry : Registry) : KeepsMeters registry registry :=
  ⟨rfl, rfl, rfl⟩

theorem freeChain (registry : Registry) (index : Nat) :
    KeepsMeters registry (registry.freeChain index).1 :=
  ⟨Arena.reserved_modify _ _ _, Arena.reserved_removeAll _ _, rfl⟩

theorem unregister
    {name : String}
    {released : List Slot}
    (done : registry.unregister name = .ok (after, released)) :
    KeepsMeters registry after := by
  rw [Registry.unregister] at done
  cases located : registry.lookup name with
  | error fault =>
      rw [located] at done
      cases done
  | ok index =>
      rw [located] at done
      cases done
      have freed := freeChain registry index
      exact ⟨(Arena.reserved_vacate _ _).trans freed.signals, freed.slots, freed.peak⟩

theorem unlink (registry : Registry) (index position : Nat) :
    KeepsMeters registry (registry.unlink index position).1 := by
  have removed := Arena.reserved_removeAll
    (thread registry.slots ((registry.chain index).erase position)) [position]
  exact ⟨Arena.reserved_modify _ _ _, removed.trans (reserved_thread _ _), rfl⟩

theorem retire (registry : Registry) (index position : Nat) :
    KeepsMeters registry (registry.retire index position).1 := by
  rw [Registry.retire]
  cases registry.signals.get? index with
  | none => exact refl registry
  | some signal =>
      dsimp only
      split
      · have unlinked := unlink
          { registry with
            signals := registry.signals.modify index fun signal =>
              { signal with live := signal.live - 1 } }
          index position
        exact ⟨unlinked.signals.trans (Arena.reserved_modify _ _ _), unlinked.slots, unlinked.peak⟩
      · exact ⟨Arena.reserved_modify _ _ _, Arena.reserved_modify _ _ _, rfl⟩

theorem foldl_bury (registry : Registry) (positions : List Nat) :
    KeepsMeters registry (positions.foldl bury registry) := by
  induction positions generalizing registry with
  | nil => exact refl registry
  | cons first rest ih =>
      have later := ih (registry.bury first)
      exact ⟨later.signals, later.slots.trans (Arena.reserved_modify _ _ _), later.peak⟩

theorem retireAll (registry : Registry) (index : Nat) :
    KeepsMeters registry (registry.retireAll index).2.1 := by
  rw [Registry.retireAll]
  cases registry.signals.get? index with
  | none => exact refl registry
  | some signal =>
      dsimp only
      split
      · exact freeChain registry index
      · have buried := foldl_bury registry (registry.chain index)
        exact ⟨(Arena.reserved_modify _ _ _).trans buried.signals, buried.slots, buried.peak⟩

theorem sweep (registry : Registry) (index : Nat) :
    KeepsMeters registry (registry.sweep index).1 := by
  rw [Registry.sweep]
  cases registry.signals.get? index with
  | none => exact refl registry
  | some signal =>
      dsimp only
      split
      · exact ⟨(Arena.reserved_modify _ _ _).trans (Arena.reserved_modify _ _ _),
          (Arena.reserved_removeAll _ _).trans (reserved_thread _ _), rfl⟩
      · exact refl registry

theorem endEmission (registry : Registry) (signalRef : SignalRef) (elapsed : Option Nat) :
    KeepsMeters registry (registry.endEmission signalRef elapsed).1 := by
  rw [Registry.endEmission]
  cases registry.resolve? signalRef with
  | none => exact refl registry
  | some signal =>
      have swept := sweep
        { registry with signals := registry.signals.modify signalRef.index (exited elapsed) }
        signalRef.index
      exact ⟨swept.signals.trans (Arena.reserved_modify _ _ _), swept.slots, swept.peak⟩

theorem beginEmission
    {name : String}
    {signalRef : SignalRef}
    {head : Option Nat}
    (begun : registry.beginEmission name = .ok (after, signalRef, head)) :
    KeepsMeters registry after := by
  rw [Registry.beginEmission] at begun
  split at begun
  · cases begun
  · split at begun
    · cases begun
    · cases begun
      exact ⟨Arena.reserved_modify _ _ _, rfl, rfl⟩

theorem resetTiming (registry : Registry) : KeepsMeters registry registry.resetTiming :=
  ⟨Arena.reserved_map _ _, rfl, rfl⟩

end KeepsMeters

/-! ## What every call does -/

/-- The use is within the peak, and both within the entries set aside. -/
structure Metered (registry : Registry) : Prop where
  signals : registry.signals.size ≤ registry.signals.reserved
  slots : registry.slots.size ≤ registry.peakSlots
  peak : registry.peakSlots ≤ registry.slots.reserved

/-- Each meter goes up to the present use, if that has become larger. -/
structure Raises (before after : Registry) : Prop where
  signals : after.signals.reserved = max before.signals.reserved after.signals.size
  slots : after.slots.reserved = max before.slots.reserved after.slots.size
  peak : after.peakSlots = max before.peakSlots after.slots.size

theorem metered_empty (signals slots : StoragePolicy) : (empty signals slots).Metered :=
  ⟨Nat.zero_le _, Nat.le_refl _, Nat.zero_le _⟩

theorem Metered.raises (metered : before.Metered) (raises : before.Raises after) :
    after.Metered := by
  refine ⟨?_, ?_, ?_⟩
  · rw [raises.signals]
    exact Nat.le_max_right _ _
  · rw [raises.peak]
    exact Nat.le_max_right _ _
  · rw [raises.peak, raises.slots]
    exact max_le_max metered.peak (Nat.le_refl _)

theorem Metered.resetPeak (metered : registry.Metered) : registry.resetPeak.Metered :=
  ⟨metered.signals, Nat.le_refl _, metered.slots.trans metered.peak⟩

/-- A call that inserts nothing leaves the meters where they are. -/
theorem KeepsMeters.raises
    {signals slots : Nat → Nat}
    (keeps : KeepsMeters before after)
    (metered : before.Metered)
    (stocks : Stocks before after signals slots)
    (fewerSignals : ∀ count, signals count ≤ count)
    (fewerSlots : ∀ count, slots count ≤ count) :
    before.Raises after := by
  have signalSize := stocks.signalSize.trans_le (fewerSignals _)
  have slotSize := stocks.slotSize.trans_le (fewerSlots _)
  refine ⟨?_, ?_, ?_⟩
  · rw [keeps.signals, Nat.max_eq_left (signalSize.trans metered.signals)]
  · rw [keeps.slots, Nat.max_eq_left (slotSize.trans (metered.slots.trans metered.peak))]
  · rw [keeps.peak, Nat.max_eq_left (slotSize.trans metered.slots)]

theorem WellFormed.register_raises
    {name : String}
    {description : Option String}
    {priority : Priority}
    {serial : Nat}
    (formed : registry.WellFormed)
    (metered : registry.Metered)
    (registered : registry.register name description priority serial = .ok after) :
    registry.Raises after := by
  rw [Registry.register] at registered
  split at registered
  · cases registered
  · dsimp only at registered
    split at registered
    · cases registered
    next signals inserted =>
      cases registered
      exact ⟨formed.signals_sound.reserved_insert inserted,
        (Nat.max_eq_left (metered.slots.trans metered.peak)).symm,
        (Nat.max_eq_left metered.slots).symm⟩

theorem WellFormed.attach_raises
    {slot : Slot}
    (formed : registry.WellFormed)
    (metered : registry.Metered)
    (attached : registry.attach index slot = .ok after) :
    registry.Raises after := by
  rw [Registry.attach] at attached
  split at attached
  · cases attached
  next position slots inserted =>
    cases attached
    have grown := formed.slots_sound.reserved_insert inserted
    refine ⟨?_, ?_, ?_⟩
    · simp only [relink, Arena.reserved_modify]
      exact (Nat.max_eq_left metered.signals).symm
    · simp only [relink, reserved_thread, size_thread]
      exact grown
    · simp only [relink, size_thread]

end Registry

end SignalDispatch
