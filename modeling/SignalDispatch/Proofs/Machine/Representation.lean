import SignalDispatch.Proofs.Machine.Reachability

/-!
# The representation of a registry

`Registry.Intact` says what the links, flags and counters of a registry mean while some emissions
are in progress.  It holds in every reachable state, so it holds wherever user code runs: in a
callback, in an error hook, while a context is let go of, and while a panic is being unwound.
-/

namespace SignalDispatch

/-- The representation of a registry while `walks` are in progress. -/
structure Registry.Intact (registry : Registry) (walks : List Walk) : Prop where
  /-- Following the links from the head of a signal gives its chain, and comes to an end. -/
  linked :
    ∀ index signal, registry.signals.get? index = some signal →
      Linked registry.slots signal.head (registry.chain index)
  distinct : ∀ index, (registry.chain index).Nodup
  disjoint :
    ∀ left right, left ≠ right → (registry.chain left).Disjoint (registry.chain right)
  /-- The chains together hold the occupied entries of storage. -/
  covered :
    ∀ position, (registry.slots.get? position).isSome ↔
      ∃ index signal, registry.signals.get? index = some signal ∧ position ∈ registry.chain index
  ordered : ∀ index, (registry.slotsOf index).Pairwise Slot.Before
  live_eq :
    ∀ index signal, registry.signals.get? index = some signal →
      signal.live = (registry.slotsOf index).countP fun slot => !slot.removed
  tombstones_eq :
    ∀ index signal, registry.signals.get? index = some signal →
      signal.tombstones = (registry.slotsOf index).countP Slot.removed
  /-- The depth of a signal is the number of emissions of its registration. -/
  emitting_eq :
    ∀ index signal, registry.signals.get? index = some signal →
      signal.emitting = (walks.map Walk.signalRef).count ⟨index, signal.serial⟩
  /-- Only a signal that is being emitted has tombstones. -/
  emitting_pos :
    ∀ index signal, registry.signals.get? index = some signal →
      0 < signal.tombstones → 0 < signal.emitting

namespace Coherent

variable {bus : Bus} {walks : List Walk} {registry : Registry}

/-- The counters of a chain count its slots, links included or not. -/
theorem countP_slotsOf
    (registry : Registry)
    (index : Nat)
    (test : Slot → Bool)
    (same : ∀ slot : Slot, test slot.content = test slot) :
    (registry.slotsOf index).countP test = (registry.contents index).countP test := by
  rw [← Registry.map_content_slotsOf, List.countP_map]
  refine List.countP_congr ?_
  intro slot _
  rw [Function.comp, same]

/-- A bus that agrees with the emissions in progress has an intact registry. -/
theorem intact (coherent : Coherent bus walks) (present : bus.registry = some registry) :
    registry.Intact walks := by
  have formed := (coherent.sane.registry present).formed
  constructor
  · intro index signal stored
    exact formed.chained.linked stored
  · exact formed.chained.distinct
  · intro left right different position inLeft inRight
    exact different (formed.chained.apart inLeft inRight)
  · intro position
    constructor
    · intro occupied
      rw [← Registry.isSome_contentAt] at occupied
      rcases formed.covered occupied with ⟨index, member⟩
      rcases formed.chained.registered member with ⟨signal, stored⟩
      exact ⟨index, signal, stored, member⟩
    · rintro ⟨index, _, _, member⟩
      exact formed.chained.stored member
  · intro index
    have ordered := formed.ordered index
    rw [← Registry.map_content_slotsOf, List.pairwise_map] at ordered
    exact ordered
  · intro index signal stored
    rw [countP_slotsOf registry index (fun slot => !slot.removed) fun _ => rfl]
    have counted := formed.live_eq (Registry.signalAt_of_get? stored)
    exact counted
  · intro index signal stored
    rw [countP_slotsOf registry index Slot.removed fun _ => rfl]
    have counted := formed.tombstones_eq (Registry.signalAt_of_get? stored)
    exact counted
  · intro index signal stored
    have depth := coherent.depths (Bus.signalAt_of_get? present stored)
    exact depth
  · intro index signal stored marked
    rcases Nat.eq_zero_or_pos signal.emitting with idle | busy
    · have view := Registry.signalAt_of_get? stored
      have settled := (coherent.sane.registry present).settled view idle
      rw [Signal.content_tombstones] at settled
      omega
    · exact busy

end Coherent

namespace Machine

/-- In every reachable state the registry is intact, whatever emissions are in progress. -/
theorem reachable_intact
    {machine : Machine}
    {registry : Registry}
    (reachable : Reachable machine)
    (present : machine.world.bus.registry = some registry) :
    registry.Intact machine.walks :=
  reachable.coherent.intact present

/-- The first routine removes the first slot, the second does nothing. -/
def selfRemoving : Program where
  routines :=
    [{ commands := [{ label := "remove", operation := .disconnectHandle (.number 1) }] }, {}]

/-- A signal with a slot for each routine is being entered. -/
def entering : Machine :=
  (initial .heap {}).play selfRemoving 8
    [.init, .register "signal" none none, .connect "signal" 0 none none .nowhere,
      .connect "signal" 1 none none .nowhere]
  |>.play selfRemoving 0 [.emit ⟨"signal", .void⟩]

theorem reachable_entering : Reachable entering :=
  ⟨.heap, {}, (reaches_play _ _ _ _).trans (reaches_play _ _ _ _)⟩

/-- The emission is in the callback of its first slot, which has become a tombstone. -/
def whileEmitting : Machine :=
  (step selfRemoving)^[4] entering

theorem reachable_whileEmitting : Reachable whileEmitting :=
  reachable_entering.reaches (.iterate selfRemoving entering 4)

/-- A registry in the midst of an emission is intact with its tombstone. -/
theorem intact_whileEmitting :
    ∃ registry, whileEmitting.world.bus.registry = some registry ∧
      (registry.slotsOf 0).map Slot.removed = [true, false] ∧
      registry.Intact whileEmitting.walks := by
  have shape :
      whileEmitting.world.bus.registry.map (fun registry =>
        (registry.slotsOf 0).map Slot.removed) = some [true, false] := by
    decide +kernel
  rcases Option.map_eq_some_iff.mp shape with ⟨registry, present, removed⟩
  exact ⟨registry, present, removed, reachable_intact reachable_whileEmitting present⟩

end Machine

end SignalDispatch
