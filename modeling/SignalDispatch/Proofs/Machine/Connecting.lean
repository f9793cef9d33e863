import SignalDispatch.Proofs.Bus.Connecting
import SignalDispatch.Proofs.Machine.Representation
import SignalDispatch.Proofs.Machine.Sparing

/-!
# The exact outcome of a connection

In every reachable state, at rest or in the middle of any number of emissions, a request to connect
comes to what the chains say: tombstones do not count against the cap of their signal, but they keep
their entries of a pool until the last emission of the signal is over.
-/

namespace SignalDispatch.Machine

/-- What there is room for in a pool of slots. -/
structure RoomOf (bus : Bus) (registry : Registry) (capacity : Nat) : Prop where
  /-- As many requests as there are entries without a linked slot find an entry. -/
  room :
    ∀ requests, registry.linkedSlots + requests.length ≤ capacity →
      bus.Accommodates capacity requests
  /-- All entries are there again once every slot has been removed and swept. -/
  regained :
    (∀ index, registry.liveSlots index = 0) →
      (∀ index signal, registry.signals.get? index = some signal → signal.emitting = 0) →
        ∀ requests, requests.length ≤ capacity → bus.Accommodates capacity requests

/-- In every reachable state a request to connect comes to exactly what the chains decide. -/
theorem connect_exact
    {machine : Machine}
    (reachable : Reachable machine)
    (plain : Bus.PlainStorage machine.world.bus.backend) :
    (∀ name callback context priority,
        machine.world.bus.ConnectsExactly name callback context priority
          (machine.world.bus.connect name callback context priority)) ∧
      ∀ signals capacity registry, machine.world.bus.backend = .pool signals capacity →
        machine.world.bus.registry = some registry →
          RoomOf machine.world.bus registry capacity := by
  have sane := reachable.coherent.sane
  have housed := reachable.housed
  refine ⟨fun name callback context priority =>
    Bus.connectsExactly name callback context priority plain sane housed, ?_⟩
  intro signals capacity registry pool present
  have room (requests : List Bus.ConnectRequest) :=
    Bus.accommodates_of_room requests pool sane housed present
  refine ⟨room, ?_⟩
  intro removed idle requests few
  refine room requests ?_
  rw [(sane.registry present).linkedSlots_eq_zero removed idle, Nat.zero_add]
  exact few

/-- A pool of two slots, both linked: the first is a tombstone of the emission in progress. -/
def pooledEmitting : Machine :=
  (step selfRemoving)^[4]
    ((initial (.pool 1 2) {}).play selfRemoving 8
        [.init, .register "signal" none none, .connect "signal" 0 none none .nowhere,
          .connect "signal" 1 none none .nowhere]
      |>.play selfRemoving 0 [.emit ⟨"signal", .void⟩])

theorem reachable_pooledEmitting : Reachable pooledEmitting :=
  Reachable.reaches ⟨.pool 1 2, {}, (reaches_play _ _ _ _).trans (reaches_play _ _ _ _)⟩
    (.iterate selfRemoving _ 4)

/-- The tombstone keeps the pool full, although its signal has one live slot only. -/
theorem connect_exact_pooledEmitting :
    pooledEmitting.walks.length = 1 ∧
      (pooledEmitting.world.bus.registry.map fun registry =>
        (registry.liveSlots 0, registry.linkedSlots)) = some (1, 2) ∧
      (∀ name callback context priority,
        pooledEmitting.world.bus.ConnectsExactly name callback context priority
          (pooledEmitting.world.bus.connect name callback context priority)) ∧
      ∀ registry, pooledEmitting.world.bus.registry = some registry →
        RoomOf pooledEmitting.world.bus registry 2 := by
  have exact := connect_exact reachable_pooledEmitting (Or.inr ⟨1, 2, by decide +kernel⟩)
  exact ⟨by decide +kernel, by decide +kernel, exact.1,
    fun registry => exact.2 1 2 registry (by decide +kernel)⟩

end SignalDispatch.Machine
