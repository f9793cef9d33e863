import SignalDispatch.Proofs.Bus.Shift
import SignalDispatch.Proofs.Registry.Alike

/-!
# Registries in the storage of their bus

A registry is housed on a backend when its arenas have the backend's policies.  The policies never
change, so what the backend promises holds of the registry for good.  The promise that matters is
that a granted reservation is kept: with reliable storage a slot that was granted is attached.
-/

namespace SignalDispatch

/-- Storage that keeps what `reserve` grants. -/
def StoragePolicy.Reliable (policy : StoragePolicy) : Prop :=
  ∀ limit, policy ≠ .rationed limit false

namespace StoragePolicy

theorem reliable_growing : Reliable .growing := by
  intro limit same
  cases same

theorem reliable_pool (capacity : Nat) : Reliable (.pool capacity) := by
  intro limit same
  cases same

end StoragePolicy

/-- A value for which there was room is taken. -/
theorem Arena.Sound.insert_of_reserve
    {α : Type}
    {arena : Arena α}
    (sound : arena.Sound)
    (reliable : arena.policy.Reliable)
    (granted : arena.reserve = .ok ())
    (value : α) :
    ∃ index, arena.insert value = .ok (index, arena.write index value) := by
  cases policy : arena.policy with
  | growing => exact insert_of_growing policy value
  | pool capacity =>
      rcases sound.insert_of_pool policy value with ⟨_, inserted⟩ | ⟨full, _⟩
      · exact inserted
      · rw [reserve, policy] at granted
        dsimp only at granted
        rw [if_neg (Nat.not_lt.mpr full)] at granted
        cases granted
  | rationed limit foretold =>
      cases foretold with
      | false => exact absurd policy (reliable limit)
      | true =>
          have accepts : arena.refuses = false := by
            cases refused : arena.refuses with
            | false => rfl
            | true => simp [reserve, policy, refused] at granted
          refine ⟨arena.vacated.head?.getD arena.entries.length, ?_⟩
          simp [Arena.insert, Arena.vacancy, policy, accepts, Except.map]

namespace Registry

/-- The arenas of a registry have the policies of a backend. -/
structure Housed (registry : Registry) (backend : Backend) : Prop where
  signals : registry.signals.policy = backend.signals
  slots : registry.slots.policy = backend.slots

theorem housed_registry (backend : Backend) : backend.registry.Housed backend :=
  ⟨rfl, rfl⟩

theorem Stocks.housed
    {before after : Registry}
    {signals slots : Nat → Nat}
    {backend : Backend}
    (stocks : Stocks before after signals slots)
    (housed : before.Housed backend) :
    after.Housed backend :=
  ⟨stocks.signalPolicy.trans housed.signals, stocks.slotPolicy.trans housed.slots⟩

/-- A slot that was granted is attached. -/
theorem WellFormed.attach_of_grant
    {registry : Registry}
    {index limit : Nat}
    {declared : Priority}
    (formed : registry.WellFormed)
    (reliable : registry.slots.policy.Reliable)
    (granted : registry.grant index limit = .ok declared)
    (slot : Slot) :
    ∃ after, registry.attach index slot = .ok after := by
  have room : registry.slots.reserve = .ok () := by
    rw [grant] at granted
    split at granted
    · cases granted
    · split at granted
      · cases granted
      · cases reserved : registry.slots.reserve with
        | error fault =>
            rw [reserved] at granted
            cases granted
        | ok => rfl
  rcases formed.slots_sound.insert_of_reserve reliable room slot with ⟨position, inserted⟩
  rw [Registry.attach, inserted]
  exact ⟨_, rfl⟩

end Registry

namespace Bus

/-- The registry of a bus is housed on its backend. -/
def Housed (bus : Bus) : Prop :=
  ∀ registry, bus.registry = some registry → registry.Housed bus.backend

variable {before after : Bus}

theorem housed_of_some
    {registry : Registry}
    (present : after.registry = some registry)
    (housed : registry.Housed after.backend) :
    after.Housed := by
  intro other same
  rw [present, Option.some.injEq] at same
  exact same ▸ housed

theorem housed_of_none (absent : after.registry = none) : after.Housed := by
  intro registry present
  rw [absent] at present
  cases present

theorem Housed.of_same
    (housed : before.Housed)
    (backend : after.backend = before.backend)
    (same : after.registry = before.registry) :
    after.Housed := by
  intro registry present
  rw [same] at present
  rw [backend]
  exact housed registry present

/-- No call rehouses a registry. -/
theorem Shifts.housed
    {operation : Option Operation}
    (shifts : Shifts operation before after)
    (backend : after.backend = before.backend)
    (housed : before.Housed) :
    after.Housed := by
  cases shifts with
  | keep same => exact housed.of_same backend same
  | init => exact housed_of_some rfl (Registry.housed_registry _)
  | cleanup absent => exact housed_of_none absent
  | register present registered =>
      exact housed_of_some rfl ((Registry.register_stocks registered).housed (housed _ present))
  | unregister present removed =>
      exact housed_of_some rfl ((Registry.unregister_stocks removed).housed (housed _ present))
  | connect present _ _ _ attached =>
      exact housed_of_some rfl ((Registry.attach_stocks attached).housed (housed _ present))
  | retire present =>
      exact housed_of_some rfl ((Registry.retire_stocks _ _ _).housed (housed _ present))
  | retireAll present =>
      exact housed_of_some rfl ((Registry.retireAll_stocks _ _).housed (housed _ present))
  | resetTiming present =>
      have house := housed _ present
      exact housed_of_some rfl ⟨house.signals, house.slots⟩
  | resetPeak present =>
      have house := housed _ present
      exact housed_of_some rfl ⟨house.signals, house.slots⟩

end Bus

end SignalDispatch
