import SignalDispatch.Proofs.Bus.Invariant

/-!
# Requests to connect, check by check

A request to connect is rejected by the first check that fails, and otherwise its slot is attached.
`Bus.connect_cases` tells the two apart; the lemmas before it say which check is which.
-/

namespace SignalDispatch.Bus

variable {bus : Bus} {registry next : Registry} {index : Nat} {declared : Priority} {fault : Fault}
  (name : String) (callback : RoutineId) (context : Option Context) (priority : Option Priority)

/-- A request that is rejected: the bus is as it was, and the context is let go of. -/
def rejection (bus : Bus) (context : Option Context) (fault : Fault) : Effect where
  bus := bus
  released := context.toList
  result := .error fault

/-- The slot of an accepted request; without a priority of its own it takes the declared one. -/
def slotFor
    (bus : Bus)
    (callback : RoutineId)
    (context : Option Context)
    (priority : Option Priority)
    (declared : Priority) :
    Slot where
  handle := ⟨bus.nextHandle⟩
  callback := callback
  context := context
  priority := priority.getD declared

theorem connect_of_none (absent : bus.registry = none) :
    bus.connect name callback context priority = bus.rejection context Fault.notInitialized := by
  rw [connect, absent]
  rfl

theorem connect_of_unknown
    (present : bus.registry = some registry)
    (unknown : registry.find? name = none) :
    bus.connect name callback context priority = bus.rejection context (.notFound name) := by
  simp only [connect, present, bind, Except.bind, Registry.lookup, unknown]
  rfl

theorem connect_of_refused
    (present : bus.registry = some registry)
    (found : registry.find? name = some index)
    (refused : registry.grant index bus.maxSlots = .error fault) :
    bus.connect name callback context priority = bus.rejection context fault := by
  have located := (lookup_eq_ok_iff _ _ _).mpr found
  simp only [connect, present, bind, Except.bind, located, refused]
  rfl

/-- Storage that goes back on its word rejects a slot after the handle was drawn. -/
theorem connect_of_unattached
    (present : bus.registry = some registry)
    (found : registry.find? name = some index)
    (granted : registry.grant index bus.maxSlots = .ok declared)
    (unattached :
      registry.attach index (bus.slotFor callback context priority declared) = .error fault) :
    bus.connect name callback context priority =
      { bus with nextHandle := bus.nextHandle + 1 }.rejection context fault := by
  have located := (lookup_eq_ok_iff _ _ _).mpr found
  rw [slotFor] at unattached
  rw [connect, present]
  simp only [bind, Except.bind, located, granted, pure, Except.pure]
  rw [unattached, rejection, ← present]

theorem connect_of_attached
    (present : bus.registry = some registry)
    (found : registry.find? name = some index)
    (granted : registry.grant index bus.maxSlots = .ok declared)
    (attached :
      registry.attach index (bus.slotFor callback context priority declared) = .ok next) :
    (bus.connect name callback context priority).bus =
        { bus with nextHandle := bus.nextHandle + 1 }.setRegistry next ∧
      (bus.connect name callback context priority).released = [] ∧
      (bus.connect name callback context priority).result = .ok (.connected ⟨bus.nextHandle⟩) := by
  have located := (lookup_eq_ok_iff _ _ _).mpr found
  rw [slotFor] at attached
  rw [connect, present]
  simp only [bind, Except.bind, located, granted, pure, Except.pure]
  rw [attached]
  exact ⟨rfl, rfl, rfl⟩

/-- A request keeps the registry, or attaches its slot. -/
theorem connect_cases (bus : Bus) :
    (bus.connect name callback context priority).bus.registry = bus.registry ∨
      ∃ registry index declared next, bus.registry = some registry ∧
        registry.find? name = some index ∧
        registry.attach index (bus.slotFor callback context priority declared) = .ok next ∧
        (bus.connect name callback context priority).bus.registry = some next ∧
        (bus.connect name callback context priority).result =
          .ok (.connected ⟨bus.nextHandle⟩) := by
  cases present : bus.registry with
  | none =>
      rw [connect_of_none name callback context priority present]
      exact Or.inl present
  | some registry =>
      cases found : registry.find? name with
      | none =>
          rw [connect_of_unknown name callback context priority present found]
          exact Or.inl present
      | some index =>
          cases granted : registry.grant index bus.maxSlots with
          | error fault =>
              rw [connect_of_refused name callback context priority present found granted]
              exact Or.inl present
          | ok declared =>
              cases attached :
                  registry.attach index (bus.slotFor callback context priority declared) with
              | error fault =>
                  rw [connect_of_unattached name callback context priority present found granted
                    attached]
                  exact Or.inl present
              | ok next =>
                  rcases connect_of_attached name callback context priority present found granted
                    attached with ⟨moved, _, result⟩
                  refine Or.inr ⟨registry, index, declared, next, rfl, found, attached, ?_, result⟩
                  rw [moved]
                  rfl

variable {name callback context priority}

/-- The slot of a request is attached with the latest handle. -/
theorem Sane.attaches_slotFor
    (sane : bus.Sane)
    (present : bus.registry = some registry)
    (found : registry.find? name = some index)
    (attached :
      registry.attach index (bus.slotFor callback context priority declared) = .ok next) :
    ∃ position,
      Registry.Attaches registry next index (bus.slotFor callback context priority declared)
        position := by
  have latest := @sane.handles
  simp only [slotAt_of_some present] at latest
  rcases Registry.signalAt_of_find? found with ⟨signal, registered, _⟩
  exact ((sane.registry present).formed.attach registered rfl (fun _ _ stored => latest stored)
    attached).2

end SignalDispatch.Bus
