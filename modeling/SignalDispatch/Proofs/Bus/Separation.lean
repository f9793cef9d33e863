import SignalDispatch.Proofs.Bus.Disconnection
import SignalDispatch.Proofs.Bus.Requests
import SignalDispatch.Proofs.Registry.Separation

/-!
# Calls on one signal

A call that names a signal, or a slot of it, changes that signal only; if it fails it changes none.
`Bus.ConfinedTo` says so for the registry that the call leaves behind, one lemma for each call.
-/

namespace SignalDispatch.Bus

/-- A bus has the registry that was, but for the signal at one index. -/
def ConfinedTo (registry : Registry) (index : Nat) (after : Bus) : Prop :=
  ∃ next, after.registry = some next ∧ next.WellFormed ∧ registry.Confined next index

variable {bus after : Bus} {registry next : Registry} {index : Nat} {operation : Option Operation}

/-- A call that keeps the registry changes no signal. -/
theorem confinedTo_of_same
    (sane : bus.Sane)
    (present : bus.registry = some registry)
    (same : after.registry = bus.registry) :
    ConfinedTo registry index after :=
  ⟨registry, same.trans present, (sane.registry present).formed, .refl _ _⟩

theorem Shifts.confinedTo
    (shifts : Shifts operation bus after)
    (sane : bus.Sane)
    (stored : after.registry = some next)
    (confined : registry.Confined next index) :
    ConfinedTo registry index after :=
  ⟨next, stored, ((shifts.sane sane).1.registry stored).formed, confined⟩

variable (sane : bus.Sane) (present : bus.registry = some registry)

include sane present

/-! ## One call at a time -/

/-- Registering a signal leaves every signal alone that is registered. -/
theorem register_confinedTo
    (name : String)
    (description : Option String)
    (priority : Priority) :
    ∃ index, registry.signals.get? index = none ∧
      ConfinedTo registry index (bus.register name description priority).bus := by
  have shifts := Shifts.of_register bus none name description priority
  have formed := (sane.registry present).formed
  -- a call that fails leaves every index alone, so any vacant one will do
  have beyond := registry.signals.get?_eq_none_of_reserved_le (Nat.le_refl _)
  rw [register, withRegistry_of_some present] at shifts ⊢
  cases accepted : bus.backend.acceptName name with
  | error fault => exact ⟨_, beyond, confinedTo_of_same sane present rfl⟩
  | ok kept =>
      rw [accepted] at shifts
      cases registered : registry.register kept description priority bus.nextSerial with
      | error fault =>
          simp only [bind, Except.bind, registered]
          exact ⟨_, beyond, confinedTo_of_same sane present rfl⟩
      | ok next =>
          simp only [bind, Except.bind, registered] at shifts ⊢
          rcases formed.register_confined registered with ⟨index, vacant, confined⟩
          exact ⟨index, vacant, shifts.confinedTo sane rfl confined⟩

theorem unregister_confinedTo
    {name : String}
    (found : registry.find? name = some index) :
    ConfinedTo registry index (bus.unregister name).bus := by
  have shifts := Shifts.of_unregister bus name
  have formed := (sane.registry present).formed
  rw [unregister, withRegistry_of_some present] at shifts ⊢
  cases done : registry.unregister name with
  | error fault => exact confinedTo_of_same sane present rfl
  | ok result =>
      rw [done] at shifts
      rcases formed.unregister done with ⟨other, signal, registered, named, drops, _⟩
      have same : registry.find? name = some other :=
        (formed.find?_eq_some_iff _ _).mpr ⟨signal, registered, named⟩
      rw [found, Option.some.injEq] at same
      subst same
      exact shifts.confinedTo sane rfl (drops.confined formed)

theorem connect_confinedTo
    {name : String}
    (found : registry.find? name = some index)
    (callback : RoutineId)
    (context : Option Context)
    (priority : Option Priority) :
    ConfinedTo registry index (bus.connect name callback context priority).bus := by
  have shifts := Shifts.of_connect bus none name callback context priority
  rcases connect_cases name callback context priority bus with
    kept | ⟨other, place, _, next, there, named, attached, stored, _⟩
  · exact confinedTo_of_same sane present kept
  · rw [present, Option.some.injEq] at there
    subst there
    rw [found, Option.some.injEq] at named
    subst named
    rcases sane.attaches_slotFor present found attached with ⟨position, attaches⟩
    exact shifts.confinedTo sane stored (attaches.confined (sane.registry present).formed)

theorem retire_confinedTo
    {accepts : Slot → Bool}
    {released : List Slot}
    (removed : registry.removeFirst index accepts = some (next, released)) :
    ConfinedTo registry index (bus.setRegistry next) := by
  have formed := (sane.registry present).formed
  rw [Registry.removeFirst, Option.map_eq_some_iff] at removed
  rcases removed with ⟨position, first, retired⟩
  have same : next = (registry.retire index position).1 := by rw [retired]
  subst same
  rcases (formed.retires first).confined formed with ⟨confined, formedAfter⟩
  exact ⟨_, rfl, formedAfter, confined⟩

theorem disconnect_confinedTo
    {name : String}
    (found : registry.find? name = some index)
    (callback : RoutineId) :
    ConfinedTo registry index (bus.disconnect name callback).bus := by
  have located := (lookup_eq_ok_iff _ _ _).mpr found
  rw [disconnect, withRegistry_of_some present, located]
  dsimp only
  cases removed : registry.removeFirst index fun slot => slot.callback == callback with
  | none => exact confinedTo_of_same sane present rfl
  | some result => exact retire_confinedTo sane present removed

/-- The signal that a handle concerns is the one whose chain holds the slot. -/
theorem disconnectHandle_confinedTo
    {slot : Slot}
    (member : slot ∈ registry.contents index) :
    ConfinedTo registry index (bus.disconnectHandle slot.handle).bus := by
  have formed := (sane.registry present).formed
  rw [disconnectHandle]
  split
  · rw [withRegistry_of_some present]
    cases removed : registry.removeHandle slot.handle with
    | none => exact confinedTo_of_same sane present rfl
    | some result =>
        rw [Registry.removeHandle, Option.bind_eq_some_iff] at removed
        rcases removed with ⟨owner, owned, removed⟩
        rcases Registry.owner?_eq_some_contents owned with ⟨_, _, other, among, _, same⟩
        rw [formed.index_eq_of_handle among member same] at removed
        exact retire_confinedTo sane present removed
  · exact confinedTo_of_same sane present rfl

theorem disconnectAll_confinedTo
    {name : String}
    (found : registry.find? name = some index) :
    ConfinedTo registry index (bus.disconnectAll name).bus := by
  have formed := (sane.registry present).formed
  have located := (lookup_eq_ok_iff _ _ _).mpr found
  rcases (formed.retiresAll found).confined formed with ⟨confined, formedAfter⟩
  rw [disconnectAll, withRegistry_of_some present, located]
  exact ⟨_, rfl, formedAfter, confined⟩

/-- An emission that enters its signal. -/
theorem beginEmission_confinedTo
    {name : String}
    {signalRef : SignalRef}
    {head : Option Nat}
    (begun : registry.beginEmission name = .ok (next, signalRef, head))
    (stored : after.registry = some next) :
    ConfinedTo registry signalRef.index after := by
  rcases (sane.registry present).formed.beginEmission begun with ⟨_, _, _, adjusts, formedAfter⟩
  exact ⟨next, stored, formedAfter, adjusts.confined⟩

end SignalDispatch.Bus
