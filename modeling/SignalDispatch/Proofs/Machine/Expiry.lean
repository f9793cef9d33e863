import SignalDispatch.Proofs.Machine.Reachability

/-!
# How a registration ends

Only two calls end a registration: the one that unregisters its name and the cleanup of the bus.
Every other call, and every emission that enters or leaves, keeps all registrations, each one at its
index and with its serial.
-/

namespace SignalDispatch

namespace Registry

/-- Every registration is still there. -/
def Upholds (before after : Registry) : Prop :=
  ∀ index signal, before.signalAt index = some signal →
    ∃ later, after.signalAt index = some later ∧ later.serial = signal.serial

namespace Upholds

variable {before middle after : Registry} {index : Nat}

theorem refl (registry : Registry) : Upholds registry registry :=
  fun _ signal found => ⟨signal, found, rfl⟩

theorem trans (first : Upholds before middle) (second : Upholds middle after) :
    Upholds before after := by
  intro index signal found
  rcases first index signal found with ⟨between, there, serial⟩
  rcases second index between there with ⟨later, present, serial'⟩
  exact ⟨later, present, serial'.trans serial⟩

/-- Changing signals in place upholds them. -/
theorem of_map
    {change : Nat → Signal → Signal}
    (signals : ∀ other, after.signalAt other = (before.signalAt other).map (change other))
    (serials : ∀ other signal, (change other signal).serial = signal.serial) :
    Upholds before after := by
  intro other signal found
  refine ⟨change other signal, ?_, serials other signal⟩
  rw [signals, found]
  rfl

/-- Changing one signal in place upholds all. -/
theorem of_change
    {change : Signal → Signal}
    (signals :
      ∀ other,
        after.signalAt other =
          if index = other then (before.signalAt other).map change else before.signalAt other)
    (serials : ∀ signal, (change signal).serial = signal.serial) :
    Upholds before after := by
  refine @of_map _ _ (onlyAt index change) ?_ ?_
  · intro other
    rw [signals]
    cases before.signalAt other with
    | none => split <;> rfl
    | some signal =>
        rw [Option.map_some, Option.map_some, onlyAt]
        split <;> rfl
  · intro other signal
    rw [onlyAt]
    split
    · exact serials signal
    · rfl

end Upholds

variable {registry after : Registry} {index : Nat}

theorem WellFormed.register_upholds
    {name : String}
    {description : Option String}
    {priority : Priority}
    {serial : Nat}
    (formed : registry.WellFormed)
    (registered : registry.register name description priority serial = .ok after) :
    Upholds registry after := by
  rcases register_spec formed registered with ⟨_, _, _, _, place, vacant, signals⟩
  intro other signal found
  refine ⟨signal, ?_, rfl⟩
  rw [signalAt, signals, if_neg]
  · exact found
  · rintro rfl
    rw [signalAt, vacant] at found
    cases found

theorem Sane.attach_upholds
    {name : String}
    {slot : Slot}
    (sane : registry.Sane)
    (located : registry.find? name = some index)
    (live : slot.removed = false)
    (latest :
      ∀ position other, contentAt registry.slots position = some other →
        other.handle.number < slot.handle.number)
    (attached : registry.attach index slot = .ok after) :
    Upholds registry after := by
  rcases signalAt_of_find? located with ⟨signal, registered, _⟩
  rcases (sane.formed.attach registered live latest attached).2 with ⟨position, attaches⟩
  exact .of_change attaches.signals fun _ => rfl

/-- A removal upholds all registrations. -/
theorem Retires.upholds
    {kept gone : List Nat}
    {left marked : Signal → Signal}
    (retires : Retires before after index kept gone left marked)
    (leaving : ∀ signal, (left signal).serial = signal.serial)
    (marking : ∀ signal, (marked signal).serial = signal.serial) :
    Upholds before after := by
  cases retires with
  | idle _ _ detaches => exact .of_change detaches.signals leaving
  | busy _ _ buries => exact .of_change buries.signals marking

theorem Sane.beginEmission_upholds
    {name : String}
    {signalRef : SignalRef}
    {head : Option Nat}
    (sane : registry.Sane)
    (begun : registry.beginEmission name = .ok (after, signalRef, head)) :
    Upholds registry after := by
  have adjusts := (sane.formed.beginEmission begun).2.2.2.1
  have keeps : Keeps (onlyAt signalRef.index entered) := keeps_onlyAt fun _ => ⟨rfl, rfl, rfl, rfl⟩
  exact .of_map adjusts.signals fun other signal => (keeps other signal).2.1

theorem Sane.endEmission_upholds
    (sane : registry.Sane)
    (signalRef : SignalRef)
    (elapsed : Option Nat) :
    Upholds registry (registry.endEmission signalRef elapsed).1 := by
  cases resolved : registry.resolve? signalRef with
  | none =>
      rw [registry.endEmission_of_resolve?_eq_none _ elapsed resolved]
      exact .refl registry
  | some signal =>
      rcases sane.formed.endEmission resolved elapsed with ⟨left, adjusts, formed, present, ended⟩
      have keeps : Keeps (onlyAt signalRef.index (exited elapsed)) :=
        keeps_onlyAt fun _ => ⟨rfl, rfl, rfl, rfl⟩
      have lowered : Upholds registry left :=
        .of_map adjusts.signals fun other signal => (keeps other signal).2.1
      rw [ended]
      by_cases due :
          (exited elapsed signal).emitting = 0 ∧ 0 < (exited elapsed signal).tombstones
      · exact lowered.trans (.of_change (formed.sweep present due).1.signals fun _ => rfl)
      · rw [sweep_of_not present due]
        exact lowered

end Registry

namespace Bus

variable {before after : Bus} {signalRef : SignalRef}

/-- What upholds the registrations of the registry leaves them resolved. -/
theorem Resolves.upheld
    {registry next : Registry}
    (resolves : before.Resolves signalRef)
    (present : before.registry = some registry)
    (replaced : after.registry = some next)
    (upholds : Registry.Upholds registry next) :
    after.Resolves signalRef := by
  rcases resolves with ⟨signal, found, serial⟩
  rw [signalAt_of_some present] at found
  rcases upholds _ signal found with ⟨later, there, same⟩
  refine ⟨later, ?_, same.trans serial⟩
  rw [signalAt_of_some replaced]
  exact there

/-- A call that ends a registration unregisters its name or cleans up the bus. -/
theorem Shifts.ends
    {operation : Option Operation}
    (sane : before.Sane)
    (shifts : Shifts operation before after)
    (resolves : before.Resolves signalRef)
    (gone : ¬ after.Resolves signalRef) :
    operation = some .cleanup ∨
      ∃ signal, before.signalAt signalRef.index = some signal ∧
        signal.serial = signalRef.serial ∧ operation = some (.unregister signal.name) := by
  cases shifts with
  | keep same =>
      refine absurd ?_ gone
      rw [Resolves, signalAt_congr same]
      exact resolves
  | init absent => exact absurd resolves (not_resolves_of_none absent signalRef)
  | cleanup => exact Or.inl rfl
  | register present registered =>
      exact absurd
        (resolves.upheld present rfl ((sane.registry present).formed.register_upholds registered))
        gone
  | @unregister _ registry next name _ present done =>
      refine Or.inr ?_
      rcases resolves with ⟨signal, found, serial⟩
      refine ⟨signal, found, serial, ?_⟩
      rcases (sane.registry present).formed.unregister done with
        ⟨index, dropped, registered, named, drops, _⟩
      by_cases same : index = signalRef.index
      · subst same
        rw [signalAt_of_some present, registered, Option.some.injEq] at found
        rw [← found, named]
      · refine absurd ⟨signal, ?_, serial⟩ gone
        rw [signalAt_of_some present] at found
        have there : (before.setRegistry next).signalAt signalRef.index =
            next.signalAt signalRef.index :=
          signalAt_of_some rfl _
        rw [there, drops.signals, if_neg same]
        exact found
  | connect present located issued live attached =>
      have latest := @sane.handles
      simp only [slotAt_of_some present] at latest
      refine absurd (resolves.upheld present rfl ?_) gone
      refine (sane.registry present).attach_upholds located live ?_ attached
      intro position other found
      rw [issued]
      exact latest found
  | retire present first =>
      have retires := (sane.registry present).formed.retires first
      have upholds := retires.upholds (fun _ => rfl) fun _ => rfl
      exact absurd (resolves.upheld present rfl upholds) gone
  | retireAll present located =>
      have retires := (sane.registry present).formed.retiresAll located
      have upholds := retires.upholds (fun _ => rfl) fun _ => rfl
      exact absurd (resolves.upheld present rfl upholds) gone
  | resetTiming present =>
      have adjusts := (sane.registry present).formed.resetTiming.1
      exact absurd (resolves.upheld present rfl (.of_map adjusts.signals fun _ _ => rfl)) gone
  | @resetPeak _ registry present =>
      have same : Registry.Upholds registry registry.resetPeak := .refl registry
      exact absurd (resolves.upheld present rfl same) gone

/-- An emission that leaves ends no registration. -/
theorem Resolves.leaving
    {bus : Bus}
    (resolves : bus.Resolves signalRef)
    (sane : bus.Sane)
    (other : SignalRef)
    (elapsed : Option Nat) :
    (bus.leaving other elapsed).Resolves signalRef := by
  rw [Bus.leaving]
  cases present : bus.registry with
  | none => exact resolves
  | some registry =>
      exact resolves.upheld present rfl ((sane.registry present).endEmission_upholds other elapsed)

end Bus

namespace Machine

variable {before after : Machine} {signalRef : SignalRef}

/-- A registration is over after a move only if the move cleans up the bus, or unregisters the
name of the registration. -/
theorem Move.ends
    (move : Move before after)
    (sane : before.world.bus.Sane)
    (resolves : before.world.bus.Resolves signalRef)
    (gone : ¬ after.world.bus.Resolves signalRef) :
    Executes .cleanup before after ∨
      ∃ signal, before.world.bus.signalAt signalRef.index = some signal ∧
        signal.serial = signalRef.serial ∧
        Executes (.unregister signal.name) before after := by
  cases move.onBus with
  | shifts shifts executes =>
      rcases shifts.ends sane resolves gone with cleaned | ⟨signal, found, serial, ended⟩
      · exact Or.inl (executes _ cleaned)
      · exact Or.inr ⟨signal, found, serial, executes _ ended⟩
  | enters present begun replaced =>
      have upholds := (sane.registry present).beginEmission_upholds begun
      exact absurd (resolves.upheld present replaced upholds) gone
  | leaves left =>
      rw [left] at gone
      exact absurd (resolves.leaving sane _ _) gone

end Machine

end SignalDispatch
