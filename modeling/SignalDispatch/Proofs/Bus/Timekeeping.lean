import SignalDispatch.Proofs.Machine.Coherence

/-!
# What is recorded of a registration

A registration begins without any emission recorded.  Only an emission that leaves it, if it was
timed, adds to what is recorded, and only the call that forgets all timing takes it back; every other
change of the registry leaves the timing of every registration as it was.

`Registry.Stamps` states this of a change of the registry, and `Bus.Recorded` follows one
registration through the calls on a bus.
-/

namespace SignalDispatch

/-- The timing after an emission that left, which may have been timed. -/
def Timing.stamped (timing : Timing) : Option Nat → Timing
  | none => timing
  | some elapsed => timing.record elapsed

theorem Timing.emissions_stamped (timing : Timing) (elapsed : Option Nat) :
    (timing.stamped elapsed).emissions =
      timing.emissions + if elapsed.isSome then 1 else 0 := by
  cases elapsed <;> rfl

namespace Registry

/-- Every registration after a change was there before, with its timing stamped, or it is new and
nothing is recorded of it. -/
def Stamps (stamp : Nat → Timing → Timing) (before after : Registry) : Prop :=
  ∀ index signal, after.signalAt index = some signal →
    (∃ earlier, before.signalAt index = some earlier ∧ signal.serial = earlier.serial ∧
        signal.timing = stamp index earlier.timing) ∨
      before.signalAt index = none ∧ signal.timing = Timing.zero

namespace Stamps

variable {before middle after : Registry} {index : Nat} {stamp : Nat → Timing → Timing}

theorem refl (registry : Registry) : Stamps (fun _ => id) registry registry :=
  fun _ signal found => Or.inl ⟨signal, found, rfl, rfl⟩

/-- Changing signals in place stamps them. -/
theorem of_map
    {change : Nat → Signal → Signal}
    (signals : ∀ other, after.signalAt other = (before.signalAt other).map (change other))
    (serials : ∀ other signal, (change other signal).serial = signal.serial)
    (timings : ∀ other signal, (change other signal).timing = stamp other signal.timing) :
    Stamps stamp before after := by
  intro other signal found
  rw [signals] at found
  rcases Option.map_eq_some_iff.mp found with ⟨earlier, there, rfl⟩
  exact Or.inl ⟨earlier, there, serials other earlier, timings other earlier⟩

/-- A change of one signal that keeps its timing, after another change. -/
theorem keep
    {change : Signal → Signal}
    (stamps : Stamps stamp before middle)
    (signals :
      ∀ other,
        after.signalAt other =
          if index = other then (middle.signalAt other).map change else middle.signalAt other)
    (serials : ∀ signal, (change signal).serial = signal.serial)
    (timings : ∀ signal, (change signal).timing = signal.timing) :
    Stamps stamp before after := by
  intro other signal found
  rw [signals] at found
  split at found
  · rcases Option.map_eq_some_iff.mp found with ⟨between, there, rfl⟩
    rw [serials, timings]
    exact stamps other between there
  · exact stamps other signal found

end Stamps

variable {registry after : Registry} {index : Nat}

theorem WellFormed.register_stamps
    {name : String}
    {description : Option String}
    {priority : Priority}
    {serial : Nat}
    (formed : registry.WellFormed)
    (registered : registry.register name description priority serial = .ok after) :
    Stamps (fun _ => id) registry after := by
  rcases register_spec formed registered with ⟨_, _, _, _, place, vacant, signals⟩
  intro other signal found
  rw [signalAt, signals] at found
  split at found
  next same =>
    subst same
    obtain rfl := Option.some.inj found
    refine Or.inr ⟨?_, rfl⟩
    rw [signalAt, vacant]
    rfl
  next => exact Or.inl ⟨signal, found, rfl, rfl⟩

theorem WellFormed.unregister_stamps
    {name : String}
    {released : List Slot}
    (formed : registry.WellFormed)
    (done : registry.unregister name = .ok (after, released)) :
    Stamps (fun _ => id) registry after := by
  rcases formed.unregister done with ⟨place, _, _, _, drops, _⟩
  intro other signal found
  rw [drops.signals] at found
  split at found
  · cases found
  · exact Or.inl ⟨signal, found, rfl, rfl⟩

theorem Sane.attach_stamps
    {name : String}
    {slot : Slot}
    (sane : registry.Sane)
    (located : registry.find? name = some index)
    (live : slot.removed = false)
    (latest :
      ∀ position other, contentAt registry.slots position = some other →
        other.handle.number < slot.handle.number)
    (attached : registry.attach index slot = .ok after) :
    Stamps (fun _ => id) registry after := by
  rcases signalAt_of_find? located with ⟨signal, registered, _⟩
  rcases (sane.formed.attach registered live latest attached).2 with ⟨position, attaches⟩
  exact (Stamps.refl registry).keep attaches.signals (fun _ => rfl) fun _ => rfl

theorem Retires.stamps
    {kept gone : List Nat}
    {left marked : Signal → Signal}
    (retires : Retires registry after index kept gone left marked)
    (serials : ∀ signal, (left signal).serial = signal.serial ∧
      (marked signal).serial = signal.serial)
    (timings : ∀ signal, (left signal).timing = signal.timing ∧
      (marked signal).timing = signal.timing) :
    Stamps (fun _ => id) registry after := by
  have same := Stamps.refl registry
  cases retires with
  | idle _ _ detaches =>
    exact same.keep detaches.signals (fun signal => (serials signal).1)
      fun signal => (timings signal).1
  | busy _ _ buries =>
    exact same.keep buries.signals (fun signal => (serials signal).2)
      fun signal => (timings signal).2

theorem WellFormed.beginEmission_stamps
    {name : String}
    {signalRef : SignalRef}
    {head : Option Nat}
    (formed : registry.WellFormed)
    (begun : registry.beginEmission name = .ok (after, signalRef, head)) :
    Stamps (fun _ => id) registry after := by
  refine .of_map (formed.beginEmission begun).2.2.2.1.signals ?_ ?_
  all_goals
    intro other signal
    rw [onlyAt]
    split <;> rfl

/-- An emission that leaves stamps the registration that it entered, the sweep stamps none. -/
theorem WellFormed.endEmission_stamps
    {signalRef : SignalRef}
    {signal : Signal}
    (formed : registry.WellFormed)
    (resolved : registry.resolve? signalRef = some signal)
    (elapsed : Option Nat) :
    Stamps (fun index timing => if signalRef.index = index then timing.stamped elapsed else timing)
      registry (registry.endEmission signalRef elapsed).1 := by
  rcases formed.endEmission resolved elapsed with ⟨left, adjusts, formedLeft, present, ended⟩
  have lowered :
      Stamps
        (fun index timing => if signalRef.index = index then timing.stamped elapsed else timing)
        registry left := by
    refine .of_map adjusts.signals ?_ ?_
    · intro other signal
      rw [onlyAt]
      split <;> rfl
    · intro other signal
      rw [onlyAt]
      split
      · cases elapsed <;> rfl
      · rfl
  rw [ended]
  by_cases due : (exited elapsed signal).emitting = 0 ∧ 0 < (exited elapsed signal).tombstones
  · exact lowered.keep (formedLeft.sweep present due).1.signals (fun _ => rfl) fun _ => rfl
  · rw [sweep_of_not present due]
    exact lowered

end Registry

namespace Bus

variable {bus before after : Bus} {signalRef other : SignalRef} {timing : Timing}

/-- A registration is there, with this timing. -/
def Recorded (bus : Bus) (signalRef : SignalRef) (timing : Timing) : Prop :=
  ∃ signal, bus.signalAt signalRef.index = some signal ∧ signal.serial = signalRef.serial ∧
    signal.timing = timing

theorem Recorded.resolves (recorded : bus.Recorded signalRef timing) : bus.Resolves signalRef := by
  rcases recorded with ⟨signal, found, serial, _⟩
  exact ⟨signal, found, serial⟩

theorem Resolves.recorded (resolves : bus.Resolves signalRef) :
    ∃ timing, bus.Recorded signalRef timing := by
  rcases resolves with ⟨signal, found, serial⟩
  exact ⟨signal.timing, signal, found, serial, rfl⟩

theorem Recorded.unique
    {timing' : Timing}
    (recorded : bus.Recorded signalRef timing)
    (recorded' : bus.Recorded signalRef timing') :
    timing = timing' := by
  rcases recorded with ⟨signal, found, _, rfl⟩
  rcases recorded' with ⟨signal', found', _, rfl⟩
  rw [Option.some.inj (found.symm.trans found')]

/-- What is recorded of a registration after a change of the registry. -/
theorem Recorded.of_stamps
    {registry next : Registry}
    {stamp : Nat → Timing → Timing}
    (present : before.registry = some registry)
    (replaced : after.registry = some next)
    (stamps : Registry.Stamps stamp registry next)
    (recorded : after.Recorded signalRef timing) :
    (∃ earlier, before.Recorded signalRef earlier ∧ timing = stamp signalRef.index earlier) ∨
      ¬ before.Resolves signalRef ∧ timing = Timing.zero := by
  rcases recorded with ⟨signal, found, serial, rfl⟩
  rw [signalAt_of_some replaced] at found
  rcases stamps _ _ found with ⟨earlier, there, same, stamped⟩ | ⟨vacant, zero⟩
  · refine Or.inl ⟨earlier.timing, ⟨earlier, ?_, same.symm.trans serial, rfl⟩, stamped⟩
    rw [signalAt_of_some present]
    exact there
  · refine Or.inr ⟨?_, zero⟩
    rintro ⟨earlier, there, _⟩
    rw [signalAt_of_some present, vacant] at there
    cases there

theorem not_recorded_of_none (absent : bus.registry = none) : ¬ bus.Recorded signalRef timing :=
  fun recorded => not_resolves_of_none absent signalRef recorded.resolves

/-- A call keeps what is recorded of a registration unless it forgets all timing, and records
nothing of a registration that it makes. -/
theorem Shifts.recorded
    {operation : Option Operation}
    (shifts : Shifts operation before after)
    (sane : before.Sane)
    (kept : operation ≠ some .resetTiming)
    (recorded : after.Recorded signalRef timing) :
    before.Recorded signalRef timing ∨ ¬ before.Resolves signalRef ∧ timing = Timing.zero := by
  have stamped
      {registry next : Registry}
      (present : before.registry = some registry)
      (replaced : after.registry = some next)
      (stamps : Registry.Stamps (fun _ => id) registry next) :
      before.Recorded signalRef timing ∨
        ¬ before.Resolves signalRef ∧ timing = Timing.zero := by
    rcases recorded.of_stamps present replaced stamps with ⟨earlier, there, rfl⟩ | new
    · exact Or.inl there
    · exact Or.inr new
  cases shifts with
  | keep same =>
    refine Or.inl ?_
    rw [Recorded, signalAt_congr same.symm]
    exact recorded
  | init absent =>
    refine Or.inr ⟨not_resolves_of_none absent signalRef, ?_⟩
    rcases recorded with ⟨signal, found, _⟩
    rw [signalAt_of_some rfl, Backend.registry, Registry.signalAt_empty] at found
    cases found
  | cleanup absent => exact absurd recorded (not_recorded_of_none absent)
  | register present registered =>
    exact stamped present rfl ((sane.registry present).formed.register_stamps registered)
  | unregister present done =>
    exact stamped present rfl ((sane.registry present).formed.unregister_stamps done)
  | connect present located issued live attached =>
    refine stamped present rfl ((sane.registry present).attach_stamps located live ?_ attached)
    intro position other found
    have latest := @sane.handles
    simp only [slotAt_of_some present] at latest
    rw [issued]
    exact latest found
  | retire present first =>
    have retires := (sane.registry present).formed.retires first
    exact stamped present rfl (retires.stamps (fun _ => ⟨rfl, rfl⟩) fun _ => ⟨rfl, rfl⟩)
  | retireAll present located =>
    have retires := (sane.registry present).formed.retiresAll located
    exact stamped present rfl (retires.stamps (fun _ => ⟨rfl, rfl⟩) fun _ => ⟨rfl, rfl⟩)
  | resetTiming => exact absurd rfl kept
  | resetPeak present => exact stamped present rfl (.refl _)

/-- Forgetting all timing forgets that of every registration. -/
theorem recorded_resetTiming (recorded : bus.resetTiming.bus.Recorded signalRef timing) :
    timing = Timing.zero := by
  rcases recorded with ⟨signal, found, _, rfl⟩
  cases present : bus.registry with
  | none =>
    rw [signalAt_of_none] at found
    · cases found
    · rw [resetTiming, present]
      rfl
  | some registry =>
    have replaced : bus.resetTiming.bus.registry = some registry.resetTiming := by
      rw [resetTiming, present]
      rfl
    rw [signalAt_of_some replaced, Registry.signalAt, Registry.resetTiming, Arena.get?_map,
      Option.map_map, Option.map_eq_some_iff] at found
    rcases found with ⟨_, _, rfl⟩
    rfl

/-- An emission that enters a signal records nothing. -/
theorem Recorded.of_beginEmission
    {registry next : Registry}
    {name : String}
    {head : Option Nat}
    (sane : before.Sane)
    (present : before.registry = some registry)
    (begun : registry.beginEmission name = .ok (next, other, head))
    (replaced : after.registry = some next)
    (recorded : after.Recorded signalRef timing) :
    before.Recorded signalRef timing ∨ ¬ before.Resolves signalRef ∧ timing = Timing.zero := by
  have formed := (sane.registry present).formed
  rcases recorded.of_stamps present replaced (formed.beginEmission_stamps begun) with
    ⟨_, there, rfl⟩ | new
  · exact Or.inl there
  · exact Or.inr new

/-- An emission that leaves records its time with the registration that it entered, and with no
other one that has its index by now. -/
theorem Recorded.of_leaving
    {elapsed : Option Nat}
    (sane : bus.Sane)
    (recorded : (bus.leaving other elapsed).Recorded signalRef timing) :
    (∃ earlier, bus.Recorded signalRef earlier ∧
        timing = if other = signalRef then earlier.stamped elapsed else earlier) ∨
      ¬ bus.Resolves signalRef ∧ timing = Timing.zero := by
  rw [Bus.leaving] at recorded
  cases present : bus.registry with
  | none =>
    rw [present] at recorded
    exact absurd recorded (not_recorded_of_none present)
  | some registry =>
    rw [present] at recorded
    cases resolved : registry.resolve? other with
    | none =>
      dsimp only at recorded
      rw [registry.endEmission_of_resolve?_eq_none other elapsed resolved] at recorded
      have there : bus.Recorded signalRef timing := by
        rw [Recorded, signalAt_of_some present]
        exact recorded
      refine Or.inl ⟨timing, there, (if_neg ?_).symm⟩
      rintro rfl
      have found := (resolves_iff present other).mp there.resolves
      rw [resolved] at found
      cases found
    | some signal =>
      have stamps := (sane.registry present).formed.endEmission_stamps resolved elapsed
      rcases recorded.of_stamps present rfl stamps with ⟨earlier, there, rfl⟩ | new
      · refine Or.inl ⟨earlier, there, ?_⟩
        -- at one index only one registration is resolved
        have one : other.index = signalRef.index ↔ other = signalRef := by
          constructor
          · intro same
            rcases there with ⟨stored, found, serial, _⟩
            rcases (Registry.resolve?_eq_some_iff _ _ _).mp resolved with ⟨held, serial'⟩
            rw [signalAt_of_some present, ← same, Registry.signalAt_of_get? held] at found
            obtain rfl := Option.some.inj found
            cases other
            cases signalRef
            exact congrArg₂ SignalRef.mk same (serial'.symm.trans serial)
          · rintro rfl
            rfl
        simp only [one]
      · exact Or.inr new

end Bus

end SignalDispatch
