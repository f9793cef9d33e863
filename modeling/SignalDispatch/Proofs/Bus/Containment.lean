import SignalDispatch.Proofs.Bus.Housing
import SignalDispatch.Proofs.Bus.Invariant

/-!
# What calls leave alone

Every call has its own business on the bus, and `Bus.Contains` says what is not: storage policies,
handles and waiting interrupts stay as they are, and if the call fails everything does, up to the
serial that a registration draws in vain.  There is one lemma for each call.

Two calls are different.  A cleanup empties the interrupt queue, and it never fails.  A connection
draws a handle if it is accepted; if it is rejected it gives its context back, and on reliable
storage that is all it does.
-/

namespace SignalDispatch.Bus

/-- Nothing of a bus has changed but the serial of the next registration and the count of hook
calls. -/
structure Undisturbed (before after : Bus) : Prop where
  same : after = { before with nextSerial := after.nextSerial, hook := after.hook }
  nextSerial : before.nextSerial ≤ after.nextSerial
  hook : after.hook.map Hook.routine = before.hook.map Hook.routine

namespace Undisturbed

theorem refl (bus : Bus) : Undisturbed bus bus :=
  ⟨rfl, Nat.le_refl _, rfl⟩

theorem trans
    {before middle after : Bus}
    (first : Undisturbed before middle)
    (second : Undisturbed middle after) :
    Undisturbed before after := by
  refine ⟨?_, first.nextSerial.trans second.nextSerial, second.hook.trans first.hook⟩
  have moved := second.same
  rw [first.same] at moved
  exact moved

end Undisturbed

/-- What a call that is neither a cleanup nor a connection leaves alone. -/
structure Contains (bus : Bus) (effect : Effect) : Prop where
  backend : effect.bus.backend = bus.backend
  nextHandle : effect.bus.nextHandle = bus.nextHandle
  interrupts : effect.bus.interrupts = bus.interrupts
  /-- An answer is not a fault. -/
  succeeds : ∀ answer, effect.result = .ok answer → answer.fault? = none
  /-- A call that fails leaves everything alone. -/
  fails :
    ∀ fault, effect.result = .error fault → bus.Undisturbed effect.bus ∧ effect.released = []

variable (bus : Bus)

/-! ## Calls in general -/

theorem contains_failing (fault : Fault) : bus.Contains (bus.failing fault) where
  backend := rfl
  nextHandle := rfl
  interrupts := rfl
  succeeds := by
    intro answer answered
    cases answered
  fails := by
    intro _ _
    exact ⟨.refl bus, rfl⟩

variable {bus} in
/-- A call that succeeds. -/
theorem contains_of_ok
    {effect : Effect}
    {answer : Answer}
    (result : effect.result = .ok answer)
    (plain : answer.fault? = none)
    (backend : effect.bus.backend = bus.backend)
    (nextHandle : effect.bus.nextHandle = bus.nextHandle)
    (interrupts : effect.bus.interrupts = bus.interrupts) :
    bus.Contains effect where
  backend := backend
  nextHandle := nextHandle
  interrupts := interrupts
  succeeds := by
    intro other answered
    rw [result] at answered
    cases answered
    exact plain
  fails := by
    intro fault failed
    rw [result] at failed
    cases failed

/-- A call that needs a registry. -/
theorem contains_withRegistry
    {call : Registry → Effect}
    (contains : ∀ registry, bus.registry = some registry → bus.Contains (call registry)) :
    bus.Contains (bus.withRegistry call) := by
  cases present : bus.registry with
  | none =>
      rw [withRegistry_of_none present]
      exact contains_failing bus _
  | some registry =>
      rw [withRegistry_of_some present]
      exact contains registry present

/-! ## One call at a time -/

theorem contains_init : bus.Contains bus.init := by
  rw [init]
  split <;> exact contains_of_ok rfl rfl rfl rfl rfl

theorem contains_register
    (name : String)
    (description : Option String)
    (priority : Priority) :
    bus.Contains (bus.register name description priority) := by
  apply contains_withRegistry
  intro registry _
  -- the serial is drawn before the registration is tried
  have drawn (fault : Fault) :
      bus.Contains ({ bus with nextSerial := bus.nextSerial + 1 }.failing fault) :=
    ⟨rfl, rfl, rfl, (fun _ answered => nomatch answered),
      fun _ _ => ⟨⟨rfl, Nat.le_succ _, rfl⟩, rfl⟩⟩
  cases accepted : bus.backend.acceptName name with
  | error fault => exact drawn fault
  | ok kept =>
      cases registered : registry.register kept description priority bus.nextSerial with
      | error fault =>
          simp only [bind, Except.bind, registered]
          exact drawn fault
      | ok next =>
          simp only [bind, Except.bind, registered]
          exact contains_of_ok rfl rfl rfl rfl rfl

theorem contains_unregister (name : String) : bus.Contains (bus.unregister name) := by
  apply contains_withRegistry
  intro registry _
  cases registry.unregister name with
  | error fault => exact contains_failing bus fault
  | ok result => exact contains_of_ok rfl rfl rfl rfl rfl

theorem contains_disconnect (name : String) (callback : RoutineId) :
    bus.Contains (bus.disconnect name callback) := by
  apply contains_withRegistry
  intro registry _
  cases registry.lookup name with
  | error fault => exact contains_failing bus fault
  | ok index =>
      dsimp only
      cases registry.removeFirst index fun slot => slot.callback == callback with
      | none => exact contains_failing bus _
      | some result => exact contains_of_ok rfl rfl rfl rfl rfl

theorem contains_disconnectHandle (handle : Handle) :
    bus.Contains (bus.disconnectHandle handle) := by
  rw [disconnectHandle]
  split
  · apply contains_withRegistry
    intro registry _
    cases registry.removeHandle handle with
    | none => exact contains_failing bus _
    | some result => exact contains_of_ok rfl rfl rfl rfl rfl
  · exact contains_failing bus _

theorem contains_disconnectAll (name : String) : bus.Contains (bus.disconnectAll name) := by
  apply contains_withRegistry
  intro registry _
  cases registry.lookup name with
  | error fault => exact contains_failing bus fault
  | ok index => exact contains_of_ok rfl rfl rfl rfl rfl

theorem contains_defer (emission : Emission) : bus.Contains (bus.defer emission) := by
  apply contains_withRegistry
  intro registry _
  cases bus.deferred.push emission with
  | error fault => exact contains_failing bus fault
  | ok deferred => exact contains_of_ok rfl rfl rfl rfl rfl

theorem contains_setMaxSlots (limit : Nat) : bus.Contains (bus.setMaxSlots limit) := by
  rw [setMaxSlots]
  split
  · exact contains_failing bus _
  · exact contains_of_ok rfl rfl rfl rfl rfl

theorem contains_timing (name : String) : bus.Contains (bus.timing name) := by
  apply contains_withRegistry
  intro registry _
  cases timing : registry.timing name with
  | error fault =>
      simp only [Except.map]
      exact contains_failing bus fault
  | ok found =>
      simp only [Except.map]
      exact contains_of_ok rfl rfl rfl rfl rfl

theorem contains_memoryStats : bus.Contains bus.memoryStats := by
  apply contains_withRegistry
  intro registry _
  exact contains_of_ok rfl rfl rfl rfl rfl

theorem contains_setSpace (space : Option String) : bus.Contains (bus.setSpace space) :=
  contains_of_ok rfl rfl rfl rfl rfl

theorem contains_setThreadSafe (enabled : Bool) : bus.Contains (bus.setThreadSafe enabled) :=
  contains_of_ok rfl rfl rfl rfl rfl

theorem contains_setProfiling (enabled : Bool) : bus.Contains (bus.setProfiling enabled) :=
  contains_of_ok rfl rfl rfl rfl rfl

theorem contains_setHook (hook : Option RoutineId) : bus.Contains (bus.setHook hook) :=
  contains_of_ok rfl rfl rfl rfl rfl

theorem contains_resetTiming : bus.Contains bus.resetTiming :=
  contains_of_ok rfl rfl rfl rfl rfl

theorem contains_resetPeak : bus.Contains bus.resetPeak :=
  contains_of_ok rfl rfl rfl rfl rfl

/-! ## Cleanups and connections -/

/-- A cleanup succeeds, and interrupts are what it empties. -/
theorem cleanup_contained :
    bus.cleanup.result = .ok .done ∧ bus.cleanup.bus.backend = bus.backend ∧
      bus.cleanup.bus.nextHandle = bus.nextHandle ∧
      (bus.cleanup.bus.interrupts = bus.interrupts ∨
        bus.cleanup.bus.interrupts = bus.interrupts.drain.2) := by
  rw [cleanup]
  cases bus.registry with
  | none => exact ⟨rfl, rfl, rfl, Or.inl rfl⟩
  | some registry => exact ⟨rfl, rfl, rfl, Or.inr rfl⟩

/-- A connection is accepted: the next handle is drawn, and the slot stored at a position that was
vacant. -/
structure Accepts
    (bus : Bus)
    (name : String)
    (callback : RoutineId)
    (context : Option Context)
    (priority : Option Priority)
    (effect : Effect)
    (position : Nat)
    (slot : Slot) :
    Prop where
  /-- Without a priority of its own the slot takes the one its signal declares. -/
  slot_eq :
    ∃ registry index signal,
      bus.registry = some registry ∧ registry.find? name = some index ∧
        registry.signals.get? index = some signal ∧
        slot =
          { handle := ⟨bus.nextHandle⟩
            callback := callback
            context := context
            priority := priority.getD signal.priority }
  vacant : bus.slotAt position = none
  stored :
    ∀ other, effect.bus.slotAt other = if position = other then some slot else bus.slotAt other
  nextHandle : effect.bus.nextHandle = bus.nextHandle + 1
  result : effect.result = .ok (.connected ⟨bus.nextHandle⟩)

/-- A connection leaves the storage policies and the waiting interrupts alone. -/
theorem connect_contained
    (name : String)
    (callback : RoutineId)
    (context : Option Context)
    (priority : Option Priority) :
    (bus.connect name callback context priority).bus.backend = bus.backend ∧
      (bus.connect name callback context priority).bus.interrupts = bus.interrupts := by
  rw [connect]
  split
  · exact ⟨rfl, rfl⟩
  · dsimp only
    split
    · exact ⟨rfl, rfl⟩
    · split <;> exact ⟨rfl, rfl⟩

variable {bus}

/-- On reliable storage a connection is rejected without a trace, or accepted. -/
theorem connect_outcome
    (sane : bus.Sane)
    (housed : bus.Housed)
    (reliable : bus.backend.slots.Reliable)
    (name : String)
    (callback : RoutineId)
    (context : Option Context)
    (priority : Option Priority) :
    (∃ fault, bus.connect name callback context priority =
        { bus := bus, released := context.toList, result := .error fault }) ∨
      ∃ position slot,
        bus.Accepts name callback context priority (bus.connect name callback context priority)
          position slot := by
  cases present : bus.registry with
  | none =>
      rw [connect, present]
      exact Or.inl ⟨_, rfl⟩
  | some registry =>
      have sound := sane.registry present
      have house := housed registry present
      cases located : registry.lookup name with
      | error fault =>
          refine Or.inl ⟨fault, ?_⟩
          simp only [connect, present, bind, Except.bind, located]
      | ok index =>
          have found := (lookup_eq_ok_iff _ _ _).mp located
          rcases Registry.registered_of_find? found with ⟨signal, registered, _⟩
          cases granted : registry.grant index bus.maxSlots with
          | error fault =>
              refine Or.inl ⟨fault, ?_⟩
              simp only [connect, present, bind, Except.bind, located, granted]
          | ok declared =>
              have same : declared = signal.priority := by
                simp only [Registry.grant, registered] at granted
                split at granted
                · cases granted
                · split at granted
                  · cases granted
                  · cases granted
                    rfl
              subst same
              let slot : Slot :=
                { handle := ⟨bus.nextHandle⟩
                  callback := callback
                  context := context
                  priority := priority.getD signal.priority }
              have latest := @sane.handles
              simp only [slotAt_of_some present] at latest
              rw [← house.slots] at reliable
              rcases sound.formed.attach_of_grant reliable granted slot with ⟨next, attached⟩
              rcases sound.formed.attach (Registry.signalAt_of_get? registered) rfl
                (fun _ _ stored => latest stored) attached with ⟨_, position, attaches⟩
              have accepted :
                  bus.connect name callback context priority =
                    { bus := { bus with nextHandle := bus.nextHandle + 1 }.setRegistry next
                      after :=
                        [.debug ("Connected slot " ++ slot.handle.text ++ " to '" ++ name ++ "'")]
                      result := .ok (.connected slot.handle) } := by
                rw [connect, present]
                simp only [bind, Except.bind, located, granted, pure, Except.pure]
                rw [attached]
              rw [accepted]
              refine Or.inr ⟨position, slot, ⟨registry, index, signal, present, found, registered,
                rfl⟩, ?_, ?_, rfl, rfl⟩
              · rw [slotAt_of_some present]
                exact attaches.vacant
              · intro other
                rw [slotAt_of_some present]
                exact (slotAt_of_some rfl other).trans (attaches.slots other)

end SignalDispatch.Bus
