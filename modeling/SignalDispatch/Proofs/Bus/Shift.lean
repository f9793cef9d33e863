import SignalDispatch.Bus.Basic
import SignalDispatch.Operation

/-!
# What a call does to the registry

`Bus.Shifts operation before after` lists everything that a call on a bus can do to its registry
and to the counters that number connections and registrations.  Most calls keep the registry; the
others make one of the changes of `Registry` under the guards that they check.

There is one lemma for each call.  What holds of every shift holds of every call.
-/

namespace SignalDispatch.Bus

/-- A call may use up a handle or a serial; it never gives one back. -/
structure CountsOn (before after : Bus) : Prop where
  nextHandle : before.nextHandle ≤ after.nextHandle
  nextSerial : before.nextSerial ≤ after.nextSerial

theorem CountsOn.refl (bus : Bus) : CountsOn bus bus :=
  ⟨Nat.le_refl _, Nat.le_refl _⟩

/-- The registry and the counters of a bus, before and after an operation. -/
inductive Shifts : Option Operation → Bus → Bus → Prop where
  /-- The registry stays as it was; a number that was drawn may be lost. -/
  | keep {operation : Option Operation} {before after : Bus} :
      after.registry = before.registry →
      CountsOn before after →
      Shifts operation before after
  | init {before : Bus} :
      before.registry = none →
      Shifts (some .init) before (before.setRegistry before.backend.registry)
  | cleanup {before after : Bus} :
      after.registry = none →
      CountsOn before after →
      Shifts (some .cleanup) before after
  | register
      {operation : Option Operation}
      {before : Bus}
      {registry next : Registry}
      {name : String}
      {description : Option String}
      {priority : Priority} :
      before.registry = some registry →
      registry.register name description priority before.nextSerial = .ok next →
      Shifts operation before
        ({ before with nextSerial := before.nextSerial + 1 }.setRegistry next)
  | unregister
      {before : Bus}
      {registry next : Registry}
      {name : String}
      {released : List Slot} :
      before.registry = some registry →
      registry.unregister name = .ok (next, released) →
      Shifts (some (.unregister name)) before (before.setRegistry next)
  | connect
      {operation : Option Operation}
      {before : Bus}
      {registry next : Registry}
      {name : String}
      {index : Nat}
      {slot : Slot} :
      before.registry = some registry →
      registry.find? name = some index →
      slot.handle = ⟨before.nextHandle⟩ →
      slot.removed = false →
      registry.attach index slot = .ok next →
      Shifts operation before
        ({ before with nextHandle := before.nextHandle + 1 }.setRegistry next)
  | retire
      {operation : Option Operation}
      {before : Bus}
      {registry : Registry}
      {index position : Nat}
      {accepts : Slot → Bool} :
      before.registry = some registry →
      registry.firstLive? index accepts = some position →
      Shifts operation before (before.setRegistry (registry.retire index position).1)
  | retireAll
      {operation : Option Operation}
      {before : Bus}
      {registry : Registry}
      {name : String}
      {index : Nat} :
      before.registry = some registry →
      registry.find? name = some index →
      Shifts operation before (before.setRegistry (registry.retireAll index).2.1)
  | resetTiming {before : Bus} {registry : Registry} :
      before.registry = some registry →
      Shifts (some .resetTiming) before (before.setRegistry registry.resetTiming)
  | resetPeak {before : Bus} {registry : Registry} :
      before.registry = some registry →
      Shifts (some .resetPeak) before (before.setRegistry registry.resetPeak)

theorem withRegistry_of_none
    {bus : Bus}
    (absent : bus.registry = none)
    (call : Registry → Effect) :
    bus.withRegistry call = bus.failing Fault.notInitialized := by
  rw [withRegistry, absent]

theorem withRegistry_of_some
    {bus : Bus}
    {registry : Registry}
    (present : bus.registry = some registry)
    (call : Registry → Effect) :
    bus.withRegistry call = call registry := by
  rw [withRegistry, present]

theorem lookup_eq_ok_iff (registry : Registry) (name : String) (index : Nat) :
    registry.lookup name = .ok index ↔ registry.find? name = some index := by
  rw [Registry.lookup]
  cases registry.find? name with
  | none => simp
  | some found => simp

namespace Shifts

variable (bus : Bus) (operation : Option Operation)

theorem refl : Shifts operation bus bus :=
  .keep rfl (.refl bus)

/-- A call that changes neither the registry nor the counters. -/
theorem of_same
    {before after : Bus}
    (registry : after.registry = before.registry)
    (handle : after.nextHandle = before.nextHandle)
    (serial : after.nextSerial = before.nextSerial) :
    Shifts operation before after :=
  .keep registry ⟨Nat.le_of_eq handle.symm, Nat.le_of_eq serial.symm⟩

/-- A call that needs a registry shifts the bus if it does so with every registry. -/
theorem of_withRegistry
    {call : Registry → Effect}
    (shifts :
      ∀ registry, bus.registry = some registry → Shifts operation bus (call registry).bus) :
    Shifts operation bus (bus.withRegistry call).bus := by
  cases present : bus.registry with
  | none =>
      rw [withRegistry_of_none present]
      exact refl bus operation
  | some registry =>
      rw [withRegistry_of_some present]
      exact shifts registry present

theorem of_init : Shifts (some .init) bus bus.init.bus := by
  rw [Bus.init]
  split
  · exact refl bus _
  next absent => exact .init (by simpa [isInitialized] using absent)

theorem of_cleanup : Shifts (some .cleanup) bus bus.cleanup.bus := by
  rw [Bus.cleanup]
  split
  · exact refl bus _
  · exact .cleanup rfl ⟨Nat.le_refl _, Nat.le_refl _⟩

theorem of_register (name : String) (description : Option String) (priority : Priority) :
    Shifts operation bus (bus.register name description priority).bus := by
  refine of_withRegistry bus operation ?_
  intro registry present
  cases accepted : bus.backend.acceptName name with
  | error fault => exact .keep rfl ⟨Nat.le_refl _, Nat.le_succ _⟩
  | ok kept =>
      cases registered : registry.register kept description priority bus.nextSerial with
      | error fault =>
          simp only [bind, Except.bind, registered]
          exact .keep rfl ⟨Nat.le_refl _, Nat.le_succ _⟩
      | ok next =>
          simp only [bind, Except.bind, registered]
          exact .register present registered

theorem of_unregister (name : String) :
    Shifts (some (.unregister name)) bus (bus.unregister name).bus := by
  refine of_withRegistry bus _ ?_
  intro registry present
  cases done : registry.unregister name with
  | error fault => exact refl bus _
  | ok result => exact .unregister present done

theorem of_connect
    (name : String)
    (callback : RoutineId)
    (context : Option Context)
    (priority : Option Priority) :
    Shifts operation bus (bus.connect name callback context priority).bus := by
  rw [Bus.connect]
  split
  · exact refl bus _
  next registry present =>
    cases located : registry.lookup name with
    | error fault => exact refl bus _
    | ok index =>
        cases granted : registry.grant index bus.maxSlots with
        | error fault =>
            simp only [bind, Except.bind, granted]
            exact refl bus _
        | ok declared =>
            simp only [bind, Except.bind, granted, pure, Except.pure]
            split
            · exact .keep rfl ⟨Nat.le_succ _, Nat.le_refl _⟩
            next next attached =>
              exact .connect present ((lookup_eq_ok_iff _ _ _).mp located) rfl rfl attached

theorem of_removeFirst
    {registry next : Registry}
    {released : List Slot}
    {index : Nat}
    {accepts : Slot → Bool}
    (present : bus.registry = some registry)
    (removed : registry.removeFirst index accepts = some (next, released)) :
    Shifts operation bus (bus.setRegistry next) := by
  rw [Registry.removeFirst, Option.map_eq_some_iff] at removed
  rcases removed with ⟨position, first, retired⟩
  have same : next = (registry.retire index position).1 := by rw [retired]
  rw [same]
  exact .retire present first

theorem of_disconnect (name : String) (callback : RoutineId) :
    Shifts operation bus (bus.disconnect name callback).bus := by
  refine of_withRegistry bus operation ?_
  intro registry present
  cases located : registry.lookup name with
  | error fault => exact refl bus _
  | ok index =>
      cases removed : registry.removeFirst index fun slot => slot.callback == callback with
      | none =>
          simp only [removed]
          exact refl bus _
      | some result =>
          simp only [removed]
          exact of_removeFirst bus _ present removed

theorem of_disconnectHandle (handle : Handle) :
    Shifts operation bus (bus.disconnectHandle handle).bus := by
  rw [Bus.disconnectHandle]
  split
  · refine of_withRegistry bus operation ?_
    intro registry present
    cases removed : registry.removeHandle handle with
    | none => exact refl bus _
    | some result =>
        have retired := removed
        rw [Registry.removeHandle, Option.bind_eq_some_iff] at retired
        rcases retired with ⟨index, _, retired⟩
        exact of_removeFirst bus _ present retired
  · exact refl bus _

theorem of_disconnectAll (name : String) :
    Shifts operation bus (bus.disconnectAll name).bus := by
  refine of_withRegistry bus operation ?_
  intro registry present
  cases located : registry.lookup name with
  | error fault => exact refl bus _
  | ok index => exact .retireAll present ((lookup_eq_ok_iff _ _ _).mp located)

theorem of_defer (emission : Emission) : Shifts operation bus (bus.defer emission).bus := by
  refine of_withRegistry bus operation ?_
  intro registry present
  cases pushed : bus.deferred.push emission with
  | error fault => exact refl bus _
  | ok deferred => exact of_same _ rfl rfl rfl

theorem of_setMaxSlots (limit : Nat) : Shifts operation bus (bus.setMaxSlots limit).bus := by
  rw [Bus.setMaxSlots]
  split
  · exact refl bus _
  · exact of_same _ rfl rfl rfl

theorem of_timing (name : String) : Shifts operation bus (bus.timing name).bus :=
  of_withRegistry bus operation fun _ _ => refl bus _

theorem of_memoryStats : Shifts operation bus bus.memoryStats.bus :=
  of_withRegistry bus operation fun _ _ => refl bus _

theorem of_resetTiming : Shifts (some .resetTiming) bus bus.resetTiming.bus := by
  cases present : bus.registry with
  | none => exact of_same _ (by rw [Bus.resetTiming, present]; rfl) rfl rfl
  | some registry =>
      rw [Bus.resetTiming, present]
      exact .resetTiming present

theorem of_resetPeak : Shifts (some .resetPeak) bus bus.resetPeak.bus := by
  cases present : bus.registry with
  | none => exact of_same _ (by rw [Bus.resetPeak, present]; rfl) rfl rfl
  | some registry =>
      rw [Bus.resetPeak, present]
      exact .resetPeak present

end Shifts

end SignalDispatch.Bus
