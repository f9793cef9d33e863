import SignalDispatch.Proofs.Directory.Refinement

/-!
# What requests are about

A bus has settings, queues and a guard that no request reads, and an emission a payload and a cursor
that no request needs.  `Service.SameSignals` says of two services that they are alike in everything
else.  Then any requests do the same to both and are answered alike (`Service.SameSignals.run`).
-/

namespace SignalDispatch

/-- Two buses have the same signals, under the same limit, and number new ones alike. -/
structure Bus.SameSignals (left right : Bus) : Prop where
  backend : right.backend = left.backend
  registry : right.registry = left.registry
  nextHandle : right.nextHandle = left.nextHandle
  nextSerial : right.nextSerial = left.nextSerial
  maxSlots : right.maxSlots = left.maxSlots

/-- Two calls come back with the same result and leave the same signals. -/
structure Effect.SameSignals (left right : Effect) : Prop where
  bus : left.bus.SameSignals right.bus
  result : right.result = left.result

/-- Two services have the same signals and emissions of the same registrations. -/
structure Service.SameSignals (left right : Service) : Prop where
  bus : left.bus.SameSignals right.bus
  emissions : right.emissions.map Walk.signalRef = left.emissions.map Walk.signalRef

namespace Bus.SameSignals

variable {left right : Bus}

theorem refl (bus : Bus) : SameSignals bus bus :=
  ⟨rfl, rfl, rfl, rfl, rfl⟩

theorem of_eq (same : right = left) : SameSignals left right :=
  same ▸ refl left

theorem trans {middle : Bus} (first : SameSignals left middle)
    (second : SameSignals middle right) :
    SameSignals left right where
  backend := second.backend.trans first.backend
  registry := second.registry.trans first.registry
  nextHandle := second.nextHandle.trans first.nextHandle
  nextSerial := second.nextSerial.trans first.nextSerial
  maxSlots := second.maxSlots.trans first.maxSlots

/-- Both get the same registry. -/
theorem setRegistry (same : SameSignals left right) (registry : Registry) :
    SameSignals (left.setRegistry registry) (right.setRegistry registry) :=
  { same with registry := rfl }

theorem failing (same : SameSignals left right) (fault : Fault) :
    (left.failing fault).SameSignals (right.failing fault) :=
  ⟨same, rfl⟩

/-- A call that needs a registry is the same call if it is so on the registry of both. -/
theorem withRegistry
    {call other : Registry → Effect}
    (same : SameSignals left right)
    (calls : ∀ registry, (call registry).SameSignals (other registry)) :
    (left.withRegistry call).SameSignals (right.withRegistry other) := by
  rw [Bus.withRegistry, Bus.withRegistry, same.registry]
  cases left.registry with
  | none => exact same.failing _
  | some registry => exact calls registry

/-- A call that leaves the signals alone wherever there is a registry leaves them alone. -/
theorem of_unchanged
    {bus : Bus}
    {call : Registry → Effect}
    (unchanged : ∀ registry, SameSignals bus (call registry).bus) :
    SameSignals bus (bus.withRegistry call).bus := by
  rw [Bus.withRegistry]
  cases bus.registry with
  | none => exact .refl _
  | some registry => exact unchanged registry

theorem of_defer (bus : Bus) (emission : Emission) : SameSignals bus (bus.defer emission).bus := by
  refine of_unchanged fun registry => ?_
  cases bus.deferred.push emission with
  | error fault => exact .refl _
  | ok deferred => exact ⟨rfl, rfl, rfl, rfl, rfl⟩

theorem register
    (same : SameSignals left right)
    (name : String)
    (description : Option String)
    (priority : Priority) :
    (left.register name description priority).SameSignals
      (right.register name description priority) := by
  refine same.withRegistry fun registry => ?_
  dsimp only
  rw [same.backend, same.nextSerial]
  cases (do
      let kept ← left.backend.acceptName name
      registry.register kept description priority left.nextSerial : Except Fault Registry) with
  | error fault => exact ⟨⟨rfl, same.registry, same.nextHandle, rfl, same.maxSlots⟩, rfl⟩
  | ok registered => exact ⟨⟨rfl, rfl, same.nextHandle, rfl, same.maxSlots⟩, rfl⟩

theorem unregister (same : SameSignals left right) (name : String) :
    (left.unregister name).SameSignals (right.unregister name) := by
  refine same.withRegistry fun registry => ?_
  cases registry.unregister name with
  | error fault => exact same.failing fault
  | ok removed => exact ⟨same.setRegistry removed.1, rfl⟩

theorem connect
    (same : SameSignals left right)
    (name : String)
    (callback : RoutineId)
    (context : Option Context)
    (priority : Option Priority) :
    (left.connect name callback context priority).SameSignals
      (right.connect name callback context priority) := by
  rw [Bus.connect, Bus.connect, same.registry, same.nextHandle, same.maxSlots]
  cases left.registry with
  | none => exact ⟨same, rfl⟩
  | some registry =>
      dsimp only
      cases (do
          let index ← registry.lookup name
          let declared ← registry.grant index left.maxSlots
          pure (index, declared) : Except Fault (Nat × Priority)) with
      | error fault => exact ⟨same, rfl⟩
      | ok admitted =>
          dsimp only
          cases registry.attach admitted.1 _ with
          | error fault => exact ⟨⟨same.backend, rfl, rfl, same.nextSerial, rfl⟩, rfl⟩
          | ok attached => exact ⟨⟨same.backend, rfl, rfl, same.nextSerial, rfl⟩, rfl⟩

theorem disconnect (same : SameSignals left right) (name : String) (callback : RoutineId) :
    (left.disconnect name callback).SameSignals (right.disconnect name callback) := by
  refine same.withRegistry fun registry => ?_
  cases registry.lookup name with
  | error fault => exact same.failing fault
  | ok index =>
      dsimp only
      cases registry.removeFirst index fun slot => slot.callback == callback with
      | none => exact same.failing _
      | some removed => exact ⟨same.setRegistry removed.1, rfl⟩

theorem disconnectHandle (same : SameSignals left right) (handle : Handle) :
    (left.disconnectHandle handle).SameSignals (right.disconnectHandle handle) := by
  rw [Bus.disconnectHandle, Bus.disconnectHandle]
  cases handle.isValid with
  | false => exact same.failing _
  | true =>
      refine same.withRegistry fun registry => ?_
      cases registry.removeHandle handle with
      | none => exact same.failing _
      | some removed => exact ⟨same.setRegistry removed.1, rfl⟩

theorem disconnectAll (same : SameSignals left right) (name : String) :
    (left.disconnectAll name).SameSignals (right.disconnectAll name) := by
  refine same.withRegistry fun registry => ?_
  cases registry.lookup name with
  | error fault => exact same.failing fault
  | ok index => exact ⟨same.setRegistry _, rfl⟩

/-- Both are left by an emission. -/
theorem leaving (same : SameSignals left right) (signalRef : SignalRef) (elapsed : Option Nat) :
    SameSignals (left.leaving signalRef elapsed) (right.leaving signalRef elapsed) := by
  rw [Bus.leaving, Bus.leaving, same.registry]
  cases left.registry with
  | none => exact same
  | some registry => exact same.setRegistry _

end Bus.SameSignals

namespace Service

variable {left right : Service}

/-- Requests may be made in two goes. -/
theorem run_append (service : Service) (earlier later : List Request) :
    (service.run (earlier ++ later)).1 = ((service.run earlier).1.run later).1 := by
  induction earlier generalizing service with
  | nil => rfl
  | cons request rest ih => exact ih (service.perform request).1

namespace SameSignals

theorem refl (service : Service) : SameSignals service service :=
  ⟨.refl _, rfl⟩

theorem trans {middle : Service} (first : SameSignals left middle)
    (second : SameSignals middle right) :
    SameSignals left right :=
  ⟨first.bus.trans second.bus, second.emissions.trans first.emissions⟩

/-- A call that is the same on both buses. -/
theorem call {effect other : Effect} (same : SameSignals left right)
    (calls : effect.SameSignals other) :
    SameSignals (left.call effect).1 (right.call other).1 ∧
      (right.call other).2 = (left.call effect).2 :=
  ⟨⟨calls.bus, same.emissions⟩, calls.result⟩

theorem enter (same : SameSignals left right) (name : String) :
    SameSignals (left.enter name).1 (right.enter name).1 ∧
      (right.enter name).2 = (left.enter name).2 := by
  rw [Service.enter, Service.enter, same.bus.registry]
  cases left.bus.registry with
  | none => exact ⟨same, rfl⟩
  | some registry =>
      dsimp only
      cases registry.beginEmission name with
      | error fault => exact ⟨same, rfl⟩
      | ok entered =>
          refine ⟨⟨same.bus.setRegistry entered.1, ?_⟩, rfl⟩
          exact congrArg (entered.2.1 :: ·) same.emissions

theorem leave (same : SameSignals left right) (place : Nat) (elapsed : Option Nat) :
    SameSignals (left.leave place elapsed).1 (right.leave place elapsed).1 ∧
      (right.leave place elapsed).2 = (left.leave place elapsed).2 := by
  have there := congrArg (·[place]?) same.emissions
  rw [List.getElem?_map, List.getElem?_map] at there
  rw [Service.leave, Service.leave]
  cases chosen : left.emissions[place]? with
  | none =>
      rw [chosen, Option.map_none, Option.map_eq_none_iff] at there
      rw [there]
      exact ⟨same, rfl⟩
  | some walk =>
      rw [chosen, Option.map_some, Option.map_eq_some_iff] at there
      rcases there with ⟨other, there, signalRef⟩
      rw [there]
      dsimp only
      rw [signalRef]
      refine ⟨⟨same.bus.leaving walk.signalRef elapsed, ?_⟩, rfl⟩
      rw [← List.eraseIdx_map, same.emissions, List.eraseIdx_map]

/-- A request does the same to both, and has the same answer. -/
theorem perform (same : SameSignals left right) (request : Request) :
    SameSignals (left.perform request).1 (right.perform request).1 ∧
      (right.perform request).2 = (left.perform request).2 := by
  have bus := same.bus
  cases request with
  | register name description priority => exact same.call (bus.register _ _ _)
  | unregister name => exact same.call (bus.unregister _)
  | connect name callback context priority => exact same.call (bus.connect _ _ _ _)
  | disconnect name callback => exact same.call (bus.disconnect _ _)
  | disconnectHandle handle => exact same.call (bus.disconnectHandle _)
  | disconnectAll name => exact same.call (bus.disconnectAll _)
  | contains name =>
      refine ⟨same, ?_⟩
      rw [Service.perform, Service.perform, Bus.contains, Bus.contains, bus.registry]
  | count =>
      refine ⟨same, ?_⟩
      rw [Service.perform, Service.perform, Bus.count, Bus.count, bus.registry]
  | listing =>
      refine ⟨same, ?_⟩
      rw [Service.perform, Service.perform, Bus.listing, Bus.listing, bus.registry]
  | enter name => exact same.enter name
  | leave place elapsed => exact same.leave place elapsed

/-- So do any requests. -/
theorem run (same : SameSignals left right) (requests : List Request) :
    SameSignals (left.run requests).1 (right.run requests).1 ∧
      (right.run requests).2 = (left.run requests).2 := by
  induction requests generalizing left right with
  | nil => exact ⟨same, rfl⟩
  | cons request rest ih =>
      rcases same.perform request with ⟨next, answer⟩
      rcases ih next with ⟨last, answers⟩
      exact ⟨last, congrArg₂ List.cons answer answers⟩

end SameSignals

/-- Both present the same. -/
theorem Presents.of_sameSignals
    {directory : Directory}
    {registry : Registry}
    (presents : left.Presents directory registry)
    (same : left.SameSignals right) :
    right.Presents directory registry where
  present := same.bus.registry.trans presents.present
  listed := presents.listed
  registered := presents.registered
  names := presents.names
  depths := by
    rw [same.emissions]
    exact presents.depths
  settled := presents.settled

end Service

end SignalDispatch
