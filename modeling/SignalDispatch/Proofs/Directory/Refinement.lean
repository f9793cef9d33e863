import SignalDispatch.Proofs.Directory.Calls
import SignalDispatch.Proofs.Machine.Reachability

/-!
# Deferred removal looks like immediate removal

A bus defers the removal of slots while their signal is being emitted; a directory removes at once
and knows nothing of emissions.  `Service` is a bus on growing storage with emissions that begin and
end on it at any time, in any order and to any depth.  Given the same requests a service and a
directory come back with the same results, and the chains of the service show what the directory
lists.
-/

namespace SignalDispatch

/-- A bus with the emissions in progress on it. -/
structure Service where
  bus : Bus
  emissions : List Walk

namespace Service

/-- A bus on growing storage that has just been initialized. -/
def start (config : Config) : Service where
  bus := (Bus.ofConfig .heap config).init.bus
  emissions := []

/-- A call on the bus. -/
def call (service : Service) (effect : Effect) : Service × Except Fault Answer :=
  ({ service with bus := effect.bus }, effect.result)

/-- An emission begins: it enters its signal. -/
def enter (service : Service) (name : String) : Service × Except Fault Answer :=
  match service.bus.registry with
  | none => (service, .error Fault.notInitialized)
  | some registry =>
      match registry.beginEmission name with
      | .error fault => (service, .error fault)
      | .ok (registry, signalRef, head) =>
          let walk : Walk :=
            { name := name, payload := .void, signalRef := signalRef, cursor := head,
              startedAt := none }
          ({ bus := service.bus.setRegistry registry, emissions := walk :: service.emissions },
            .ok .done)

/-- The emission at a place ends: it leaves its signal. -/
def leave (service : Service) (place : Nat) (elapsed : Option Nat) :
    Service × Except Fault Answer :=
  match service.emissions[place]? with
  | none => (service, .ok .done)
  | some walk =>
      ({ bus := service.bus.leaving walk.signalRef elapsed
         emissions := service.emissions.eraseIdx place },
        .ok .done)

/-- What a request does to a bus. -/
def perform (service : Service) : Request → Service × Except Fault Answer
  | .register name description priority =>
      service.call (service.bus.register name description priority)
  | .unregister name => service.call (service.bus.unregister name)
  | .connect name callback context priority =>
      service.call (service.bus.connect name callback context priority)
  | .disconnect name callback => service.call (service.bus.disconnect name callback)
  | .disconnectHandle handle => service.call (service.bus.disconnectHandle handle)
  | .disconnectAll name => service.call (service.bus.disconnectAll name)
  | .contains name => (service, .ok (.flag (service.bus.contains name)))
  | .count => (service, .ok (.number service.bus.count))
  | .listing => (service, .ok (.listing service.bus.listing))
  | .enter name => service.enter name
  | .leave place elapsed => service.leave place elapsed

/-- Requests one after another, with what they come back with. -/
def run (service : Service) : List Request → Service × List (Except Fault Answer)
  | [] => (service, [])
  | request :: rest =>
      let (next, answer) := service.perform request
      let (last, answers) := next.run rest
      (last, answer :: answers)

end Service

/-! ## Emissions of the machine -/

/-- The machine begins an emission on its bus as a service does. -/
theorem Service.bus_enter (machine : Machine) (emissions : List Walk) (emission : Emission) :
    (machine.beginEmission emission).world.bus =
      (Service.enter ⟨machine.world.bus, emissions⟩ emission.name).1.bus := by
  rw [Machine.beginEmission, Service.enter]
  dsimp only
  cases present : machine.world.bus.registry with
  | none => rfl
  | some registry =>
      dsimp only
      cases registry.beginEmission emission.name with
      | error fault => rfl
      | ok entered => rfl

/-- The machine ends the innermost emission on its bus as a service does, with the time it took. -/
theorem Service.bus_leave
    (program : Program)
    (machine : Machine)
    (walk : Walk)
    (emissions : List Walk) :
    let elapsed := walk.startedAt.map fun start => program.elapsed start machine.world.readings
    (machine.leave program walk).1.world.bus =
      (Service.leave ⟨machine.world.bus, walk :: emissions⟩ 0 elapsed).1.bus := by
  change _ = machine.world.bus.leaving walk.signalRef _
  rw [Machine.leave, Bus.leaving]
  dsimp only
  cases machine.world.bus.registry with
  | none => rfl
  | some registry =>
      dsimp only
      rw [Machine.world_log]
      rfl

/-! ## One request -/

/-- The order of the emissions in progress does not matter to the bus. -/
theorem Coherent.perm
    {bus : Bus}
    {walks later : List Walk}
    (coherent : Coherent bus walks)
    (same : later.Perm walks) :
    Coherent bus later where
  sane := coherent.sane
  known := fun walk member => coherent.known walk (same.mem_iff.mp member)
  depths := by
    intro index signal found
    rw [coherent.depths found, (same.map Walk.signalRef).count_eq]
  cursors := fun walk member => coherent.cursors walk (same.mem_iff.mp member)

/-- Two results are the same, the lines of a listing in any order. -/
inductive Agrees : Except Fault Answer → Except Fault Answer → Prop where
  | same (result : Except Fault Answer) : Agrees result result
  | listing {left right : List SignalInfo} :
      left.Perm right → Agrees (.ok (.listing left)) (.ok (.listing right))

/-- The bus tallies with the directory and agrees with its emissions. -/
structure Service.Follows (service : Service) (directory : Directory) : Prop where
  coherent : Coherent service.bus service.emissions
  tallies : service.bus.Tallies directory

/-- A request to a service is matched by the same request to a directory. -/
structure Service.Keeps
    (reply : Service × Except Fault Answer)
    (outcome : Directory.Outcome) : Prop where
  follows : reply.1.Follows outcome.1
  agrees : Agrees reply.2 outcome.2

namespace Service.Follows

variable {service : Service} {directory : Directory}

theorem start (config : Config) :
    (Service.start config).Follows (Directory.empty config.maxSlots) where
  coherent := (Machine.coherent_initial .heap config).shift (Bus.Shifts.of_init _)
  tallies := by
    refine ⟨rfl, rfl, rfl, _, rfl, Registry.growing_empty, List.nodup_nil, ?_⟩
    intro entry
    constructor
    · intro member
      cases member
    · rintro ⟨index, shown⟩
      rcases (Registry.entryAt_eq_some_iff _ _ _).mp shown with ⟨signal, stored, _⟩
      have vacant : (Registry.empty .growing .growing).signals.get? index = none :=
        Arena.get?_empty _ _
      exact absurd (stored.symm.trans vacant) (Option.some_ne_none signal)

/-- A call that shifts the bus and matches the call on the directory keeps the two in step. -/
theorem call
    {operation : Option Operation}
    {effect : Effect}
    {outcome : Directory.Outcome}
    (follows : service.Follows directory)
    (shifts : Bus.Shifts operation service.bus effect.bus)
    (met : effect.Matches outcome) :
    Keeps (service.call effect) outcome := by
  refine ⟨⟨follows.coherent.shift shifts, met.tallies⟩, ?_⟩
  rw [Service.call, met.result]
  exact .same _

/-- A question that both answer alike changes neither. -/
theorem ask
    {result other : Except Fault Answer}
    (follows : service.Follows directory)
    (agrees : Agrees result other) :
    Keeps (service, result) (directory, other) :=
  ⟨follows, agrees⟩

/-- An emission that begins is not seen, but that it needs its name. -/
theorem enter (follows : service.Follows directory) (name : String) :
    Keeps (service.enter name) (directory.perform (.enter name)) := by
  have tallies := follows.tallies
  rcases tallies.registry with ⟨registry, present, growing, mirrors⟩
  have sane := follows.coherent.sane.registry present
  rw [Service.enter, present, Directory.perform, Directory.withEntry]
  dsimp only
  cases located : registry.find? name with
  | none =>
      have refused : registry.beginEmission name = .error (.notFound name) := by
        rw [Registry.beginEmission, Registry.lookup_of_none located]
      rw [refused, mirrors.find?_of_none sane.formed located]
      exact follows.ask (.same _)
  | some index =>
      rcases mirrors.find?_of_some sane.formed located with ⟨entry, found, shown, _⟩
      rcases (Registry.entryAt_eq_some_iff _ _ _).mp shown with ⟨signal, stored, _⟩
      have begins : ∃ next signalRef head,
          registry.beginEmission name = .ok (next, signalRef, head) := by
        rw [Registry.beginEmission, Registry.lookup_of_some located]
        simp only [stored]
        exact ⟨_, _, _, rfl⟩
      rcases begins with ⟨next, signalRef, head, begun⟩
      rw [begun, found]
      let walk : Walk :=
        { name := name, payload := .void, signalRef := signalRef, cursor := head,
          startedAt := none }
      have counts : Bus.CountsOn service.bus (service.bus.setRegistry next) :=
        ⟨Nat.le_refl _, Nat.le_refl _⟩
      have same : registry.beginEmission name = .ok (next, walk.signalRef, walk.cursor) := begun
      have entered := (follows.coherent.enter present same rfl counts).1
      refine ⟨⟨entered, ⟨tallies.backend, tallies.nextHandle, tallies.limit, next, rfl,
        growing.beginEmission begun, ?_⟩⟩, .same _⟩
      exact mirrors.unseen (sane.beginEmission_entryAt begun)

/-- An emission that ends is not seen, though the bus may sweep. -/
theorem leave (follows : service.Follows directory) (place : Nat) (elapsed : Option Nat) :
    Keeps (service.leave place elapsed) (directory.perform (.leave place elapsed)) := by
  have tallies := follows.tallies
  rcases tallies.registry with ⟨registry, present, growing, mirrors⟩
  have sane := follows.coherent.sane.registry present
  rw [Service.leave]
  cases chosen : service.emissions[place]? with
  | none => exact follows.ask (.same _)
  | some walk =>
      rcases List.getElem?_eq_some_iff.mp chosen with ⟨bound, rfl⟩
      have first := follows.coherent.perm (List.getElem_cons_eraseIdx_perm bound)
      have left : service.bus.leaving service.emissions[place].signalRef elapsed =
          service.bus.setRegistry
            (registry.endEmission service.emissions[place].signalRef elapsed).1 := by
        rw [Bus.leaving, present]
      have swept : (service.bus.leaving service.emissions[place].signalRef elapsed).Tallies
          directory := by
        rw [left]
        refine ⟨tallies.backend, tallies.nextHandle, tallies.limit, _, rfl,
          growing.endEmission _ elapsed, ?_⟩
        exact mirrors.unseen (sane.endEmission_entryAt _ elapsed)
      exact ⟨⟨(first.leave elapsed).1, swept⟩, .same _⟩

/-- One request keeps a service and a directory in step. -/
theorem perform (follows : service.Follows directory) (request : Request) :
    Keeps (service.perform request) (directory.perform request) := by
  have tallies := follows.tallies
  have sane := follows.coherent.sane
  cases request with
  | register name description priority =>
      exact follows.call (.of_register _ none _ _ _) (tallies.register sane _ _ _)
  | unregister name => exact follows.call (.of_unregister _ _) (tallies.unregister sane _)
  | connect name callback context priority =>
      exact follows.call (.of_connect _ none _ _ _ _) (tallies.connect sane _ _ _ _)
  | disconnect name callback =>
      exact follows.call (.of_disconnect _ none _ _) (tallies.disconnect sane _ _)
  | disconnectHandle handle =>
      exact follows.call (.of_disconnectHandle _ none _) (tallies.disconnectHandle sane _)
  | disconnectAll name =>
      exact follows.call (.of_disconnectAll _ none _) (tallies.disconnectAll sane _)
  | contains name =>
      rw [Service.perform, tallies.contains sane]
      exact follows.ask (.same _)
  | count =>
      rw [Service.perform, tallies.count sane]
      exact follows.ask (.same _)
  | listing => exact follows.ask (.listing (tallies.listing sane))
  | enter name => exact follows.enter name
  | leave place elapsed => exact follows.leave place elapsed

/-! ## All requests -/

/-- Any requests keep a service and a directory in step. -/
theorem run (follows : service.Follows directory) (requests : List Request) :
    (service.run requests).1.Follows (directory.run requests).1 ∧
      List.Forall₂ Agrees (service.run requests).2 (directory.run requests).2 := by
  induction requests generalizing service directory with
  | nil => exact ⟨follows, .nil⟩
  | cons request rest ih =>
      have kept := follows.perform request
      rcases ih kept.follows with ⟨after, answers⟩
      exact ⟨after, .cons kept.agrees answers⟩

end Service.Follows

/-- The chains of a service show what a directory lists. -/
structure Service.Presents
    (service : Service)
    (directory : Directory)
    (registry : Registry) : Prop where
  present : service.bus.registry = some registry
  /-- Every signal is listed, with its live slots in the order of its chain. -/
  listed :
    ∀ {index : Nat} {signal : Signal}, registry.signals.get? index = some signal →
      directory.find? signal.name =
        some
          { name := signal.name
            description := signal.description
            priority := signal.priority
            connections :=
              ((registry.slotsOf index).filter fun slot => !slot.removed).map Slot.connection }
  /-- Nothing else is listed, and nothing twice. -/
  registered :
    ∀ entry ∈ directory.entries,
      ∃ index signal, registry.signals.get? index = some signal ∧ signal.name = entry.name
  names : (directory.entries.map Entry.name).Nodup
  /-- The depth of a signal is the number of emissions of it in progress. -/
  depths :
    ∀ {index : Nat} {signal : Signal}, registry.signals.get? index = some signal →
      signal.emitting =
        (service.emissions.map Walk.signalRef).count ⟨index, signal.serial⟩
  /-- A signal that is not being emitted has no tombstones. -/
  settled :
    ∀ {index : Nat} {signal : Signal}, registry.signals.get? index = some signal →
      signal.emitting = 0 →
        signal.tombstones = 0 ∧ ∀ slot ∈ registry.slotsOf index, slot.removed = false

/-- A service that follows a directory presents it. -/
theorem Service.Follows.presents
    {service : Service}
    {directory : Directory}
    (follows : service.Follows directory) :
    ∃ registry, service.Presents directory registry := by
  rcases follows.tallies.registry with ⟨registry, present, _, mirrors⟩
  have sane := follows.coherent.sane.registry present
  refine ⟨registry, present, ?_, ?_, mirrors.names, ?_, ?_⟩
  · intro index signal stored
    have shown : registry.entryAt index = some (registry.entryOf index signal) :=
      (Registry.entryAt_eq_some_iff _ _ _).mpr ⟨signal, stored, rfl⟩
    exact (Directory.find?_eq_some_iff mirrors.names _ _).mpr
      ⟨(mirrors.entries _).mpr ⟨index, shown⟩, rfl⟩
  · intro entry member
    rcases (mirrors.entries entry).mp member with ⟨index, shown⟩
    rcases (Registry.entryAt_eq_some_iff _ _ _).mp shown with ⟨signal, stored, rfl⟩
    exact ⟨index, signal, stored, rfl⟩
  · intro index signal stored
    have depth := follows.coherent.depths (Bus.signalAt_of_get? present stored)
    exact depth
  · intro index signal stored idle
    have clean := sane.settled (Registry.signalAt_of_get? stored) idle
    refine ⟨clean, ?_⟩
    have counted := sane.formed.tombstones_eq (Registry.signalAt_of_get? stored)
    rw [clean, ← Registry.map_content_slotsOf, List.countP_map, eq_comm, List.countP_eq_zero]
      at counted
    intro slot member
    exact Bool.eq_false_iff.mpr (counted slot member)

/-- Whatever is asked of a bus on growing storage, and whatever emissions are in progress on it, the
results are those of immediate removal, and so is what its chains show. -/
theorem deferred_removal_refines (config : Config) (requests : List Request) :
    List.Forall₂ Agrees ((Service.start config).run requests).2
        ((Directory.empty config.maxSlots).run requests).2 ∧
      ∃ registry,
        ((Service.start config).run requests).1.Presents
          ((Directory.empty config.maxSlots).run requests).1 registry := by
  rcases (Service.Follows.start config).run requests with ⟨follows, answers⟩
  exact ⟨answers, follows.presents⟩

/-- A tombstone does not count against the limit of its signal, and is not listed. -/
example :
    let requests : List Request :=
      [.register "a" none .normal, .connect "a" 0 none none, .enter "a", .disconnect "a" 0,
        .connect "a" 1 none none, .connect "a" 2 none none, .listing, .leave 0 none]
    ((Service.start { maxSlots := 1 }).run requests).2 = ((Directory.empty 1).run requests).2 := by
  decide +kernel

end SignalDispatch
