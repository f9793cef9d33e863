import SignalDispatch.Proofs.Bus.Separation
import SignalDispatch.Proofs.Machine.Handles

/-!
# Operations on one signal do not disturb another

Any number of emissions may be in progress, of any signals.  A call on one signal, and every move of
an emission of it, from entering over each step of its walk to leaving with the sweep, leaves every
other signal exactly as it was: its registration, its counters, its timing, and its whole sequence
of slots.
-/

namespace SignalDispatch.Machine

variable {before after : Machine} {registry : Registry} {index : Nat} {signal : Signal}
  {operation : Operation}

/-- A move operates on the signal at an index. -/
inductive OperatesOn
    (registry : Registry)
    (index : Nat)
    (signal : Signal)
    (before after : Machine) :
    Prop where
  | unregister :
      Executes (.unregister signal.name) before after →
      OperatesOn registry index signal before after
  | connect
      {callback : RoutineId}
      {priority : Option Priority}
      {request : Option ContextRequest}
      {keep : KeepRequest} :
      Executes (.connect signal.name callback priority request keep) before after →
      OperatesOn registry index signal before after
  | disconnect {callback : RoutineId} :
      Executes (.disconnect signal.name callback) before after →
      OperatesOn registry index signal before after
  /-- The handle is that of a slot of the signal, perhaps of a tombstone. -/
  | disconnectHandle {source : HandleSource} {slot : Slot} :
      slot ∈ registry.slotsOf index →
      before.world.handleOf source = slot.handle →
      Executes (.disconnectHandle source) before after →
      OperatesOn registry index signal before after
  | disconnectAll :
      Executes (.disconnectAll signal.name) before after →
      OperatesOn registry index signal before after
  /-- An emission enters the signal, started by whatever call or replay. -/
  | enter {walk : Walk} :
      Move before after →
      after.walks = walk :: before.walks →
      walk.signalRef = ⟨index, signal.serial⟩ →
      OperatesOn registry index signal before after
  /-- It is the turn of an emission of the signal: it reads a slot, calls its callback, or
  leaves. -/
  | walk {walk : Walk} {below : List Frame} :
      Move before after →
      before.stack = .walk walk :: below →
      walk.signalRef = ⟨index, signal.serial⟩ →
      OperatesOn registry index signal before after

/-! ## Moves confined to one signal -/

/-- A call that is over in one go does to the bus what the bus says. -/
theorem Executes.bus_of_apply
    (executes : Executes operation before after)
    (call : World → Effect)
    (applied :
      ∀ program started payload,
        execute program started payload operation = started.apply (call started.world)) :
    after.world.bus = (call before.world).bus := by
  rcases executes.eq_execute with ⟨program, payload, started, world, _, reached⟩
  rw [reached, applied, world_apply, world]

/-- When the emissions in progress are one more, the innermost has entered the signal of its
name. -/
theorem Move.entered
    {walk : Walk}
    (move : Move before after)
    (more : after.walks = walk :: before.walks) :
    ∃ registry next, before.world.bus.registry = some registry ∧
      registry.beginEmission walk.name = .ok (next, walk.signalRef, walk.cursor) ∧
      after.world.bus.registry = some next := by
  have longer := congrArg List.length more
  rw [List.length_cons] at longer
  cases move.paces with
  | steady same =>
      rw [length_walks_eq same] at longer
      omega
  | enters walks present begun replaced =>
      obtain rfl := (List.cons.inj (more.symm.trans walks)).1
      exact ⟨_, _, present, begun, replaced⟩
  | leaves walks =>
      rw [walks, List.length_cons] at longer
      omega

/-- The turn of an emission changes the signal that it walks only. -/
theorem Move.walk_confinedTo
    {walk : Walk}
    {below : List Frame}
    (move : Move before after)
    (sane : before.world.bus.Sane)
    (present : before.world.bus.registry = some registry)
    (stack : before.stack = .walk walk :: below) :
    Bus.ConfinedTo registry walk.signalRef.index after.world.bus := by
  have same (unchanged : after.world.bus = before.world.bus) :
      Bus.ConfinedTo registry walk.signalRef.index after.world.bus :=
    Bus.confinedTo_of_same sane present (congrArg Bus.registry unchanged)
  cases move.turn with
  | idle idle =>
      rw [idle] at stack
      cases stack
  | starts idle =>
      rw [idle] at stack
      cases stack
  | acts other start =>
      rw [stack, List.cons.injEq] at start
      rw [← start.1] at other
      cases other
  | goes start goes =>
      rw [stack, List.cons.injEq, Frame.walk.injEq] at start
      rcases start with ⟨rfl, rfl⟩
      cases goes with
      | stay _ _ _ _ _ _ unchanged => exact same unchanged
      | pass _ _ _ _ _ _ unchanged => exact same unchanged
      | invoke _ _ _ _ _ _ _ unchanged => exact same unchanged
      | leave _ _ _ _ _ left =>
          rcases (sane.registry present).formed.endEmission_confined walk.signalRef _ with
            ⟨confined, formedAfter⟩
          rw [left, Bus.leaving, present]
          exact ⟨_, rfl, formedAfter, confined⟩

/-- What operates on one signal is confined to it. -/
theorem OperatesOn.confinedTo
    (operates : OperatesOn registry index signal before after)
    (sane : before.world.bus.Sane)
    (present : before.world.bus.registry = some registry)
    (registered : registry.signals.get? index = some signal) :
    Bus.ConfinedTo registry index after.world.bus := by
  have found : registry.find? signal.name = some index :=
    ((sane.registry present).formed.find?_eq_some_iff _ _).mpr
      ⟨signal.content, Registry.signalAt_of_get? registered, rfl⟩
  cases operates with
  | unregister executes =>
      rw [executes.bus_of_apply (fun world => world.bus.unregister signal.name)
        fun _ _ _ => rfl]
      exact Bus.unregister_confinedTo sane present found
  | connect executes =>
      rw [executes.connect_bus]
      exact Bus.connect_confinedTo sane present found _ _ _
  | disconnect executes =>
      rw [executes.bus_of_apply (fun world => world.bus.disconnect signal.name _)
        fun _ _ _ => rfl]
      exact Bus.disconnect_confinedTo sane present found _
  | disconnectHandle member named executes =>
      rw [executes.bus_of_apply (fun world =>
        world.bus.disconnectHandle (world.handleOf _)) fun _ _ _ => rfl, named]
      have shown := List.mem_map_of_mem (f := Slot.content) member
      rw [Registry.map_content_slotsOf] at shown
      have confined := Bus.disconnectHandle_confinedTo sane present shown
      exact confined
  | disconnectAll executes =>
      rw [executes.bus_of_apply (fun world => world.bus.disconnectAll signal.name)
        fun _ _ _ => rfl]
      exact Bus.disconnectAll_confinedTo sane present found
  | enter move more walked =>
      rcases move.entered more with ⟨other, next, there, begun, replaced⟩
      rw [present, Option.some.injEq] at there
      subst there
      have confined := Bus.beginEmission_confinedTo sane present begun replaced
      rw [walked] at confined
      exact confined
  | walk move stack walked =>
      have confined := move.walk_confinedTo sane present stack
      rw [walked] at confined
      exact confined

/-- Operations on one signal leave every other signal as it was. -/
theorem other_signals_untouched
    (reachable : Reachable before)
    (present : before.world.bus.registry = some registry) :
    (∀ name description priority,
        Executes (.register name description priority) before after →
          ∃ next, after.world.bus.registry = some next ∧
            ∀ index signal, registry.signals.get? index = some signal →
              registry.Untouched next index) ∧
      ∀ index signal, registry.signals.get? index = some signal →
        OperatesOn registry index signal before after →
          ∃ next, after.world.bus.registry = some next ∧
            ∀ other, other ≠ index → registry.Untouched next other := by
  have sane := reachable.coherent.sane
  have formed := (sane.registry present).formed
  constructor
  · intro name description priority executes
    rcases Bus.register_confinedTo sane present name description
      (priority.getD Priority.normal) with ⟨vacancy, vacant, next, stored, formedAfter, confined⟩
    have moved := executes.bus_of_apply (fun world =>
      world.bus.register name description (priority.getD Priority.normal)) fun _ _ _ => rfl
    refine ⟨next, (congrArg Bus.registry moved).trans stored, ?_⟩
    intro index signal registered
    refine confined.untouched formed formedAfter ?_
    rintro rfl
    rw [vacant] at registered
    cases registered
  · intro index signal registered operates
    rcases operates.confinedTo sane present registered with ⟨next, stored, formedAfter, confined⟩
    exact ⟨next, stored, fun _ different => confined.untouched formed formedAfter different⟩

/-- The callback of one signal emits another, whose callback removes all slots of the first. -/
def crossing : Program where
  routines :=
    [{ commands := [{ label := "emit", operation := .emit ⟨"second", .void⟩ }] },
      { commands := [{ label := "clear", operation := .disconnectAll "first" }] }]

/-- Two signals are being emitted, and one is about to lose its slots. -/
def crossed : Machine :=
  (step crossing)^[3]
    ((initial .heap {}).play crossing 8
        [.init, .register "first" none none, .register "second" none none,
          .connect "first" 0 none none .nowhere, .connect "second" 1 none none .nowhere,
          .connect "first" 0 none none .nowhere]
      |>.play crossing 0 [.emit ⟨"first", .void⟩])

theorem reachable_crossed : Reachable crossed :=
  Reachable.reaches ⟨.heap, {}, (reaches_play _ _ _ _).trans (reaches_play _ _ _ _)⟩
    (.iterate crossing _ 3)

/-- The slots of the first signal become tombstones; the second does not change. -/
theorem other_signals_untouched_crossed :
    crossed.walks.map Walk.name = ["second", "first"] ∧
      ∃ registry next, crossed.world.bus.registry = some registry ∧
        (crossed.step crossing).world.bus.registry = some next ∧
        (registry.slotsOf 0).map Slot.removed = [false, false] ∧
        (next.slotsOf 0).map Slot.removed = [true, true] ∧ registry.Untouched next 1 := by
  have names :
      (crossed.world.bus.registry.bind fun registry =>
        (registry.signals.get? 0).map Signal.name) = some "first" := by
    decide +kernel
  rcases Option.bind_eq_some_iff.mp names with ⟨registry, present, named⟩
  rcases Option.map_eq_some_iff.mp named with ⟨signal, registered, name⟩
  have removes : OperatesOn registry 0 signal crossed (crossed.step crossing) :=
    .disconnectAll (name ▸ .command crossing (by decide +kernel))
  rcases (other_signals_untouched reachable_crossed present).2 0 signal registered removes with
    ⟨next, stored, untouched⟩
  have live :
      (crossed.world.bus.registry.map fun registry => (registry.slotsOf 0).map Slot.removed) =
        some [false, false] := by
    decide +kernel
  have buried :
      ((crossed.step crossing).world.bus.registry.map fun registry =>
        (registry.slotsOf 0).map Slot.removed) = some [true, true] := by
    decide +kernel
  rw [present, Option.map_some, Option.some.injEq] at live
  rw [stored, Option.map_some, Option.some.injEq] at buried
  exact ⟨by decide +kernel, registry, next, present, stored, live, buried,
    untouched 1 Nat.one_ne_zero⟩

end SignalDispatch.Machine
