import SignalDispatch.Proofs.Machine.Capacity
import SignalDispatch.Proofs.Machine.Interrupts
import SignalDispatch.Proofs.Machine.Parallel

/-!
# Cleaning up and starting again

A bus that is cleaned up and initialized again is a new bus with the same settings.  What survives
is the counters of handles and serials, and they cannot be seen: from then on every session goes the
way it goes on a new bus, with the numbers of its handles moved up by the number of handles drawn
before. `Machine.anew` is the state with the new bus to compare with, and `fresh_start` the
comparison.
-/

namespace SignalDispatch

/-- Nothing of what a bus held is left, and all of its settings are. -/
structure Bus.Renewed (before after : Bus) : Prop where
  registry : after.registry = some before.backend.registry
  deferred : after.deferred = DeferredQueue.ofCapacity before.deferred.capacity
  pending : after.interrupts.pending = 0
  space : after.space = none
  backend : after.backend = before.backend
  maxSlots : after.maxSlots = before.maxSlots
  guarded : after.guard.enabled = before.guard.enabled
  profiling : after.profiling = before.profiling
  hook : after.hook = before.hook

namespace Machine

/-- The state with a newly constructed bus that has the same storage, settings and hook.  User code
has the same memory, but keeps no handle. -/
def anew (machine : Machine) : Machine where
  world :=
    { machine.world with
      bus :=
        { Bus.ofConfig machine.world.bus.backend
            { maxSlots := machine.world.bus.maxSlots
              threadSafe := machine.world.bus.guard.enabled
              profiling := machine.world.bus.profiling
              deferredCapacity := machine.world.bus.deferred.capacity } with
          hook := machine.world.bus.hook }
      kept := [] }

/-- The new session as it looks next to the old one: as if the handles and serials of the old one
had been drawn before. -/
def viewFrom (machine : Machine) : View :=
  .shifted (machine.world.bus.nextHandle - 1) (machine.world.bus.nextSerial - 1)

variable {program : Program} {machine : Machine} {rest : List Operation}

/-! ## Reachable states -/

/-- What can be reached is reached by a session. -/
theorem Reachable.sessionRun (reachable : Reachable machine) :
    ∃ trace last, SessionRun trace last ∧ trace last = machine := by
  rcases reachable with ⟨backend, config, reaches⟩
  induction reaches with
  | refl =>
      refine ⟨fun _ => initial backend config, 0, ⟨⟨backend, config, rfl⟩, ?_⟩, rfl⟩
      exact fun time before => absurd before (Nat.not_lt_zero time)
  | @tail before after _ move ih =>
      rcases ih with ⟨trace, last, run, reached⟩
      refine ⟨fun time => if time ≤ last then trace time else after, last + 1, ⟨?_, ?_⟩, ?_⟩
      · rw [if_pos (Nat.zero_le _)]
        exact run.starts
      · intro time bound
        rw [if_pos (Nat.le_of_lt_succ bound)]
        split
        next earlier => exact run.moves time earlier
        next now =>
          have here : time = last := by omega
          rw [here, reached]
          exact move
      · exact if_neg (Nat.not_succ_le_self _)

/-- Handles and serials are numbered from one. -/
theorem Reachable.counted (reachable : Reachable machine) :
    0 < machine.world.bus.nextHandle ∧ 0 < machine.world.bus.nextSerial := by
  rcases reachable with ⟨backend, config, reaches⟩
  induction reaches with
  | refl => exact ⟨Nat.one_pos, Nat.one_pos⟩
  | tail earlier move ih =>
      have coherent := Reachable.coherent ⟨backend, config, earlier⟩
      rcases (move.coherent coherent).2 with ⟨_, retains⟩
      exact ⟨Nat.lt_of_lt_of_le ih.1 retains.counts.nextHandle,
        Nat.lt_of_lt_of_le ih.2 retains.counts.nextSerial⟩

/-- The interrupt queue is settled and as deep as it was made. -/
theorem Reachable.interrupts (reachable : Reachable machine) :
    machine.world.bus.interrupts.Settled ∧
      machine.world.bus.interrupts.capacity = Limits.interruptDepth := by
  rcases reachable.sessionRun with ⟨trace, last, run, rfl⟩
  rcases run.history with ⟨events, _, histories⟩
  rcases histories last (Nat.le_refl last) with ⟨loops, history, _⟩
  exact ⟨history.settled (InterruptQueue.settled_ofCapacity _),
    history.capacity_eq.trans (InterruptQueue.capacity_ofCapacity _)⟩

/-- The deferred queue has room for one emission at least. -/
theorem Reachable.room_pos (reachable : Reachable machine) :
    max 1 machine.world.bus.deferred.capacity = machine.world.bus.deferred.capacity := by
  rcases reachable.sessionRun with ⟨trace, last, run, rfl⟩
  rcases run.starts with ⟨backend, config, starts⟩
  have room : (trace last).world.bus.deferred.capacity = max 1 config.deferredCapacity :=
    run.room_eq starts last (Nat.le_refl last)
  rw [room, max_eq_right (le_max_left _ _)]

/-! ## Calls that a session makes -/

theorem advance_of_busy (busy : machine.stack ≠ []) (operations : List Operation) :
    advance program (machine, operations) = (machine.step program, operations) := by
  cases operations with
  | nil => rfl
  | cons operation rest => rw [advance, if_neg fun ready => busy ready.1]

theorem advance_of_ready
    (idle : machine.stack = [])
    (going : machine.control ≠ .aborted)
    (operation : Operation) :
    advance program (machine, operation :: rest) = (machine.perform program operation, rest) := by
  rw [advance, if_pos ⟨idle, going⟩]

/-- Moves that user code takes no part in are moves of a session. -/
theorem Hushed.iterate_advance
    {count : Nat}
    {after : Machine}
    (hushed : Hushed program count machine after)
    (operations : List Operation) :
    (advance program)^[count] (machine, operations) = (after, operations) := by
  induction hushed with
  | rest machine => rfl
  | move busy _ _ ih => rw [Function.iterate_succ_apply, advance_of_busy busy, ih]

/-- A call of a session comes to its answer, if the farewells of the contexts that it lets go of
have no commands; nothing but the bus is another one then. -/
theorem session_call
    {operation : Operation}
    {effect : Effect}
    {answer : Answer}
    (idle : machine.stack = [])
    (going : machine.control ≠ .aborted)
    (call : machine.perform program operation = ({ world := machine.world } : Machine).apply effect)
    (result : effect.result = .ok answer)
    (silent : ∀ context ∈ effect.released, context.Silent program) :
    ∃ count after,
      (advance program)^[count] (machine, operation :: rest) = (after, rest) ∧
        after.world = { machine.world with bus := effect.bus } ∧ after.stack = [] ∧
        after.control = .answer answer := by
  have stack := apply_stack { world := machine.world } effect
  have world := world_apply { world := machine.world } effect
  rcases hushed_release silent stack rfl with ⟨freed, hushed, same, below, onwards⟩
  generalize releaseMoves _ _ = count at hushed
  rw [Effect.last, result] at below
  have concluded : freed.step program =
      (({ freed with stack := [] } : Machine).log effect.after).answering answer :=
    step_of_proceed program below onwards
  refine ⟨count + 1 + 1, freed.step program, ?_, ?_, ?_, ?_⟩
  · rw [Function.iterate_succ_apply, advance_of_ready idle going, call,
      Function.iterate_succ_apply', hushed.iterate_advance, advance_of_busy]
    rw [below]
    exact List.cons_ne_nil _ _
  · rw [concluded]
    exact (world_log _ _).trans (same.trans world)
  · rw [concluded]
    exact stack_log _ _
  · rw [concluded]
    rfl

/-- Initializing a bus takes three moves of a session. -/
theorem session_init
    (idle : machine.stack = [])
    (going : machine.control ≠ .aborted)
    (absent : machine.world.bus.registry = none) :
    ∃ record,
      (advance program)^[3] (machine, .init :: rest) =
        ({ world :=
            { machine.world with
              bus := machine.world.bus.setRegistry machine.world.bus.backend.registry }
           stack := []
           control := .answer .done
           events := [.logged record] }, rest) := by
  have uninitialized : ¬ machine.world.bus.isInitialized = true := by
    rw [Bus.isInitialized, absent]
    exact Bool.false_ne_true
  refine ⟨.info ("Signal bus initialized (" ++ machine.world.bus.backend.kind.title ++ " backend)"),
    ?_⟩
  rw [Function.iterate_succ_apply, advance_of_ready idle going, perform, execute, Bus.init,
    if_neg uninitialized]
  cases rest <;> rfl

/-- After a cleanup and a new start the bus is renewed, and user code has the same memory. -/
theorem session_renews
    (reachable : Reachable machine)
    (idle : machine.stack = [])
    (going : machine.control ≠ .aborted)
    (initialized : machine.world.bus.isInitialized = true)
    (silent : ∀ context ∈ machine.world.bus.contexts, context.Silent program) :
    ∃ count record bus,
      (advance program)^[count] (machine, .cleanup :: .init :: rest) =
        ({ world := { machine.world with bus := bus }
           stack := []
           control := .answer .done
           events := [.logged record] }, rest) ∧
        machine.world.bus.Renewed bus ∧ bus.nextHandle = machine.world.bus.nextHandle ∧
        bus.nextSerial = machine.world.bus.nextSerial ∧
        bus.interrupts = machine.world.bus.interrupts.drain.2 := by
  rcases Option.isSome_iff_exists.mp initialized with ⟨registry, present⟩
  have result : machine.world.bus.cleanup.result = .ok .done := by
    rw [Bus.cleanup, present]
  have released : machine.world.bus.cleanup.released = machine.world.bus.contexts := by
    rw [Bus.cleanup, present, Bus.contexts, present]
  rw [← released] at silent
  have call : machine.perform program .cleanup =
      ({ world := machine.world } : Machine).apply machine.world.bus.cleanup :=
    rfl
  rcases @session_call program machine (.init :: rest) _ _ _ idle going call result silent with
    ⟨count, cleaned, moves, world, stack, control⟩
  have bus : cleaned.world.bus =
      { machine.world.bus with
        registry := none
        deferred := machine.world.bus.deferred.clear
        interrupts := machine.world.bus.interrupts.drain.2
        space := none } := by
    rw [world, Bus.cleanup, present]
  have onwards : cleaned.control ≠ .aborted := by
    rw [control]
    exact Control.noConfusion
  rcases @session_init program cleaned rest stack onwards (by rw [bus]) with ⟨record, starts⟩
  have vacant := reachable.interrupts.1.drain_resembles.pending_eq
  rw [InterruptQueue.pending_ofCapacity] at vacant
  have capacity : machine.world.bus.deferred.clear =
      DeferredQueue.ofCapacity machine.world.bus.deferred.capacity := by
    rw [DeferredQueue.ofCapacity, reachable.room_pos, DeferredQueue.clear]
  refine ⟨3 + count, record, cleaned.world.bus.setRegistry cleaned.world.bus.backend.registry,
    ?_, ?_⟩
  · rw [Function.iterate_add_apply, moves, starts, world]
  · rw [bus]
    exact
      ⟨{ registry := rfl, deferred := capacity, pending := vacant, space := rfl, backend := rfl,
         maxSlots := rfl, guarded := rfl, profiling := rfl, hook := rfl }, rfl, rfl, rfl⟩

/-- What a renewed bus and a new one have in common. -/
theorem resembles_anew
    (reachable : Reachable machine)
    {bus : Bus}
    {record record' : LogRecord}
    (renewed : machine.world.bus.Renewed bus)
    (nextHandle : bus.nextHandle = machine.world.bus.nextHandle)
    (nextSerial : bus.nextSerial = machine.world.bus.nextSerial)
    (interrupts : bus.interrupts = machine.world.bus.interrupts.drain.2) :
    Resembles machine.viewFrom none
      { world := { machine.world with bus := bus }
        control := .answer .done
        events := [.logged record] }
      { world :=
          { machine.anew.world with
            bus := machine.anew.world.bus.setRegistry machine.world.bus.backend.registry }
        control := .answer .done
        events := [.logged record'] } := by
  have counted := reachable.counted
  have registries : (some machine.world.bus.backend.registry).map
      (Registry.seen machine.viewFrom.still) =
        (some machine.world.bus.backend.registry).map (Registry.seen machine.viewFrom) := by
    rw [Option.map_some, Option.map_some, Backend.registry, Registry.seen_empty,
      Registry.seen_empty]
  have queues : bus.interrupts.Resembles (InterruptQueue.ofCapacity Limits.interruptDepth) := by
    rw [interrupts, ← reachable.interrupts.2]
    exact reachable.interrupts.1.drain_resembles
  have buses : bus.Resembles machine.viewFrom
      (machine.anew.world.bus.setRegistry machine.world.bus.backend.registry) :=
    { backend := renewed.backend
      registry := by rw [renewed.registry]; exact registries
      guarded := fun _ => renewed.guarded
      nextHandle := by
        rw [nextHandle]
        exact (Nat.add_sub_cancel' counted.1).symm
      issued := Nat.one_pos
      nextSerial := by
        rw [nextSerial]
        exact (Nat.add_sub_cancel' counted.2).symm
      maxSlots := renewed.maxSlots
      profiling := fun _ => renewed.profiling
      hook := renewed.hook
      space := renewed.space
      deferred := renewed.deferred
      interrupts := queues }
  have worlds : World.Resembles machine.viewFrom { machine.world with bus := bus }
      { machine.anew.world with
        bus := machine.anew.world.bus.setRegistry machine.world.bus.backend.registry } :=
    { bus := buses
      calls := rfl
      tickets := rfl
      kept := by rintro _ _ ⟨⟩
      same := by rintro ⟨⟩
      batches := rfl
      readings := fun _ => rfl }
  exact ⟨⟨worlds, .nil, .nil⟩, .answer (.same .done rfl)⟩

/-- Cleaning up and starting again gives a new bus.

The state may be any that a session can come to, as long as nothing is in progress, the bus is
initialized and no farewell of a linked context has commands.  After the cleanup and the new start
nothing of the bus is left but its settings, and user code has the memory that it had; and then
every script that names slots only by handles that its own connections came back with goes the same
way as on a newly constructed bus, at every moment, with handles moved up by the number of those
drawn. -/
theorem fresh_start
    (program : Program)
    (script : List Operation)
    (reachable : Reachable machine)
    (idle : machine.stack = [])
    (going : machine.control ≠ .aborted)
    (initialized : machine.world.bus.isInitialized = true)
    (silent : ∀ context ∈ machine.world.bus.contexts, context.Silent program)
    (known :
      ∀ time,
        ∀ operation ∈ starting? ((advance program)^[time] (machine.anew, .init :: script)),
          ((advance program)^[time] (machine.anew, .init :: script)).1.world.namesKept operation =
            true) :
    ∃ started begun bus,
      ((advance program)^[started] (machine, .cleanup :: .init :: script)).1.world =
          { machine.world with bus := bus } ∧
        machine.world.bus.Renewed bus ∧
        (∀ state ∈
          [(advance program)^[started] (machine, .cleanup :: .init :: script),
            (advance program)^[begun] (machine.anew, .init :: script)],
          state.2 = script ∧ state.1.stack = [] ∧ state.1.control = .answer .done) ∧
        ∀ time,
          Parallel machine.viewFrom script
            ((advance program)^[started + time] (machine, .cleanup :: .init :: script))
            ((advance program)^[begun + time] (machine.anew, .init :: script)) := by
  rcases @session_renews program machine script reachable idle going initialized silent with
    ⟨started, record, bus, renews, renewed, nextHandle, nextSerial, interrupts⟩
  rcases @session_init program machine.anew script rfl Control.noConfusion rfl with
    ⟨record', begins⟩
  have same := @resembles_anew machine reachable bus record record' renewed nextHandle nextSerial
    interrupts
  refine ⟨started, 3, bus, ?_, renewed, ?_, ?_⟩
  · rw [renews]
  · intro state member
    simp only [List.mem_cons, List.not_mem_nil, or_false] at member
    rcases member with rfl | rfl
    · rw [renews]
      exact ⟨rfl, rfl, rfl⟩
    · rw [begins]
      exact ⟨rfl, rfl, rfl⟩
  · intro time
    rw [Nat.add_comm started, Nat.add_comm 3, Function.iterate_add_apply,
      Function.iterate_add_apply, renews, begins]
    refine same.parallel (fun later operation started _ => ?_) time
    have named := known (later + 3)
    rw [Function.iterate_add_apply, begins] at named
    exact named operation started

/-- A callback that connects another one in its first two turns, and a hook that counts signals. -/
def restarting : Program where
  routines :=
    [{ turns := 2
       commands := [{ label := "again", operation := .connect "signal" 1 none none .nowhere }] },
      {}, {}, { turns := 9, commands := [{ label := "seen", operation := .count }] }]

/-- A session that leaves something everywhere, between operations. -/
def restartingState : Machine :=
  (session restarting .heap { profiling := true }
    [.init, .setHook (some 3), .setMaxSlots 4, .register "signal" none none,
      .connect "signal" 0 none (some (.tracked "context" 2)) (.under "first"),
      .emit ⟨"signal", .void⟩, .defer ⟨"signal", .void⟩, .interrupt "signal" 3,
      .setSpace (some "space")]
    35).1

/-- A connection that is disconnected twice. -/
def restartingScript : List Operation :=
  [.register "signal" none none, .connect "signal" 0 none none (.under "second"),
    .emit ⟨"signal", .void⟩, .disconnectHandle (.kept "second"),
    .disconnectHandle (.kept "second")]

/-- After two connections the handles of the renewed bus are two more than those of a new one. -/
theorem fresh_start_reconnecting :
    restartingState.viewFrom = .shifted 2 1 ∧
      ∃ started begun bus,
        restartingState.world.bus.Renewed bus ∧
          ((advance restarting)^[started] (restartingState, .cleanup :: .init :: restartingScript)
            ).1.world.bus = bus ∧
          ∀ time,
            Parallel restartingState.viewFrom restartingScript
              ((advance restarting)^[started + time]
                (restartingState, .cleanup :: .init :: restartingScript))
              ((advance restarting)^[begun + time]
                (restartingState.anew, .init :: restartingScript)) := by
  have bounded :
      ∀ time ≤ 40,
        ∀ operation ∈
          starting? ((advance restarting)^[time] (restartingState.anew, .init :: restartingScript)),
          ((advance restarting)^[time]
            (restartingState.anew, .init :: restartingScript)).1.world.namesKept operation =
              true := by
    decide +kernel
  have reachable : Reachable restartingState := reachable_session restarting _ _ _ _
  have silent : ∀ context ∈ restartingState.world.bus.contexts, context.Silent restarting := by
    have linked : restartingState.world.bus.contexts = [.tracked 0 "context" 2] := by
      decide +kernel
    intro context member ticket label farewell same
    rw [linked, List.mem_singleton] at member
    rw [member] at same
    cases same
    rfl
  rcases fresh_start restarting restartingScript reachable (by decide +kernel) (by decide +kernel)
    (by decide +kernel) silent (fun time => by
      rcases Nat.le_total time 40 with early | late
      · exact bounded time early
      · rw [iterate_advance_fixed (by decide +kernel) (by decide +kernel) late]
        exact bounded 40 (Nat.le_refl _)) with
    ⟨started, begun, bus, world, renewed, _, parallel⟩
  exact ⟨by decide +kernel, started, begun, bus, renewed, by rw [world], parallel⟩

end Machine

end SignalDispatch
