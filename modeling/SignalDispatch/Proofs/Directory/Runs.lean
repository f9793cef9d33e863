import SignalDispatch.Proofs.Directory.Services
import SignalDispatch.Proofs.Machine.Sparing

/-!
# Runs of the machine as requests to a service

What a service does on request, a machine does in its moves.  `Machine.request?` is the request that
the next move of a machine makes: a call on the signals of the bus, the beginning of an emission,
whoever asked for it, or the end of the innermost one.  By `Machine.step_serves` the bus and the
emissions of the machine are afterwards what the service makes of them on that request.

So a run is a list of requests (`Machine.ServiceRun.serves`), and what the chains of the machine
show in the midst of it is what a directory lists after the same requests
(`Machine.ServiceRun.presents`).  Operations that no request stands for are left out of such runs.
-/

namespace SignalDispatch

/-! ## The requests of a machine -/

/-- What a service knows nothing of: the life of the bus, the limit of its signals, and what has
been measured. -/
def Operation.isForeign : Operation → Bool
  | .init | .cleanup | .setMaxSlots _ | .resetTiming | .resetPeak => true
  | _ => false

/-- The request that an operation makes of the signals of the bus. -/
def World.request? (world : World) (payload : Payload) : Operation → Option Request
  | .register name description priority =>
      some (.register name description (priority.getD Priority.normal))
  | .unregister name => some (.unregister name)
  | .contains name => some (.contains name)
  | .count => some .count
  | .listing => some .listing
  | .connect name callback priority context _ =>
      some (.connect name callback (Machine.issuedContext context world.tickets) priority)
  | .disconnect name callback => some (.disconnect name callback)
  | .disconnectHandle source => some (.disconnectHandle (world.handleOf source))
  | .disconnectAll name => some (.disconnectAll name)
  | .emit emission => some (.enter emission.name)
  | .forward name => some (.enter name)
  | .emitDown (.name name) => if 0 < payload.intOr 0 then some (.enter name) else none
  | .emitIn space emission => some (.enter (world.bus.qualify space emission.name))
  | _ => none

namespace Machine

/-- The innermost emission ends. -/
def departure (program : Program) (machine : Machine) (walk : Walk) : Request :=
  .leave 0 (walk.startedAt.map fun start => program.elapsed start machine.world.readings)

/-- The request that a frame makes in its next move. -/
def frameRequest? (program : Program) (machine : Machine) : Frame → Option Request
  | .routine (command :: _) payload turn =>
      if command.turn = none ∨ command.turn = some turn then
        machine.world.request? payload command.operation
      else none
  | .walk walk =>
      if walk.running = none ∧ machine.reading? walk = none then
        some (machine.departure program walk)
      else none
  | .flush (_ + 1) _ =>
      machine.world.bus.deferred.pop?.map fun popped => .enter popped.1.name
  | .drain position _ =>
      (machine.world.bus.interrupts.take? position).map fun taken => .enter taken.1.name
  | .batch (emission :: _) _ => some (.enter emission.name)
  | _ => none

/-- The request that a machine makes in its next move. -/
def request? (program : Program) (machine : Machine) : Option Request :=
  match machine.stack, machine.control with
  | frame :: _, .proceed => machine.frameRequest? program frame
  | .walk walk :: _, .unwind _ =>
      if walk.running = none then some (machine.departure program walk) else none
  | _, _ => none

/-- The bus of a machine and the emissions in progress on it. -/
def service (machine : Machine) : Service where
  bus := machine.world.bus
  emissions := machine.walks

end Machine

/-- The service after a request, if there is one. -/
def Service.after (service : Service) (request : Option Request) : Service :=
  (service.run request.toList).1

namespace Machine

variable (program : Program) {machine : Machine}

/-! ## Starting an operation -/

/-- A call that is over in one go is a call on the service. -/
theorem service_apply (machine : Machine) (effect : Effect) :
    (machine.apply effect).service = (machine.service.call effect).1 := by
  have bus : (machine.apply effect).world.bus = effect.bus := by rw [world_apply]
  have walks : (machine.apply effect).walks = machine.walks := by
    have stack := stack_log (machine.setBus effect.bus) effect.before
    rw [apply]
    cases effect.result with
    | ok answer => exact @walks_of_stack _ [_, _] _ (congrArg _ (congrArg _ stack)) rfl
    | error fault => exact @walks_of_stack _ [_, _] _ (congrArg _ (congrArg _ stack)) rfl
  rw [service, bus, walks]
  rfl

/-- A call that has nothing to do with signals is not seen. -/
theorem unseen_apply {effect : Effect} (same : machine.world.bus.SameSignals effect.bus) :
    machine.service.SameSignals (machine.apply effect).service := by
  rw [service_apply]
  exact ⟨same, rfl⟩

/-- An emission begins, or is refused, as on the service. -/
theorem serves_beginEmission (machine : Machine) (emission : Emission) :
    (machine.service.after (some (.enter emission.name))).SameSignals
      (machine.beginEmission emission).service := by
  refine ⟨.of_eq (Service.bus_enter machine machine.walks emission), ?_⟩
  let service : Service := ⟨machine.world.bus, machine.walks⟩
  change (machine.beginEmission emission).walks.map Walk.signalRef =
    (service.enter emission.name).1.emissions.map Walk.signalRef
  rw [beginEmission, Service.enter]
  dsimp only
  cases machine.world.bus.registry with
  | none => rfl
  | some registry =>
      dsimp only
      cases registry.beginEmission emission.name with
      | error fault => rfl
      | ok entered => rfl

/-- So it does where a queue is changed at the same time. -/
theorem serves_replay
    {queued : Machine}
    (same : machine.service.SameSignals queued.service)
    (emission : Emission) :
    (machine.service.after (some (.enter emission.name))).SameSignals
      (queued.beginEmission emission).service :=
  (same.run [.enter emission.name]).1.trans (serves_beginEmission queued emission)

/-- An operation does to the machine what its request does to the service. -/
theorem execute_serves
    (machine : Machine)
    (payload : Payload)
    {operation : Operation}
    (known : operation.isForeign = false) :
    (machine.service.after (machine.world.request? payload operation)).SameSignals
      (machine.execute program payload operation).service := by
  have emits (emission : Emission) := serves_beginEmission machine emission
  have calls (effect : Effect) :
      (machine.service.call effect).1.SameSignals (machine.apply effect).service := by
    rw [service_apply]
    exact .refl _
  have defers (emission : Emission) :
      machine.service.SameSignals (machine.apply (machine.world.bus.defer emission)).service :=
    unseen_apply (.of_defer _ emission)
  cases operation with
  | init | cleanup | setMaxSlots | resetTiming | resetPeak => cases known
  | register | unregister | disconnect | disconnectHandle | disconnectAll => exact calls _
  | connect name callback priority request keep =>
      rcases connect_eq_apply machine name callback priority request keep with
        ⟨world, result, same, _⟩
      rw [execute, same, service_apply]
      exact .refl _
  | emit emission => exact emits emission
  | forward name => exact emits ⟨name, payload⟩
  | emitIn space emission =>
      exact emits { emission with name := machine.world.bus.qualify space emission.name }
  | emitDown request =>
      cases request with
      | name name =>
          simp only [execute, World.request?]
          split
          · exact emits ⟨name, .int (payload.intOr 0 - 1)⟩
          · exact .refl _
      | unreadable complaint =>
          simp only [execute, World.request?]
          split <;> exact .refl _
  | forwardDeferred | defer => exact defers _
  | flush =>
      simp only [execute]
      split <;> exact .refl _
  | interrupt name value =>
      simp only [execute]
      split
      · exact .refl _
      · exact ⟨⟨rfl, rfl, rfl, rfl, rfl⟩, rfl⟩
  | setSpace | setThreadSafe | setProfiling | setHook =>
      exact unseen_apply ⟨rfl, rfl, rfl, rfl, rfl⟩
  | timing | memoryStats => exact unseen_apply (.of_unchanged fun _ => .refl _)
  | isInitialized | contains | count | listing | deferredLength | space | drain
  | pendingInterrupts | maxSlots | isThreadSafe | isProfiling | display | batchAdd | batchInfo
  | batchClear | batchEmit | panic | catching | unreadable =>
      exact .refl _

/-! ## Steps of frames -/

/-- An emission that leaves is the innermost one of the service. -/
theorem leave_serves (machine : Machine) (walk : Walk) :
    ((machine.push (.walk walk)).service.after
        (some (machine.departure program walk))).SameSignals
      (machine.leave program walk).1.service := by
  refine ⟨.of_eq (Service.bus_leave program machine walk machine.walks), ?_⟩
  have walks : (machine.leave program walk).1.walks = machine.walks :=
    congrArg (List.filterMap Frame.walk?) (leave_fields program machine walk).1
  exact congrArg (List.map Walk.signalRef) walks

/-- The next move of an emission. -/
theorem proceedWalk_serves (machine : Machine) (walk : Walk) :
    ((machine.push (.walk walk)).service.after
        (machine.frameRequest? program (.walk walk))).SameSignals
      (machine.proceedWalk program walk).service := by
  have asked :
      (walk.cursor.bind fun position =>
        machine.world.bus.registry.bind fun registry =>
          registry.read? walk.signalRef position) = machine.reading? walk :=
    rfl
  rw [proceedWalk, frameRequest?]
  cases walk.running with
  | some slot =>
      rw [if_neg fun both => Option.some_ne_none _ both.1]
      exact ⟨.refl _, rfl⟩
  | none =>
      dsimp only
      rw [asked]
      cases machine.reading? walk with
      | none =>
          rw [if_pos ⟨rfl, rfl⟩]
          exact leave_serves program machine walk
      | some reading =>
          rw [if_neg fun both => Option.some_ne_none _ both.2]
          dsimp only
          cases reading.target <;> exact ⟨.refl _, rfl⟩

/-- What only writes records is not seen. -/
theorem service_log (machine : Machine) (records : List LogRecord) :
    (machine.log records).service = machine.service := by
  rw [service, service, walks, walks, world_log, stack_log]

/-- The next move of a frame. -/
theorem proceed_serves
    (machine : Machine)
    {frame : Frame}
    (known : ∀ operation, frame.issued? = some operation → operation.isForeign = false) :
    ((machine.push frame).service.after (machine.frameRequest? program frame)).SameSignals
      (machine.proceed program frame).service := by
  have logs (records : List LogRecord) :
      machine.service.SameSignals (machine.log records).service := by
    rw [service_log]
    exact .refl _
  cases frame with
  | walk walk => exact proceedWalk_serves program machine walk
  | routine commands payload turn =>
      cases commands with
      | nil => exact .refl _
      | cons command rest =>
          rw [Frame.issued?] at known
          rw [proceed, proceedRoutine, frameRequest?]
          split at known
          next due =>
            rw [if_pos due, if_pos due]
            exact execute_serves program (machine.push (.routine (command :: rest) payload turn))
              payload (known _ rfl)
          next late =>
            rw [if_neg late, if_neg late]
            exact .refl _
  | release contexts panic =>
      rw [proceed]
      cases contexts with
      | nil => cases panic <;> exact .refl _
      | cons context rest =>
          cases context with
          | text value => exact .refl _
          | tracked ticket label farewell =>
              rw [proceedRelease]
              split <;> exact .refl _
  | conclude records answer => exact logs records
  | reject fault =>
      rw [proceed, proceedReject]
      dsimp only
      split
      · exact logs _
      · rcases logs [.warn fault.message] with ⟨same, emissions⟩
        exact ⟨{ same with }, emissions⟩
  | flush remaining delivered =>
      rw [proceed, proceedFlush.eq_def, frameRequest?.eq_def]
      dsimp only
      cases remaining with
      | zero => exact logs _
      | succ remaining =>
          dsimp only
          cases machine.world.bus.deferred.pop? with
          | none => exact logs _
          | some popped =>
              rcases popped with ⟨emission, deferred⟩
              simp only [Option.map_some]
              refine serves_replay ?_ emission
              exact ⟨⟨rfl, rfl, rfl, rfl, rfl⟩, rfl⟩
  | drain position delivered =>
      rw [proceed, proceedDrain, frameRequest?]
      dsimp only
      cases machine.world.bus.interrupts.take? position with
      | none => exact logs _
      | some taken =>
          rcases taken with ⟨item, interrupts⟩
          simp only [Option.map_some]
          refine serves_replay ?_ ⟨item.name, .int item.value⟩
          exact ⟨⟨rfl, rfl, rfl, rfl, rfl⟩, rfl⟩
  | batch entries first =>
      cases entries with
      | nil => cases first <;> exact .refl _
      | cons emission rest => exact serves_beginEmission (machine.push (.batch rest first)) emission
  | catching => exact .refl _

/-- A panic reaches an emission; unless it runs a callback it leaves. -/
theorem unwindWalk_serves (machine : Machine) (message : String) (walk : Walk) :
    ((machine.push (.walk walk)).service.after
        (if walk.running = none then some (machine.departure program walk) else none)).SameSignals
      (machine.unwindThrough program message (.walk walk)).service := by
  rw [unwindThrough]
  cases walk.running with
  | some slot =>
      rw [if_neg (Option.some_ne_none _)]
      exact ⟨.refl _, rfl⟩
  | none =>
      rw [if_pos rfl]
      exact leave_serves program machine walk

/-- In a step the machine does what the request of the step does to the service. -/
theorem step_serves
    (known : ∀ operation, machine.issued? = some operation → operation.isForeign = false) :
    (machine.service.after (machine.request? program)).SameSignals
      (machine.step program).service := by
  rcases machine with ⟨world, _ | ⟨frame, below⟩, control, events⟩
  · exact .refl _
  cases control with
  | aborted => cases frame <;> exact .refl _
  | answer answer =>
      cases frame with
      | routine commands payload turn => cases commands <;> exact .refl _
      | _ => exact .refl _
  | unwind message =>
      cases frame with
      | walk walk =>
          exact unwindWalk_serves program ⟨world, below, .unwind message, events⟩ message walk
      | release contexts panic => cases panic <;> exact .refl _
      | _ => exact .refl _
  | proceed => exact proceed_serves program ⟨world, below, .proceed, events⟩ known

/-! ## Runs -/

/-- A run in which no operation is foreign to a service, and the requests that it makes. -/
inductive ServiceRun (start : Machine) : List Request → Machine → Prop where
  | refl : ServiceRun start [] start
  | step (program : Program) {requests : List Request} {reached : Machine} :
      ServiceRun start requests reached →
      (∀ operation, reached.issued? = some operation → operation.isForeign = false) →
      ServiceRun start (requests ++ (reached.request? program).toList) (reached.step program)
  | perform (program : Program) {requests : List Request} {reached : Machine}
      {operation : Operation} :
      ServiceRun start requests reached →
      reached.stack = [] →
      reached.control ≠ .aborted →
      operation.isForeign = false →
      ServiceRun start (requests ++ (reached.world.request? .void operation).toList)
        (reached.perform program operation)

namespace ServiceRun

variable {start reached : Machine} {requests : List Request}

/-- It is a run of the machine. -/
theorem reaches (run : ServiceRun start requests reached) : Reaches start reached := by
  induction run with
  | refl => exact .refl
  | step program _ _ ih => exact ih.tail (.step program _)
  | perform program _ idle going _ ih => exact ih.tail (.perform program _ idle going)

/-- A run goes on with every move that executes no foreign operation. -/
theorem move
    {after : Machine}
    (run : ServiceRun start requests reached)
    (move : Move reached after)
    (known : ∀ operation, Executes operation reached after → operation.isForeign = false) :
    ∃ later, ServiceRun start (requests ++ later) after := by
  cases move with
  | step program =>
      exact ⟨_, run.step program fun _ issued => known _ (.command program issued)⟩
  | perform program operation idle going =>
      exact ⟨_, run.perform program idle going (known _ (.session program idle going))⟩

/-- At every moment of a run the machine has made of its bus and its emissions what a service makes
of its own on the same requests. -/
theorem serves (run : ServiceRun start requests reached) :
    (start.service.run requests).1.SameSignals reached.service := by
  induction run with
  | refl => exact .refl _
  | step program _ known ih =>
      rw [Service.run_append]
      exact (ih.run _).1.trans (step_serves program known)
  | @perform program _ reached _ _ idle _ known ih =>
      have empty : reached.service = ({ world := reached.world } : Machine).service := by
        rw [service, service, walks, walks, idle]
      rw [Service.run_append]
      rw [empty] at ih
      exact (ih.run _).1.trans (execute_serves program _ .void known)

/-- On growing storage, and at every moment of a run, in the midst of callbacks too, the chains of
the machine show what the requests made so far leave in a directory, from which slots are removed at
once; and whatever is asked of the bus next is answered as the directory answers it. -/
theorem presents
    {program : Program}
    {config : Config}
    (run : ServiceRun ((initial .heap config).perform program .init) requests reached) :
    (∃ registry,
        reached.service.Presents ((Directory.empty config.maxSlots).run requests).1 registry) ∧
      ∀ request,
        Agrees (reached.service.perform request).2
          (((Directory.empty config.maxSlots).run requests).1.perform request).2 := by
  have started : ((initial .heap config).perform program .init).service = Service.start config :=
    service_apply _ _
  have served := run.serves
  rw [started] at served
  have follows := ((Service.Follows.start config).run requests).1
  refine ⟨?_, fun request => ?_⟩
  · rcases follows.presents with ⟨registry, presents⟩
    exact ⟨registry, presents.of_sameSignals served⟩
  · rw [(served.perform request).2]
    exact (follows.perform request).agrees

end ServiceRun

end Machine

end SignalDispatch
