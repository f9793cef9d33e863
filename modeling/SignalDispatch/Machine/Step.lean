import SignalDispatch.Machine.Basic

/-!
# Steps of the machine

`Machine.execute` starts an operation; `step` takes one move of the innermost frame.  A call that
is over in one go pushes what it leaves to be done: the release of contexts above the conclusion
or the report of a fault.  An emission is a `walk` frame, and its moves are reading a slot, calling
its callback, letting go of the callback's context, and leaving the signal.
-/

namespace SignalDispatch.Machine

/-! ## Calls and emissions -/

/-- Take over the effect of a call: write its first records, let go of contexts, then conclude or
report. -/
def apply (machine : Machine) (effect : Effect) : Machine :=
  let changed := (machine.setBus effect.bus).log effect.before
  let last : Frame :=
    match effect.result with
    | .ok answer => .conclude effect.after answer
    | .error fault => .reject fault
  ((changed.push last).push (.release effect.released none)).proceeding

/-- The record of slots that were swept, if there are any. -/
def sweptRecords (swept : List Slot) : List LogRecord :=
  if swept.isEmpty then []
  else [.debug ("Swept " ++ toString swept.length ++ " removed slots")]

/-- Start to emit: enter the signal, or report why it cannot be entered. -/
def beginEmission (machine : Machine) (emission : Emission) : Machine :=
  let bus := machine.world.bus
  match bus.registry with
  | none => (machine.push (.reject Fault.notInitialized)).proceeding
  | some registry =>
      match registry.beginEmission emission.name with
      | .error fault => (machine.push (.reject fault)).proceeding
      | .ok (registry, signalRef, head) =>
          let readings := machine.world.readings
          let entered :=
            { machine with
              world :=
                { machine.world with
                  bus := bus.setRegistry registry
                  readings := if bus.profiling then readings + 1 else readings } }
          let walk : Walk :=
            { name := emission.name
              payload := emission.payload
              signalRef := signalRef
              cursor := head
              startedAt := if bus.profiling then some readings else none }
          (entered.push (.walk walk)).proceeding

/-- Leave the signal of an emission; the slots that were swept come back. -/
def leave (program : Program) (machine : Machine) (walk : Walk) : Machine × List Slot :=
  let readings := machine.world.readings
  let timed :=
    { machine with
      world :=
        { machine.world with
          readings := if walk.startedAt.isSome then readings + 1 else readings } }
  let elapsed := walk.startedAt.map fun start => program.elapsed start readings
  match machine.world.bus.registry with
  | none => (timed, [])
  | some registry =>
      let (registry, swept) := registry.endEmission walk.signalRef elapsed
      ((timed.setBus (machine.world.bus.setRegistry registry)).log (sweptRecords swept), swept)

/-- Call the callback of a slot with the payload of an emission. -/
def callSlot (program : Program) (machine : Machine) (walk : Walk) (slot : Slot) : Machine :=
  let world := machine.world.countCall slot.callback
  let turn := world.callsOf slot.callback
  let event : Event := .called slot.handle slot.callback walk.payload slot.context
  let commands := program.commandsAt slot.callback turn
  (((({ machine with world := world }).observe event).push
      (.walk { walk with running := some slot })).push
    (.routine commands walk.payload turn)).proceeding

/-! ## Starting an operation -/

/-- Connect a callback with the context that was asked for, and keep the handle. -/
def connect
    (machine : Machine)
    (name : String)
    (callback : RoutineId)
    (priority : Option Priority)
    (request : Option ContextRequest)
    (keep : KeepRequest) :
    Machine :=
  let world := machine.world
  let (context, tickets) : Option Context × Nat :=
    match request with
    | none => (none, world.tickets)
    | some (.text value) => (some (.text value), world.tickets)
    | some (.tracked label farewell) =>
        (some (.tracked world.tickets label farewell), world.tickets + 1)
  let effect := world.bus.connect name callback context priority
  let issued := { machine with world := { world with tickets := tickets } }
  match effect.result, keep with
  | .ok (.connected handle), .under place =>
      { issued with world := issued.world.keep place handle }.apply effect
  | .ok _, .unreadable complaint =>
      issued.apply { effect with result := .ok (.unreadable complaint) }
  | _, _ => issued.apply effect

/-- Start an operation of user code whose current payload is given. -/
def execute
    (program : Program)
    (machine : Machine)
    (payload : Payload)
    (operation : Operation) :
    Machine :=
  let world := machine.world
  let bus := world.bus
  match operation with
  | .init => machine.apply bus.init
  | .cleanup => machine.apply bus.cleanup
  | .isInitialized => machine.answering (.flag bus.isInitialized)
  | .register name description priority =>
      machine.apply (bus.register name description (priority.getD Priority.normal))
  | .unregister name => machine.apply (bus.unregister name)
  | .contains name => machine.answering (.flag (bus.contains name))
  | .count => machine.answering (.number bus.count)
  | .listing => machine.answering (.listing bus.listing)
  | .connect name callback priority context keep =>
      machine.connect name callback priority context keep
  | .disconnect name callback => machine.apply (bus.disconnect name callback)
  | .disconnectHandle source => machine.apply (bus.disconnectHandle (world.handleOf source))
  | .disconnectAll name => machine.apply (bus.disconnectAll name)
  | .emit emission => machine.beginEmission emission
  | .forward name => machine.beginEmission ⟨name, payload⟩
  | .forwardDeferred name => machine.apply (bus.defer ⟨name, payload⟩)
  | .emitDown request =>
      let value := payload.intOr 0
      if 0 < value then
        match request with
        | .name name => machine.beginEmission ⟨name, .int (value - 1)⟩
        | .unreadable complaint => machine.answering (.unreadable complaint)
      else machine.answering (.text (some "stop"))
  | .defer emission => machine.apply (bus.defer emission)
  | .flush =>
      if bus.isInitialized then (machine.push (.flush bus.deferred.length 0)).proceeding
      else (machine.push (.reject Fault.notInitialized)).proceeding
  | .deferredLength => machine.answering (.number bus.deferred.length)
  | .setSpace space => machine.apply (bus.setSpace space)
  | .space => machine.answering (.text bus.space)
  | .emitIn space emission =>
      machine.beginEmission { emission with name := bus.qualify space emission.name }
  | .interrupt name value =>
      match bus.interrupts.push name value with
      | .error fault => machine.answering (.fault fault)
      | .ok interrupts => (machine.setBus { bus with interrupts := interrupts }).answering .done
  | .drain => (machine.push (.drain 0 0)).proceeding
  | .pendingInterrupts => machine.answering (.number bus.interrupts.pending)
  | .setMaxSlots limit => machine.apply (bus.setMaxSlots limit)
  | .maxSlots => machine.answering (.number bus.maxSlots)
  | .setThreadSafe enabled => machine.apply (bus.setThreadSafe enabled)
  | .isThreadSafe => machine.answering (.flag bus.guard.enabled)
  | .setProfiling enabled => machine.apply (bus.setProfiling enabled)
  | .isProfiling => machine.answering (.flag bus.profiling)
  | .timing name => machine.apply (bus.timing name)
  | .resetTiming => machine.apply bus.resetTiming
  | .resetPeak => machine.apply bus.resetPeak
  | .memoryStats => machine.apply bus.memoryStats
  | .display => machine.answering (.text (some bus.display))
  | .setHook routine => machine.apply (bus.setHook routine)
  | .batchAdd name emission =>
      let batch := (world.batchOf name).add emission
      { machine with world := world.setBatch name batch }.answering (.number batch.length)
  | .batchInfo name =>
      let batch := world.batchOf name
      machine.answering (.batch batch.length batch.display?)
  | .batchClear name => { machine with world := world.setBatch name {} }.answering .done
  | .batchEmit name => (machine.push (.batch (world.batchOf name).entries none)).proceeding
  | .panic message => machine.unwinding message
  | .catching routine =>
      ((machine.push .catching).push
        (.routine (program.routine routine).commands payload 0)).proceeding
  | .unreadable complaint => machine.answering (.unreadable complaint)

/-! ## Moves of the innermost frame -/

/-- The next move of user code. -/
def proceedRoutine
    (program : Program)
    (machine : Machine)
    (commands : List Command)
    (payload : Payload)
    (turn : Nat) :
    Machine :=
  match commands with
  | [] => machine.proceeding
  | command :: rest =>
      if command.turn = none ∨ command.turn = some turn then
        (machine.push (.routine commands payload turn)).execute program payload command.operation
      else (machine.push (.routine rest payload turn)).proceeding

/-- The next move of an emission. -/
def proceedWalk (program : Program) (machine : Machine) (walk : Walk) : Machine :=
  match walk.running with
  | some slot =>
      let returned := { walk with invoked := walk.invoked + 1, running := none }
      ((machine.push (.walk returned)).push (.release slot.context.toList none)).proceeding
  | none =>
      let reading :=
        walk.cursor.bind fun position =>
          machine.world.bus.registry.bind fun registry => registry.read? walk.signalRef position
      match reading with
      | none =>
          let (left, swept) := machine.leave program walk
          let record : LogRecord :=
            .debug ("Emitted '" ++ walk.name ++ "' to " ++ toString walk.invoked ++ " slots")
          ((left.push (.conclude [record] .done)).push
            (.release (Bus.contextsOf swept) none)).proceeding
      | some reading =>
          let advanced := { walk with cursor := reading.next }
          match reading.target with
          | none => (machine.push (.walk advanced)).proceeding
          | some slot => machine.callSlot program advanced slot

/-- Let go of the next context; its farewell runs if no owner is left. -/
def proceedRelease
    (program : Program)
    (machine : Machine)
    (contexts : List Context)
    (panic : Option String) :
    Machine :=
  match contexts with
  | [] =>
      match panic with
      | none => machine.proceeding
      | some message => machine.unwinding message
  | context :: rest =>
      let remaining := machine.push (.release rest panic)
      match context with
      | .text _ => remaining.proceeding
      | .tracked ticket label farewell =>
          if remaining.owns ticket then remaining.proceeding
          else
            ((remaining.observe (.released label)).push
              (.routine (program.routine farewell).commands .void 0)).proceeding

/-- Report a fault: write it to the log and call the hook installed now. -/
def proceedReject (program : Program) (machine : Machine) (fault : Fault) : Machine :=
  let warned := machine.log [.warn fault.message]
  let bus := warned.world.bus
  match bus.hook with
  | none => warned.answering (.fault fault)
  | some hook =>
      let turn := hook.calls + 1
      let counted := warned.setBus { bus with hook := some { hook with calls := turn } }
      (((counted.observe (.hooked fault.kind fault.message)).push
          (.conclude [] (.fault fault))).push
        (.routine (program.commandsAt hook.routine turn) .void turn)).proceeding

/-- Replay the next deferred emission. -/
def proceedFlush (machine : Machine) (remaining delivered : Nat) : Machine :=
  let bus := machine.world.bus
  let next :=
    match remaining with
    | 0 => none
    | remaining + 1 =>
        bus.deferred.pop?.map fun popped => (remaining, popped)
  match next with
  | none =>
      (machine.log
        [.debug ("Flushed " ++ toString delivered ++ " deferred emissions")]).answering
          (.number delivered)
  | some (remaining, emission, deferred) =>
      ((machine.setBus { bus with deferred := deferred }).push
        (.flush remaining delivered)).beginEmission emission

/-- Replay the next pending interrupt. -/
def proceedDrain (machine : Machine) (position delivered : Nat) : Machine :=
  let bus := machine.world.bus
  match bus.interrupts.take? position with
  | none =>
      let records : List LogRecord :=
        if delivered = 0 then []
        else [.debug ("Drained " ++ toString delivered ++ " interrupt emissions")]
      (machine.log records).answering (.number delivered)
  | some (item, interrupts) =>
      ((machine.setBus { bus with interrupts := interrupts }).push
        (.drain (item.index + 1) delivered)).beginEmission ⟨item.name, .int item.value⟩

/-- Emit the next entry of a batch. -/
def proceedBatch (machine : Machine) (entries : List Emission) (first : Option Fault) : Machine :=
  match entries with
  | [] =>
      match first with
      | none => machine.answering .done
      | some fault => machine.answering (.fault fault)
  | emission :: rest => (machine.push (.batch rest first)).beginEmission emission

/-- The next move of a frame that was innermost; the rest of the stack is in the state. -/
def proceed (program : Program) (machine : Machine) : Frame → Machine
  | .routine commands payload turn => machine.proceedRoutine program commands payload turn
  | .walk walk => machine.proceedWalk program walk
  | .release contexts panic => machine.proceedRelease program contexts panic
  | .conclude records answer => (machine.log records).answering answer
  | .reject fault => machine.proceedReject program fault
  | .flush remaining delivered => machine.proceedFlush remaining delivered
  | .drain position delivered => machine.proceedDrain position delivered
  | .batch entries first => machine.proceedBatch entries first
  | .catching => machine.answering (.text (some "completed"))

/-- A frame that was innermost gets the answer of the operation it started. -/
def resume (machine : Machine) (answer : Answer) : Frame → Machine
  | .routine commands payload turn =>
      match commands with
      | [] => machine.proceeding
      | command :: rest =>
          ((machine.observe (.acted command.label answer)).push
            (.routine rest payload turn)).proceeding
  | .flush remaining delivered =>
      let delivered := if answer.fault?.isSome then delivered else delivered + 1
      (machine.push (.flush remaining delivered)).proceeding
  | .drain position delivered =>
      let delivered := if answer.fault?.isSome then delivered else delivered + 1
      (machine.push (.drain position delivered)).proceeding
  | .batch entries first =>
      (machine.push (.batch entries (first <|> answer.fault?))).proceeding
  | frame => (machine.push frame).proceeding

/-- A panic reaches a frame that was innermost. -/
def unwindThrough (program : Program) (machine : Machine) (message : String) : Frame → Machine
  | .walk walk =>
      match walk.running with
      | some slot =>
          ((machine.push (.walk { walk with running := none })).push
            (.release slot.context.toList (some message))).proceeding
      | none =>
          let (left, swept) := machine.leave program walk
          (left.push (.release (Bus.contextsOf swept) (some message))).proceeding
  | .release contexts none => (machine.push (.release contexts (some message))).proceeding
  | .release contexts (some earlier) =>
      { machine.push (.release contexts (some earlier)) with control := .aborted }
  | .catching => machine.answering (.panicked message)
  | _ => machine.unwinding message

/-- One move of the innermost frame; a finished state stays as it is. -/
def step (program : Program) (machine : Machine) : Machine :=
  match machine.stack with
  | [] => machine
  | frame :: rest =>
      let below := { machine with stack := rest }
      match machine.control with
      | .proceed => below.proceed program frame
      | .answer answer => below.resume answer frame
      | .unwind message => below.unwindThrough program message frame
      | .aborted => machine

end SignalDispatch.Machine
