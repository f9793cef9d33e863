import SignalDispatch.Machine.Run
import SignalDispatch.Proofs.Bus.Shift

/-!
# Moves of the machine

Seen from the registry a step of the machine does one of few things.  A frame that is not an
emission shifts the bus or lets an emission enter; `Machine.Acts` says which, and what is put in
place of the frame.  An emission whose turn it is reads a slot, leaves, or does something that
concerns neither the bus nor its cursor; this is `Machine.Goes`.

`execute_acts` and `step_acts` are for the frames that are not emissions, `step_goes` is for those
that are.
-/

namespace SignalDispatch

/-- The emission that a frame is, if it is one. -/
def Frame.walk? : Frame → Option Walk
  | .walk emission => some emission
  | _ => none

/-- The operation that a frame starts when it goes on, if it is user code. -/
def Frame.issued? : Frame → Option Operation
  | .routine (command :: _) _ turn =>
      if command.turn = none ∨ command.turn = some turn then some command.operation else none
  | _ => none

/-- The handle of the slot that was called in an event. -/
def Event.called? : Event → Option Handle
  | .called handle _ _ _ => some handle
  | _ => none

/-- What stands above other frames is more than these. -/
theorem above_ne_below (above : List Frame) (frame : Frame) (below : List Frame) :
    above ++ frame :: below ≠ below := by
  rw [List.append_cons, Ne, List.append_left_eq_self]
  simp

/-- Whether no frame is an emission. -/
def Walkless (frames : List Frame) : Prop :=
  frames.filterMap Frame.walk? = []

theorem Walkless.nil : Walkless [] :=
  rfl

theorem Walkless.cons {frame : Frame} {frames : List Frame} (walkless : Walkless frames)
    (other : frame.walk? = none) :
    Walkless (frame :: frames) := by
  rw [Walkless, List.filterMap_cons_none other]
  exact walkless

theorem Walkless.append {above below : List Frame} (first : Walkless above)
    (second : Walkless below) :
    Walkless (above ++ below) := by
  rw [Walkless, List.filterMap_append, first, second]
  rfl

namespace Machine

/-- The emissions in progress, the innermost in front. -/
def walks (machine : Machine) : List Walk :=
  machine.stack.filterMap Frame.walk?

/-- The handles of the slots that were called, the latest in front. -/
def calls (machine : Machine) : List Handle :=
  machine.events.filterMap Event.called?

/-- What a walk reads at its cursor. -/
def reading? (machine : Machine) (walk : Walk) : Option SlotReading :=
  walk.cursor.bind fun position =>
    machine.world.bus.registry.bind fun registry => registry.read? walk.signalRef position

/-- The operation that user code starts next, if it is user code's turn. -/
def issued? (machine : Machine) : Option Operation :=
  match machine.stack, machine.control with
  | frame :: _, .proceed => frame.issued?
  | _, _ => none

@[simp]
theorem calls_log (machine : Machine) (records : List LogRecord) :
    (machine.log records).calls = machine.calls := by
  rw [calls, events_log, List.filterMap_append, List.filterMap_reverse, List.filterMap_map]
  have silent : records.filterMap (Event.called? ∘ Event.logged) = [] :=
    List.filterMap_eq_nil_iff.mpr fun _ _ => rfl
  rw [silent]
  rfl

/-! ## Frames that are not emissions -/

section Step

variable (program : Program) {machine : Machine} {frame : Frame} {below : List Frame}

theorem step_of_idle (idle : machine.stack = []) : machine.step program = machine := by
  rw [step, idle]

theorem step_of_aborted (aborted : machine.control = .aborted) :
    machine.step program = machine := by
  cases stack : machine.stack with
  | nil => exact step_of_idle program stack
  | cons frame below => simp only [step, stack, aborted]

variable (stack : machine.stack = frame :: below)

include stack

theorem step_of_proceed (control : machine.control = .proceed) :
    machine.step program = ({ machine with stack := below } : Machine).proceed program frame := by
  simp only [step, stack, control]

theorem step_of_answer {answer : Answer} (control : machine.control = .answer answer) :
    machine.step program = ({ machine with stack := below } : Machine).resume answer frame := by
  simp only [step, stack, control]

theorem step_of_unwind {message : String} (control : machine.control = .unwind message) :
    machine.step program =
      ({ machine with stack := below } : Machine).unwindThrough program message frame := by
  simp only [step, stack, control]

end Step

/-- What a frame that is not an emission does, `above` being the frames that take its place. -/
inductive Acts (operation : Option Operation) (before after : Machine) : List Frame → Prop where
  | shift {above : List Frame} :
      Walkless above →
      Bus.Shifts operation before.world.bus after.world.bus →
      after.calls = before.calls →
      Acts operation before after above
  | enter {registry next : Registry} {walk : Walk} {others : List Frame} :
      Walkless others →
      before.world.bus.registry = some registry →
      registry.beginEmission walk.name = .ok (next, walk.signalRef, walk.cursor) →
      walk.running = none →
      after.world.bus.registry = some next →
      Bus.CountsOn before.world.bus after.world.bus →
      after.calls = before.calls →
      walk.startedAt.isSome = before.world.bus.profiling →
      Acts operation before after (.walk walk :: others)

/-- More frames that are not emissions may be counted in. -/
theorem Acts.extend
    {operation : Option Operation}
    {before middle after : Machine}
    {above others : List Frame}
    (acts : Acts operation middle after above)
    (bus : middle.world.bus = before.world.bus)
    (calls : middle.calls = before.calls)
    (walkless : Walkless others) :
    Acts operation before after (above ++ others) := by
  cases acts with
  | shift walkless' shifts same =>
      rw [bus] at shifts
      rw [calls] at same
      exact .shift (walkless'.append walkless) shifts same
  | enter walkless' present begun fresh replaced counts same timed =>
      rw [bus] at present counts timed
      rw [calls] at same
      exact .enter (walkless'.append walkless) present begun fresh replaced counts same timed

/-- A move that leaves the bus alone. -/
theorem acts_of_same
    {operation : Option Operation}
    {before after : Machine}
    (above : List Frame)
    (stack : after.stack = above ++ before.stack)
    (walkless : Walkless above)
    (bus : after.world.bus = before.world.bus)
    (calls : after.calls = before.calls) :
    ∃ above, after.stack = above ++ before.stack ∧ Acts operation before after above :=
  ⟨above, stack, .shift walkless (bus ▸ .refl _ _) calls⟩

/-- A call that is over in one go. -/
theorem acts_apply
    {operation : Option Operation}
    {before : Machine}
    (machine : Machine)
    (effect : Effect)
    (stack : machine.stack = before.stack)
    (calls : machine.calls = before.calls)
    (shifts : Bus.Shifts operation before.world.bus effect.bus) :
    ∃ above, (machine.apply effect).stack = above ++ before.stack ∧
      Acts operation before (machine.apply effect) above := by
  have reached : ((machine.setBus effect.bus).log effect.before).world.bus = effect.bus := by
    rw [world_log]
    rfl
  rw [← reached] at shifts
  have same : ((machine.setBus effect.bus).log effect.before).stack = before.stack := by
    rw [stack_log]
    exact stack
  have quiet : ((machine.setBus effect.bus).log effect.before).calls = before.calls := by
    rw [calls_log]
    exact calls
  rw [apply]
  cases effect.result with
  | ok answer =>
      refine ⟨[.release effect.released none, .conclude effect.after answer], ?_, ?_⟩
      · exact congrArg _ (congrArg _ same)
      · exact .shift rfl shifts quiet
  | error fault =>
      refine ⟨[.release effect.released none, .reject fault], ?_, ?_⟩
      · exact congrArg _ (congrArg _ same)
      · exact .shift rfl shifts quiet

/-- An emission enters its signal, or its fault is reported. -/
theorem acts_beginEmission
    {operation : Option Operation}
    {before : Machine}
    (machine : Machine)
    (emission : Emission)
    (others : List Frame)
    (stack : machine.stack = others ++ before.stack)
    (walkless : Walkless others)
    (registry : machine.world.bus.registry = before.world.bus.registry)
    (counts : Bus.CountsOn before.world.bus machine.world.bus)
    (calls : machine.calls = before.calls)
    (profiling : machine.world.bus.profiling = before.world.bus.profiling) :
    ∃ above, (machine.beginEmission emission).stack = above ++ before.stack ∧
      Acts operation before (machine.beginEmission emission) above := by
  have rejected (fault : Fault) :
      ∃ above,
        (machine.push (.reject fault)).proceeding.stack = above ++ before.stack ∧
          Acts operation before (machine.push (.reject fault)).proceeding above := by
    refine ⟨.reject fault :: others, congrArg _ stack, ?_⟩
    exact .shift (walkless.cons rfl) (.keep registry counts) calls
  rw [beginEmission]
  cases present : machine.world.bus.registry with
  | none => exact rejected Fault.notInitialized
  | some found =>
      cases begun : found.beginEmission emission.name with
      | error fault =>
          simp only [begun]
          exact rejected fault
      | ok entered =>
          simp only [begun]
          refine ⟨_ :: others, congrArg _ stack, ?_⟩
          refine .enter walkless (registry.symm.trans present) begun rfl rfl
            ⟨counts.nextHandle, counts.nextSerial⟩ calls ?_
          rw [← profiling]
          cases machine.world.bus.profiling <;> rfl

theorem acts_connect
    {machine : Machine}
    (name : String)
    (callback : RoutineId)
    (priority : Option Priority)
    (request : Option ContextRequest)
    (keep : KeepRequest) :
    ∃ above, (machine.connect name callback priority request keep).stack =
        above ++ machine.stack ∧
      Acts (some (.connect name callback priority request keep)) machine
        (machine.connect name callback priority request keep) above := by
  unfold connect
  rcases request with _ | ⟨value⟩ | ⟨label, farewell⟩
  all_goals
    dsimp only
    split
    · exact acts_apply _ _ rfl rfl (.of_connect _ _ _ _ _ _)
    · exact acts_apply _ _ rfl rfl (.of_connect _ _ _ _ _ _)
    · exact acts_apply _ _ rfl rfl (.of_connect _ _ _ _ _ _)

/-- Starting an operation. -/
theorem execute_acts
    (program : Program)
    (machine : Machine)
    (payload : Payload)
    (operation : Operation) :
    ∃ above, (machine.execute program payload operation).stack = above ++ machine.stack ∧
      Acts (some operation) machine (machine.execute program payload operation) above := by
  have emits (emission : Emission) :=
    @acts_beginEmission (some operation) machine machine emission [] rfl .nil rfl (.refl _) rfl rfl
  cases operation with
  | init => exact acts_apply _ _ rfl rfl (.of_init _)
  | cleanup => exact acts_apply _ _ rfl rfl (.of_cleanup _)
  | register => exact acts_apply _ _ rfl rfl (.of_register _ _ _ _ _)
  | unregister => exact acts_apply _ _ rfl rfl (.of_unregister _ _)
  | connect => exact acts_connect _ _ _ _ _
  | disconnect => exact acts_apply _ _ rfl rfl (.of_disconnect _ _ _ _)
  | disconnectHandle => exact acts_apply _ _ rfl rfl (.of_disconnectHandle _ _ _)
  | disconnectAll => exact acts_apply _ _ rfl rfl (.of_disconnectAll _ _ _)
  | emit emission => exact emits emission
  | forward name => exact emits _
  | emitIn space emission => exact emits _
  | forwardDeferred => exact acts_apply _ _ rfl rfl (.of_defer _ _ _)
  | defer => exact acts_apply _ _ rfl rfl (.of_defer _ _ _)
  | setMaxSlots => exact acts_apply _ _ rfl rfl (.of_setMaxSlots _ _ _)
  | timing => exact acts_apply _ _ rfl rfl (.of_timing _ _ _)
  | memoryStats => exact acts_apply _ _ rfl rfl (.of_memoryStats _ _)
  | resetTiming => exact acts_apply _ _ rfl rfl (.of_resetTiming _)
  | resetPeak => exact acts_apply _ _ rfl rfl (.of_resetPeak _)
  | setSpace | setThreadSafe | setProfiling | setHook =>
      exact acts_apply _ _ rfl rfl (.of_same _ rfl rfl rfl)
  | emitDown request =>
      simp only [execute]
      split
      · cases request with
        | name name => exact emits _
        | unreadable complaint => exact acts_of_same [] rfl .nil rfl rfl
      · exact acts_of_same [] rfl .nil rfl rfl
  | flush =>
      simp only [execute]
      split
      · exact acts_of_same [_] rfl rfl rfl rfl
      · exact acts_of_same [_] rfl rfl rfl rfl
  | interrupt name value =>
      simp only [execute]
      split
      · exact acts_of_same [] rfl .nil rfl rfl
      · exact ⟨[], rfl, .shift .nil (.of_same _ rfl rfl rfl) rfl⟩
  | drain => exact acts_of_same [_] rfl rfl rfl rfl
  | batchEmit => exact acts_of_same [_] rfl rfl rfl rfl
  | catching => exact acts_of_same [_, _] rfl rfl rfl rfl
  | isInitialized | contains | count | listing | deferredLength | space | pendingInterrupts
  | maxSlots | isThreadSafe | isProfiling | display | batchAdd | batchInfo | batchClear | panic
  | unreadable =>
      exact acts_of_same [] rfl .nil rfl rfl

/-- What was done to a machine with the same bus was done to the machine. -/
theorem Acts.below
    {operation : Option Operation}
    {before under after : Machine}
    (acts : ∃ above, after.stack = above ++ under.stack ∧ Acts operation under after above)
    (bus : under.world.bus = before.world.bus)
    (calls : under.calls = before.calls) :
    ∃ above, after.stack = above ++ under.stack ∧ Acts operation before after above := by
  rcases acts with ⟨above, stack, acts⟩
  refine ⟨above, stack, ?_⟩
  have same : Acts operation before after (above ++ []) := acts.extend bus calls .nil
  rw [List.append_nil] at same
  exact same

/-- The next move of a frame that is not an emission. -/
theorem proceed_acts
    (program : Program)
    (machine : Machine)
    {frame : Frame}
    (other : frame.walk? = none) :
    ∃ above, (machine.proceed program frame).stack = above ++ machine.stack ∧
      Acts frame.issued? machine (machine.proceed program frame) above := by
  cases frame with
  | walk => cases other
  | routine commands payload turn =>
      rw [proceed]
      cases commands with
      | nil => exact acts_of_same [] rfl .nil rfl rfl
      | cons command rest =>
          rw [proceedRoutine, Frame.issued?]
          split
          · rcases execute_acts program (machine.push (.routine (command :: rest) payload turn))
              payload command.operation with ⟨above, stack, acts⟩
            refine ⟨above ++ [.routine (command :: rest) payload turn], ?_, ?_⟩
            · rw [stack, List.append_assoc]
              rfl
            · exact acts.extend rfl rfl rfl
          · exact acts_of_same [_] rfl rfl rfl rfl
  | release contexts panic =>
      rw [proceed]
      cases contexts with
      | nil => cases panic <;> exact acts_of_same [] rfl .nil rfl rfl
      | cons context rest =>
          cases context with
          | text value => exact acts_of_same [_] rfl rfl rfl rfl
          | tracked ticket label farewell =>
              rw [proceedRelease]
              split
              · exact acts_of_same [_] rfl rfl rfl rfl
              · exact acts_of_same [_, _] rfl rfl rfl rfl
  | conclude records answer =>
      rw [proceed]
      refine acts_of_same [] (stack_log _ _) .nil ?_ (calls_log _ _)
      rw [answering, world_log]
  | reject fault =>
      have world := world_log machine [.warn fault.message]
      have stack := stack_log machine [.warn fault.message]
      have calls := calls_log machine [.warn fault.message]
      rw [proceed, proceedReject]
      dsimp only
      split
      · exact acts_of_same [] stack .nil (congrArg World.bus world) calls
      · refine ⟨[_, _], congrArg _ (congrArg _ stack), .shift rfl ?_ calls⟩
        rw [← world]
        exact .of_same _ rfl rfl rfl
  | flush remaining delivered =>
      rw [proceed, proceedFlush.eq_def]
      dsimp only
      split
      · refine acts_of_same [] (stack_log _ _) .nil ?_ (calls_log _ _)
        rw [answering, world_log]
      · exact acts_beginEmission _ _ [_] rfl rfl rfl ⟨Nat.le_refl _, Nat.le_refl _⟩ rfl rfl
  | drain position delivered =>
      rw [proceed, proceedDrain]
      dsimp only
      split
      · refine acts_of_same [] (stack_log _ _) .nil ?_ (calls_log _ _)
        rw [answering, world_log]
      · exact acts_beginEmission _ _ [_] rfl rfl rfl ⟨Nat.le_refl _, Nat.le_refl _⟩ rfl rfl
  | batch entries first =>
      rw [proceed]
      cases entries with
      | nil => cases first <;> exact acts_of_same [] rfl .nil rfl rfl
      | cons emission rest =>
          exact acts_beginEmission _ _ [_] rfl rfl rfl (.refl _) rfl rfl
  | catching => exact acts_of_same [] rfl .nil rfl rfl

/-- A frame that is not an emission gets an answer. -/
theorem resume_acts
    (machine : Machine)
    (answer : Answer)
    {frame : Frame}
    (other : frame.walk? = none) :
    ∃ above, (machine.resume answer frame).stack = above ++ machine.stack ∧
      Acts none machine (machine.resume answer frame) above := by
  cases frame with
  | walk => cases other
  | routine commands payload turn =>
      cases commands with
      | nil => exact acts_of_same [] rfl .nil rfl rfl
      | cons command rest => exact acts_of_same [_] rfl rfl rfl rfl
  | release | conclude | reject | flush | drain | batch | catching =>
      exact acts_of_same [_] rfl rfl rfl rfl

/-- A panic reaches a frame that is not an emission. -/
theorem unwindThrough_acts
    (program : Program)
    (machine : Machine)
    (message : String)
    {frame : Frame}
    (other : frame.walk? = none) :
    ∃ above, (machine.unwindThrough program message frame).stack = above ++ machine.stack ∧
      Acts none machine (machine.unwindThrough program message frame) above := by
  cases frame with
  | walk => cases other
  | release contexts panic => cases panic <;> exact acts_of_same [_] rfl rfl rfl rfl
  | routine | conclude | reject | flush | drain | batch | catching =>
      exact acts_of_same [] rfl .nil rfl rfl

/-- A step of a frame that is not an emission. -/
theorem step_acts
    (program : Program)
    {machine : Machine}
    {frame : Frame}
    {below : List Frame}
    (stack : machine.stack = frame :: below)
    (other : frame.walk? = none) :
    ∃ above, (machine.step program).stack = above ++ below ∧
      Acts machine.issued? machine (machine.step program) above := by
  rw [step, issued?, stack]
  cases machine.control with
  | proceed => exact Acts.below (proceed_acts program _ other) rfl rfl
  | answer answer => exact Acts.below (resume_acts _ answer other) rfl rfl
  | unwind message => exact Acts.below (unwindThrough_acts program _ message other) rfl rfl
  | aborted =>
      refine ⟨[frame], stack, .shift ?_ (.refl _ _) rfl⟩
      exact Walkless.nil.cons other

/-! ## Emissions -/

end Machine

namespace Bus

/-- The bus after an emission left its signal. -/
def leaving (bus : Bus) (signalRef : SignalRef) (elapsed : Option Nat) : Bus :=
  match bus.registry with
  | none => bus
  | some registry => bus.setRegistry (registry.endEmission signalRef elapsed).1

end Bus

namespace Machine

/-- What an emission does when it is innermost and has `below` under it. -/
inductive Goes (walk : Walk) (below : List Frame) (before after : Machine) : Prop where
  /-- It keeps its place. -/
  | stay (above : List Frame) {same : Walk} :
      before.control ≠ .proceed ∨ walk.running ≠ none →
      after.stack = above ++ .walk same :: below →
      Walkless above →
      same.signalRef = walk.signalRef →
      same.cursor = walk.cursor →
      after.world.bus = before.world.bus →
      after.calls = before.calls →
      same.startedAt = walk.startedAt →
      Goes walk below before after
  /-- It reads a tombstone and goes past it. -/
  | pass {reading : SlotReading} :
      before.control = .proceed →
      walk.running = none →
      before.reading? walk = some reading →
      reading.target = none →
      after.stack = .walk { walk with cursor := reading.next, running := none } :: below →
      after.control = .proceed →
      after.world.bus = before.world.bus →
      after.calls = before.calls →
      Goes walk below before after
  /-- It reads a live slot and calls its callback. -/
  | invoke (above : List Frame) {reading : SlotReading} {slot : Slot} :
      before.control = .proceed →
      walk.running = none →
      before.reading? walk = some reading →
      reading.target = some slot →
      after.stack =
        above ++ .walk { walk with cursor := reading.next, running := some slot } :: below →
      Walkless above →
      after.world.bus = before.world.bus →
      after.events =
        .called slot.handle slot.callback walk.payload slot.context :: before.events →
      Goes walk below before after
  /-- It reads nothing, or a panic reaches it, and it leaves its signal. -/
  | leave (above : List Frame) {elapsed : Option Nat} :
      walk.running = none →
      before.control = .proceed ∧ before.reading? walk = none ∨
        (∃ message, before.control = .unwind message) →
      after.stack = above ++ below →
      Walkless above →
      after.world.bus = before.world.bus.leaving walk.signalRef elapsed →
      after.calls = before.calls →
      elapsed.isSome = walk.startedAt.isSome →
      Goes walk below before after

/-- Leaving changes the registry, the clock and the log. -/
theorem leave_fields (program : Program) (machine : Machine) (walk : Walk) :
    (machine.leave program walk).1.stack = machine.stack ∧
      (machine.leave program walk).1.calls = machine.calls ∧
      ∃ elapsed,
        (machine.leave program walk).1.world.bus =
            machine.world.bus.leaving walk.signalRef elapsed ∧
          elapsed.isSome = walk.startedAt.isSome := by
  let elapsed := walk.startedAt.map fun start => program.elapsed start machine.world.readings
  have taken : elapsed.isSome = walk.startedAt.isSome := Option.isSome_map
  rw [leave]
  dsimp only
  cases present : machine.world.bus.registry with
  | none =>
      refine ⟨rfl, rfl, elapsed, ?_, taken⟩
      rw [Bus.leaving, present]
  | some registry =>
      dsimp only
      refine ⟨stack_log _ _, calls_log _ _, elapsed, ?_, taken⟩
      rw [world_log, Bus.leaving, present]
      rfl

/-- A step of an emission. -/
theorem step_goes
    (program : Program)
    {machine : Machine}
    {walk : Walk}
    {below : List Frame}
    (stack : machine.stack = .walk walk :: below) :
    Goes walk below machine (machine.step program) := by
  have left := leave_fields program { machine with stack := below } walk
  rcases left with ⟨leftStack, leftCalls, elapsed, leftBus, taken⟩
  cases control : machine.control with
  | aborted =>
      have same : machine.step program = machine := by
        rw [step, stack]
        simp only [control]
      rw [same]
      exact .stay [] (Or.inl (by rw [control]; exact Control.noConfusion)) stack .nil rfl
        rfl rfl rfl rfl
  | answer answer =>
      have same :
          machine.step program =
            (({ machine with stack := below } : Machine).push (.walk walk)).proceeding := by
        rw [step, stack]
        simp only [control, resume]
      rw [same]
      exact .stay [] (Or.inl (by rw [control]; exact Control.noConfusion)) rfl .nil rfl
        rfl rfl rfl rfl
  | unwind message =>
      have same :
          machine.step program =
            ({ machine with stack := below } : Machine).unwindThrough program message
              (.walk walk) := by
        rw [step, stack]
        simp only [control]
      rw [same, unwindThrough]
      cases running : walk.running with
      | some slot =>
          exact .stay [_] (Or.inr (by rw [running]; exact Option.some_ne_none _)) rfl rfl rfl rfl
            rfl rfl rfl
      | none =>
          exact .leave [_] running (Or.inr ⟨message, control⟩)
            (congrArg (List.cons _) leftStack) rfl leftBus leftCalls taken
  | proceed =>
      have same :
          machine.step program =
            ({ machine with stack := below } : Machine).proceedWalk program walk := by
        rw [step, stack]
        simp only [control, proceed]
      rw [same, proceedWalk]
      cases running : walk.running with
      | some slot =>
          exact .stay [_] (Or.inr (by rw [running]; exact Option.some_ne_none _)) rfl rfl rfl rfl
            rfl rfl rfl
      | none =>
          have asked :
              (walk.cursor.bind fun position =>
                machine.world.bus.registry.bind fun registry =>
                  registry.read? walk.signalRef position) = machine.reading? walk :=
            rfl
          dsimp only
          rw [asked]
          cases reads : machine.reading? walk with
          | none =>
              exact .leave [_, _] running (Or.inl ⟨control, reads⟩)
                (congrArg (List.cons _) (congrArg (List.cons _) leftStack)) rfl leftBus leftCalls
                taken
          | some reading =>
              dsimp only
              cases target : reading.target with
              | none => exact .pass control running reads target rfl rfl rfl rfl
              | some slot =>
                  exact .invoke [_] control running reads target rfl rfl rfl rfl

end Machine

end SignalDispatch
