import SignalDispatch.Proofs.Bus.Requeueing
import SignalDispatch.Proofs.Machine.Atop
import SignalDispatch.Proofs.Machine.Returning
import SignalDispatch.Proofs.Machine.Resemblance

/-!
# Moves amid other surroundings

As long as user code leaves the deferred queue alone, what the innermost frames do depends neither
on the emissions that wait there nor on what was observed before.  `Machine.beside` puts a machine
next to another queue and another past, and every function of the machine but the replay of the
queue commutes with it.  Together with `step_atop` this is `step_amid`: a step is the same amid any
two surroundings whose frames own the same contexts.
-/

namespace SignalDispatch

/-- A world with another deferred queue. -/
def World.requeue (world : World) (queue : DeferredQueue) : World :=
  { world with bus := world.bus.requeue queue }

namespace Machine

/-- A machine in whose bus other emissions wait, and that has observed other events before. -/
def beside (machine : Machine) (queue : DeferredQueue) (past : List Event) : Machine :=
  { machine with
    world := machine.world.requeue queue
    events := machine.events ++ past }

variable (machine : Machine) (queue : DeferredQueue) (past : List Event)

@[simp]
theorem registry_beside :
    (machine.beside queue past).world.bus.registry = machine.world.bus.registry :=
  rfl

@[simp]
theorem hook_beside : (machine.beside queue past).world.bus.hook = machine.world.bus.hook :=
  rfl

@[simp]
theorem interrupts_beside :
    (machine.beside queue past).world.bus.interrupts = machine.world.bus.interrupts :=
  rfl

/-! ## Parts of a move -/

theorem log_beside (records : List LogRecord) :
    (machine.beside queue past).log records = (machine.log records).beside queue past := by
  induction records generalizing machine with
  | nil => rfl
  | cons record rest ih => exact ih (machine.observe (.logged record))

theorem apply_beside (effect : Effect) :
    (machine.beside queue past).apply (effect.requeue queue) =
      (machine.apply effect).beside queue past := by
  have logged :
      ((machine.beside queue past).setBus (effect.bus.requeue queue)).log effect.before =
        ((machine.setBus effect.bus).log effect.before).beside queue past :=
    log_beside (machine.setBus effect.bus) queue past effect.before
  rw [apply, apply]
  dsimp only [Effect.requeue]
  rw [logged]
  cases effect.result <;> rfl

theorem beginEmission_beside (emission : Emission) :
    (machine.beside queue past).beginEmission emission =
      (machine.beginEmission emission).beside queue past := by
  rw [beginEmission, beginEmission]
  dsimp only [registry_beside]
  split
  · rfl
  · split <;> rfl

theorem leave_beside (program : Program) (walk : Walk) :
    (machine.beside queue past).leave program walk =
      ((machine.leave program walk).1.beside queue past, (machine.leave program walk).2) := by
  let other := machine.beside queue past
  cases present : machine.world.bus.registry with
  | none =>
      have present' : other.world.bus.registry = none := present
      rw [leave_of_none program present, leave_of_none program present']
      rfl
  | some registry =>
      have present' : other.world.bus.registry = some registry := present
      let swept := registry.endEmission walk.signalRef (machine.elapsed? program walk)
      have logged :=
        log_beside ((machine.timed walk).setBus (machine.world.bus.setRegistry swept.1)) queue past
          (sweptRecords swept.2)
      rw [leave_of_some program present, leave_of_some program present']
      exact congrArg (·, swept.2) logged

/-- What is left to be done once a connection was tried. -/
theorem settle_beside (keep : KeepRequest) (effect : Effect) :
    (machine.beside queue past).settle keep (effect.requeue queue) =
      (machine.settle keep effect).beside queue past := by
  rw [settle.eq_def, settle.eq_def]
  dsimp only [Effect.requeue]
  split
  next handle place _ =>
    exact apply_beside { machine with world := machine.world.keep place handle } queue past effect
  next complaint _ =>
    exact apply_beside machine queue past { effect with result := .ok (.unreadable complaint) }
  next => exact apply_beside machine queue past effect

theorem connect_beside
    (name : String)
    (callback : RoutineId)
    (priority : Option Priority)
    (request : Option ContextRequest)
    (keep : KeepRequest) :
    (machine.beside queue past).connect name callback priority request keep =
      (machine.connect name callback priority request keep).beside queue past := by
  have connects :=
    machine.world.bus.connect_requeue queue name callback
      (issuedContext request machine.world.tickets) priority
  rw [connect_eq_settle, connect_eq_settle, ← settle_beside, ← connects]
  rfl

/-- Starting an operation that leaves the deferred queue alone. -/
theorem execute_beside
    (program : Program)
    (payload : Payload)
    {operation : Operation}
    (apart : operation.usesDeferred = false) :
    (machine.beside queue past).execute program payload operation =
      (machine.execute program payload operation).beside queue past := by
  have applies {effect effect' : Effect} (same : effect' = effect.requeue queue) :
      (machine.beside queue past).apply effect' = (machine.apply effect).beside queue past :=
    same ▸ apply_beside machine queue past effect
  let bus := machine.world.bus
  cases operation with
  | cleanup | forwardDeferred | defer | flush | deferredLength => cases apart
  | init => exact applies (bus.init_requeue queue)
  | register => exact applies (bus.register_requeue queue _ _ _)
  | unregister => exact applies (bus.unregister_requeue queue _)
  | connect => exact connect_beside machine queue past _ _ _ _ _
  | disconnect => exact applies (bus.disconnect_requeue queue _ _)
  | disconnectHandle => exact applies (bus.disconnectHandle_requeue queue _)
  | disconnectAll => exact applies (bus.disconnectAll_requeue queue _)
  | setMaxSlots => exact applies (bus.setMaxSlots_requeue queue _)
  | timing => exact applies (bus.timing_requeue queue _)
  | memoryStats => exact applies (bus.memoryStats_requeue queue)
  | setSpace | setThreadSafe | setProfiling | setHook | resetTiming | resetPeak =>
      exact applies rfl
  | emit | forward | emitIn => exact beginEmission_beside machine queue past _
  | emitDown request =>
      simp only [execute]
      split
      · cases request with
        | name => exact beginEmission_beside machine queue past _
        | unreadable => rfl
      · rfl
  | interrupt =>
      rw [execute, execute]
      dsimp only [interrupts_beside]
      split <;> rfl
  | isInitialized | contains | count | listing | space | drain | pendingInterrupts | maxSlots
  | isThreadSafe | isProfiling | display | batchAdd | batchInfo | batchClear | batchEmit | panic
  | catching | unreadable =>
      rfl

/-! ## Moves -/

/-- The next move of an emission. -/
theorem proceedWalk_beside (program : Program) (walk : Walk) :
    (machine.beside queue past).proceedWalk program walk =
      (machine.proceedWalk program walk).beside queue past := by
  rw [proceedWalk, proceedWalk, leave_beside]
  split
  · rfl
  · dsimp only [registry_beside]
    split
    · rfl
    · split <;> rfl

/-- Letting go of contexts: who owns one does not depend on what waits. -/
theorem proceedRelease_beside
    (program : Program)
    (contexts : List Context)
    (panic : Option String) :
    (machine.beside queue past).proceedRelease program contexts panic =
      (machine.proceedRelease program contexts panic).beside queue past := by
  rcases contexts with _ | ⟨_ | ⟨ticket, label, farewell⟩, rest⟩
  · cases panic <;> rfl
  · rfl
  · by_cases owned : (machine.push (.release rest panic)).owns ticket
    · have owned' : ((machine.beside queue past).push (.release rest panic)).owns ticket := owned
      simp only [proceedRelease, if_pos owned, if_pos owned']
      rfl
    · have owned' : ¬ ((machine.beside queue past).push (.release rest panic)).owns ticket := owned
      simp only [proceedRelease, if_neg owned, if_neg owned']
      rfl

/-- The next move of a frame that is not a flush. -/
theorem proceed_beside
    (program : Program)
    {frame : Frame}
    (other : frame.replays? ≠ some .flush)
    (apart : ∀ operation ∈ frame.issued?, operation.usesDeferred = false) :
    (machine.beside queue past).proceed program frame =
      (machine.proceed program frame).beside queue past := by
  cases frame with
  | flush remaining delivered => exact absurd rfl other
  | routine commands payload turn =>
      cases commands with
      | nil => rfl
      | cons command rest =>
          rw [proceed, proceed, proceedRoutine, proceedRoutine]
          rw [Frame.issued?] at apart
          split
          next due =>
            rw [if_pos due] at apart
            exact execute_beside (machine.push _) queue past program payload (apart _ rfl)
          · rfl
  | walk walk => exact proceedWalk_beside machine queue past program walk
  | release contexts panic => exact proceedRelease_beside machine queue past program contexts panic
  | conclude records answer =>
      rw [proceed, proceed, log_beside]
      rfl
  | reject fault =>
      rw [proceed, proceed, proceedReject, proceedReject, log_beside]
      dsimp only [hook_beside]
      split <;> rfl
  | drain position delivered =>
      rw [proceed, proceed, proceedDrain, proceedDrain]
      dsimp only [interrupts_beside]
      split
      next => exact congrArg (answering · _) (log_beside machine queue past _)
      next item interrupts _ =>
        let emptied := { machine.world.bus with interrupts := interrupts }
        exact beginEmission_beside
          ((machine.setBus emptied).push (.drain (item.index + 1) delivered)) queue past
          ⟨item.name, .int item.value⟩
  | batch entries first =>
      cases entries with
      | nil => cases first <;> rfl
      | cons emission rest => exact beginEmission_beside (machine.push _) queue past emission
  | catching => rfl

/-- An answer reaches a frame. -/
theorem resume_beside (answer : Answer) (frame : Frame) :
    (machine.beside queue past).resume answer frame =
      (machine.resume answer frame).beside queue past := by
  cases frame with
  | routine commands => cases commands <;> rfl
  | _ => rfl

/-- A panic reaches a frame. -/
theorem unwindThrough_beside (program : Program) (message : String) (frame : Frame) :
    (machine.beside queue past).unwindThrough program message frame =
      (machine.unwindThrough program message frame).beside queue past := by
  cases frame with
  | walk walk =>
      rw [unwindThrough, unwindThrough, leave_beside]
      split <;> rfl
  | release contexts panic => cases panic <;> rfl
  | _ => rfl

theorem step_beside
    (program : Program)
    (other : ∀ frame ∈ machine.stack.head?, frame.replays? ≠ some .flush)
    (apart : ∀ operation ∈ machine.issued?, operation.usesDeferred = false) :
    (machine.beside queue past).step program = (machine.step program).beside queue past := by
  cases stack : machine.stack with
  | nil =>
      have stack' : (machine.beside queue past).stack = [] := stack
      rw [step_of_idle program stack, step_of_idle program stack']
  | cons frame below =>
      have stack' : (machine.beside queue past).stack = frame :: below := stack
      let under : Machine := { machine with stack := below }
      cases control : machine.control with
      | aborted =>
          have control' : (machine.beside queue past).control = .aborted := control
          rw [step_of_aborted program control, step_of_aborted program control']
      | answer answer =>
          have control' : (machine.beside queue past).control = .answer answer := control
          rw [step_of_answer program stack control, step_of_answer program stack' control']
          exact resume_beside under queue past answer frame
      | unwind message =>
          have control' : (machine.beside queue past).control = .unwind message := control
          rw [step_of_unwind program stack control, step_of_unwind program stack' control']
          exact unwindThrough_beside under queue past program message frame
      | proceed =>
          have control' : (machine.beside queue past).control = .proceed := control
          have issues : machine.issued? = frame.issued? := by rw [issued?, stack, control]
          rw [stack] at other
          rw [issues] at apart
          rw [step_of_proceed program stack control, step_of_proceed program stack' control']
          exact proceed_beside under queue past program (other frame rfl) apart

/-! ## Surroundings -/

/-- What a call finds when it is made: the emissions that wait, what was observed before, and the
frames below. -/
structure Surroundings where
  queue : DeferredQueue
  past : List Event
  below : List Frame

/-- A machine amid other surroundings than its own. -/
def amid (machine : Machine) (around : Surroundings) : Machine :=
  (machine.beside around.queue around.past).atop around.below

/-- No frame replays the deferred queue. -/
def Flushless (frames : List Frame) : Prop :=
  ∀ frame ∈ frames, frame.replays? ≠ some .flush

variable {machine} {around other : Surroundings}

theorem beginEmission_amid (emission : Emission) :
    (machine.amid around).beginEmission emission =
      (machine.beginEmission emission).amid around := by
  rw [amid, amid, beginEmission_atop, beginEmission_beside]

/-- What is issued does not depend on the frames below. -/
theorem issued?_atop (base : List Frame) (busy : machine.stack ≠ []) :
    (machine.atop base).issued? = machine.issued? := by
  rcases List.exists_cons_of_ne_nil busy with ⟨frame, below, stack⟩
  rw [issued?, issued?, stack_atop, control_atop, stack]
  cases machine.control <;> rfl

/-- Only a replay of the deferred queue goes on as one. -/
theorem replays?_of_continues
    {frame last : Frame}
    (continues : frame.Continues last)
    (flushes : last.replays? = some .flush) :
    frame.replays? = some .flush := by
  cases continues with
  | flush => rfl
  | _ => cases flushes

/-- A step puts no replay of the deferred queue on the stack, unless user code asks for it. -/
theorem Flushless.step
    {program : Program}
    {base : List Frame}
    {next : Machine}
    (flushless : Flushless machine.stack)
    (busy : machine.stack ≠ [])
    (apart : machine.issued? ≠ some .flush)
    (steps : (machine.atop base).step program = next.atop base) :
    Flushless next.stack := by
  rcases List.exists_cons_of_ne_nil busy with ⟨frame, below, stack⟩
  have above : (machine.atop base).stack = frame :: (below ++ base) := by
    rw [stack_atop, stack, List.cons_append]
  have turns := step_turns program above
  rw [issued?_atop base busy, steps] at turns
  rw [stack] at flushless
  cases turns with
  | @continues above last reached continues started =>
      have stack' : next.stack ++ base = above ++ last :: below ++ base := by
        rw [List.append_assoc, List.cons_append]
        exact reached
      have stack' := List.append_cancel_right stack'
      rw [stack']
      intro frame' member
      rcases List.mem_append.mp member with new | old
      · intro flushes
        exact apart ((started frame' new (flushes ▸ rfl)).symm.trans flushes)
      · rcases List.mem_cons.mp old with rfl | under
        · exact flushless frame List.mem_cons_self ∘ replays?_of_continues continues
        · exact flushless frame' (List.mem_cons_of_mem _ under)
  | returns reached =>
      have stack' : next.stack ++ base = below ++ base := reached
      have stack' := List.append_cancel_right stack'
      rw [stack']
      exact fun frame' member => flushless frame' (List.mem_cons_of_mem _ member)

/-- Amid surroundings whose frames own the same contexts a step is the same, unless it is about the
deferred queue. -/
theorem step_amid
    (program : Program)
    (busy : machine.stack ≠ [])
    (flushless : Flushless machine.stack)
    (apart : ∀ operation ∈ machine.issued?, operation.usesDeferred = false)
    (same : around.below.flatMap Frame.contexts = other.below.flatMap Frame.contexts) :
    ∃ next : Machine, (machine.amid around).step program = next.amid around ∧
      (machine.amid other).step program = next.amid other ∧ Flushless next.stack := by
  rcases step_atop program busy same with ⟨next, steps, steps'⟩
  have head (base : List Frame) : (machine.atop base).stack.head? = machine.stack.head? := by
    rcases List.exists_cons_of_ne_nil busy with ⟨frame, below, stack⟩
    rw [stack_atop, stack]
    rfl
  have amidst (surroundings : Surroundings)
      (steps : (machine.atop surroundings.below).step program = next.atop surroundings.below) :
      (machine.amid surroundings).step program = next.amid surroundings := by
    have besides := step_beside (machine.atop surroundings.below) surroundings.queue
      surroundings.past program
      (fun frame member => flushless frame (List.mem_of_mem_head? (head _ ▸ member)))
      (issued?_atop surroundings.below busy ▸ apart)
    rw [steps] at besides
    exact besides
  refine ⟨next, amidst around steps, amidst other steps', ?_⟩
  refine flushless.step busy (fun flushes => ?_) steps
  exact Bool.noConfusion (apart .flush flushes)

end Machine

end SignalDispatch
