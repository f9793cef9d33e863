import SignalDispatch.Proofs.Machine.Performing
import SignalDispatch.Proofs.Machine.Sparing

/-!
# Batches are changed by user code only

A batch is changed by adding to it and by clearing it.  Every other move leaves it as it is, the
emission of the batch included.
-/

namespace SignalDispatch

/-- Whether an operation changes the batch of a name. -/
def Operation.rewrites (batch : String) : Operation → Bool
  | batchAdd name _ => name == batch
  | batchClear name => name == batch
  | _ => false

theorem World.batchOf_congr
    {left right : World}
    (same : left.batches = right.batches)
    (batch : String) :
    left.batchOf batch = right.batchOf batch := by
  rw [batchOf, same, batchOf]

/-- Another batch is put under another name. -/
theorem World.batchOf_setBatch
    (world : World)
    {batch name : String}
    (other : (name == batch) = false)
    (changed : Batch) :
    (world.setBatch name changed).batchOf batch = world.batchOf batch := by
  have apart : batch ≠ name := fun same => by simp [same] at other
  rw [batchOf, batchOf, setBatch, List.lookup_cons, beq_false_of_ne apart]
  exact congrArg (·.getD {}) (lookup_filter_ne world.batches apart)

namespace Machine

variable (machine : Machine)

theorem batches_apply (effect : Effect) :
    (machine.apply effect).world.batches = machine.world.batches := by
  rw [world_apply]

theorem batches_beginEmission (emission : Emission) :
    (machine.beginEmission emission).world.batches = machine.world.batches := by
  rw [beginEmission]
  dsimp only
  split
  · rfl
  · split <;> rfl

theorem batches_log (records : List LogRecord) :
    (machine.log records).world.batches = machine.world.batches := by
  rw [world_log]

theorem batches_leave (program : Program) (walk : Walk) :
    (machine.leave program walk).1.world.batches = machine.world.batches := by
  rw [leave]
  dsimp only
  split
  · rfl
  · exact batches_log _ _

theorem batches_connect
    (name : String)
    (callback : RoutineId)
    (priority : Option Priority)
    (request : Option ContextRequest)
    (keep : KeepRequest) :
    (machine.connect name callback priority request keep).world.batches =
      machine.world.batches := by
  rw [connect_eq_settle, settle.eq_def]
  split <;> exact batches_apply _ _

/-- Starting an operation. -/
theorem batchOf_execute
    (program : Program)
    (payload : Payload)
    {operation : Operation}
    {batch : String}
    (keeps : operation.rewrites batch = false) :
    (machine.execute program payload operation).world.batchOf batch =
      machine.world.batchOf batch := by
  have unchanged {after : Machine} (same : after.world.batches = machine.world.batches) :
      after.world.batchOf batch = machine.world.batchOf batch :=
    World.batchOf_congr same batch
  cases operation with
  | batchAdd | batchClear => exact machine.world.batchOf_setBatch keeps _
  | connect => exact unchanged (batches_connect machine _ _ _ _ _)
  | emit | forward | emitIn => exact unchanged (batches_beginEmission machine _)
  | emitDown request =>
      simp only [execute]
      split
      · cases request with
        | name => exact unchanged (batches_beginEmission machine _)
        | unreadable => rfl
      · rfl
  | flush =>
      simp only [execute]
      split <;> rfl
  | interrupt =>
      simp only [execute]
      split <;> rfl
  | init | cleanup | register | unregister | disconnect | disconnectHandle | disconnectAll
  | forwardDeferred | defer | setSpace | setMaxSlots | setThreadSafe | setProfiling | timing
  | resetTiming | resetPeak | memoryStats | setHook =>
      exact unchanged (batches_apply machine _)
  | isInitialized | contains | count | listing | deferredLength | space | drain
  | pendingInterrupts | maxSlots | isThreadSafe | isProfiling | display | batchInfo | batchEmit
  | panic | catching | unreadable =>
      rfl

/-! ## Moves -/

theorem batches_proceedWalk (program : Program) (walk : Walk) :
    (machine.proceedWalk program walk).world.batches = machine.world.batches := by
  rw [proceedWalk]
  split
  · rfl
  · dsimp only
    split
    · exact batches_leave machine program walk
    · split <;> rfl

theorem batches_proceedReject (program : Program) (fault : Fault) :
    (machine.proceedReject program fault).world.batches = machine.world.batches := by
  rw [proceedReject]
  dsimp only
  split <;> exact batches_log _ _

theorem batches_proceedFlush (remaining delivered : Nat) :
    (machine.proceedFlush remaining delivered).world.batches = machine.world.batches := by
  rw [proceedFlush.eq_def]
  dsimp only
  split
  · exact batches_log _ _
  · exact batches_beginEmission _ _

theorem batches_proceedDrain (position delivered : Nat) :
    (machine.proceedDrain position delivered).world.batches = machine.world.batches := by
  rw [proceedDrain]
  dsimp only
  split
  · exact batches_log _ _
  · exact batches_beginEmission _ _

theorem batches_unwindThrough (program : Program) (message : String) (frame : Frame) :
    (machine.unwindThrough program message frame).world.batches = machine.world.batches := by
  cases emission : frame.walk? with
  | none => rw [world_unwindThrough program machine message emission]
  | some walk =>
      rw [walk?_eq_some emission, unwindThrough]
      split
      · rfl
      · exact batches_leave machine program walk

/-- The next move of a frame. -/
theorem batchOf_proceed
    (program : Program)
    {frame : Frame}
    {batch : String}
    (keeps : ∀ operation ∈ frame.issued?, operation.rewrites batch = false) :
    (machine.proceed program frame).world.batchOf batch = machine.world.batchOf batch := by
  have unchanged {after : Machine} (same : after.world.batches = machine.world.batches) :
      after.world.batchOf batch = machine.world.batchOf batch :=
    World.batchOf_congr same batch
  cases frame with
  | routine commands payload turn =>
      cases commands with
      | nil => rfl
      | cons command rest =>
          rw [Frame.issued?] at keeps
          rw [proceed, proceedRoutine]
          split
          next due =>
            rw [if_pos due] at keeps
            exact batchOf_execute (machine.push _) program payload (keeps _ rfl)
          · rfl
  | walk walk => exact unchanged (batches_proceedWalk machine program walk)
  | release contexts panic =>
      refine unchanged ?_
      rw [proceed, world_proceedRelease]
  | conclude records answer => exact unchanged (batches_log machine records)
  | reject fault => exact unchanged (batches_proceedReject machine program fault)
  | flush remaining delivered => exact unchanged (batches_proceedFlush machine remaining delivered)
  | drain position delivered => exact unchanged (batches_proceedDrain machine position delivered)
  | batch entries first =>
      refine unchanged ?_
      cases entries with
      | nil => cases first <;> rfl
      | cons emission rest => exact batches_beginEmission _ _
  | catching => rfl

/-- A batch is the same after a step, unless user code changes it there. -/
theorem batchOf_step
    (program : Program)
    {batch : String}
    (keeps : ∀ operation ∈ machine.issued?, operation.rewrites batch = false) :
    (machine.step program).world.batchOf batch = machine.world.batchOf batch := by
  cases stack : machine.stack with
  | nil => rw [step_of_idle program stack]
  | cons frame below =>
      let under : Machine := { machine with stack := below }
      cases control : machine.control with
      | aborted => rw [step_of_aborted program control]
      | answer answer => rw [step_of_answer program stack control, world_resume]
      | unwind message =>
          rw [step_of_unwind program stack control]
          exact World.batchOf_congr (batches_unwindThrough under program message frame) batch
      | proceed =>
          have issues : machine.issued? = frame.issued? := by rw [issued?, stack, control]
          rw [issues] at keeps
          rw [step_of_proceed program stack control]
          exact batchOf_proceed under program keeps

variable {machine} {program : Program} {allowed : Operation → Prop} {below : List Frame}
  {ended : Machine} {batch : String}

/-- A batch is the same after a run in which user code does not change it. -/
theorem ComesBack.batchOf_eq
    {answer : Answer}
    (comes : ComesBack program allowed below machine answer ended)
    (keeps : ∀ operation, allowed operation → operation.rewrites batch = false) :
    ended.world.batchOf batch = machine.world.batchOf batch := by
  induction comes with
  | back => rfl
  | step _ issues _ ih =>
      exact ih.trans (batchOf_step _ program fun operation issue => keeps _ (issues _ issue))

end Machine

end SignalDispatch
