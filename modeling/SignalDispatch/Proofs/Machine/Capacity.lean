import SignalDispatch.Proofs.Machine.Failing

/-!
# The room of the deferred queue

How many emissions may wait is fixed when a bus is made: a cleanup empties the deferred queue and
keeps its capacity, and so does every other move.  So a deferral is accepted at any point of a
session by the same measure.
-/

namespace SignalDispatch

namespace Bus

variable (bus : Bus)

theorem capacity_defer (emission : Emission) :
    (bus.defer emission).bus.deferred.capacity = bus.deferred.capacity := by
  rw [defer, withRegistry]
  split
  · rfl
  · cases pushed : bus.deferred.push emission with
    | error fault => rfl
    | ok deferred =>
        unfold DeferredQueue.push at pushed
        split at pushed
        · cases pushed
          rfl
        · cases pushed

theorem capacity_cleanup : bus.cleanup.bus.deferred.capacity = bus.deferred.capacity := by
  rw [cleanup]
  split <;> rfl

end Bus

namespace Machine

/-- How many deferred emissions may wait. -/
def room (machine : Machine) : Nat :=
  machine.world.bus.deferred.capacity

theorem room_log (machine : Machine) (records : List LogRecord) :
    (machine.log records).room = machine.room := by
  rw [room, world_log, room]

/-! ## Starting an operation -/

theorem room_apply (machine : Machine) (effect : Effect) :
    (machine.apply effect).room = effect.bus.deferred.capacity := by
  rw [room, world_apply]

theorem room_beginEmission (machine : Machine) (emission : Emission) :
    (machine.beginEmission emission).room = machine.room := by
  rw [beginEmission]
  dsimp only
  split
  · rfl
  · split <;> rfl

theorem room_execute
    (program : Program)
    (machine : Machine)
    (payload : Payload)
    (operation : Operation) :
    (machine.execute program payload operation).room = machine.room := by
  have applied {effect : Effect}
      (keeps : effect.bus.deferred.capacity = machine.world.bus.deferred.capacity) :
      (machine.apply effect).room = machine.room :=
    (room_apply machine effect).trans keeps
  have untouched {effect : Effect} (keeps : effect.bus.deferred = machine.world.bus.deferred) :
      (machine.apply effect).room = machine.room :=
    applied (congrArg DeferredQueue.capacity keeps)
  cases operation with
  | init => exact untouched (Bus.deferred_init _)
  | cleanup => exact applied (Bus.capacity_cleanup _)
  | register => exact untouched (Bus.deferred_register _ _ _ _)
  | unregister => exact untouched (Bus.deferred_unregister _ _)
  | connect name callback priority request keep =>
      rcases connect_eq_apply machine name callback priority request keep with
        ⟨world, result, same, _⟩
      rw [execute, same, room_apply]
      exact congrArg DeferredQueue.capacity (Bus.deferred_connect _ _ _ _ _)
  | disconnect => exact untouched (Bus.deferred_disconnect _ _ _)
  | disconnectHandle => exact untouched (Bus.deferred_disconnectHandle _ _)
  | disconnectAll => exact untouched (Bus.deferred_disconnectAll _ _)
  | forwardDeferred | defer => exact applied (Bus.capacity_defer _ _)
  | setMaxSlots => exact untouched (Bus.deferred_setMaxSlots _ _)
  | timing => exact untouched (Bus.deferred_timing _ _)
  | memoryStats => exact untouched (Bus.deferred_memoryStats _)
  | setSpace | setThreadSafe | setProfiling | setHook | resetTiming | resetPeak =>
      exact untouched rfl
  | emit | forward | emitIn => exact room_beginEmission _ _
  | emitDown request =>
      simp only [execute]
      split
      · cases request with
        | name => exact room_beginEmission _ _
        | unreadable => rfl
      · rfl
  | flush =>
      rw [execute]
      split <;> rfl
  | interrupt =>
      rw [execute]
      split <;> rfl
  | isInitialized | contains | count | listing | deferredLength | space | drain
  | pendingInterrupts | maxSlots | isThreadSafe | isProfiling | display | batchAdd | batchInfo
  | batchClear | batchEmit | panic | catching | unreadable =>
      rfl

/-! ## Moves -/

theorem room_leave (program : Program) (machine : Machine) (walk : Walk) :
    (machine.leave program walk).1.room = machine.room := by
  rcases leave_fields program machine walk with ⟨_, _, elapsed, left, _⟩
  rw [room, left, Bus.deferred_leaving]
  rfl

theorem room_proceedWalk (program : Program) (machine : Machine) (walk : Walk) :
    (machine.proceedWalk program walk).room = machine.room := by
  rw [proceedWalk]
  split
  · rfl
  · dsimp only
    split
    · exact room_leave program machine walk
    · split <;> rfl

theorem room_proceedFlush (machine : Machine) (remaining delivered : Nat) :
    (machine.proceedFlush remaining delivered).room = machine.room := by
  rw [proceedFlush.eq_def]
  dsimp only
  split
  · exact room_log _ _
  next left emission deferred popped =>
    rw [room_beginEmission]
    -- what is left of the queue has the capacity of the queue
    have kept : deferred.capacity = machine.world.bus.deferred.capacity := by
      cases remaining with
      | zero => cases popped
      | succ remaining =>
          rcases Option.map_eq_some_iff.mp popped with ⟨⟨oldest, rest⟩, taken, same⟩
          cases same
          rw [DeferredQueue.pop?] at taken
          split at taken
          · cases taken
          · cases taken
            rfl
    exact kept

theorem room_proceed (program : Program) (machine : Machine) (frame : Frame) :
    (machine.proceed program frame).room = machine.room := by
  cases frame with
  | routine commands payload turn =>
      cases commands with
      | nil => rfl
      | cons command rest =>
          rw [proceed, proceedRoutine]
          split
          · exact room_execute program _ payload command.operation
          · rfl
  | walk walk => exact room_proceedWalk program machine walk
  | release contexts panic => rw [proceed, room, world_proceedRelease, room]
  | conclude records answer => exact room_log machine records
  | reject fault =>
      rcases proceedReject_spec program machine fault with ⟨_, same, _⟩ | ⟨hook, _, same, _⟩
      · rw [proceed, room, same, room]
      · rw [proceed, room, same, room]
  | flush remaining delivered => exact room_proceedFlush machine remaining delivered
  | drain position delivered =>
      rw [proceed, proceedDrain]
      dsimp only
      split
      · exact room_log _ _
      · exact room_beginEmission _ _
  | batch entries first =>
      cases entries with
      | nil => cases first <;> rfl
      | cons emission rest => exact room_beginEmission (machine.push _) emission
  | catching => rfl

theorem room_unwindThrough
    (program : Program)
    (machine : Machine)
    (message : String)
    (frame : Frame) :
    (machine.unwindThrough program message frame).room = machine.room := by
  cases other : frame.walk? with
  | none => rw [room, world_unwindThrough program machine message other, room]
  | some walk =>
      rw [walk?_eq_some other, unwindThrough]
      split
      · rfl
      · exact room_leave program machine walk

theorem room_step (program : Program) (machine : Machine) :
    (machine.step program).room = machine.room := by
  cases stack : machine.stack with
  | nil => rw [step_of_idle program stack]
  | cons frame below =>
      cases control : machine.control with
      | aborted => rw [step_of_aborted program control]
      | answer answer =>
          rw [step_of_answer program stack control, room, world_resume, room]
      | unwind message =>
          rw [step_of_unwind program stack control]
          exact room_unwindThrough program _ message frame
      | proceed =>
          rw [step_of_proceed program stack control]
          exact room_proceed program _ frame

theorem Move.room {before after : Machine} (move : Move before after) :
    after.room = before.room := by
  cases move with
  | step program => exact room_step program before
  | perform program operation => exact room_execute program _ .void operation

/-- The room of the deferred queue is the one asked for, and never less than one. -/
theorem SessionRun.room_eq
    {trace : Nat → Machine}
    {last : Nat}
    {backend : Backend}
    {config : Config}
    (session : SessionRun trace last)
    (starts : trace 0 = initial backend config) :
    ∀ time ≤ last, (trace time).room = max 1 config.deferredCapacity := by
  intro time
  induction time with
  | zero =>
      intro _
      rw [starts]
      rfl
  | succ time ih =>
      intro bound
      rw [(session.moves time bound).room, ih (Nat.le_of_succ_le bound)]

end Machine

end SignalDispatch
