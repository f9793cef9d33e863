import SignalDispatch.Proofs.Bus.Containment
import SignalDispatch.Proofs.Machine.Custody
import SignalDispatch.Proofs.Machine.Turns

/-!
# What moves leave alone

Few moves have to do with handles or interrupts.  `Bus.Spares` is said of the others: the storage
policies, the next handle and the waiting interrupts are as before.  `Move.deals` lists the
exceptions: connections, cleanups, interrupts that are put in, and drains that take one out.
-/

namespace SignalDispatch

/-- Storage policies, handles and interrupts of a bus are left alone. -/
structure Bus.Spares (before after : Bus) : Prop where
  backend : after.backend = before.backend
  nextHandle : after.nextHandle = before.nextHandle
  interrupts : after.interrupts = before.interrupts

namespace Bus.Spares

theorem refl (bus : Bus) : Spares bus bus :=
  ⟨rfl, rfl, rfl⟩

theorem trans
    {before middle after : Bus}
    (first : Spares before middle)
    (second : Spares middle after) :
    Spares before after :=
  ⟨second.backend.trans first.backend, second.nextHandle.trans first.nextHandle,
    second.interrupts.trans first.interrupts⟩

theorem of_eq {before after : Bus} (same : after = before) : Spares before after := by
  rw [same]
  exact refl before

end Bus.Spares

namespace Machine

/-- What an operation does to handles and interrupts. -/
inductive Undertakes (world : World) : Operation → Bus → Prop where
  | spares {operation : Operation} {after : Bus} :
      world.bus.Spares after →
      Undertakes world operation after
  | cleanup : Undertakes world .cleanup world.bus.cleanup.bus
  | connect
      {name : String}
      {callback : RoutineId}
      {priority : Option Priority}
      {request : Option ContextRequest}
      {keep : KeepRequest} :
      Undertakes world (.connect name callback priority request keep)
        (world.bus.connect name callback (issuedContext request world.tickets) priority).bus
  | interrupt {name : String} {value : Int32} {interrupts : InterruptQueue} :
      world.bus.interrupts.push name value = .ok interrupts →
      Undertakes world (.interrupt name value) { world.bus with interrupts := interrupts }

/-- What a move does to handles and interrupts. -/
inductive Deals (before after : Machine) : Prop where
  | executes {operation : Operation} :
      Executes operation before after →
      Undertakes before.world operation after.world.bus →
      Deals before after
  | spares : before.world.bus.Spares after.world.bus → Deals before after
  /-- A drain takes an interrupt out and emits it. -/
  | takes
      {position delivered : Nat}
      {below : List Frame}
      {item : InterruptItem}
      {interrupts : InterruptQueue} :
      before.stack = .drain position delivered :: below →
      before.control = .proceed →
      before.world.bus.interrupts.take? position = some (item, interrupts) →
      Bus.Spares { before.world.bus with interrupts := interrupts } after.world.bus →
      Deals before after

/-! ## Starting an operation -/

theorem spares_apply {machine : Machine} {effect : Effect}
    (contains : machine.world.bus.Contains effect) :
    machine.world.bus.Spares (machine.apply effect).world.bus := by
  rw [world_apply]
  exact ⟨contains.backend, contains.nextHandle, contains.interrupts⟩

theorem spares_beginEmission (machine : Machine) (emission : Emission) :
    machine.world.bus.Spares (machine.beginEmission emission).world.bus := by
  rw [beginEmission]
  dsimp only
  split
  · exact .refl _
  · split <;> exact ⟨rfl, rfl, rfl⟩

/-- Starting an operation. -/
theorem execute_undertakes
    (program : Program)
    (machine : Machine)
    (payload : Payload)
    (operation : Operation) :
    Undertakes machine.world operation (machine.execute program payload operation).world.bus := by
  let bus := machine.world.bus
  have emits (emission : Emission) := spares_beginEmission machine emission
  cases operation with
  | init => exact .spares (spares_apply bus.contains_init)
  | cleanup =>
      rw [execute, world_apply]
      exact .cleanup
  | register => exact .spares (spares_apply (bus.contains_register _ _ _))
  | unregister => exact .spares (spares_apply (bus.contains_unregister _))
  | connect name callback priority request keep =>
      rcases connect_eq_apply machine name callback priority request keep with
        ⟨world, result, same, _⟩
      rw [execute, same, world_apply]
      exact .connect
  | disconnect => exact .spares (spares_apply (bus.contains_disconnect _ _))
  | disconnectHandle => exact .spares (spares_apply (bus.contains_disconnectHandle _))
  | disconnectAll => exact .spares (spares_apply (bus.contains_disconnectAll _))
  | emit | forward | emitIn => exact .spares (emits _)
  | emitDown request =>
      simp only [execute]
      split
      · cases request with
        | name => exact .spares (emits _)
        | unreadable => exact .spares (.refl _)
      · exact .spares (.refl _)
  | forwardDeferred | defer => exact .spares (spares_apply (bus.contains_defer _))
  | flush =>
      simp only [execute]
      split <;> exact .spares (.refl _)
  | interrupt name value =>
      simp only [execute]
      split
      · exact .spares (.refl _)
      next interrupts pushed => exact .interrupt pushed
  | setSpace => exact .spares (spares_apply (bus.contains_setSpace _))
  | setMaxSlots => exact .spares (spares_apply (bus.contains_setMaxSlots _))
  | setThreadSafe => exact .spares (spares_apply (bus.contains_setThreadSafe _))
  | setProfiling => exact .spares (spares_apply (bus.contains_setProfiling _))
  | timing => exact .spares (spares_apply (bus.contains_timing _))
  | resetTiming => exact .spares (spares_apply bus.contains_resetTiming)
  | resetPeak => exact .spares (spares_apply bus.contains_resetPeak)
  | memoryStats => exact .spares (spares_apply bus.contains_memoryStats)
  | setHook => exact .spares (spares_apply (bus.contains_setHook _))
  | isInitialized | contains | count | listing | deferredLength | space | drain
  | pendingInterrupts | maxSlots | isThreadSafe | isProfiling | display | batchAdd | batchInfo
  | batchClear | batchEmit | panic | catching | unreadable =>
      exact .spares (.refl _)

/-! ## Steps of frames -/

theorem spares_leave (program : Program) (machine : Machine) (walk : Walk) :
    machine.world.bus.Spares (machine.leave program walk).1.world.bus := by
  rcases leave_fields program machine walk with ⟨_, _, elapsed, left, _⟩
  rw [left, Bus.leaving]
  split <;> exact ⟨rfl, rfl, rfl⟩

/-- An answer reaches a frame. -/
theorem world_resume (machine : Machine) (answer : Answer) (frame : Frame) :
    (machine.resume answer frame).world = machine.world := by
  cases frame with
  | routine commands => cases commands <;> rfl
  | _ => rfl

/-- A panic reaches a frame that is not an emission. -/
theorem world_unwindThrough
    (program : Program)
    (machine : Machine)
    (message : String)
    {frame : Frame}
    (other : frame.walk? = none) :
    (machine.unwindThrough program message frame).world = machine.world := by
  cases frame with
  | walk => cases other
  | release contexts panic => cases panic <;> rfl
  | _ => rfl

/-- A frame lets go of contexts. -/
theorem world_proceedRelease
    (program : Program)
    (machine : Machine)
    (contexts : List Context)
    (panic : Option String) :
    (machine.proceedRelease program contexts panic).world = machine.world := by
  rcases contexts with _ | ⟨_ | ⟨ticket, label, farewell⟩, rest⟩
  · cases panic <;> rfl
  · rfl
  · rw [proceedRelease]
    split <;> rfl

theorem spares_unwindThrough
    (program : Program)
    (machine : Machine)
    (message : String)
    (frame : Frame) :
    machine.world.bus.Spares (machine.unwindThrough program message frame).world.bus := by
  cases other : frame.walk? with
  | none => exact .of_eq (by rw [world_unwindThrough program machine message other])
  | some walk =>
      rw [walk?_eq_some other, unwindThrough]
      split
      · exact .refl _
      · exact spares_leave program machine walk

theorem spares_proceedWalk (program : Program) (machine : Machine) (walk : Walk) :
    machine.world.bus.Spares (machine.proceedWalk program walk).world.bus := by
  rw [proceedWalk]
  split
  · exact .refl _
  · dsimp only
    split
    · exact spares_leave program machine walk
    · split <;> exact .refl _

theorem spares_log (machine : Machine) (records : List LogRecord) :
    machine.world.bus.Spares (machine.log records).world.bus := by
  rw [world_log]
  exact .refl _

theorem spares_proceedReject (program : Program) (machine : Machine) (fault : Fault) :
    machine.world.bus.Spares (machine.proceedReject program fault).world.bus := by
  have logged := spares_log machine [.warn fault.message]
  rw [proceedReject]
  dsimp only
  split
  · exact logged
  · exact ⟨logged.backend, logged.nextHandle, logged.interrupts⟩

theorem spares_proceedFlush (machine : Machine) (remaining delivered : Nat) :
    machine.world.bus.Spares (machine.proceedFlush remaining delivered).world.bus := by
  rw [proceedFlush.eq_def]
  dsimp only
  split
  · exact spares_log machine _
  · refine Bus.Spares.trans ?_ (spares_beginEmission _ _)
    exact ⟨rfl, rfl, rfl⟩

/-- A drain whose turn it is takes a waiting interrupt and begins to emit it, or is over. -/
theorem proceedDrain_spec (machine : Machine) (position delivered : Nat) :
    (machine.world.bus.interrupts.take? position = none ∧
        (machine.proceedDrain position delivered).world = machine.world ∧
        (machine.proceedDrain position delivered).stack = machine.stack ∧
        (machine.proceedDrain position delivered).control = .answer (.number delivered)) ∨
      ∃ item interrupts frame,
        machine.world.bus.interrupts.take? position = some (item, interrupts) ∧
          Bus.Spares { machine.world.bus with interrupts := interrupts }
            (machine.proceedDrain position delivered).world.bus ∧
          (machine.proceedDrain position delivered).stack =
            frame :: .drain (item.index + 1) delivered :: machine.stack ∧
          frame.Answers ∧ frame.position? = none := by
  rw [proceedDrain]
  dsimp only
  cases taken : machine.world.bus.interrupts.take? position with
  | none => exact Or.inl ⟨rfl, world_log _ _, stack_log _ _, rfl⟩
  | some found =>
      rcases found with ⟨item, interrupts⟩
      let emitting :=
        (machine.setBus { machine.world.bus with interrupts := interrupts }).push
          (.drain (item.index + 1) delivered)
      let emission : Emission := ⟨item.name, .int item.value⟩
      rcases answers_beginEmission emitting emission with ⟨frame, begun, answers, plain⟩
      exact Or.inr ⟨item, interrupts, frame, rfl, spares_beginEmission emitting emission, begun,
        answers, Frame.position?_of_plain plain⟩

/-- The next move of a frame that neither starts an operation nor drains. -/
theorem spares_proceed
    (program : Program)
    (machine : Machine)
    {frame : Frame}
    (idle : frame.issued? = none)
    (other : ∀ position delivered, frame ≠ .drain position delivered) :
    machine.world.bus.Spares (machine.proceed program frame).world.bus := by
  cases frame with
  | routine commands payload turn =>
      cases commands with
      | nil => exact .refl _
      | cons command rest =>
          rw [Frame.issued?] at idle
          rw [proceed, proceedRoutine]
          split at idle
          · cases idle
          next late =>
            rw [if_neg late]
            exact .refl _
  | walk walk => exact spares_proceedWalk program machine walk
  | release contexts panic =>
      exact .of_eq (by rw [proceed, world_proceedRelease])
  | conclude records answer => exact spares_log machine records
  | reject fault => exact spares_proceedReject program machine fault
  | flush remaining delivered => exact spares_proceedFlush machine remaining delivered
  | drain position delivered => exact absurd rfl (other position delivered)
  | batch entries first =>
      cases entries with
      | nil => cases first <;> exact .refl _
      | cons emission rest => exact spares_beginEmission (machine.push _) emission
  | catching => exact .refl _

/-! ## Moves -/

/-- A step deals with handles and interrupts in one of the ways listed. -/
theorem step_deals (program : Program) (machine : Machine) :
    Deals machine (machine.step program) := by
  cases issued : machine.issued? with
  | some operation =>
      rcases step_of_issued_eq program issued with ⟨payload, same⟩
      refine .executes (.command program issued) ?_
      rw [same]
      exact execute_undertakes program machine payload operation
  | none =>
      cases stack : machine.stack with
      | nil => exact .spares (.of_eq (by rw [step_of_idle program stack]))
      | cons frame below =>
          let under : Machine := { machine with stack := below }
          cases control : machine.control with
          | aborted => exact .spares (.of_eq (by rw [step_of_aborted program control]))
          | answer answer =>
              rw [step_of_answer program stack control]
              exact .spares (.of_eq (by rw [world_resume]))
          | unwind message =>
              rw [step_of_unwind program stack control]
              exact .spares (spares_unwindThrough program under message frame)
          | proceed =>
              have idle : frame.issued? = none := by
                simpa only [issued?, stack, control] using issued
              rw [step_of_proceed program stack control]
              by_cases drains : ∃ position delivered, frame = .drain position delivered
              · rcases drains with ⟨position, delivered, rfl⟩
                rcases under.proceedDrain_spec position delivered with
                  ⟨_, same, _⟩ | ⟨item, interrupts, _, taken, spares, _⟩
                · exact .spares (.of_eq (congrArg World.bus same))
                · exact .takes stack control taken spares
              · exact .spares (spares_proceed program under idle
                  fun position delivered same => drains ⟨position, delivered, same⟩)

/-- So does every move. -/
theorem Move.deals {before after : Machine} (move : Move before after) : Deals before after := by
  cases move with
  | step program => exact step_deals program before
  | perform program operation idle going =>
      exact .executes (.session program idle going)
        (execute_undertakes program { world := before.world } .void operation)

/-- The storage policies of a bus never change. -/
theorem Deals.backend {before after : Machine} (deals : Deals before after) :
    after.world.bus.backend = before.world.bus.backend := by
  cases deals with
  | executes _ undertakes =>
      generalize after.world.bus = reached at undertakes ⊢
      cases undertakes with
      | spares spares => exact spares.backend
      | cleanup => exact before.world.bus.cleanup_contained.2.1
      | connect => exact (before.world.bus.connect_contained _ _ _ _).1
      | interrupt => rfl
  | spares spares => exact spares.backend
  | takes _ _ _ spares => exact spares.backend

/-- The registry stays housed on the backend of its bus. -/
theorem Move.housed
    {before after : Machine}
    (move : Move before after)
    (housed : before.world.bus.Housed) :
    after.world.bus.Housed := by
  have backend := move.deals.backend
  cases move.onBus with
  | shifts shifts => exact shifts.housed backend housed
  | enters present begun replaced =>
      apply Bus.housed_of_some replaced
      rw [backend]
      exact (Registry.beginEmission_stocks begun).housed (housed _ present)
  | leaves left =>
      rw [left, Bus.leaving]
      cases present : before.world.bus.registry with
      | none => exact housed
      | some registry =>
          exact Bus.housed_of_some rfl
            ((registry.endEmission_stocks _ _).housed (housed _ present))

theorem Reachable.housed {machine : Machine} (reachable : Reachable machine) :
    machine.world.bus.Housed := by
  rcases reachable with ⟨backend, config, reaches⟩
  induction reaches with
  | refl => exact Bus.housed_of_none rfl
  | tail _ move ih => exact move.housed ih

end Machine

end SignalDispatch
