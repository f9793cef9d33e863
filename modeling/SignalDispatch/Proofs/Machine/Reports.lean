import SignalDispatch.Proofs.Machine.Failing

/-!
# Who calls the error hook

The error hook is called in one place: a `reject` frame whose turn it is writes its fault to the log
and calls the hook that is installed at that moment.  `Machine.Informs` is what such a move does,
and `Move.hookings` says that no other move calls the hook.
-/

namespace SignalDispatch

/-- What the hook is told in an event. -/
def Event.hooked? : Event → Option (FaultKind × String)
  | .hooked kind message => some (kind, message)
  | _ => none

namespace Machine

/-- What the hook has been told, the latest in front. -/
def hookings (machine : Machine) : List (FaultKind × String) :=
  machine.events.filterMap Event.hooked?

/-- The fault above `below` is reported in the next move. -/
structure Reports (machine : Machine) (below : List Frame) (fault : Fault) : Prop where
  stack : machine.stack = .reject fault :: below
  control : machine.control = .proceed

/-- A fault is told to the hook that is installed, or comes back at once if there is none. -/
inductive Informs (fault : Fault) (below : List Frame) (before after : Machine) : Prop where
  | unheard :
      before.world.bus.hook = none →
      after.world = before.world →
      after.stack = below →
      after.control = .answer (.fault fault) →
      after.events = .logged (.warn fault.message) :: before.events →
      Informs fault below before after
  | heard {program : Program} {hook : Hook} :
      before.world.bus.hook = some hook →
      after.world =
        { before.world with
          bus := { before.world.bus with hook := some { hook with calls := hook.calls + 1 } } } →
      after.stack =
        .routine (program.commandsAt hook.routine (hook.calls + 1)) .void (hook.calls + 1) ::
          .conclude [] (.fault fault) :: below →
      after.control = .proceed →
      after.events =
        .hooked fault.kind fault.message :: .logged (.warn fault.message) :: before.events →
      Informs fault below before after

/-- What the hook is told in the next move. -/
def announcement? (machine : Machine) : Option (FaultKind × String) :=
  match machine.stack, machine.control with
  | .reject fault :: _, .proceed =>
      machine.world.bus.hook.map fun _ => (fault.kind, fault.message)
  | _, _ => none

variable {machine before after : Machine} {below : List Frame} {fault : Fault}

/-! ## The report of a fault -/

theorem proceedReject_events (program : Program) (machine : Machine) (fault : Fault) :
    (machine.world.bus.hook = none →
        (machine.proceedReject program fault).events =
          .logged (.warn fault.message) :: machine.events) ∧
      ∀ hook, machine.world.bus.hook = some hook →
        (machine.proceedReject program fault).control = .proceed ∧
          (machine.proceedReject program fault).events =
            .hooked fault.kind fault.message :: .logged (.warn fault.message) ::
              machine.events := by
  have world := world_log machine [.warn fault.message]
  have events := events_log machine [.warn fault.message]
  rw [proceedReject]
  dsimp only
  constructor
  · intro unhooked
    rw [world, unhooked]
    exact events
  · intro hook installed
    rw [world, installed]
    exact ⟨rfl, congrArg (List.cons _) events⟩

theorem Reports.informs (reports : before.Reports below fault) (move : Move before after) :
    Informs fault below before after := by
  rcases reports with ⟨stack, control⟩
  cases move with
  | perform program operation idle => simp [idle] at stack
  | step program =>
      let under : Machine := { before with stack := below }
      rcases proceedReject_events program under fault with ⟨unheard, heard⟩
      rw [step_of_proceed program stack control, proceed]
      rcases proceedReject_spec program under fault with
        ⟨unhooked, world, reached, answered⟩ | ⟨hook, installed, world, reached⟩
      · exact .unheard unhooked world reached answered (unheard unhooked)
      · rcases heard hook installed with ⟨proceeds, events⟩
        exact .heard installed world reached proceeds events

/-! ## Every other move -/

theorem hookings_log (machine : Machine) (records : List LogRecord) :
    (machine.log records).hookings = machine.hookings := by
  rw [hookings, events_log, List.filterMap_append, List.filterMap_reverse, List.filterMap_map]
  have silent : records.filterMap (Event.hooked? ∘ Event.logged) = [] :=
    List.filterMap_eq_nil_iff.mpr fun _ _ => rfl
  rw [silent]
  rfl

theorem hookings_apply (machine : Machine) (effect : Effect) :
    (machine.apply effect).hookings = machine.hookings :=
  hookings_log (machine.setBus effect.bus) effect.before

theorem hookings_beginEmission (machine : Machine) (emission : Emission) :
    (machine.beginEmission emission).hookings = machine.hookings := by
  rw [beginEmission]
  dsimp only
  split
  · rfl
  · split <;> rfl

/-- Starting an operation does not call the hook. -/
theorem hookings_execute
    (program : Program)
    (machine : Machine)
    (payload : Payload)
    (operation : Operation) :
    (machine.execute program payload operation).hookings = machine.hookings := by
  cases operation with
  | connect name callback priority request keep =>
      rcases connect_eq_apply machine name callback priority request keep with
        ⟨world, result, same, _⟩
      rw [execute, same]
      exact hookings_apply _ _
  | emit | forward | emitIn => exact hookings_beginEmission _ _
  | emitDown request =>
      simp only [execute]
      split
      · cases request with
        | name => exact hookings_beginEmission _ _
        | unreadable => rfl
      · rfl
  | flush =>
      simp only [execute]
      split <;> rfl
  | interrupt =>
      simp only [execute]
      split <;> rfl
  | init | cleanup | register | unregister | disconnect | disconnectHandle | disconnectAll
  | forwardDeferred | defer | setSpace | setMaxSlots | setThreadSafe | setProfiling | timing
  | resetTiming | resetPeak | memoryStats | setHook =>
      exact hookings_apply _ _
  | isInitialized | contains | count | listing | deferredLength | space | drain
  | pendingInterrupts | maxSlots | isThreadSafe | isProfiling | display | batchAdd | batchInfo
  | batchClear | batchEmit | panic | catching | unreadable =>
      rfl

theorem hookings_leave (program : Program) (machine : Machine) (walk : Walk) :
    (machine.leave program walk).1.hookings = machine.hookings := by
  rw [leave]
  dsimp only
  split
  · rfl
  · exact hookings_log _ _

theorem hookings_proceedWalk (program : Program) (machine : Machine) (walk : Walk) :
    (machine.proceedWalk program walk).hookings = machine.hookings := by
  rw [proceedWalk]
  split
  · rfl
  · dsimp only
    split
    · exact hookings_leave program machine walk
    · split <;> rfl

theorem hookings_proceedRelease
    (program : Program)
    (machine : Machine)
    (contexts : List Context)
    (panic : Option String) :
    (machine.proceedRelease program contexts panic).hookings = machine.hookings := by
  rcases contexts with _ | ⟨_ | ⟨ticket, label, farewell⟩, rest⟩
  · cases panic <;> rfl
  · rfl
  · rw [proceedRelease]
    split <;> rfl

/-- A frame that does not report a fault does not call the hook in its turn. -/
theorem hookings_proceed
    (program : Program)
    (machine : Machine)
    {frame : Frame}
    (other : ∀ fault, frame ≠ .reject fault) :
    (machine.proceed program frame).hookings = machine.hookings := by
  cases frame with
  | routine commands payload turn =>
      cases commands with
      | nil => rfl
      | cons command rest =>
          rw [proceed, proceedRoutine]
          split
          · exact hookings_execute program _ payload command.operation
          · rfl
  | walk walk => exact hookings_proceedWalk program machine walk
  | release contexts panic => exact hookings_proceedRelease program machine contexts panic
  | conclude records answer => exact hookings_log machine records
  | reject fault => exact absurd rfl (other fault)
  | flush remaining delivered =>
      rw [proceed, proceedFlush.eq_def]
      dsimp only
      split
      · exact hookings_log _ _
      · exact hookings_beginEmission _ _
  | drain position delivered =>
      rw [proceed, proceedDrain]
      dsimp only
      split
      · exact hookings_log _ _
      · exact hookings_beginEmission _ _
  | batch entries first =>
      cases entries with
      | nil => cases first <;> rfl
      | cons emission rest => exact hookings_beginEmission (machine.push _) emission
  | catching => rfl

theorem hookings_resume (machine : Machine) (answer : Answer) (frame : Frame) :
    (machine.resume answer frame).hookings = machine.hookings := by
  cases frame with
  | routine commands => cases commands <;> rfl
  | _ => rfl

theorem hookings_unwindThrough
    (program : Program)
    (machine : Machine)
    (message : String)
    (frame : Frame) :
    (machine.unwindThrough program message frame).hookings = machine.hookings := by
  cases frame with
  | walk walk =>
      rw [unwindThrough]
      split
      · rfl
      · exact hookings_leave program machine walk
  | release contexts panic => cases panic <;> rfl
  | _ => rfl

/-- A move calls the hook exactly if it reports a fault and a hook is installed. -/
theorem step_hookings (program : Program) (machine : Machine) :
    (machine.step program).hookings = machine.announcement?.toList ++ machine.hookings := by
  cases stack : machine.stack with
  | nil =>
      have quiet : machine.announcement? = none := by rw [announcement?, stack]
      rw [step_of_idle program stack, quiet]
      rfl
  | cons frame below =>
      have quiet (passing : machine.control ≠ .proceed) : machine.announcement? = none := by
        rw [announcement?.eq_def]
        split
        next proceeds => exact absurd proceeds passing
        next => rfl
      cases control : machine.control with
      | aborted =>
          rw [quiet (by simp [control]), step_of_aborted program control]
          rfl
      | answer answer =>
          rw [quiet (by simp [control]), step_of_answer program stack control]
          exact hookings_resume _ answer frame
      | unwind message =>
          rw [quiet (by simp [control]), step_of_unwind program stack control]
          exact hookings_unwindThrough program _ message frame
      | proceed =>
          by_cases rejects : ∃ fault, frame = .reject fault
          · rcases rejects with ⟨fault, rfl⟩
            have said : machine.announcement? =
                machine.world.bus.hook.map fun _ => (fault.kind, fault.message) := by
              rw [announcement?, stack, control]
            rw [said]
            cases Reports.informs ⟨stack, control⟩ (.step program machine) with
            | unheard unhooked _ _ _ events =>
                rw [hookings, events, unhooked]
                rfl
            | heard installed _ _ _ events =>
                rw [hookings, events, installed]
                rfl
          · have other (fault : Fault) : frame ≠ .reject fault := fun same => rejects ⟨fault, same⟩
            have silent : machine.announcement? = none := by
              rw [announcement?, stack, control]
              cases frame with
              | reject fault => exact absurd rfl (other fault)
              | _ => rfl
            rw [silent, step_of_proceed program stack control]
            exact hookings_proceed program _ other

end Machine

end SignalDispatch
