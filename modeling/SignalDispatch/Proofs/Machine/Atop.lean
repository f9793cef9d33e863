import SignalDispatch.Proofs.Machine.Moves

/-!
# Moves above other frames

What the innermost frames do does not depend on the frames below them, with one exception: a context
that is let go of is released only if no frame below owns it.  `Machine.atop` puts a machine above
other frames, and every function of the machine commutes with it.  `step_atop` is what remains for a
step: above two bases that own the same contexts it is the same step.
-/

namespace SignalDispatch.Machine

/-- A machine with other frames below its own. -/
def atop (machine : Machine) (base : List Frame) : Machine :=
  { machine with stack := machine.stack ++ base }

variable (machine : Machine) (base : List Frame)

@[simp]
theorem world_atop : (machine.atop base).world = machine.world :=
  rfl

@[simp]
theorem stack_atop : (machine.atop base).stack = machine.stack ++ base :=
  rfl

@[simp]
theorem control_atop : (machine.atop base).control = machine.control :=
  rfl

theorem atop_atop (other : List Frame) :
    (machine.atop base).atop other = machine.atop (base ++ other) := by
  rw [atop, atop, atop, List.append_assoc]

/-! ## Parts of a move -/

theorem log_atop (records : List LogRecord) :
    (machine.atop base).log records = (machine.log records).atop base := by
  induction records generalizing machine with
  | nil => rfl
  | cons record rest ih => exact ih (machine.observe (.logged record))

theorem apply_atop (effect : Effect) :
    (machine.atop base).apply effect = (machine.apply effect).atop base := by
  have logged := log_atop (machine.setBus effect.bus) base effect.before
  have same :
      ((machine.atop base).setBus effect.bus).log effect.before =
        ((machine.setBus effect.bus).log effect.before).atop base :=
    logged
  rw [apply, apply, same]
  cases effect.result <;> rfl

theorem beginEmission_atop (emission : Emission) :
    (machine.atop base).beginEmission emission = (machine.beginEmission emission).atop base := by
  rw [beginEmission, beginEmission, world_atop]
  dsimp only
  split
  · rfl
  · split <;> rfl

theorem leave_atop (program : Program) (walk : Walk) :
    (machine.atop base).leave program walk =
      ((machine.leave program walk).1.atop base, (machine.leave program walk).2) := by
  have logged (readings : Nat) (bus : Bus) (swept : List Slot) :=
    log_atop ({ machine with world := { machine.world with readings := readings } }.setBus bus)
      base (sweptRecords swept)
  rw [leave, leave]
  dsimp only [world_atop]
  cases machine.world.bus.registry with
  | none => rfl
  | some registry => exact Prod.ext (logged _ _ _) rfl

theorem connect_atop
    (name : String)
    (callback : RoutineId)
    (priority : Option Priority)
    (request : Option ContextRequest)
    (keep : KeepRequest) :
    (machine.atop base).connect name callback priority request keep =
      (machine.connect name callback priority request keep).atop base := by
  unfold connect
  rcases request with _ | ⟨value⟩ | ⟨label, farewell⟩
  all_goals
    dsimp only [world_atop]
    split
    · exact apply_atop { machine with world := _ } base _
    · exact apply_atop { machine with world := _ } base _
    · exact apply_atop { machine with world := _ } base _

/-- Starting an operation. -/
theorem execute_atop (program : Program) (payload : Payload) (operation : Operation) :
    (machine.atop base).execute program payload operation =
      (machine.execute program payload operation).atop base := by
  cases operation with
  | init | cleanup | register | unregister | disconnect | disconnectHandle | disconnectAll
  | forwardDeferred | defer | setSpace | setMaxSlots | setThreadSafe | setProfiling | timing
  | resetTiming | resetPeak | memoryStats | setHook =>
      exact apply_atop machine base _
  | connect => exact connect_atop machine base _ _ _ _ _
  | emit | forward | emitIn => exact beginEmission_atop machine base _
  | emitDown request =>
      simp only [execute]
      split
      · cases request with
        | name => exact beginEmission_atop machine base _
        | unreadable => rfl
      · rfl
  | flush =>
      rw [execute, execute, world_atop]
      split <;> rfl
  | interrupt =>
      rw [execute, execute, world_atop]
      split <;> rfl
  | isInitialized | contains | count | listing | deferredLength | space | drain
  | pendingInterrupts | maxSlots | isThreadSafe | isProfiling | display | batchAdd | batchInfo
  | batchClear | batchEmit | panic | catching | unreadable =>
      rfl

/-! ## Moves -/

/-- The next move of an emission. -/
theorem proceedWalk_atop (program : Program) (walk : Walk) :
    (machine.atop base).proceedWalk program walk =
      (machine.proceedWalk program walk).atop base := by
  rw [proceedWalk, proceedWalk, world_atop, leave_atop]
  split
  · rfl
  · dsimp only
    split
    · rfl
    · split <;> rfl

/-- The next move of a frame that does not let go of contexts. -/
theorem proceed_atop
    (program : Program)
    {frame : Frame}
    (other : ∀ contexts panic, frame ≠ .release contexts panic) :
    (machine.atop base).proceed program frame = (machine.proceed program frame).atop base := by
  cases frame with
  | release contexts panic => exact absurd rfl (other contexts panic)
  | routine commands payload turn =>
      cases commands with
      | nil => rfl
      | cons command rest =>
          rw [proceed, proceed, proceedRoutine, proceedRoutine]
          split
          · exact execute_atop (machine.push _) base program payload _
          · rfl
  | walk walk => exact proceedWalk_atop machine base program walk
  | conclude records answer =>
      rw [proceed, proceed, log_atop]
      rfl
  | reject fault =>
      rw [proceed, proceed, proceedReject, proceedReject, log_atop]
      dsimp only [world_atop]
      split <;> rfl
  | flush remaining delivered =>
      rw [proceed, proceed, proceedFlush.eq_def, proceedFlush.eq_def]
      dsimp only [world_atop]
      split
      · rw [log_atop]
        rfl
      · exact beginEmission_atop ((machine.setBus _).push _) base _
  | drain position delivered =>
      rw [proceed, proceed, proceedDrain, proceedDrain]
      dsimp only [world_atop]
      split
      · rw [log_atop]
        rfl
      · exact beginEmission_atop ((machine.setBus _).push _) base _
  | batch entries first =>
      cases entries with
      | nil => cases first <;> rfl
      | cons emission rest => exact beginEmission_atop (machine.push _) base emission
  | catching => rfl

/-- An answer reaches a frame. -/
theorem resume_atop (answer : Answer) (frame : Frame) :
    (machine.atop base).resume answer frame = (machine.resume answer frame).atop base := by
  cases frame with
  | routine commands => cases commands <;> rfl
  | _ => rfl

/-- A panic reaches a frame. -/
theorem unwindThrough_atop (program : Program) (message : String) (frame : Frame) :
    (machine.atop base).unwindThrough program message frame =
      (machine.unwindThrough program message frame).atop base := by
  cases frame with
  | walk walk =>
      rw [unwindThrough, unwindThrough, leave_atop]
      split <;> rfl
  | release contexts panic => cases panic <;> rfl
  | _ => rfl

variable {machine base}

/-- Whether a context still has an owner depends on the frames below by what they own. -/
theorem owns_atop {other : List Frame}
    (same : base.flatMap Frame.contexts = other.flatMap Frame.contexts)
    (ticket : Nat) :
    (machine.atop base).owns ticket = (machine.atop other).owns ticket := by
  rw [owns, owns, contexts, contexts, stack_atop, stack_atop, List.flatMap_append,
    List.flatMap_append, same]
  rfl

/-- Whether a context is released depends neither on the panic that waits for it nor, as far as they
own the same contexts, on the frames below. -/
theorem proceedRelease_atop
    (machine : Machine)
    (program : Program)
    {other : List Frame}
    (same : base.flatMap Frame.contexts = other.flatMap Frame.contexts)
    (context : Context)
    (rest : List Context)
    (panic panic' : Option String) :
    ∃ next : Machine,
      ({ machine with stack := base } : Machine).proceedRelease program (context :: rest) panic =
          next.atop (.release rest panic :: base) ∧
        ({ machine with stack := other } : Machine).proceedRelease program (context :: rest)
            panic' =
          next.atop (.release rest panic' :: other) := by
  let bare : Machine := { machine with stack := [] }
  cases context with
  | text value => exact ⟨bare.proceeding, rfl, rfl⟩
  | tracked ticket label farewell =>
      have sameOwned :
          (Frame.release rest panic :: base).flatMap Frame.contexts =
            (Frame.release rest panic' :: other).flatMap Frame.contexts :=
        congrArg (rest ++ ·) same
      have owned :
          (bare.atop (.release rest panic :: base)).owns ticket =
            (bare.atop (.release rest panic' :: other)).owns ticket :=
        owns_atop sameOwned ticket
      by_cases kept : (bare.atop (.release rest panic :: base)).owns ticket
      · exact ⟨bare.proceeding, if_pos kept, if_pos (owned.symm.trans kept)⟩
      · exact ⟨((bare.observe (.released label)).push
            (.routine (program.routine farewell).commands .void 0)).proceeding,
          if_neg kept, if_neg (owned ▸ kept)⟩

/-- Above two bases that own the same contexts a step is the same. -/
theorem step_atop
    (program : Program)
    {other : List Frame}
    (busy : machine.stack ≠ [])
    (same : base.flatMap Frame.contexts = other.flatMap Frame.contexts) :
    ∃ next : Machine, (machine.atop base).step program = next.atop base ∧
      (machine.atop other).step program = next.atop other := by
  rcases List.exists_cons_of_ne_nil busy with ⟨frame, rest, stack⟩
  let under : Machine := { machine with stack := rest }
  have above (below : List Frame) : (machine.atop below).stack = frame :: (rest ++ below) := by
    rw [stack_atop, stack, List.cons_append]
  cases control : machine.control with
  | aborted =>
      have stays (below : List Frame) : (machine.atop below).step program = machine.atop below := by
        simp only [step, above, control_atop, control]
      exact ⟨machine, stays base, stays other⟩
  | answer answer =>
      have resumes (below : List Frame) :
          (machine.atop below).step program = (under.atop below).resume answer frame :=
        step_of_answer program (above below) control
      rw [resumes, resumes]
      exact ⟨under.resume answer frame, resume_atop under base answer frame,
        resume_atop under other answer frame⟩
  | unwind message =>
      have unwinds (below : List Frame) :
          (machine.atop below).step program =
            (under.atop below).unwindThrough program message frame :=
        step_of_unwind program (above below) control
      rw [unwinds, unwinds]
      exact ⟨under.unwindThrough program message frame,
        unwindThrough_atop under base program message frame,
        unwindThrough_atop under other program message frame⟩
  | proceed =>
      have proceeds (below : List Frame) :
          (machine.atop below).step program = (under.atop below).proceed program frame :=
        step_of_proceed program (above below) control
      rw [proceeds, proceeds]
      by_cases letsGo : ∃ contexts panic, frame = .release contexts panic
      · rcases letsGo with ⟨_ | ⟨context, waiting⟩, panic, rfl⟩
        · cases panic with
          | none => exact ⟨under.proceeding, rfl, rfl⟩
          | some message => exact ⟨under.unwinding message, rfl, rfl⟩
        · -- the one move that looks at the frames below
          have sameBelow :
              (rest ++ base).flatMap Frame.contexts = (rest ++ other).flatMap Frame.contexts := by
            rw [List.flatMap_append, List.flatMap_append, same]
          rcases under.proceedRelease_atop program sameBelow context waiting panic panic with
            ⟨next, first, second⟩
          refine ⟨next.atop (.release waiting panic :: rest), ?_, ?_⟩
          · rw [atop_atop]
            exact first
          · rw [atop_atop]
            exact second
      · have plain (contexts : List Context) (panic : Option String) :
            frame ≠ .release contexts panic :=
          fun equal => letsGo ⟨contexts, panic, equal⟩
        exact ⟨under.proceed program frame, proceed_atop under base program plain,
          proceed_atop under other program plain⟩

end SignalDispatch.Machine
