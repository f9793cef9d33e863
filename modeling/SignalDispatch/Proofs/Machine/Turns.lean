import SignalDispatch.Proofs.Machine.Owners
import SignalDispatch.Proofs.Machine.Queue

/-!
# The turns of a frame

A frame stays above the frames below it, in one form or another, until it comes back to them.
`Frame.Continues` says what may become of it meanwhile, and `Frame.Returns` how it comes back.  By
`step_turns` a step of the innermost frame is one or the other, and what the frame has put above
itself replays a queue only if the step starts that.
-/

namespace SignalDispatch

/-- The position of a drain. -/
def Frame.position? : Frame → Option Nat
  | .drain position _ => some position
  | _ => none

/-- A frame that comes back with an answer or a panic. -/
def Frame.Answers : Frame → Prop
  | .walk _ | .conclude _ _ | .reject _ => True
  | .release _ panic => panic.isSome
  | _ => False

/-- No frame is a drain. -/
def Drainless (frames : List Frame) : Prop :=
  frames.filterMap Frame.position? = []

/-- The operation that begins a frame which replays a queue. -/
def Frame.replays? : Frame → Option Operation
  | .drain _ _ => some .drain
  | .flush _ _ => some .flush
  | _ => none

theorem Frame.position?_of_plain {frame : Frame} (plain : frame.replays? = none) :
    frame.position? = none := by
  cases frame <;> first | rfl | cases plain

/-- The frames that replay a queue are there because that was asked for. -/
def StartedBy (issued : Option Operation) (frames : List Frame) : Prop :=
  ∀ frame ∈ frames, frame.replays?.isSome → frame.replays? = issued

namespace StartedBy

variable {issued : Option Operation} {frames : List Frame}

theorem nil : StartedBy issued [] :=
  fun _ member => absurd member List.not_mem_nil

theorem cons
    {frame : Frame}
    (plain : frame.replays? = none)
    (rest : StartedBy issued frames) :
    StartedBy issued (frame :: frames) := by
  intro other member replays
  rcases List.mem_cons.mp member with rfl | member
  · rw [plain] at replays
    cases replays
  · exact rest other member replays

/-- Only a drain puts drains there. -/
theorem drainless (started : StartedBy issued frames) (other : issued ≠ some .drain) :
    Drainless frames := by
  rw [Drainless, List.filterMap_eq_nil_iff]
  intro frame member
  cases frame with
  | drain position delivered => exact absurd (started _ member rfl).symm other
  | _ => rfl

end StartedBy

/-- What a frame is after a move, as long as it has not come back. -/
inductive Frame.Continues : Frame → Frame → Prop where
  | routine {commands left : List Command} {payload : Payload} {turn : Nat} :
      left <:+ commands →
      Continues (.routine commands payload turn) (.routine left payload turn)
  | walk {earlier later : Walk} : Continues (.walk earlier) (.walk later)
  /-- An emission that a panic leaves lets go of what it has swept. -/
  | swept {walk : Walk} {contexts : List Context} {message : String} :
      Continues (.walk walk) (.release contexts (some message))
  | done {walk : Walk} {records : List LogRecord} :
      Continues (.walk walk) (.conclude records .done)
  | release {contexts rest : List Context} {panic later : Option String} :
      (panic.isSome → later.isSome) →
      Continues (.release contexts panic) (.release rest later)
  | conclude {records : List LogRecord} {answer : Answer} :
      Continues (.conclude records answer) (.conclude records answer)
  | reject {fault : Fault} : Continues (.reject fault) (.reject fault)
  /-- The hook runs, and after it the fault comes back. -/
  | reported {fault : Fault} : Continues (.reject fault) (.conclude [] (.fault fault))
  | flush {remaining left delivered delivered' : Nat} :
      Continues (.flush remaining delivered) (.flush left delivered')
  | drain {position later delivered delivered' : Nat} :
      Continues (.drain position delivered) (.drain later delivered')
  | batch {entries rest : List Emission} {first first' : Option Fault} :
      Continues (.batch entries first) (.batch rest first')
  | catching : Continues .catching .catching

/-- How a frame comes back to the frames below. -/
inductive Frame.Returns : Frame → Control → Prop where
  | panicked {frame : Frame} {message : String} : Returns frame (.unwind message)
  | routine {payload : Payload} {turn : Nat} : Returns (.routine [] payload turn) .proceed
  | release : Returns (.release [] none) .proceed
  | conclude {records : List LogRecord} {answer : Answer} :
      Returns (.conclude records answer) (.answer answer)
  | reject {fault : Fault} : Returns (.reject fault) (.answer (.fault fault))
  | flush {remaining delivered : Nat} :
      Returns (.flush remaining delivered) (.answer (.number delivered))
  | drain {position delivered : Nat} :
      Returns (.drain position delivered) (.answer (.number delivered))
  | batch {first : Option Fault} {answer : Answer} : Returns (.batch [] first) (.answer answer)
  | catching {answer : Answer} : answer.fault? = none → Returns .catching (.answer answer)

theorem Frame.Continues.refl (frame : Frame) : frame.Continues frame := by
  cases frame with
  | routine => exact .routine List.suffix_rfl
  | walk => exact .walk
  | release => exact .release id
  | conclude => exact .conclude
  | reject => exact .reject
  | flush => exact .flush
  | drain => exact .drain
  | batch => exact .batch
  | catching => exact .catching

namespace Machine

/-- What a step makes of a frame, with the operation that it starts, if it starts one. -/
inductive Turns
    (issued : Option Operation)
    (frame : Frame)
    (below : List Frame)
    (after : Machine) :
    Prop where
  | continues {above : List Frame} {last : Frame} :
      after.stack = above ++ last :: below →
      frame.Continues last →
      StartedBy issued above →
      Turns issued frame below after
  | returns :
      after.stack = below →
      frame.Returns after.control →
      Turns issued frame below after

variable (program : Program) {machine : Machine} {frame last : Frame} {below : List Frame}
  {issued : Option Operation}

/-! ## Starting an operation -/

/-- A call leaves frames that do not replay a queue. -/
theorem startedBy_apply (machine : Machine) (effect : Effect) :
    ∃ above, (machine.apply effect).stack = above ++ machine.stack ∧ StartedBy issued above := by
  have same := stack_log (machine.setBus effect.bus) effect.before
  rw [apply]
  cases effect.result with
  | ok answer =>
      refine ⟨[.release effect.released none, .conclude effect.after answer], ?_,
        .cons rfl (.cons rfl .nil)⟩
      exact congrArg (fun rest => _ :: _ :: rest) same
  | error fault =>
      refine ⟨[.release effect.released none, .reject fault], ?_, .cons rfl (.cons rfl .nil)⟩
      exact congrArg (fun rest => _ :: _ :: rest) same

/-- An emission that begins, or its fault, comes back with an answer. -/
theorem answers_beginEmission (machine : Machine) (emission : Emission) :
    ∃ frame, (machine.beginEmission emission).stack = frame :: machine.stack ∧
      frame.Answers ∧ frame.replays? = none := by
  rw [beginEmission]
  dsimp only
  split
  · exact ⟨_, rfl, trivial, rfl⟩
  · split <;> exact ⟨_, rfl, trivial, rfl⟩

/-- Only the operations that replay a queue begin to do so. -/
theorem execute_startedBy (machine : Machine) (payload : Payload) (operation : Operation) :
    ∃ above, (machine.execute program payload operation).stack = above ++ machine.stack ∧
      StartedBy (some operation) above := by
  have emits (emission : Emission) :
      ∃ above, (machine.beginEmission emission).stack = above ++ machine.stack ∧
        StartedBy (some operation) above := by
    rcases answers_beginEmission machine emission with ⟨frame, stack, _, plain⟩
    exact ⟨[frame], stack, .cons plain .nil⟩
  cases operation with
  | connect name callback priority request keep =>
      rcases connect_eq_apply machine name callback priority request keep with
        ⟨world, result, same, _⟩
      rw [execute, same]
      exact startedBy_apply _ _
  | emit | forward | emitIn => exact emits _
  | emitDown request =>
      simp only [execute]
      split
      · cases request with
        | name => exact emits _
        | unreadable => exact ⟨[], rfl, .nil⟩
      · exact ⟨[], rfl, .nil⟩
  | flush =>
      simp only [execute]
      split
      · exact ⟨[_], rfl, fun frame member _ => List.mem_singleton.mp member ▸ rfl⟩
      · exact ⟨[_], rfl, .cons rfl .nil⟩
  | interrupt name value =>
      simp only [execute]
      split <;> exact ⟨[], rfl, .nil⟩
  | drain => exact ⟨[_], rfl, fun frame member _ => List.mem_singleton.mp member ▸ rfl⟩
  | batchEmit => exact ⟨[_], rfl, .cons rfl .nil⟩
  | catching => exact ⟨[_, _], rfl, .cons rfl (.cons rfl .nil)⟩
  | init | cleanup | register | unregister | disconnect | disconnectHandle | disconnectAll
  | forwardDeferred | defer | setSpace | setMaxSlots | setThreadSafe | setProfiling | timing
  | resetTiming | resetPeak | memoryStats | setHook =>
      exact startedBy_apply _ _
  | isInitialized | contains | count | listing | deferredLength | space | pendingInterrupts
  | maxSlots | isThreadSafe | isProfiling | display | batchAdd | batchInfo | batchClear | panic
  | unreadable =>
      exact ⟨[], rfl, .nil⟩

/-- Only a drain begins a drain. -/
theorem execute_drainless
    (machine : Machine)
    (payload : Payload)
    {operation : Operation}
    (other : operation ≠ .drain) :
    ∃ above, (machine.execute program payload operation).stack = above ++ machine.stack ∧
      Drainless above := by
  rcases execute_startedBy program machine payload operation with ⟨above, stack, started⟩
  exact ⟨above, stack, started.drainless fun same => other (Option.some.inj same)⟩

/-! ## Steps of frames -/

/-- A frame that goes on with nothing above it. -/
theorem Turns.alone
    {after : Machine}
    (stack : after.stack = last :: below)
    (continues : frame.Continues last) :
    Turns issued frame below after :=
  @Turns.continues issued frame below after [] last stack continues .nil

/-- A frame that goes on under another. -/
theorem Turns.under
    {after : Machine}
    {upper : Frame}
    (stack : after.stack = upper :: last :: below)
    (continues : frame.Continues last)
    (plain : upper.replays? = none) :
    Turns issued frame below after :=
  @Turns.continues issued frame below after [upper] last stack continues (.cons plain .nil)

/-- A frame that emits goes on under the emission. -/
theorem turns_beginEmission
    (emission : Emission)
    (stack : machine.stack = last :: below)
    (continues : frame.Continues last) :
    Turns issued frame below (machine.beginEmission emission) := by
  rcases answers_beginEmission machine emission with ⟨begun, reached, _, plain⟩
  exact .under (reached.trans (congrArg (List.cons begun) stack)) continues plain

theorem turns_proceedRoutine
    (machine : Machine)
    (commands : List Command)
    (payload : Payload)
    (turn : Nat) :
    Turns (Frame.routine commands payload turn).issued? (.routine commands payload turn)
      machine.stack (machine.proceedRoutine program commands payload turn) := by
  cases commands with
  | nil => exact .returns rfl .routine
  | cons command rest =>
      rw [proceedRoutine, Frame.issued?]
      split
      next due =>
        let issuing := machine.push (.routine (command :: rest) payload turn)
        rcases execute_startedBy program issuing payload command.operation with
          ⟨above, reached, started⟩
        exact .continues reached (.refl _) started
      · exact .alone rfl (.routine (List.suffix_cons command rest))

theorem turns_proceedWalk (machine : Machine) (walk : Walk) :
    Turns issued (.walk walk) machine.stack (machine.proceedWalk program walk) := by
  have left := (leave_fields program machine walk).1
  rw [proceedWalk]
  split
  · exact .under rfl .walk rfl
  · dsimp only
    split
    · exact .under (congrArg (fun rest => _ :: _ :: rest) left) .done rfl
    · split
      · exact .alone rfl .walk
      · exact .under rfl .walk rfl

theorem turns_proceedRelease
    (machine : Machine)
    (contexts : List Context)
    (panic : Option String) :
    Turns issued (.release contexts panic) machine.stack
      (machine.proceedRelease program contexts panic) := by
  rcases contexts with _ | ⟨_ | ⟨ticket, label, farewell⟩, rest⟩
  · cases panic with
    | none => exact .returns rfl .release
    | some message => exact .returns rfl .panicked
  · exact .alone rfl (.release id)
  · rw [proceedRelease]
    split
    · exact .alone rfl (.release id)
    · exact .under rfl (.release id) rfl

theorem turns_proceedReject (machine : Machine) (fault : Fault) :
    Turns issued (.reject fault) machine.stack (machine.proceedReject program fault) := by
  have stack := stack_log machine [.warn fault.message]
  rw [proceedReject]
  dsimp only
  split
  · exact .returns stack .reject
  · exact .under (congrArg (fun rest => _ :: _ :: rest) stack) .reported rfl

/-- The next move of a frame. -/
theorem turns_proceed (machine : Machine) (frame : Frame) :
    Turns frame.issued? frame machine.stack (machine.proceed program frame) := by
  cases frame with
  | routine commands payload turn =>
      exact turns_proceedRoutine program machine commands payload turn
  | walk walk => exact turns_proceedWalk program machine walk
  | release contexts panic => exact turns_proceedRelease program machine contexts panic
  | conclude records answer => exact .returns (stack_log _ _) .conclude
  | reject fault => exact turns_proceedReject program machine fault
  | flush remaining delivered =>
      rw [proceed, proceedFlush.eq_def]
      dsimp only
      split
      · exact .returns (stack_log _ _) .flush
      · exact turns_beginEmission _ rfl .flush
  | drain position delivered =>
      rw [proceed, proceedDrain]
      dsimp only
      split
      · exact .returns (stack_log _ _) .drain
      · exact turns_beginEmission _ rfl .drain
  | batch entries first =>
      cases entries with
      | nil => cases first <;> exact .returns rfl .batch
      | cons emission rest => exact turns_beginEmission _ rfl .batch
  | catching => exact .returns rfl (.catching rfl)

/-- An answer reaches a frame. -/
theorem turns_resume (machine : Machine) (answer : Answer) (frame : Frame) :
    Turns issued frame machine.stack (machine.resume answer frame) := by
  cases frame with
  | routine commands payload turn =>
      cases commands with
      | nil => exact .returns rfl .routine
      | cons command rest => exact .alone rfl (.routine (List.suffix_cons command rest))
  | flush => exact .alone rfl .flush
  | drain => exact .alone rfl .drain
  | batch => exact .alone rfl .batch
  | walk | release | conclude | reject | catching => exact .alone rfl (.refl _)

/-- A panic reaches a frame. -/
theorem turns_unwindThrough (machine : Machine) (message : String) (frame : Frame) :
    Turns issued frame machine.stack (machine.unwindThrough program message frame) := by
  cases frame with
  | walk walk =>
      rw [unwindThrough]
      split
      · exact .under rfl .walk rfl
      · exact .alone (congrArg (List.cons _) (leave_fields program machine walk).1) .swept
  | release contexts panic =>
      cases panic with
      | none => exact .alone rfl (.release fun _ => rfl)
      | some earlier => exact .alone rfl (.release id)
  | catching => exact .returns rfl (.catching rfl)
  | routine | conclude | reject | flush | drain | batch => exact .returns rfl .panicked

/-- A step of the innermost frame. -/
theorem step_turns (stack : machine.stack = frame :: below) :
    Turns machine.issued? frame below (machine.step program) := by
  let under : Machine := { machine with stack := below }
  cases control : machine.control with
  | aborted =>
      rw [step_of_aborted program control]
      exact .alone stack (.refl frame)
  | answer answer =>
      rw [step_of_answer program stack control]
      exact turns_resume under answer frame
  | unwind message =>
      rw [step_of_unwind program stack control]
      exact turns_unwindThrough program under message frame
  | proceed =>
      have issues : machine.issued? = frame.issued? := by rw [issued?, stack, control]
      rw [issues, step_of_proceed program stack control]
      exact turns_proceed program under frame

end Machine

end SignalDispatch
