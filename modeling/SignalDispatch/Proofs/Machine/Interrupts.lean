import SignalDispatch.Proofs.Interrupt.Conservation
import SignalDispatch.Proofs.Interrupt.Sessions
import SignalDispatch.Proofs.Machine.Drains

/-!
# The interrupt queue of a session

Whatever a session does is a history of the interrupt queue of its bus.  `Tells` says which
primitive steps a move comes to: interrupts are pushed by operations, and the drains under way are
the drains on the stack; a cleanup drains the queue with a callback that does nothing.
-/

namespace SignalDispatch.Machine

/-- The drains on the stack, each with its position and whether it has handed out an item that is
still being emitted. -/
def drainStates (machine : Machine) : List (Nat × Bool) :=
  match machine.stack, machine.control with
  | .drain position _ :: below, .proceed =>
      (position, false) :: (below.filterMap Frame.position?).map fun outer => (outer, true)
  | stack, _ => (stack.filterMap Frame.position?).map fun position => (position, true)

/-- The primitive steps that a move comes to. -/
inductive Tells (before after : Machine) : List QueueEvent → Prop where
  | pushed {name : String} {value : Int32} {index : Nat} :
      Executes (.interrupt name value) before after →
      before.world.bus.interrupts.push name value = .ok after.world.bus.interrupts →
      Tells before after [.accepted ⟨index, name, value⟩]
  | refused {name : String} {value : Int32} {fault : Fault} :
      Executes (.interrupt name value) before after →
      before.world.bus.interrupts.push name value = .error fault →
      Tells before after [.refused name value fault]
  | began : Executes .drain before after → Tells before after [.began]
  | handed
      {position delivered : Nat}
      {below : List Frame}
      {item : InterruptItem} :
      before.stack = .drain position delivered :: below →
      before.control = .proceed →
      before.world.bus.interrupts.take? position = some (item, after.world.bus.interrupts) →
      Tells before after [.handed item]
  | returned {position delivered : Nat} {below : List Frame} {answer : Answer} :
      before.stack = .drain position delivered :: below →
      before.control = .answer answer →
      Tells before after [.returned]
  | finished {position delivered count : Nat} {below : List Frame} :
      before.stack = .drain position delivered :: below →
      before.control = .proceed →
      before.world.bus.interrupts.take? position = none →
      Tells before after [.finished count]
  | panicked {position delivered : Nat} {below : List Frame} {message : String} :
      before.stack = .drain position delivered :: below →
      before.control = .unwind message →
      Tells before after [.panicked]
  | emptied {events : List QueueEvent} :
      Executes .cleanup before after →
      ToldDuring [] (before.world.bus.interrupts.drain.1.map fun item => (item, [])) events →
      after.world.bus.interrupts = before.world.bus.interrupts.drain.2 →
      Tells before after
        (.began :: (events ++ [.finished before.world.bus.interrupts.drain.1.length]))
  | silent :
      after.world.bus.interrupts = before.world.bus.interrupts →
      after.drainStates = before.drainStates →
      Tells before after []

/-- The drains of a queue are those on a stack. -/
def Stands (loops : List DrainLoop) (machine : Machine) : Prop :=
  (loops.map fun loop => (loop.position, loop.delivering)) = machine.drainStates

/-- A move comes to some primitive steps. -/
def Amounts (loops : List DrainLoop) (before after : Machine) : Prop :=
  ∃ events later,
    Tells before after events ∧
      History ⟨before.world.bus.interrupts, loops⟩ events ⟨after.world.bus.interrupts, later⟩ ∧
      Stands later after

variable {machine before after : Machine} {loops : List DrainLoop} {operation : Operation}
  {frame : Frame} {below : List Frame}

/-! ## Drains on the stack -/

theorem drainStates_of_head (plain : ∀ top ∈ machine.stack.head?, top.position? = none) :
    machine.drainStates =
      (machine.stack.filterMap Frame.position?).map fun position => (position, true) := by
  rw [drainStates]
  split
  next stack _ =>
    have none_here := plain _ (by rw [stack]; rfl)
    cases none_here
  · rfl

theorem drainStates_of_control (busy : machine.control ≠ .proceed) :
    machine.drainStates =
      (machine.stack.filterMap Frame.position?).map fun position => (position, true) := by
  rw [drainStates]
  split
  next control => exact absurd control busy
  · rfl

/-- The innermost frame is not a drain if there are others above the drains. -/
theorem head_of_drainless
    {above : List Frame}
    (plain : Drainless above)
    (rest : above = [] → ∀ top ∈ below.head?, top.position? = none)
    (top : Frame)
    (head : top ∈ (above ++ below).head?) :
    top.position? = none := by
  cases above with
  | nil => exact rest rfl top head
  | cons first above =>
      have same : first = top := by simpa using head
      exact same ▸ List.filterMap_eq_nil_iff.mp plain first List.mem_cons_self

/-- A frame that is not a drain leaves the drains below it alone. -/
theorem Becomes.drainStates
    (becomes : Becomes frame below after)
    (seated : Seated (frame :: below)) :
    after.drainStates =
      (below.filterMap Frame.position?).map fun position => (position, true) := by
  cases becomes with
  | @stays above last stack plain =>
      rw [List.append_cons] at stack
      rw [drainStates_of_head, stack, List.filterMap_append, plain]
      · rfl
      · rw [stack]
        exact head_of_drainless plain fun empty => by simp at empty
  | leaves stack answered =>
      by_cases drain : ∃ top ∈ below.head?, top.position?.isSome
      · rcases drain with ⟨top, head, drain⟩
        have answers := (List.isChain_cons.mp seated).1 top head drain
        rw [drainStates_of_control (answered answers), stack]
      · rw [drainStates_of_head, stack]
        intro top head
        rw [stack] at head
        by_contra some
        exact drain ⟨top, head, Option.isSome_iff_ne_none.mpr some⟩

/-! ## Operations -/

theorem Stands.outside
    (stands : Stands loops machine)
    (plain : ∀ top ∈ machine.stack.head?, top.position? = none) :
    OutsideLoops loops := by
  rw [Stands, drainStates_of_head plain] at stands
  intro loop head
  have member := List.mem_map_of_mem (f := fun loop : DrainLoop => (loop.position, loop.delivering))
    (List.mem_of_mem_head? head)
  rw [stands] at member
  rcases List.mem_map.mp member with ⟨position, _, same⟩
  exact (congrArg Prod.snd same).symm

/-- What stands on the stack is still there when frames that are not drains are put above. -/
theorem drainStates_of_append
    {above : List Frame}
    (stack : after.stack = above ++ before.stack)
    (plain : Drainless above)
    (head : ∀ top ∈ before.stack.head?, top.position? = none) :
    after.drainStates = before.drainStates := by
  rw [drainStates_of_head head, drainStates_of_head, stack, List.filterMap_append, plain]
  · rfl
  · rw [stack]
    exact head_of_drainless plain fun _ => head

/-- Starting an operation other than a drain leaves the drains alone. -/
theorem Executes.drainStates
    (executes : Executes operation before after)
    (other : operation ≠ .drain) :
    after.drainStates = before.drainStates := by
  have head := executes.head
  rcases executes.eq_execute with ⟨program, payload, started, _, stack, rfl⟩
  rcases execute_drainless program started payload other with ⟨above, reached, plain⟩
  rw [stack] at reached
  exact drainStates_of_append reached plain head

/-- An operation that leaves the interrupts alone is silent. -/
theorem Executes.amounts_of_same
    (executes : Executes operation before after)
    (other : operation ≠ .drain)
    (same : after.world.bus.interrupts = before.world.bus.interrupts)
    (stands : Stands loops before) :
    Amounts loops before after := by
  have still := executes.drainStates other
  exact ⟨[], loops, .silent same still, same ▸ .refl, stands.trans still.symm⟩

/-- A cleanup empties the queue, or leaves it alone if there is nothing to clean up. -/
theorem Executes.amounts_of_cleanup
    (executes : Executes .cleanup before after)
    (stands : Stands loops before)
    (bus : after.world.bus = before.world.bus.cleanup.bus) :
    Amounts loops before after := by
  have outside := stands.outside executes.head
  rcases before.world.bus.cleanup_contained.2.2.2 with same | emptied
  · exact executes.amounts_of_same Operation.noConfusion (bus ▸ same) stands
  · rw [← bus] at emptied
    rcases @History.of_takeFrom before.world.bus.interrupts loops
      before.world.bus.interrupts.capacity 0 0 (Nat.le_add_left _ _) with
      ⟨events, further, told, history, nothing⟩
    have began : History ⟨before.world.bus.interrupts, loops⟩ [.began]
        ⟨before.world.bus.interrupts, {} :: loops⟩ :=
      .of_proceeds (.begins outside)
    have finished := (began.trans history).trans (.of_proceeds (.finishes nothing))
    rw [Nat.zero_add] at finished
    refine ⟨_, loops, .emptied executes told emptied, ?_,
      stands.trans (executes.drainStates Operation.noConfusion).symm⟩
    rw [emptied]
    simpa [InterruptQueue.drain] using finished

/-- A push is accepted or refused. -/
theorem Executes.amounts_of_interrupt
    {name : String}
    {value : Int32}
    (executes : Executes (.interrupt name value) before after)
    (settled : before.world.bus.interrupts.Settled)
    (stands : Stands loops before) :
    Amounts loops before after := by
  have outside := stands.outside executes.head
  have still := executes.drainStates Operation.noConfusion
  have stands' : Stands loops after := stands.trans still.symm
  rcases executes.eq_execute with ⟨program, payload, started, world, _, reached⟩
  cases result : before.world.bus.interrupts.push name value with
  | error fault =>
      have same : after.world.bus.interrupts = before.world.bus.interrupts := by
        simp only [reached, execute, world, result]
        exact congrArg (fun world : World => world.bus.interrupts) world
      refine ⟨_, loops, .refused executes result, ?_, stands'⟩
      rw [same]
      exact .of_proceeds (.refuses outside result)
  | ok pushed =>
      have same : after.world.bus.interrupts = pushed := by
        simp only [reached, execute, world, result]
        rfl
      rcases History.of_push settled outside result with ⟨index, history⟩
      exact ⟨_, loops, .pushed executes (same ▸ result), same ▸ history, stands'⟩

/-- A drain begins. -/
theorem Executes.amounts_of_drain
    (executes : Executes .drain before after)
    (stands : Stands loops before) :
    Amounts loops before after := by
  have head := executes.head
  have outside := stands.outside head
  rw [Stands, drainStates_of_head head] at stands
  rcases executes.eq_execute with ⟨program, payload, started, world, stack, reached⟩
  have same : after.world.bus.interrupts = before.world.bus.interrupts := by
    rw [reached, ← world]
    rfl
  refine ⟨_, {} :: loops, .began executes, ?_, ?_⟩
  · rw [same]
    exact .of_proceeds (.begins outside)
  · rw [Stands, List.map_cons, stands, reached, ← stack]
    rfl

/-- Starting an operation. -/
theorem Executes.amounts
    (executes : Executes operation before after)
    (settled : before.world.bus.interrupts.Settled)
    (stands : Stands loops before) :
    Amounts loops before after := by
  have undertakes : Undertakes before.world operation after.world.bus := by
    rcases executes.eq_execute with ⟨program, payload, started, world, _, rfl⟩
    rw [← world]
    exact execute_undertakes program started payload operation
  have silent (other : operation ≠ .drain)
      (same : after.world.bus.interrupts = before.world.bus.interrupts) :
      Amounts loops before after :=
    executes.amounts_of_same other same stands
  generalize bus : after.world.bus = reached at undertakes silent
  cases operation with
  | drain => exact executes.amounts_of_drain stands
  | interrupt => exact executes.amounts_of_interrupt settled stands
  | cleanup =>
      cases undertakes with
      | spares spares => exact silent Operation.noConfusion spares.interrupts
      | cleanup => exact executes.amounts_of_cleanup stands bus
  | connect =>
      apply silent Operation.noConfusion
      cases undertakes with
      | spares spares => exact spares.interrupts
      | connect => exact (Bus.connect_contained _ _ _ _ _).2
  | _ =>
      cases undertakes with
      | spares spares => exact silent Operation.noConfusion spares.interrupts

/-! ## Moves -/

/-- The innermost drain of a queue is the one on top of the stack. -/
theorem Stands.innermost
    {position : Nat}
    {delivering : Bool}
    {rest : List (Nat × Bool)}
    (stands : Stands loops machine)
    (states : machine.drainStates = (position, delivering) :: rest) :
    ∃ drained outer,
      loops = ⟨position, drained, delivering⟩ :: outer ∧
        (outer.map fun loop => (loop.position, loop.delivering)) = rest := by
  rw [Stands, states] at stands
  rcases List.map_eq_cons_iff.mp stands with ⟨loop, outer, rfl, same, others⟩
  simp only [Prod.mk.injEq] at same
  rcases same with ⟨rfl, rfl⟩
  exact ⟨loop.drained, outer, rfl, others⟩

/-- The callback of a drain comes back with an answer or a panic. -/
theorem amounts_of_back
    (program : Program)
    {position delivered : Nat}
    (stack : machine.stack = .drain position delivered :: below)
    (busy : machine.control ≠ .proceed)
    (stands : Stands loops machine) :
    Amounts loops machine (machine.step program) := by
  have states := drainStates_of_control busy
  rw [stack] at states
  rcases stands.innermost states with ⟨drained, outer, rfl, others⟩
  cases control : machine.control with
  | proceed => exact absurd control busy
  | aborted =>
      rw [step_of_aborted program control]
      exact ⟨[], _, .silent rfl rfl, .refl, stands⟩
  | answer answer =>
      have moved := step_of_answer program stack control
      refine ⟨_, ⟨position, drained + 1, false⟩ :: outer, .returned stack control, ?_, ?_⟩
      · rw [moved]
        exact .of_proceeds .returns
      · rw [Stands, List.map_cons, others, moved]
        rfl
  | unwind message =>
      have moved := step_of_unwind program stack control
      refine ⟨_, outer, .panicked stack control, ?_, ?_⟩
      · rw [moved]
        exact .of_proceeds .panics
      · rw [Stands, others, moved, drainStates_of_control Control.noConfusion]
        rfl

/-- A drain takes its turn. -/
theorem amounts_of_turn
    (program : Program)
    {position delivered : Nat}
    (stack : machine.stack = .drain position delivered :: below)
    (control : machine.control = .proceed)
    (stands : Stands loops machine) :
    Amounts loops machine (machine.step program) := by
  have states : machine.drainStates =
      (position, false) :: (below.filterMap Frame.position?).map fun outer => (outer, true) := by
    rw [drainStates, stack, control]
  rcases stands.innermost states with ⟨drained, outer, rfl, others⟩
  rcases step_drain program stack control with
    ⟨nothing, world, reached, answered⟩ | ⟨item, frame, taken, reached, _, plain⟩
  · refine ⟨[.finished drained], outer, .finished stack control nothing, ?_, ?_⟩
    · rw [world]
      exact .of_proceeds (.finishes nothing)
    · rw [Stands, others, drainStates_of_control answered, reached]
  · have head : ∀ top ∈ (machine.step program).stack.head?, top.position? = none := by
      simpa [reached] using plain
    refine ⟨_, _, .handed stack control taken, .of_proceeds (.hands taken), ?_⟩
    rw [Stands, List.map_cons, others, drainStates_of_head head, reached,
      List.filterMap_cons_none plain]
    rfl

theorem Executes.ready (executes : Executes operation before after) :
    before.issued? = some operation ∨ before.stack = [] := by
  cases executes with
  | command _ issued => exact Or.inl issued
  | session _ idle => exact Or.inr idle

/-- A step of a frame that is neither a drain nor user code that issues an operation. -/
theorem amounts_of_plain
    (program : Program)
    (stack : machine.stack = frame :: below)
    (plain : frame.position? = none)
    (idle : machine.issued? = none)
    (seated : Seated machine.stack)
    (stands : Stands loops machine) :
    Amounts loops machine (machine.step program) := by
  have becomes := step_becomes program stack plain (by simp [idle])
  have head : ∀ top ∈ machine.stack.head?, top.position? = none := by
    simpa [stack] using plain
  have states : (machine.step program).drainStates = machine.drainStates := by
    rw [becomes.drainStates (stack ▸ seated), drainStates_of_head head, stack,
      List.filterMap_cons_none plain]
  have same : (machine.step program).world.bus.interrupts = machine.world.bus.interrupts := by
    cases step_deals program machine with
    | spares spares => exact spares.interrupts
    | takes drains =>
        rw [stack] at drains
        cases drains
        cases plain
    | executes executes =>
        rcases executes.ready with issued | empty
        · simp [idle] at issued
        · simp [stack] at empty
  exact ⟨[], loops, .silent same states, same ▸ .refl, stands.trans states.symm⟩

/-- Every move comes to primitive steps of the interrupt queue. -/
theorem Move.amounts
    (move : Move before after)
    (seated : Seated before.stack)
    (settled : before.world.bus.interrupts.Settled)
    (stands : Stands loops before) :
    Amounts loops before after := by
  cases move with
  | perform program operation idle going =>
      exact (Executes.session program idle going).amounts settled stands
  | step program =>
      cases issued : before.issued? with
      | some operation => exact (Executes.command program issued).amounts settled stands
      | none =>
          cases stack : before.stack with
          | nil =>
              rw [step_of_idle program stack]
              exact ⟨[], loops, .silent rfl rfl, .refl, stands⟩
          | cons frame below =>
              cases plain : frame.position? with
              | none => exact amounts_of_plain program stack plain issued seated stands
              | some position =>
                  cases frame with
                  | drain position delivered =>
                      by_cases control : before.control = .proceed
                      · exact amounts_of_turn program stack control stands
                      · exact amounts_of_back program stack control stands
                  | _ => cases plain

/-! ## Sessions -/

namespace SessionRun

variable {trace : Nat → Machine} {last : Nat}

theorem seated (session : SessionRun trace last) (time : Nat) (bound : time ≤ last) :
    Seated (trace time).stack := by
  induction time with
  | zero =>
      rcases session.starts with ⟨backend, config, start⟩
      rw [start]
      exact .nil
  | succ time ih => exact (session.moves time bound).seated (ih (Nat.le_of_succ_le bound))

/-- The moves of a session come to a history of the interrupt queue of its bus. -/
theorem history (session : SessionRun trace last) :
    ∃ events : Nat → List QueueEvent,
      (∀ time < last, Tells (trace time) (trace (time + 1)) (events time)) ∧
        ∀ time ≤ last, ∃ loops,
          History (.ofCapacity Limits.interruptDepth) ((List.range time).flatMap events)
              ⟨(trace time).world.bus.interrupts, loops⟩ ∧
            Stands loops (trace time) := by
  induction last with
  | zero =>
      refine ⟨fun _ => [], nofun, ?_⟩
      intro time bound
      rcases session.starts with ⟨backend, config, start⟩
      rw [Nat.le_zero.mp bound, start]
      exact ⟨[], .refl, rfl⟩
  | succ last ih =>
      have earlier : SessionRun trace last :=
        ⟨session.starts, fun time bound => session.moves time (Nat.lt_succ_of_lt bound)⟩
      rcases ih earlier with ⟨events, tells, histories⟩
      rcases histories last (Nat.le_refl last) with ⟨loops, history, stands⟩
      have settled := history.settled (InterruptQueue.settled_ofCapacity _)
      have move := session.moves last (Nat.lt_succ_self last)
      rcases move.amounts (earlier.seated last (Nat.le_refl last)) settled stands with
        ⟨new, later, told, further, stands'⟩
      have same (time : Nat) (bound : time ≤ last) :
          (List.range time).flatMap (Function.update events last new) =
            (List.range time).flatMap events := by
        apply List.flatMap_congr
        intro moment member
        have before : moment ≠ last :=
          Nat.ne_of_lt (Nat.lt_of_lt_of_le (List.mem_range.mp member) bound)
        simp [before]
      refine ⟨Function.update events last new, ?_, ?_⟩
      · intro time bound
        rcases Nat.lt_succ_iff_lt_or_eq.mp bound with before | rfl
        · simpa [Nat.ne_of_lt before] using tells time before
        · simpa using told
      · intro time bound
        rcases Nat.lt_or_eq_of_le bound with before | rfl
        · have within : time ≤ last := Nat.le_of_lt_succ before
          rw [same time within]
          exact histories time within
        · refine ⟨later, ?_, stands'⟩
          rw [List.range_succ, List.flatMap_append, same last (Nat.le_refl last)]
          simpa using history.trans further

end SessionRun

/-- Nothing that goes through an interrupt queue is lost or handed out twice. -/
structure ConservesInterrupts : Prop where
  histories :
    ∀ capacity events reached,
      History (.ofCapacity capacity) events reached → Conserved capacity events reached
  /-- What is asked of a queue of its own, from inside the callbacks of drains too, is a history. -/
  requests :
    ∀ capacity requests, ∃ events,
      ToldAll requests (QueueRequest.answerAll requests (.ofCapacity capacity)).1 events ∧
        History (.ofCapacity capacity) events
          ⟨(QueueRequest.answerAll requests (.ofCapacity capacity)).2, []⟩
  /-- So is what a session does with the queue of its bus, panics included. -/
  sessions :
    ∀ trace last, SessionRun trace last →
      ∃ events : Nat → List QueueEvent,
        (∀ time < last, Tells (trace time) (trace (time + 1)) (events time)) ∧
          ∀ time ≤ last, ∃ loops,
            History (.ofCapacity Limits.interruptDepth) ((List.range time).flatMap events)
                ⟨(trace time).world.bus.interrupts, loops⟩ ∧
              Stands loops (trace time)

/-- The interrupt queue neither loses nor duplicates. -/
theorem conservesInterrupts : ConservesInterrupts := by
  constructor
  · intro capacity events reached history
    exact history.conserved
  · intro capacity requests
    have settled := InterruptQueue.settled_ofCapacity capacity
    exact QueueRequest.answerAll_history requests settled nofun
  · intro trace last session
    exact session.history

/-- A pending entry. -/
def firstEntry : InterruptEntry :=
  { ({} : InterruptEntry).write "first" 1 with state := .pending }

/-- The entry after another push, which has found it free again. -/
def secondEntry : InterruptEntry :=
  { firstEntry.write "second" 2 with state := .pending }

/-- In a queue of one entry the callback of a drain pushes and panics. -/
theorem history_refilled :
    History (.ofCapacity 1)
      [.accepted ⟨0, "first", 1⟩, .began, .handed ⟨0, "first", 1⟩, .accepted ⟨0, "second", 2⟩,
        .panicked]
      ⟨⟨[secondEntry]⟩, []⟩ := by
  have pushed : Proceeds (.ofCapacity 1) (.accepted ⟨0, "first", 1⟩) ⟨⟨[firstEntry]⟩, []⟩ :=
    .accepts nofun (by decide +kernel) (by decide +kernel) (by decide +kernel)
  have began : Proceeds ⟨⟨[firstEntry]⟩, []⟩ .began ⟨⟨[firstEntry]⟩, [{}]⟩ := .begins nofun
  have handed : Proceeds ⟨⟨[firstEntry]⟩, [{}]⟩ (.handed ⟨0, "first", 1⟩)
      ⟨⟨[{ firstEntry with state := .free }]⟩, [⟨1, 0, true⟩]⟩ :=
    .hands (by decide +kernel)
  have refilled : Proceeds ⟨⟨[{ firstEntry with state := .free }]⟩, [⟨1, 0, true⟩]⟩
      (.accepted ⟨0, "second", 2⟩) ⟨⟨[secondEntry]⟩, [⟨1, 0, true⟩]⟩ :=
    .accepts (by simp [OutsideLoops]) (by decide +kernel) (by decide +kernel) (by decide +kernel)
  exact ((((History.of_proceeds pushed).next began).next handed).next refilled).next .panics

/-- The item that was pushed from inside the callback waits; the one that was delivered is lost. -/
theorem conservesInterrupts_refilled :
    Conserved 1
        [.accepted ⟨0, "first", 1⟩, .began, .handed ⟨0, "first", 1⟩, .accepted ⟨0, "second", 2⟩,
          .panicked]
        ⟨⟨[secondEntry]⟩, []⟩ ∧
      InterruptQueue.item? ⟨[secondEntry]⟩ 0 = some ⟨0, "second", 2⟩ :=
  ⟨conservesInterrupts.histories _ _ _ history_refilled, by decide +kernel⟩

end SignalDispatch.Machine
