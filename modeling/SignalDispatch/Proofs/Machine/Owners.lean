import SignalDispatch.Proofs.Bus.Freed
import SignalDispatch.Proofs.Machine.Reachability

/-!
# Owners of tracked contexts

A tracked context belongs to the slot it was connected with, to the emissions that are in the
callback of that slot, and to the frames that are about to let go of it.  `Machine.Hands` lists what
one move does to these owners: it puts what it takes out of storage in front of what waits to be let
go of, it stores a new context or hands it back, it begins or ends the callback of a slot, or it
lets go of the first context that waits.  `Move.hands` says that there is nothing else.
-/

namespace SignalDispatch

/-- The tickets of the contexts that a frame is about to let go of. -/
def Frame.queued : Frame → List Nat
  | .release contexts _ => ticketsOf contexts
  | _ => []

/-- The ticket of the slot whose callback an emission is in. -/
def Frame.executing : Frame → List Nat
  | .walk emission => (emission.running.bind Slot.ticket?).toList
  | _ => []

/-- An emission that begins leaves the slots alone. -/
theorem Registry.slots_beginEmission
    {registry : Registry}
    {name : String}
    {result : Registry × SignalRef × Option Nat}
    (begun : registry.beginEmission name = .ok result) :
    result.1.slots = registry.slots := by
  rw [beginEmission] at begun
  split at begun
  · cases begun
  · split at begun
    · cases begun
    · cases begun
      rfl

namespace Machine

/-- The tickets of the contexts that wait to be let go of, in the order in which that happens. -/
def queued (machine : Machine) : List Nat :=
  machine.stack.flatMap Frame.queued

/-- The tickets of the slots whose callbacks run, the innermost in front. -/
def executing (machine : Machine) : List Nat :=
  machine.stack.flatMap Frame.executing

/-- The stored slots by position, links apart. -/
def slotAt (machine : Machine) (position : Nat) : Option Slot :=
  machine.world.bus.slotAt position

/-- The context of a ticket has an owner. -/
def Owned (machine : Machine) (ticket : Nat) : Prop :=
  Holds machine.slotAt ticket ∨ ticket ∈ machine.executing ∨ ticket ∈ machine.queued

/-- The innermost frame is about to let go of a tracked context. -/
def LetsGo (machine : Machine) : Prop :=
  ∃ ticket label farewell rest panic below,
    machine.stack = .release (.tracked ticket label farewell :: rest) panic :: below

/-- The move lets go of the last owner of a context, and its release is observed. -/
def Releases (before after : Machine) (ticket : Nat) : Prop :=
  ∃ label farewell rest panic below,
    before.stack = .release (.tracked ticket label farewell :: rest) panic :: below ∧
      before.control = .proceed ∧ after.events = .released label :: before.events

theorem queued_of_stack {machine : Machine} {frame : Frame} {below : List Frame}
    (stack : machine.stack = frame :: below) :
    machine.queued = frame.queued ++ below.flatMap Frame.queued := by
  rw [queued, stack, List.flatMap_cons]

theorem executing_of_stack {machine : Machine} {frame : Frame} {below : List Frame}
    (stack : machine.stack = frame :: below) :
    machine.executing = frame.executing ++ below.flatMap Frame.executing := by
  rw [executing, stack, List.flatMap_cons]

theorem not_letsGo_of_idle {machine : Machine} (idle : machine.stack = []) :
    ¬ machine.LetsGo := by
  rintro ⟨_, _, _, _, _, _, start⟩
  rw [idle] at start
  cases start

/-! ## What a move does to the owners -/

/-- What a move does to the owners of tracked contexts. -/
inductive Hands (before after : Machine) : Prop where
  /-- Slots go out of storage, and their contexts wait in front of the others. -/
  | free {freed : List Slot} :
      ¬ before.LetsGo →
      Frees before.slotAt after.slotAt freed →
      after.queued = freed.filterMap Slot.ticket? ++ before.queued →
      after.executing = before.executing →
      after.world.tickets = before.world.tickets →
      Executes .cleanup before after ∨ freed.Pairwise Slot.Before →
      Hands before after
  /-- A new context is stored with its slot. -/
  | accept {position : Nat} {slot : Slot} :
      ¬ before.LetsGo →
      slot.ticket? = some before.world.tickets →
      before.slotAt position = none →
      (∀ other, after.slotAt other = if position = other then some slot else before.slotAt other) →
      after.queued = before.queued →
      after.executing = before.executing →
      after.world.tickets = before.world.tickets + 1 →
      Hands before after
  /-- A new context is handed back at once. -/
  | reject :
      ¬ before.LetsGo →
      after.slotAt = before.slotAt →
      after.queued = before.world.tickets :: before.queued →
      after.executing = before.executing →
      after.world.tickets = before.world.tickets + 1 →
      Hands before after
  /-- The callback of a slot is called. -/
  | call {ticket : Nat} :
      ¬ before.LetsGo →
      Holds before.slotAt ticket →
      after.slotAt = before.slotAt →
      after.queued = before.queued →
      after.executing = ticket :: before.executing →
      after.world.tickets = before.world.tickets →
      Hands before after
  /-- The callback of a slot returns, or a panic leaves it. -/
  | leave {ticket : Nat} :
      ¬ before.LetsGo →
      after.LetsGo →
      after.slotAt = before.slotAt →
      after.queued = ticket :: before.queued →
      before.executing = ticket :: after.executing →
      after.world.tickets = before.world.tickets →
      Hands before after
  /-- The first context that waits goes on waiting. -/
  | wait :
      before.LetsGo →
      before.control ≠ .proceed →
      after.LetsGo →
      after.slotAt = before.slotAt →
      after.queued = before.queued →
      after.executing = before.executing →
      after.world.tickets = before.world.tickets →
      Hands before after
  /-- The first context that waits is let go of, and released if it has no other owner. -/
  | drop {ticket : Nat} :
      before.queued = ticket :: after.queued →
      after.slotAt = before.slotAt →
      after.executing = before.executing →
      after.world.tickets = before.world.tickets →
      (∀ other, Releases before after other ↔ other = ticket ∧ ¬ after.Owned ticket) →
      Hands before after

/-- What starting an operation does to the owners. -/
inductive Dispenses (operation : Operation) (before after : Machine) : Prop where
  | free {freed : List Slot} :
      Frees before.slotAt after.slotAt freed →
      after.queued = freed.filterMap Slot.ticket? ++ before.queued →
      after.executing = before.executing →
      after.world.tickets = before.world.tickets →
      operation = .cleanup ∨ freed.Pairwise Slot.Before →
      Dispenses operation before after
  | accept {position : Nat} {slot : Slot} :
      slot.ticket? = some before.world.tickets →
      before.slotAt position = none →
      (∀ other, after.slotAt other = if position = other then some slot else before.slotAt other) →
      after.queued = before.queued →
      after.executing = before.executing →
      after.world.tickets = before.world.tickets + 1 →
      Dispenses operation before after
  | reject :
      after.slotAt = before.slotAt →
      after.queued = before.world.tickets :: before.queued →
      after.executing = before.executing →
      after.world.tickets = before.world.tickets + 1 →
      Dispenses operation before after

/-- No operation starts in front of a context that is about to be let go of. -/
theorem Executes.settled
    {operation : Operation}
    {before after : Machine}
    (executes : Executes operation before after) :
    ¬ before.LetsGo := by
  rintro ⟨_, _, _, _, _, _, stack⟩
  cases executes with
  | command program issued =>
      rw [issued?, stack] at issued
      cases control : before.control <;> simp only [control, Frame.issued?] at issued
      all_goals cases issued
  | session program idle going =>
      rw [idle] at stack
      cases stack

theorem Dispenses.hands
    {operation : Operation}
    {before started after : Machine}
    (dispenses : Dispenses operation started after)
    (world : started.world = before.world)
    (stack : started.stack = before.stack)
    (executes : Executes operation before after) :
    Hands before after := by
  have settled := executes.settled
  have slots : started.slotAt = before.slotAt := by
    funext position
    rw [slotAt, world, slotAt]
  have sameQueued : started.queued = before.queued := by rw [queued, stack, queued]
  have sameExecuting : started.executing = before.executing := by rw [executing, stack, executing]
  cases dispenses with
  | free frees queued executing tickets order =>
      rw [slots] at frees
      rw [sameQueued] at queued
      refine .free settled frees queued (executing.trans sameExecuting) ?_ ?_
      · rw [tickets, world]
      · rcases order with rfl | ordered
        · exact Or.inl executes
        · exact Or.inr ordered
  | accept named vacant placed queued executing tickets =>
      rw [slots] at vacant placed
      rw [world] at named tickets
      exact .accept settled named vacant placed (queued.trans sameQueued)
        (executing.trans sameExecuting) tickets
  | reject kept queued executing tickets =>
      rw [world, sameQueued] at queued
      rw [world] at tickets
      exact .reject settled (kept.trans slots) queued (executing.trans sameExecuting) tickets

/-! ## Calls -/

/-- A call that is over in one go is followed by the release of contexts and its last frame. -/
theorem stack_apply (machine : Machine) (effect : Effect) :
    ∃ last, (machine.apply effect).stack =
        .release effect.released none :: last :: machine.stack ∧
      last.queued = [] ∧ last.executing = [] := by
  have stack := stack_log (machine.setBus effect.bus) effect.before
  rw [apply]
  cases effect.result with
  | ok answer => exact ⟨_, congrArg (fun rest => _ :: _ :: rest) stack, rfl, rfl⟩
  | error fault => exact ⟨_, congrArg (fun rest => _ :: _ :: rest) stack, rfl, rfl⟩

theorem world_apply (machine : Machine) (effect : Effect) :
    (machine.apply effect).world = { machine.world with bus := effect.bus } := by
  rw [apply, proceeding, push, push, world_log]
  rfl

/-- What taking over the effect of a call does to the owners. -/
theorem apply_fields (machine : Machine) (effect : Effect) :
    (machine.apply effect).slotAt = effect.bus.slotAt ∧
      (machine.apply effect).queued = ticketsOf effect.released ++ machine.queued ∧
      (machine.apply effect).executing = machine.executing ∧
      (machine.apply effect).world.tickets = machine.world.tickets := by
  rcases stack_apply machine effect with ⟨last, stack, unqueued, unexecuting⟩
  refine ⟨?_, ?_, ?_, ?_⟩
  · funext position
    rw [slotAt, world_apply]
  · rw [queued_of_stack stack, List.flatMap_cons, unqueued]
    rfl
  · rw [executing_of_stack stack, List.flatMap_cons, unexecuting]
    rfl
  · rw [world_apply]

/-- A call that lets go of what it frees. -/
theorem dispenses_apply
    {operation : Operation}
    {machine : Machine}
    {effect : Effect}
    (relinquishes : machine.world.bus.Relinquishes effect) :
    Dispenses operation machine (machine.apply effect) := by
  rcases apply_fields machine effect with ⟨slots, queued, executing, tickets⟩
  rcases relinquishes with ⟨freed, released, frees⟩
  rw [released, ticketsOf_contextsOf] at queued
  refine .free ?_ queued executing tickets (Or.inr frees.ordered)
  rw [slots]
  exact frees.toFrees

/-- A move that leaves the slots and all owners alone. -/
theorem dispenses_of_same
    {operation : Operation}
    {before after : Machine}
    (slots : after.slotAt = before.slotAt)
    (queued : after.queued = before.queued)
    (executing : after.executing = before.executing)
    (tickets : after.world.tickets = before.world.tickets) :
    Dispenses operation before after :=
  .free (.of_eq slots) queued executing tickets (Or.inr .nil)

/-- An emission that begins leaves all owners alone. -/
theorem beginEmission_fields (machine : Machine) (emission : Emission) :
    (machine.beginEmission emission).slotAt = machine.slotAt ∧
      (machine.beginEmission emission).queued = machine.queued ∧
      (machine.beginEmission emission).executing = machine.executing ∧
      (machine.beginEmission emission).world.tickets = machine.world.tickets := by
  rw [beginEmission]
  cases present : machine.world.bus.registry with
  | none => exact ⟨rfl, rfl, rfl, rfl⟩
  | some registry =>
      cases begun : registry.beginEmission emission.name with
      | error fault =>
          simp only [begun]
          exact ⟨rfl, rfl, rfl, rfl⟩
      | ok result =>
          simp only [begun]
          refine ⟨?_, rfl, rfl, rfl⟩
          funext position
          rw [slotAt, slotAt, Bus.slotAt_of_some present]
          exact (Bus.slotAt_of_some rfl position).trans
            (by rw [Registry.slots_beginEmission begun])

/-- The context that a connection asks for, with the next ticket if it is tracked. -/
def issuedContext (request : Option ContextRequest) (ticket : Nat) : Option Context :=
  request.map fun asked =>
    match asked with
    | .text value => .text value
    | .tracked label farewell => .tracked ticket label farewell

/-- A connection is the call on the bus; a tracked context takes a ticket. -/
theorem connect_eq_apply
    (machine : Machine)
    (name : String)
    (callback : RoutineId)
    (priority : Option Priority)
    (request : Option ContextRequest)
    (keep : KeepRequest) :
    ∃ world result,
      machine.connect name callback priority request keep =
          ({ machine with world := world } : Machine).apply
            { machine.world.bus.connect name callback
                (issuedContext request machine.world.tickets) priority with result := result } ∧
        world.tickets = machine.world.tickets +
          (ticketsOf (issuedContext request machine.world.tickets).toList).length := by
  unfold connect
  rcases request with _ | ⟨value⟩ | ⟨label, farewell⟩
  all_goals
    dsimp only
    split
    · exact ⟨_, _, rfl, rfl⟩
    · exact ⟨_, _, rfl, rfl⟩
    · exact ⟨_, _, rfl, rfl⟩

/-- What a connection does to the owners. -/
theorem connect_fields
    (machine : Machine)
    (name : String)
    (callback : RoutineId)
    (priority : Option Priority)
    (request : Option ContextRequest)
    (keep : KeepRequest) :
    let context := issuedContext request machine.world.tickets
    let effect := machine.world.bus.connect name callback context priority
    let after := machine.connect name callback priority request keep
    after.slotAt = effect.bus.slotAt ∧
      after.queued = ticketsOf effect.released ++ machine.queued ∧
      after.executing = machine.executing ∧
      after.world.tickets = machine.world.tickets + (ticketsOf context.toList).length := by
  intro context effect after
  rcases connect_eq_apply machine name callback priority request keep with
    ⟨world, result, same, tickets⟩
  rcases apply_fields { machine with world := world } { effect with result := result } with
    ⟨slots, queued, executing, kept⟩
  rw [← same] at slots queued executing kept
  exact ⟨slots, queued, executing, kept.trans tickets⟩

/-- A connection stores its context or hands it back. -/
theorem connect_dispenses
    {operation : Operation}
    {machine : Machine}
    (sane : machine.world.bus.Sane)
    (name : String)
    (callback : RoutineId)
    (priority : Option Priority)
    (request : Option ContextRequest)
    (keep : KeepRequest) :
    Dispenses operation machine (machine.connect name callback priority request keep) := by
  rcases connect_fields machine name callback priority request keep with
    ⟨slots, queued, executing, tickets⟩
  rcases Bus.connect_spec _ sane name callback
      (issuedContext request machine.world.tickets) priority with
    ⟨_, _, released, kept⟩ | ⟨_, position, slot, _, released, context, vacant, placed⟩
  · rw [released] at queued
    rw [kept] at slots
    cases request with
    | none => exact dispenses_of_same slots queued executing tickets
    | some asked =>
        cases asked with
        | text value => exact dispenses_of_same slots queued executing tickets
        | tracked label farewell => exact .reject slots queued executing tickets
  · rw [released] at queued
    have ticket : slot.ticket? =
        (issuedContext request machine.world.tickets).bind Context.ticket? := by
      rw [Slot.ticket?, context]
    have untracked (unnamed : slot.ticket? = none) :
        Frees machine.slotAt
          (machine.connect name callback priority request keep).slotAt [] := by
      refine .of_added unnamed vacant ?_
      intro other
      rw [slots]
      exact placed other
    cases request with
    | none => exact .free (untracked ticket) queued executing tickets (Or.inr .nil)
    | some asked =>
        cases asked with
        | text value => exact .free (untracked ticket) queued executing tickets (Or.inr .nil)
        | tracked label farewell =>
            refine .accept ticket vacant ?_ queued executing tickets
            intro other
            rw [slots]
            exact placed other

/-- Starting an operation. -/
theorem execute_dispenses
    (program : Program)
    (machine : Machine)
    (sane : machine.world.bus.Sane)
    (payload : Payload)
    (operation : Operation) :
    Dispenses operation machine (machine.execute program payload operation) := by
  have emits (emission : Emission) :
      Dispenses operation machine (machine.beginEmission emission) := by
    rcases beginEmission_fields machine emission with ⟨slots, queued, executing, tickets⟩
    exact dispenses_of_same slots queued executing tickets
  have same {after : Machine} (slots : after.slotAt = machine.slotAt)
      (queued : after.queued = machine.queued)
      (executing : after.executing = machine.executing)
      (tickets : after.world.tickets = machine.world.tickets) :
      Dispenses operation machine after :=
    dispenses_of_same slots queued executing tickets
  cases operation with
  | init => exact dispenses_apply (Bus.relinquishes_init _)
  | register => exact dispenses_apply (Bus.relinquishes_register _ _ _ _)
  | unregister => exact dispenses_apply (Bus.relinquishes_unregister _ sane _)
  | disconnect => exact dispenses_apply (Bus.relinquishes_disconnect _ sane _ _)
  | disconnectHandle => exact dispenses_apply (Bus.relinquishes_disconnectHandle _ sane _)
  | disconnectAll => exact dispenses_apply (Bus.relinquishes_disconnectAll _ sane _)
  | defer | forwardDeferred => exact dispenses_apply (Bus.relinquishes_defer _ _)
  | setMaxSlots => exact dispenses_apply (Bus.relinquishes_setMaxSlots _ _)
  | timing => exact dispenses_apply (Bus.relinquishes_timing _ _)
  | memoryStats => exact dispenses_apply (Bus.relinquishes_memoryStats _)
  | resetTiming => exact dispenses_apply (Bus.relinquishes_resetTiming _)
  | resetPeak => exact dispenses_apply (Bus.relinquishes_resetPeak _)
  | setSpace | setThreadSafe | setProfiling | setHook =>
      exact dispenses_apply (.of_registry rfl rfl)
  | connect => exact connect_dispenses sane _ _ _ _ _
  | cleanup =>
      rcases apply_fields machine machine.world.bus.cleanup with
        ⟨slots, queued, executing, tickets⟩
      rcases Bus.relinquishes_cleanup _ sane with ⟨freed, released, frees, _⟩
      rw [released, ticketsOf_contextsOf] at queued
      refine .free ?_ queued executing tickets (Or.inl rfl)
      rw [execute, slots]
      exact frees
  | emit => exact emits _
  | forward => exact emits _
  | emitIn => exact emits _
  | emitDown request =>
      simp only [execute]
      split
      · cases request with
        | name => exact emits _
        | unreadable => exact same rfl rfl rfl rfl
      · exact same rfl rfl rfl rfl
  | flush =>
      rw [execute]
      split <;> exact same rfl rfl rfl rfl
  | interrupt =>
      rw [execute]
      split <;> exact same rfl rfl rfl rfl
  | isInitialized | contains | count | listing | deferredLength | space | drain
  | pendingInterrupts | maxSlots | isThreadSafe | isProfiling | display | batchAdd | batchInfo
  | batchClear | batchEmit | panic | catching | unreadable =>
      exact same rfl rfl rfl rfl

end Machine

end SignalDispatch
