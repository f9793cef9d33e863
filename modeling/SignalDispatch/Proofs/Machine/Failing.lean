import SignalDispatch.Proofs.Machine.Returning
import SignalDispatch.Proofs.Machine.Sparing
import SignalDispatch.Proofs.Machine.Tandem

/-!
# Calls that fail

A call that fails has changed nothing by the time its failure is known.  What it still has to do is
to let go of a context that was rejected and to report the fault; both may run user code, the
farewell of the context and the error hook, and the moves of the call itself change nothing either.
`execute_starts` is the first half of this, for every operation but the emission of a batch, which
goes on after a fault and reports the first at its end; `Handling.undisturbed` is the second.
-/

namespace SignalDispatch

/-- Nothing has changed in a world but the serial of the next registration, the count of hook calls
and the tickets. -/
structure World.Undisturbed (before after : World) : Prop where
  bus : before.bus.Undisturbed after.bus
  /-- No callback has been called. -/
  calls : after.calls = before.calls
  kept : after.kept = before.kept
  batches : after.batches = before.batches
  readings : after.readings = before.readings
  tickets : before.tickets ≤ after.tickets

namespace World.Undisturbed

theorem refl (world : World) : Undisturbed world world :=
  ⟨.refl _, rfl, rfl, rfl, rfl, Nat.le_refl _⟩

theorem of_bus {world : World} {bus : Bus} (undisturbed : world.bus.Undisturbed bus) :
    Undisturbed world { world with bus := bus } :=
  ⟨undisturbed, rfl, rfl, rfl, rfl, Nat.le_refl _⟩

theorem trans
    {before middle after : World}
    (first : Undisturbed before middle)
    (second : Undisturbed middle after) :
    Undisturbed before after :=
  ⟨first.bus.trans second.bus, second.calls.trans first.calls, second.kept.trans first.kept,
    second.batches.trans first.batches, second.readings.trans first.readings,
    first.tickets.trans second.tickets⟩

/-- An error hook that is not there does not appear. -/
theorem hook_eq_none
    {before after : World}
    (undisturbed : Undisturbed before after)
    (unhooked : before.bus.hook = none) :
    after.bus.hook = none := by
  have same := undisturbed.bus.hook
  rw [unhooked, Option.map_none, Option.map_eq_none_iff] at same
  exact same

end World.Undisturbed

/-- The farewell of a context. -/
def Context.farewell? : Context → Option RoutineId
  | .tracked _ _ farewell => some farewell
  | .text _ => none

namespace Machine

/-- It is the turn of a call that failed: it lets go of what it was handed, or reports. -/
inductive Handling
    (farewell : Option RoutineId)
    (fault : Fault)
    (below : List Frame)
    (machine : Machine) :
    Prop where
  | releasing {contexts : List Context} {panic : Option String} :
      machine.stack = .release contexts panic :: .reject fault :: below →
      (∀ context ∈ contexts, context.farewell? = farewell) →
      Handling farewell fault below machine
  | rejecting : machine.stack = .reject fault :: below → Handling farewell fault below machine
  | reported :
      machine.stack = .conclude [] (.fault fault) :: below →
      Handling farewell fault below machine

/-- User code runs while a call that failed waits: the farewell of the context that was rejected, or
the hook that the fault was reported to. -/
inductive Meanwhile
    (program : Program)
    (farewell : Option RoutineId)
    (hooks : Hook → Prop)
    (fault : Fault)
    (below : List Frame)
    (machine : Machine) :
    Prop where
  | farewell
      {above : List Frame}
      {commands : List Command}
      {contexts : List Context}
      {panic : Option String}
      {routine : RoutineId} :
      farewell = some routine →
      machine.stack =
        above ++ .routine commands .void 0 :: .release contexts panic :: .reject fault :: below →
      commands <:+ (program.routine routine).commands →
      (∀ context ∈ contexts, context.farewell? = farewell) →
      Meanwhile program farewell hooks fault below machine
  | hook {above : List Frame} {commands : List Command} {hook : Hook} :
      hooks hook →
      machine.stack =
        above ++ .routine commands .void (hook.calls + 1) :: .conclude [] (.fault fault) ::
          below →
      commands <:+ program.commandsAt hook.routine (hook.calls + 1) →
      Meanwhile program farewell hooks fault below machine

theorem Meanwhile.mono
    {program : Program}
    {farewell : Option RoutineId}
    {hooks more : Hook → Prop}
    {fault : Fault}
    {below : List Frame}
    {machine : Machine}
    (meanwhile : Meanwhile program farewell hooks fault below machine)
    (weaker : ∀ hook, hooks hook → more hook) :
    Meanwhile program farewell more fault below machine := by
  cases meanwhile with
  | farewell named stack suffix rejected => exact .farewell named stack suffix rejected
  | hook known stack suffix => exact .hook (weaker _ known) stack suffix

/-- A call that failed has not come back yet. -/
def Failing
    (program : Program)
    (farewell : Option RoutineId)
    (hooks : Hook → Prop)
    (fault : Fault)
    (below : List Frame)
    (machine : Machine) :
    Prop :=
  Handling farewell fault below machine ∨ Meanwhile program farewell hooks fault below machine

/-- What a failing call still has to do stands above the frames below it. -/
theorem Failing.ne_below
    {program : Program}
    {farewell : Option RoutineId}
    {hooks : Hook → Prop}
    {fault : Fault}
    {below : List Frame}
    {machine : Machine}
    (failing : Failing program farewell hooks fault below machine) :
    machine.stack ≠ below := by
  rcases failing with own | meanwhile
  · cases own with
    | releasing stack => exact stack ▸ above_ne_below [_] _ below
    | rejecting stack => exact stack ▸ above_ne_below [] _ below
    | reported stack => exact stack ▸ above_ne_below [] _ below
  · cases meanwhile with
    | farewell _ stack =>
        rw [stack, List.append_cons, List.append_cons]
        exact above_ne_below _ _ below
    | hook _ stack =>
        rw [stack, List.append_cons]
        exact above_ne_below _ _ below

/-- The frames below are what is left, and if a fault came back to them, it is this one. -/
structure Faulted (fault : Fault) (below : List Frame) (machine : Machine) : Prop where
  stack : machine.stack = below
  control : ∀ other, machine.control = .answer (.fault other) → other = fault

variable (program : Program) {machine : Machine} {farewell : Option RoutineId}
  {hooks : Hook → Prop} {fault : Fault} {below : List Frame}

/-! ## The call's own moves -/

/-- A report ends with its fault, or calls the hook that is installed. -/
theorem proceedReject_spec (machine : Machine) (fault : Fault) :
    (machine.world.bus.hook = none ∧ (machine.proceedReject program fault).world = machine.world ∧
        (machine.proceedReject program fault).stack = machine.stack ∧
        (machine.proceedReject program fault).control = .answer (.fault fault)) ∨
      ∃ hook,
        machine.world.bus.hook = some hook ∧
          (machine.proceedReject program fault).world =
            { machine.world with
              bus :=
                { machine.world.bus with hook := some { hook with calls := hook.calls + 1 } } } ∧
          (machine.proceedReject program fault).stack =
            .routine (program.commandsAt hook.routine (hook.calls + 1)) .void (hook.calls + 1) ::
              .conclude [] (.fault fault) :: machine.stack := by
  have world := world_log machine [.warn fault.message]
  have stack := stack_log machine [.warn fault.message]
  rw [proceedReject]
  dsimp only
  cases installed : machine.world.bus.hook with
  | none =>
      rw [world, installed]
      exact Or.inl ⟨rfl, world, stack, rfl⟩
  | some hook =>
      refine Or.inr ⟨hook, rfl, ?_, ?_⟩
      · rw [world, installed, ← world]
        rfl
      · rw [world, installed, ← stack]
        rfl

theorem undisturbed_proceedReject (machine : Machine) (fault : Fault) :
    machine.world.Undisturbed (machine.proceedReject program fault).world := by
  rcases proceedReject_spec program machine fault with ⟨_, same, _⟩ | ⟨hook, installed, same, _⟩
  · rw [same]
    exact .refl _
  · rw [same]
    exact .of_bus ⟨rfl, Nat.le_refl _, by rw [installed]; rfl⟩

/-- A step of a frame that is not an emission changes as much as its next move does. -/
theorem undisturbed_step
    {frame : Frame}
    (stack : machine.stack = frame :: below)
    (other : frame.walk? = none)
    (proceeds :
      machine.world.Undisturbed
        (({ machine with stack := below } : Machine).proceed program frame).world) :
    machine.world.Undisturbed (machine.step program).world := by
  cases control : machine.control with
  | proceed =>
      rw [step_of_proceed program stack control]
      exact proceeds
  | answer answer =>
      rw [step_of_answer program stack control, world_resume]
      exact .refl _
  | unwind message =>
      rw [step_of_unwind program stack control, world_unwindThrough program _ message other]
      exact .refl _
  | aborted =>
      rw [step_of_aborted program control]
      exact .refl _

/-- In its own turn a call that failed changes nothing. -/
theorem Handling.undisturbed (handling : Handling farewell fault below machine) :
    machine.world.Undisturbed (machine.step program).world := by
  cases handling with
  | releasing stack =>
      refine undisturbed_step program stack rfl ?_
      rw [proceed, world_proceedRelease]
      exact .refl _
  | rejecting stack =>
      exact undisturbed_step program stack rfl
        (undisturbed_proceedReject program { machine with stack := below } fault)
  | reported stack => exact undisturbed_step program stack rfl (.refl _)

/-! ## Until the call comes back -/

/-- A call that lets go of what it was handed goes on with that, calls a farewell, or reports. -/
theorem Handling.step_releasing
    {contexts : List Context}
    {panic : Option String}
    (stack : machine.stack = .release contexts panic :: .reject fault :: below)
    (rejected : ∀ context ∈ contexts, context.farewell? = farewell) :
    Failing program farewell hooks fault below (machine.step program) := by
  cases control : machine.control with
  | aborted =>
      rw [step_of_aborted program control]
      exact Or.inl (.releasing stack rejected)
  | answer answer =>
      rw [step_of_answer program stack control]
      exact Or.inl (.releasing rfl rejected)
  | unwind message =>
      rw [step_of_unwind program stack control]
      cases panic with
      | none => exact Or.inl (.releasing rfl rejected)
      | some earlier => exact Or.inl (.releasing rfl rejected)
  | proceed =>
      rw [step_of_proceed program stack control, proceed]
      cases contexts with
      | nil => cases panic <;> exact Or.inl (.rejecting rfl)
      | cons context rest =>
          have others : ∀ other ∈ rest, other.farewell? = farewell :=
            fun other member => rejected other (List.mem_cons_of_mem _ member)
          cases context with
          | text value => exact Or.inl (.releasing rfl others)
          | tracked ticket label routine =>
              rw [proceedRelease]
              split
              · exact Or.inl (.releasing rfl others)
              · have named : farewell = some routine := (rejected _ List.mem_cons_self).symm
                exact Or.inr (@Meanwhile.farewell _ _ _ _ _ _ [] _ _ _ _ named rfl
                  List.suffix_rfl others)

/-- A call that reports calls the hook, or comes back with its fault. -/
theorem Handling.step_rejecting
    (stack : machine.stack = .reject fault :: below)
    (hooked : ∀ hook, machine.world.bus.hook = some hook → hooks hook) :
    Failing program farewell hooks fault below (machine.step program) ∨
      Faulted fault below (machine.step program) := by
  cases control : machine.control with
  | aborted =>
      rw [step_of_aborted program control]
      exact Or.inl (Or.inl (.rejecting stack))
  | answer answer =>
      rw [step_of_answer program stack control]
      exact Or.inl (Or.inl (.rejecting rfl))
  | unwind message =>
      rw [step_of_unwind program stack control]
      exact Or.inr ⟨rfl, fun _ same => by cases same⟩
  | proceed =>
      rw [step_of_proceed program stack control, proceed]
      let under : Machine := { machine with stack := below }
      rcases proceedReject_spec program under fault with
        ⟨_, _, reached, answered⟩ | ⟨hook, installed, _, reached⟩
      · refine Or.inr ⟨reached, ?_⟩
        intro other same
        rw [answered] at same
        cases same
        rfl
      · exact Or.inl (Or.inr (@Meanwhile.hook _ _ _ _ _ _ [] _ _ (hooked hook installed) reached
          List.suffix_rfl))

/-- A call whose hook has returned comes back with its fault. -/
theorem Handling.step_reported (stack : machine.stack = .conclude [] (.fault fault) :: below) :
    Handling farewell fault below (machine.step program) ∨
      Faulted fault below (machine.step program) := by
  cases control : machine.control with
  | aborted =>
      rw [step_of_aborted program control]
      exact Or.inl (.reported stack)
  | answer answer =>
      rw [step_of_answer program stack control]
      exact Or.inl (.reported rfl)
  | unwind message =>
      rw [step_of_unwind program stack control]
      exact Or.inr ⟨rfl, fun _ same => by cases same⟩
  | proceed =>
      rw [step_of_proceed program stack control, proceed]
      refine Or.inr ⟨rfl, ?_⟩
      intro other same
      cases same
      rfl

/-- The call's own move leads to its next turn, to user code, or back. -/
theorem Handling.step
    (handling : Handling farewell fault below machine)
    (hooked :
      ∀ hook, machine.stack = .reject fault :: below → machine.world.bus.hook = some hook →
        hooks hook) :
    Failing program farewell hooks fault below (machine.step program) ∨
      Faulted fault below (machine.step program) := by
  cases handling with
  | releasing stack rejected => exact Or.inl (Handling.step_releasing program stack rejected)
  | rejecting stack =>
      exact Handling.step_rejecting program stack fun hook installed => hooked hook stack installed
  | reported stack => exact (Handling.step_reported program stack).imp_left Or.inl

/-- User code goes on, or leaves the turn to the call. -/
theorem Meanwhile.step (meanwhile : Meanwhile program farewell hooks fault below machine) :
    Failing program farewell hooks fault below (machine.step program) := by
  cases meanwhile with
  | @farewell above commands contexts panic routine named stack suffix rejected =>
      cases above with
      | cons top above =>
          rcases step_stack program stack with ⟨reached, same⟩
          exact Or.inr (.farewell named (same.trans (List.append_assoc _ _ _).symm) suffix rejected)
      | nil =>
          rcases step_routine program stack with ⟨above, left, reached, fewer⟩ | ⟨reached, _⟩
          · exact Or.inr (.farewell named reached (fewer.trans suffix) rejected)
          · exact Or.inl (.releasing reached rejected)
  | @hook above commands hook known stack suffix =>
      cases above with
      | cons top above =>
          rcases step_stack program stack with ⟨reached, same⟩
          exact Or.inr (.hook known (same.trans (List.append_assoc _ _ _).symm) suffix)
      | nil =>
          rcases step_routine program stack with ⟨above, left, reached, fewer⟩ | ⟨reached, _⟩
          · exact Or.inr (.hook known reached (fewer.trans suffix))
          · exact Or.inl (.reported reached)

/-! ## Starting an operation -/

/-- What starting an operation comes to. -/
inductive Starts (operation : Operation) (before after : Machine) : Prop where
  | succeeds : Succeeding before.stack after → Starts operation before after
  | returns : Unfaulted before.stack after → Starts operation before after
  /-- It has failed and has to handle that. -/
  | fails {fault : Fault} :
      before.world.Undisturbed after.world →
      Handling operation.farewell? fault before.stack after →
      Starts operation before after
  /-- It has failed, and there is nothing to handle. -/
  | answers {fault : Fault} :
      before.world.Undisturbed after.world →
      after.stack = before.stack →
      after.control = .answer (.fault fault) →
      Starts operation before after

variable {operation : Operation}

/-- A call that succeeded lets go of contexts and comes back with its answer. -/
theorem succeeding_apply
    {effect : Effect}
    {answer : Answer}
    (start : machine.stack = below)
    (result : effect.result = .ok answer)
    (plain : answer.fault? = none) :
    Succeeding below (machine.apply effect) := by
  have stack := stack_log (machine.setBus effect.bus) effect.before
  rw [← start, apply, result]
  exact ⟨[.release effect.released none], .conclude effect.after answer,
    congrArg (fun rest => _ :: _ :: rest) stack, plain⟩

/-- A call that failed lets go of what it was handed and reports. -/
theorem stack_apply_of_error
    {effect : Effect}
    {fault : Fault}
    (result : effect.result = .error fault) :
    (machine.apply effect).stack =
      .release effect.released none :: .reject fault :: machine.stack := by
  have stack := stack_log (machine.setBus effect.bus) effect.before
  rw [apply, result]
  exact congrArg (fun rest => _ :: _ :: rest) stack

/-- A call that leaves everything alone if it fails. -/
theorem starts_apply {effect : Effect} (contains : machine.world.bus.Contains effect) :
    Starts operation machine (machine.apply effect) := by
  cases result : effect.result with
  | ok answer => exact .succeeds (succeeding_apply rfl result (contains.succeeds answer result))
  | error fault =>
      rcases contains.fails fault result with ⟨undisturbed, nothing⟩
      have stack := @stack_apply_of_error machine effect fault result
      rw [nothing] at stack
      refine .fails ?_ (.releasing stack fun context member => absurd member List.not_mem_nil)
      rw [world_apply]
      exact .of_bus undisturbed

/-- An emission is begun or rejected. -/
theorem starts_beginEmission (machine : Machine) (emission : Emission) :
    Starts operation machine (machine.beginEmission emission) := by
  rw [beginEmission]
  dsimp only
  split
  · exact .fails (.refl _) (.rejecting rfl)
  · split
    · exact .fails (.refl _) (.rejecting rfl)
    · exact .succeeds ⟨[], _, rfl, trivial⟩

/-- A connection that is rejected is a call that failed, but for the ticket that was drawn. -/
theorem connect_of_rejected
    {name : String}
    {callback : RoutineId}
    {priority : Option Priority}
    {request : Option ContextRequest}
    (keep : KeepRequest)
    {effect : Effect}
    (rejected :
      machine.world.bus.connect name callback (issuedContext request machine.world.tickets)
        priority = effect)
    (failed : effect.result = .error fault) :
    ∃ tickets, machine.world.tickets ≤ tickets ∧
      machine.connect name callback priority request keep =
        ({ machine with world := { machine.world with tickets := tickets } } : Machine).apply
          effect := by
  unfold connect
  rcases request with _ | ⟨value⟩ | ⟨label, routine⟩
  all_goals
    simp only [issuedContext, Option.map] at rejected
    dsimp only
    rw [rejected, failed]
  · exact ⟨_, Nat.le_refl _, rfl⟩
  · exact ⟨_, Nat.le_refl _, rfl⟩
  · exact ⟨_, Nat.le_succ _, rfl⟩

/-- A connection that is made is a call that succeeded. -/
theorem connect_of_accepted
    {name : String}
    {callback : RoutineId}
    {priority : Option Priority}
    {request : Option ContextRequest}
    (keep : KeepRequest)
    {handle : Handle}
    (accepted :
      (machine.world.bus.connect name callback (issuedContext request machine.world.tickets)
        priority).result = .ok (.connected handle)) :
    Succeeding machine.stack (machine.connect name callback priority request keep) := by
  unfold connect
  rcases request with _ | ⟨value⟩ | ⟨label, routine⟩
  all_goals
    simp only [issuedContext, Option.map] at accepted
    dsimp only
    rw [accepted]
    cases keep with
    | nowhere => exact succeeding_apply rfl accepted rfl
    | under place => exact succeeding_apply rfl accepted rfl
    | unreadable complaint => exact succeeding_apply rfl rfl rfl

/-- A connection is made, or rejected without a trace. -/
theorem starts_connect
    (sane : machine.world.bus.Sane)
    (housed : machine.world.bus.Housed)
    (reliable : machine.world.bus.backend.slots.Reliable)
    (name : String)
    (callback : RoutineId)
    (priority : Option Priority)
    (request : Option ContextRequest)
    (keep : KeepRequest) :
    Starts (.connect name callback priority request keep) machine
      (machine.connect name callback priority request keep) := by
  rcases Bus.connect_outcome sane housed reliable name callback
      (issuedContext request machine.world.tickets) priority with
    ⟨fault, rejected⟩ | ⟨position, slot, accepts⟩
  · rcases connect_of_rejected keep rejected rfl with ⟨tickets, drawn, same⟩
    rw [same]
    refine .fails ?_ (.releasing (stack_apply_of_error rfl) ?_)
    · rw [world_apply]
      exact ⟨.refl _, rfl, rfl, rfl, rfl, drawn⟩
    · intro context member
      rcases request with _ | ⟨value⟩ | ⟨label, routine⟩
      · cases member
      · rw [List.mem_singleton.mp member]
        rfl
      · rw [List.mem_singleton.mp member]
        rfl
  · exact .succeeds (connect_of_accepted keep accepts.result)

/-- Starting an operation that is not the emission of a batch. -/
theorem execute_starts
    (sane : machine.world.bus.Sane)
    (housed : machine.world.bus.Housed)
    (reliable : machine.world.bus.backend.slots.Reliable)
    (payload : Payload)
    (ordinary : ∀ batch, operation ≠ .batchEmit batch) :
    Starts operation machine (machine.execute program payload operation) := by
  let bus := machine.world.bus
  have emits (emission : Emission) : Starts operation machine (machine.beginEmission emission) :=
    starts_beginEmission machine emission
  cases operation with
  | init => exact starts_apply bus.contains_init
  | cleanup => exact .succeeds (succeeding_apply rfl bus.cleanup_contained.1 rfl)
  | register => exact starts_apply (bus.contains_register _ _ _)
  | unregister => exact starts_apply (bus.contains_unregister _)
  | connect => exact starts_connect sane housed reliable _ _ _ _ _
  | disconnect => exact starts_apply (bus.contains_disconnect _ _)
  | disconnectHandle => exact starts_apply (bus.contains_disconnectHandle _)
  | disconnectAll => exact starts_apply (bus.contains_disconnectAll _)
  | emit | forward | emitIn => exact emits _
  | emitDown request =>
      simp only [execute]
      split
      · cases request with
        | name => exact emits _
        | unreadable => exact .returns ⟨rfl, fun _ same => by cases same⟩
      · exact .returns ⟨rfl, fun _ same => by cases same⟩
  | forwardDeferred | defer => exact starts_apply (bus.contains_defer _)
  | flush =>
      simp only [execute]
      split
      · exact .succeeds ⟨[], _, rfl, trivial⟩
      · exact .fails (.refl _) (.rejecting rfl)
  | interrupt name value =>
      simp only [execute]
      split
      · exact .answers (.refl _) rfl rfl
      · exact .returns ⟨rfl, fun _ same => by cases same⟩
  | setSpace => exact starts_apply (bus.contains_setSpace _)
  | setMaxSlots => exact starts_apply (bus.contains_setMaxSlots _)
  | setThreadSafe => exact starts_apply (bus.contains_setThreadSafe _)
  | setProfiling => exact starts_apply (bus.contains_setProfiling _)
  | timing => exact starts_apply (bus.contains_timing _)
  | resetTiming => exact starts_apply bus.contains_resetTiming
  | resetPeak => exact starts_apply bus.contains_resetPeak
  | memoryStats => exact starts_apply bus.contains_memoryStats
  | setHook => exact starts_apply (bus.contains_setHook _)
  | drain => exact .succeeds ⟨[], _, rfl, trivial⟩
  | catching => exact .succeeds ⟨[_], .catching, rfl, trivial⟩
  | batchEmit batch => exact absurd rfl (ordinary batch)
  | isInitialized | contains | count | listing | deferredLength | space | pendingInterrupts
  | maxSlots | isThreadSafe | isProfiling | display | batchAdd | batchInfo | batchClear | panic
  | unreadable =>
      exact .returns ⟨rfl, fun _ same => by cases same⟩

end Machine

end SignalDispatch
