import SignalDispatch.Proofs.Machine.Owners

/-!
# What a move does to owners

Every move is one of the cases of `Machine.Hands`.  A move that starts an operation is settled by
the operation.  Any other move is made by the innermost frame, and `Machine.Passes` says what that
does to the owners in the frames below; the frame's own owners are named beside it, so that there is
one lemma for each way in which a frame goes on.
-/

namespace SignalDispatch.Machine

/-! ## Moves by frame -/

/-- User code that starts an operation does so above its own frame. -/
theorem step_of_issued_eq
    (program : Program)
    {machine : Machine}
    {operation : Operation}
    (issued : machine.issued? = some operation) :
    ∃ payload, machine.step program = machine.execute program payload operation := by
  rw [issued?.eq_def] at issued
  split at issued
  next frame below stack proceeds =>
    rw [Frame.issued?.eq_def] at issued
    split at issued
    next command rest payload turn =>
      split at issued
      next due =>
        rw [Option.some.injEq] at issued
        subst issued
        have same :
            ({ machine with stack := below, control := .proceed } : Machine).push
              (.routine (command :: rest) payload turn) = machine := by
          rw [push, ← stack, ← proceeds]
        refine ⟨payload, ?_⟩
        rw [step, stack]
        simp only [proceeds, proceed, proceedRoutine, if_pos due]
        rw [same]
      next => cases issued
    next => cases issued
  next => cases issued

/-- What a frame in front of others does to their owners, if it starts no operation. -/
inductive Passes (before after : Machine) (queued executing : List Nat) : Prop where
  | free {freed : List Slot} :
      Frees before.slotAt after.slotAt freed →
      after.queued = freed.filterMap Slot.ticket? ++ (queued ++ before.queued) →
      after.executing = executing ++ before.executing →
      after.world.tickets = before.world.tickets →
      freed.Pairwise Slot.Before →
      Passes before after queued executing
  | call {ticket : Nat} :
      Holds before.slotAt ticket →
      after.slotAt = before.slotAt →
      after.queued = queued ++ before.queued →
      after.executing = ticket :: (executing ++ before.executing) →
      after.world.tickets = before.world.tickets →
      Passes before after queued executing
  | leave {ticket : Nat} {rest : List Nat} :
      executing = ticket :: rest →
      after.LetsGo →
      after.slotAt = before.slotAt →
      after.queued = ticket :: (queued ++ before.queued) →
      after.executing = rest ++ before.executing →
      after.world.tickets = before.world.tickets →
      Passes before after queued executing

/-- A frame is replaced by frames with the same owners. -/
theorem passes_of_same
    {before after : Machine}
    {queued executing : List Nat}
    (above : List Frame)
    (stack : after.stack = above ++ before.stack)
    (sameQueued : above.flatMap Frame.queued = queued)
    (sameExecuting : above.flatMap Frame.executing = executing)
    (slots : after.slotAt = before.slotAt)
    (tickets : after.world.tickets = before.world.tickets) :
    Passes before after queued executing := by
  refine .free (.of_eq slots) ?_ ?_ tickets .nil
  · rw [Machine.queued, stack, List.flatMap_append, sameQueued]
    rfl
  · rw [Machine.executing, stack, List.flatMap_append, sameExecuting]
    rfl

theorem slotAt_log (machine : Machine) (records : List LogRecord) :
    (machine.log records).slotAt = machine.slotAt := by
  funext position
  rw [slotAt, world_log]
  rfl

/-- A frame only writes to the log. -/
theorem passes_log (machine : Machine) (records : List LogRecord) (control : Control) :
    Passes machine { machine.log records with control := control } [] [] := by
  refine passes_of_same [] (stack_log _ _) rfl rfl ?_ ?_
  · exact slotAt_log machine records
  · exact congrArg World.tickets (world_log machine records)

/-- A frame is replaced by an emission that begins. -/
theorem passes_beginEmission
    {before : Machine}
    (machine : Machine)
    (emission : Emission)
    {frame : Frame}
    (unqueued : frame.queued = [])
    (unexecuting : frame.executing = [])
    (stack : machine.stack = frame :: before.stack)
    (slots : machine.slotAt = before.slotAt)
    (tickets : machine.world.tickets = before.world.tickets) :
    Passes before (machine.beginEmission emission) [] [] := by
  rcases beginEmission_fields machine emission with ⟨slots', queued, executing, tickets'⟩
  refine .free (.of_eq (slots'.trans slots)) ?_ ?_ (tickets'.trans tickets) .nil
  · rw [queued, queued_of_stack stack, unqueued]
    rfl
  · rw [executing, executing_of_stack stack, unexecuting]
    rfl

/-- What an emission sweeps is freed when it leaves. -/
theorem leave_owners
    (program : Program)
    {machine : Machine}
    (sane : machine.world.bus.Sane)
    (walk : Walk) :
    FreesInOrder machine.slotAt (machine.leave program walk).1.slotAt
        ((machine.leave program walk).2.map Slot.content) ∧
      (machine.leave program walk).1.stack = machine.stack ∧
      (machine.leave program walk).1.world.tickets = machine.world.tickets := by
  rw [leave]
  dsimp only
  cases present : machine.world.bus.registry with
  | none =>
      refine ⟨.of_none (.of_eq ?_), rfl, rfl⟩
      funext position
      rfl
  | some registry =>
      have frees := (sane.registry present).formed.endEmission_frees walk.signalRef
        (walk.startedAt.map fun start => program.elapsed start machine.world.readings)
      have before : machine.slotAt = Registry.contentAt registry.slots :=
        funext (Bus.slotAt_of_some present)
      dsimp only
      refine ⟨?_, stack_log _ _, ?_⟩
      · rw [slotAt_log, before]
        exact frees
      · rw [world_log]
        rfl

/-- A frame is replaced by the release of what an emission sweeps when it leaves. -/
theorem passes_leave
    (program : Program)
    {machine : Machine}
    (sane : machine.world.bus.Sane)
    (walk : Walk)
    {after : Machine}
    {panic : Option String}
    {others : List Frame}
    (stack :
      after.stack =
        .release (Bus.contextsOf (machine.leave program walk).2) panic ::
          (others ++ (machine.leave program walk).1.stack))
    (world : after.world = (machine.leave program walk).1.world)
    (unqueued : others.flatMap Frame.queued = [])
    (unexecuting : others.flatMap Frame.executing = []) :
    Passes machine after [] [] := by
  rcases leave_owners program sane walk with ⟨frees, same, tickets⟩
  rw [same] at stack
  have slots : after.slotAt = (machine.leave program walk).1.slotAt := by
    funext position
    rw [slotAt, world]
    rfl
  refine .free (slots ▸ frees.toFrees) ?_ ?_ (by rw [world, tickets]) frees.ordered
  · rw [queued_of_stack stack, List.flatMap_append, unqueued, Frame.queued,
      ← Bus.contextsOf_map_content, ticketsOf_contextsOf]
    rfl
  · rw [executing_of_stack stack, List.flatMap_append, unexecuting]
    rfl

/-- The callback of a slot is over, and its context is let go of next. -/
theorem passes_leave_callback
    {before after : Machine}
    {slot : Slot}
    {left : Walk}
    {panic : Option String}
    (idle : left.running = none)
    (stack : after.stack = .release slot.context.toList panic :: .walk left :: before.stack)
    (world : after.world = before.world) :
    Passes before after [] slot.ticket?.toList := by
  have slots : after.slotAt = before.slotAt := by
    funext position
    rw [slotAt, world]
    rfl
  have tickets : after.world.tickets = before.world.tickets := by rw [world]
  have unexecuting : (Frame.walk left).executing = [] := by
    rw [Frame.executing, idle]
    rfl
  have alone : [Frame.walk left].flatMap Frame.executing = [] := by
    rw [List.flatMap_singleton, unexecuting]
  rw [Slot.ticket?]
  cases context : slot.context with
  | none =>
      rw [context] at stack
      exact passes_of_same [_, _] stack rfl alone slots tickets
  | some owned =>
      rw [context] at stack
      cases owned with
      | text value =>
          exact passes_of_same [_, _] stack rfl alone slots tickets
      | tracked ticket label farewell =>
          refine .leave rfl ⟨_, _, _, _, _, _, stack⟩ slots ?_ ?_ tickets
          · rw [queued_of_stack stack]
            rfl
          · rw [executing_of_stack stack]
            exact congrArg (· ++ before.executing) unexecuting

/-- The next move of an emission. -/
theorem proceedWalk_passes
    (program : Program)
    {machine : Machine}
    (sane : machine.world.bus.Sane)
    (walk : Walk) :
    Passes machine (machine.proceedWalk program walk) []
      (walk.running.bind Slot.ticket?).toList := by
  cases running : walk.running with
  | some slot =>
      rw [proceedWalk, running]
      exact passes_leave_callback rfl rfl rfl
  | none =>
      rw [proceedWalk, running]
      dsimp only
      split
      · exact @passes_leave program _ sane walk _ _ [_] rfl rfl rfl rfl
      next reading found =>
        split
        · exact passes_of_same [_] rfl rfl rfl rfl rfl
        next slot target =>
          rcases Option.bind_eq_some_iff.mp found with ⟨position, _, found⟩
          rcases Option.bind_eq_some_iff.mp found with ⟨registry, present, read⟩
          rcases (Registry.read?_eq_some_iff _ _ _ _).mp read with ⟨_, stored, there, rfl⟩
          dsimp only at target
          split at target
          · cases target
          · rw [Option.some.injEq] at target
            subst target
            have content : machine.slotAt position = some stored.content := by
              rw [slotAt, Bus.slotAt_of_some present]
              exact Registry.contentAt_of_get? there
            cases named : stored.ticket? with
            | none =>
                refine passes_of_same [_, _] rfl rfl ?_ rfl rfl
                exact (List.append_nil _).trans (congrArg Option.toList named)
            | some ticket =>
                refine .call ⟨position, _, content, named⟩ rfl rfl ?_ rfl
                exact congrArg (· ++ machine.executing) (congrArg Option.toList named)

/-- A frame that goes on and starts no operation. -/
theorem proceed_passes
    (program : Program)
    (machine : Machine)
    (sane : machine.world.bus.Sane)
    {frame : Frame}
    (silent : frame.issued? = none)
    (other :
      ∀ ticket label farewell rest panic,
        frame ≠ .release (.tracked ticket label farewell :: rest) panic) :
    Passes machine (machine.proceed program frame) frame.queued frame.executing := by
  cases frame with
  | walk walk => exact proceedWalk_passes program sane walk
  | routine commands payload turn =>
      cases commands with
      | nil => exact passes_of_same [] rfl rfl rfl rfl rfl
      | cons command rest =>
          rw [Frame.issued?] at silent
          rw [proceed, proceedRoutine]
          split at silent
          · cases silent
          next skipped =>
            rw [if_neg skipped]
            exact passes_of_same [_] rfl rfl rfl rfl rfl
  | release contexts panic =>
      cases contexts with
      | nil => cases panic <;> exact passes_of_same [] rfl rfl rfl rfl rfl
      | cons context rest =>
          cases context with
          | text value => exact passes_of_same [_] rfl (List.append_nil _) rfl rfl rfl
          | tracked ticket label farewell => exact absurd rfl (other _ _ _ _ _)
  | conclude records answer => exact passes_log machine records _
  | reject fault =>
      rw [proceed, proceedReject]
      dsimp only
      split
      · exact passes_log machine _ _
      · refine passes_of_same [_, _] (congrArg (fun rest => _ :: _ :: rest) (stack_log _ _)) rfl
          rfl ?_ ?_
        · exact slotAt_log machine [.warn fault.message]
        · rfl
  | flush remaining delivered =>
      rw [proceed, proceedFlush.eq_def]
      dsimp only
      split
      · exact passes_log machine _ _
      · exact passes_beginEmission _ _ rfl rfl rfl rfl rfl
  | drain position delivered =>
      rw [proceed, proceedDrain]
      dsimp only
      split
      · exact passes_log machine _ _
      · exact passes_beginEmission _ _ rfl rfl rfl rfl rfl
  | batch entries first =>
      cases entries with
      | nil => cases first <;> exact passes_of_same [] rfl rfl rfl rfl rfl
      | cons emission rest => exact passes_beginEmission _ _ rfl rfl rfl rfl rfl
  | catching => exact passes_of_same [] rfl rfl rfl rfl rfl

/-- A frame gets the answer of the operation that it started. -/
theorem resume_passes (machine : Machine) (answer : Answer) (frame : Frame) :
    Passes machine (machine.resume answer frame) frame.queued frame.executing := by
  cases frame with
  | routine commands payload turn =>
      cases commands with
      | nil => exact passes_of_same [] rfl rfl rfl rfl rfl
      | cons command rest => exact passes_of_same [_] rfl rfl rfl rfl rfl
  | walk | release | conclude | reject | flush | drain | batch | catching =>
      exact passes_of_same [_] rfl (List.append_nil _) (List.append_nil _) rfl rfl

/-- A panic reaches a frame. -/
theorem unwindThrough_passes
    (program : Program)
    (machine : Machine)
    (sane : machine.world.bus.Sane)
    (message : String)
    (frame : Frame) :
    Passes machine (machine.unwindThrough program message frame) frame.queued
      frame.executing := by
  cases frame with
  | walk walk =>
      rw [unwindThrough]
      cases running : walk.running with
      | some slot =>
          rw [Frame.executing, running]
          exact passes_leave_callback rfl rfl rfl
      | none =>
          rw [Frame.executing, running]
          exact @passes_leave program _ sane walk _ _ [] rfl rfl rfl rfl
  | release contexts panic =>
      cases panic <;> exact passes_of_same [_] rfl (List.append_nil _) rfl rfl rfl
  | routine | conclude | reject | flush | drain | batch | catching =>
      exact passes_of_same [] rfl rfl rfl rfl rfl

/-- What a frame does to the owners in the frames below is what the move does. -/
theorem Passes.hands
    {before after : Machine}
    {frame : Frame}
    {below : List Frame}
    (stack : before.stack = frame :: below)
    (settled : ¬ before.LetsGo)
    (passes : Passes { before with stack := below } after frame.queued frame.executing) :
    Hands before after := by
  have queues := queued_of_stack stack
  have executes := executing_of_stack stack
  cases passes with
  | free frees queued executing tickets ordered =>
      exact .free settled frees (queued.trans (by rw [queues]; rfl))
        (executing.trans executes.symm) tickets (Or.inr ordered)
  | call holds slots queued executing tickets =>
      exact .call settled holds slots (queued.trans queues.symm)
        (executing.trans (by rw [executes]; rfl)) tickets
  | leave first next slots queued executing tickets =>
      refine .leave settled next slots (queued.trans (by rw [queues]; rfl)) ?_ tickets
      rw [executes, first, executing]
      rfl

/-! ## The last owner -/

theorem any_hasTicket_iff (contexts : List Context) (ticket : Nat) :
    (contexts.any fun context => context.hasTicket ticket) = true ↔
      ticket ∈ ticketsOf contexts := by
  rw [List.any_eq_true, ticketsOf, List.mem_filterMap]
  constructor
  · rintro ⟨context, member, named⟩
    exact ⟨context, member, beq_iff_eq.mp named⟩
  · rintro ⟨context, member, named⟩
    exact ⟨context, member, beq_iff_eq.mpr named⟩

/-- A frame owns the contexts that it is about to let go of, and that of the callback it is in. -/
theorem ticketsOf_frame_contexts (frame : Frame) :
    ticketsOf frame.contexts = frame.executing ++ frame.queued := by
  cases frame with
  | walk emission =>
      rw [Frame.contexts, Frame.executing]
      refine Eq.trans ?_ (List.append_nil _).symm
      cases emission.running with
      | none => rfl
      | some slot =>
          rw [Option.bind_some, Option.bind_some, Slot.ticket?]
          cases slot.context with
          | none => rfl
          | some context => cases context <;> rfl
  | release => rfl
  | routine | conclude | reject | flush | drain | batch | catching => rfl

/-- The slots of a bus own the contexts that they hold. -/
theorem mem_ticketsOf_bus_contexts_iff (bus : Bus) (ticket : Nat) :
    ticket ∈ ticketsOf bus.contexts ↔ Holds bus.slotAt ticket := by
  cases present : bus.registry with
  | none =>
      rw [Bus.contexts, present]
      constructor
      · intro member
        cases member
      · rintro ⟨position, slot, found, _⟩
        rw [Bus.slotAt_of_none present] at found
        cases found
  | some registry =>
      rw [Bus.contexts, present]
      dsimp only
      rw [ticketsOf_contextsOf, List.mem_filterMap]
      constructor
      · rintro ⟨slot, member, named⟩
        rcases List.mem_map.mp member with ⟨⟨position, _⟩, entry, rfl⟩
        refine ⟨position, Slot.content _, ?_, named⟩
        rw [Bus.slotAt_of_some present]
        exact Registry.contentAt_of_get? ((Arena.mem_toList_iff _ _ _).mp entry)
      · rintro ⟨position, content, found, named⟩
        rw [Bus.slotAt_of_some present] at found
        rcases (Registry.contentAt_eq_some_iff _ _ _).mp found with ⟨slot, stored, rfl⟩
        exact ⟨slot, List.mem_map.mpr ⟨_, (Arena.mem_toList_iff _ _ _).mpr stored, rfl⟩, named⟩

/-- The test that decides whether a context is released counts all its owners. -/
theorem owns_iff (machine : Machine) (ticket : Nat) :
    machine.owns ticket = true ↔ machine.Owned ticket := by
  have frames :
      ticket ∈ ticketsOf (machine.stack.flatMap Frame.contexts) ↔
        ticket ∈ machine.executing ∨ ticket ∈ machine.queued := by
    rw [executing, queued]
    induction machine.stack with
    | nil =>
        constructor
        · intro member
          cases member
        · rintro (member | member) <;> cases member
    | cons frame below ih =>
        rw [List.flatMap_cons, ticketsOf, List.filterMap_append, ← ticketsOf, ← ticketsOf,
          ticketsOf_frame_contexts, List.mem_append, ih, List.flatMap_cons, List.flatMap_cons]
        simp only [List.mem_append]
        exact or_or_or_comm
  rw [owns, any_hasTicket_iff, contexts, ticketsOf, List.filterMap_append, List.mem_append,
    ← ticketsOf, ← ticketsOf, mem_ticketsOf_bus_contexts_iff, frames]
  rfl

/-- The first context that waits is let go of. -/
theorem hands_drop
    (program : Program)
    {machine : Machine}
    {ticket : Nat}
    {label : String}
    {farewell : RoutineId}
    {rest : List Context}
    {panic : Option String}
    {below : List Frame}
    (stack : machine.stack = .release (.tracked ticket label farewell :: rest) panic :: below)
    (proceeds : machine.control = .proceed) :
    Hands machine (machine.step program) := by
  let remaining := ({ machine with stack := below } : Machine).push (.release rest panic)
  have stack' : remaining.stack = .release rest panic :: below := rfl
  have queues : machine.queued = ticket :: remaining.queued := by
    rw [queued_of_stack stack, queued_of_stack stack']
    rfl
  have executes : machine.executing = remaining.executing := by
    rw [executing_of_stack stack, executing_of_stack stack']
    rfl
  have next :
      machine.step program =
        ({ machine with stack := below } : Machine).proceedRelease program
          (.tracked ticket label farewell :: rest) panic := by
    rw [step, stack]
    simp only [proceeds]
    rfl
  have only {after : Machine} {other : Nat} (releases : Releases machine after other) :
      other = ticket ∧ after.events = .released label :: machine.events := by
    rcases releases with ⟨_, _, _, _, _, start, _, events⟩
    rw [stack] at start
    cases start
    exact ⟨rfl, events⟩
  rw [next, proceedRelease]
  cases owned : remaining.owns ticket with
  | true =>
      rw [if_pos rfl]
      have owned : Owned remaining ticket := (owns_iff _ _).mp owned
      refine .drop queues rfl executes.symm rfl ?_
      intro other
      constructor
      · intro releases
        exact absurd (only releases).2.symm (List.cons_ne_self _ _)
      · rintro ⟨rfl, lost⟩
        exact absurd owned lost
  | false =>
      rw [if_neg Bool.false_ne_true]
      have lost : ¬ Owned remaining ticket := fun owned' => by
        rw [(owns_iff _ _).mpr owned'] at owned
        cases owned
      refine .drop queues rfl executes.symm rfl ?_
      intro other
      constructor
      · intro releases
        exact ⟨(only releases).1, (only releases).1 ▸ lost⟩
      · rintro ⟨rfl, _⟩
        exact ⟨label, farewell, rest, panic, below, stack, proceeds, rfl⟩

/-- A context that is about to be let go of goes on waiting while an answer or a panic passes. -/
theorem hands_wait
    {before after : Machine}
    {contexts : List Context}
    {earlier later : Option String}
    {below : List Frame}
    (letsGo : before.LetsGo)
    (control : before.control ≠ .proceed)
    (stack : before.stack = .release contexts earlier :: below)
    (reached : after.stack = .release contexts later :: below)
    (world : after.world = before.world) :
    Hands before after := by
  refine .wait letsGo control ?_ ?_ ?_ ?_ (congrArg World.tickets world)
  · rcases letsGo with ⟨ticket, label, farewell, rest, panic, _, start⟩
    rw [stack] at start
    cases start
    exact ⟨_, _, _, _, _, _, reached⟩
  · funext position
    rw [slotAt, world, slotAt]
  · rw [queued_of_stack reached, queued_of_stack stack]
    rfl
  · rw [executing_of_stack reached, executing_of_stack stack]
    rfl

/-- What a step does to the owners. -/
theorem step_hands
    (program : Program)
    {machine : Machine}
    (sane : machine.world.bus.Sane) :
    Hands machine (machine.step program) := by
  cases issued : machine.issued? with
  | some operation =>
      rcases step_of_issued_eq program issued with ⟨payload, same⟩
      have dispenses := execute_dispenses program machine sane payload operation
      rw [← same] at dispenses
      exact dispenses.hands rfl rfl (.command program issued)
  | none =>
      have same (letsGo : ¬ machine.LetsGo) (stays : machine.step program = machine) :
          Hands machine (machine.step program) := by
        rw [stays]
        exact .free letsGo (.refl _) rfl rfl rfl (Or.inr .nil)
      cases stack : machine.stack with
      | nil => exact same (not_letsGo_of_idle stack) (by rw [step, stack])
      | cons frame below =>
          by_cases letsGo : machine.LetsGo
          · have starts := letsGo
            rcases starts with ⟨ticket, label, farewell, rest, panic, _, start⟩
            rw [step, start]
            cases control : machine.control with
            | proceed =>
                have drop := hands_drop program start control
                rw [step, start] at drop
                simp only [control] at drop
                exact drop
            | answer answer =>
                exact hands_wait letsGo (ne_of_eq_of_ne control Control.noConfusion) start rfl rfl
            | unwind message =>
                have passing : machine.control ≠ .proceed :=
                  ne_of_eq_of_ne control Control.noConfusion
                cases panic with
                | none => exact hands_wait letsGo passing start rfl rfl
                | some earlier => exact hands_wait letsGo passing start rfl rfl
            | aborted =>
                exact hands_wait letsGo (ne_of_eq_of_ne control Control.noConfusion) start start rfl
          · have other (ticket label farewell rest panic) :
                frame ≠ .release (.tracked ticket label farewell :: rest) panic := by
              rintro rfl
              exact letsGo ⟨_, _, _, _, _, _, stack⟩
            refine Passes.hands stack letsGo ?_
            rw [issued?, stack] at issued
            rw [step, stack]
            cases control : machine.control with
            | proceed =>
                simp only [control] at issued
                exact proceed_passes program { machine with stack := below, control := .proceed }
                  sane issued other
            | answer answer => exact resume_passes _ answer frame
            | unwind message =>
                exact unwindThrough_passes program
                  { machine with stack := below, control := .unwind message } sane message frame
            | aborted =>
                exact passes_of_same [frame] stack (List.flatMap_singleton _ _)
                  (List.flatMap_singleton _ _) rfl rfl

/-- What a move does to the owners. -/
theorem Move.hands
    {before after : Machine}
    (move : Move before after)
    (sane : before.world.bus.Sane) :
    Hands before after := by
  cases move with
  | step program => exact step_hands program sane
  | perform program operation idle going =>
      exact (execute_dispenses program { world := before.world } sane .void operation).hands rfl
        idle.symm (.session program idle going)

end SignalDispatch.Machine
