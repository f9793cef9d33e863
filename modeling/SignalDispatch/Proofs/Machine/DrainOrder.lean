import SignalDispatch.Proofs.Interrupt.Order
import SignalDispatch.Proofs.Machine.DrainReplays
import SignalDispatch.Proofs.Machine.Interrupts
import SignalDispatch.Proofs.Machine.ReportedOnce

/-!
# Drains replay interrupts in the order of their pushes

As long as user code neither puts an interrupt in while a drain is under way nor lets a panic reach
a drain, the moves of a session come to an undisturbed history of the interrupt queue, and its order
carries over to the bus: what waits between drains fills the first entries, what is taken out is the
oldest interrupt each time, and a drain that comes back has left nothing.  Drains may be nested in
the callbacks of their emissions; together they replay what waited at the start of the outermost
one, and each of them counts the emissions that it began itself.

`DrainsInOrder` is this of a session and `DrainAccount` of one drain that comes back.  A drain comes
back as soon as everything does that it hands out, because it never hands out more than there are
entries (`drain_returns`).
-/

namespace SignalDispatch.Machine

/-- A drain is under way. -/
def Draining (machine : Machine) : Prop :=
  ∃ frame ∈ machine.stack, frame.position?.isSome

/-- User code puts an interrupt in with the next move. -/
def interrupting (machine : Machine) : Bool :=
  match machine.issued? with
  | some (.interrupt _ _) => true
  | _ => false

/-- A panic has reached a drain, which it leaves with the next move. -/
def abandoning (machine : Machine) : Bool :=
  match machine.stack, machine.control with
  | .drain _ _ :: _, .unwind _ => true
  | _, _ => false

/-- Nobody puts an interrupt in while a drain is under way, and no panic reaches a drain. -/
structure DrainsUndisturbed (trace : Nat → Machine) (last : Nat) : Prop where
  quiet : ∀ time < last, (trace time).Draining → (trace time).interrupting = false
  calm : ∀ time < last, (trace time).abandoning = false

instance (machine : Machine) : Decidable machine.Draining :=
  inferInstanceAs (Decidable (∃ frame ∈ machine.stack, frame.position?.isSome))

instance (trace : Nat → Machine) (last : Nat) : Decidable (DrainsUndisturbed trace last) :=
  decidable_of_iff
    ((∀ time < last, (trace time).Draining → (trace time).interrupting = false) ∧
      ∀ time < last, (trace time).abandoning = false)
    ⟨fun both => ⟨both.1, both.2⟩, fun both => ⟨both.quiet, both.calm⟩⟩

/-- What a drain that comes back has done to the queue and comes back with. -/
structure DrainAccount
    (trace : Nat → Machine)
    (events : Nat → List QueueEvent)
    (start finish : Nat) :
    Prop where
  /-- It, and the drains and cleanups during it, took out what waited when it was called, oldest
  first. -/
  handed :
    ((List.range' (start + 1) (finish - (start + 1))).flatMap events).filterMap
        QueueEvent.handed? =
      (trace start).world.bus.interrupts.items
  /-- Nothing waits any more. -/
  emptied : (trace finish).world.bus.interrupts.items = []
  /-- What it handed out itself is part of that. -/
  among :
    ((List.range' (start + 1) (finish - (start + 1))).filterMap fun time =>
        (trace time).draining? (trace start).stack).Sublist
      (trace start).world.bus.interrupts.items
  /-- Each emission that it began itself came back to it, and its answer is how many of them
  succeeded. -/
  answered :
    ∃ replays : List Replay,
      (∀ replay ∈ replays, replay.Drained (trace start).stack trace) ∧
        handings (trace start).stack trace (start + 1) finish = replays.map Replay.taken ∧
        (trace finish).control = .answer (.number (replays.countP Replay.succeeded))

/-- Interrupts leave the queue of a bus in the order in which they were put in. -/
structure DrainsInOrder
    (trace : Nat → Machine)
    (events : Nat → List QueueEvent)
    (last : Nat) :
    Prop where
  tells : ∀ time < last, Tells (trace time) (trace (time + 1)) (events time)
  /-- What was taken out, and then what waits, is what was accepted. -/
  fifo :
    ∀ time ≤ last,
      ((List.range time).flatMap events).filterMap QueueEvent.handed? ++
          (trace time).world.bus.interrupts.items =
        (((List.range time).flatMap events).filterMap QueueEvent.pushed?).map InterruptItem.kept
  /-- Between drains what waits fills the first entries. -/
  packed : ∀ time ≤ last, ¬ (trace time).Draining → (trace time).world.bus.interrupts.Packed
  /-- What is taken out is emitted at once by the innermost drain, unless a cleanup discards it. -/
  replayed :
    ∀ time < last, ∀ item, .handed item ∈ events time →
      Executes .cleanup (trace time) (trace (time + 1)) ∨
        ∃ position delivered below,
          (trace time).stack = .drain position delivered :: below ∧
            (trace time).draining? below = some item ∧
            Emits (.drain (item.index + 1) delivered :: below) trace ⟨item.name, .int item.value⟩
              time (time + 1)
  drains :
    ∀ start finish, finish ≤ last → Call .drain trace start finish →
      (trace finish).stack = (trace start).stack → DrainAccount trace events start finish

variable {before after machine : Machine} {below : List Frame} {item : InterruptItem}

/-! ## Primitive steps of a move -/

theorem draining_iff :
    machine.Draining ↔ machine.stack.filterMap Frame.position? ≠ [] := by
  simp [Draining, List.filterMap_eq_nil_iff, Option.isSome_iff_ne_none]

theorem drainStates_eq_nil_iff : machine.drainStates = [] ↔ ¬ machine.Draining := by
  rw [draining_iff, not_not, drainStates]
  split
  next position delivered below stack control => simp [stack, Frame.position?]
  · rw [List.map_eq_nil_iff]

/-- Where no panic has reached a drain, the drain on top does not unwind. -/
theorem not_unwind_of_abandoning
    {position delivered : Nat}
    (calm : machine.abandoning = false)
    (stack : machine.stack = .drain position delivered :: below)
    (message : String) :
    machine.control ≠ .unwind message := by
  intro control
  simp [abandoning, stack, control] at calm

theorem Bears.draining
    {frame : Frame}
    (bears : machine.Bears below frame)
    (drain : frame.position?.isSome) :
    machine.Draining := by
  rcases bears with ⟨above, stack⟩
  exact ⟨frame, stack ▸ List.mem_append_right _ List.mem_cons_self, drain⟩

/-- The drains of a queue are those on a stack, so there are none where no drain is under way. -/
theorem Stands.eq_nil
    {loops : List DrainLoop}
    (stands : Stands loops machine)
    (outermost : ¬ machine.Draining) :
    loops = [] := by
  rwa [Stands, drainStates_eq_nil_iff.mpr outermost, List.map_eq_nil_iff] at stands

section

variable {events : List QueueEvent} (tells : Tells before after events)

include tells

/-- An interrupt is put in by a move of its own. -/
theorem Tells.of_accepted (member : .accepted item ∈ events) :
    events = [.accepted item] ∧ Executes (.interrupt item.name item.value) before after := by
  cases tells with
  | pushed executes =>
      rw [List.mem_singleton] at member
      cases member
      exact ⟨rfl, executes⟩
  | emptied _ told =>
      have pushes := told.pushes.2 item (by simpa using member)
      simp [QueueRequest.pushesDuring] at pushes
  | _ => simp at member

/-- A callback that panics lets the panic reach its drain. -/
theorem Tells.of_panicked (member : .panicked ∈ events) :
    ∃ position delivered below message,
      before.stack = .drain position delivered :: below ∧ before.control = .unwind message := by
  cases tells with
  | panicked stack control => exact ⟨_, _, _, _, stack, control⟩
  | emptied _ told => exact absurd (by simpa using member) told.pushes.1
  | _ => simp at member

/-- An interrupt is taken out by a cleanup, or by a drain in a move of its own. -/
theorem Tells.of_handed (member : .handed item ∈ events) :
    Executes .cleanup before after ∨
      ∃ position delivered below,
        before.stack = .drain position delivered :: below ∧ before.control = .proceed ∧
          before.world.bus.interrupts.take? position = some (item, after.world.bus.interrupts) := by
  cases tells with
  | handed stack control taken =>
      rw [List.mem_singleton] at member
      cases member
      exact Or.inr ⟨_, _, _, stack, control, taken⟩
  | emptied executes => exact Or.inl executes
  | _ => simp at member

/-- What a drain takes out is all that its move comes to. -/
theorem Tells.of_draining
    (move : Move before after)
    (drains : before.draining? below = some item) :
    events.filterMap QueueEvent.handed? = [item] := by
  rcases draining?_eq_some_iff.mp drains with ⟨position, delivered, rest, stack, control, taken⟩
  have executes {operation : Operation} (executes : Executes operation before after) : False := by
    have plain := executes.head (.drain position delivered) (by simp [stack])
    cases plain
  cases tells with
  | pushed started | refused started | began started | emptied started =>
      exact (executes started).elim
  | handed stack' _ taken' =>
      rw [stack] at stack'
      cases stack'
      rw [taken] at taken'
      cases taken'
      rfl
  | finished stack' _ nothing =>
      rw [stack] at stack'
      cases stack'
      rw [taken] at nothing
      cases nothing
  | returned _ answered =>
      rw [control] at answered
      cases answered
  | panicked _ unwinds =>
      rw [control] at unwinds
      cases unwinds
  | silent same =>
      -- its entry is free now
      have yields := InterruptQueue.yields_of_take? taken
      rw [(move.of_draining stack control taken).1] at same
      have emptied := yields.emptied
      rw [same, yields.waits] at emptied
      cases emptied

end

/-! ## Undisturbed sessions -/

section

variable {trace : Nat → Machine} {events : Nat → List QueueEvent}
  {time last first start finish : Nat}

/-- The primitive steps that the moves come to are a history of the interrupt queue. -/
structure Recounts (trace : Nat → Machine) (events : Nat → List QueueEvent) (last : Nat) :
    Prop where
  tells : ∀ time < last, Tells (trace time) (trace (time + 1)) (events time)
  histories :
    ∀ time ≤ last, ∃ loops,
      History (.ofCapacity Limits.interruptDepth) ((List.range time).flatMap events)
          ⟨(trace time).world.bus.interrupts, loops⟩ ∧
        Stands loops (trace time)

/-- Nobody puts an interrupt in during a drain. -/
theorem DrainsUndisturbed.not_draining
    (undisturbed : DrainsUndisturbed trace last)
    (tells : Tells (trace time) (trace (time + 1)) (events time))
    (bound : time < last)
    (member : .accepted item ∈ events time) :
    ¬ (trace time).Draining := by
  intro draining
  rcases (tells.of_accepted member).2.ready with issued | idle
  · have quiet := undisturbed.quiet time bound draining
    simp [interrupting, issued] at quiet
  · rcases draining with ⟨frame, inside, _⟩
    simp [idle] at inside

/-- The moves of an undisturbed session come to an undisturbed history. -/
theorem Recounts.undisturbed
    (recounts : Recounts trace events last)
    (undisturbed : DrainsUndisturbed trace last)
    (bound : time ≤ last) :
    Undisturbed ((List.range time).flatMap events) := by
  induction time with
  | zero => exact undisturbed_nil
  | succ time ih =>
      have tells := recounts.tells time bound
      rw [List.range_succ, List.flatMap_append, List.flatMap_singleton]
      refine (ih (Nat.le_of_succ_le bound)).append ?_ ?_
      · intro item member
        refine ⟨(tells.of_accepted member).1, ?_⟩
        rcases recounts.histories time (Nat.le_of_succ_le bound) with ⟨loops, history, stands⟩
        have tracked := history.balances.attributes.tracked
        rw [stands.eq_nil (undisturbed.not_draining tells bound member)] at tracked
        exact List.forall₂_nil_left_iff.mp tracked
      · intro member
        rcases tells.of_panicked member with
          ⟨position, delivered, below, message, stack, control⟩
        exact not_unwind_of_abandoning (undisturbed.calm time bound) stack message control

/-- What holds of the queue at every time of an undisturbed session. -/
structure Ordered (trace : Nat → Machine) (events : Nat → List QueueEvent) (time : Nat) :
    Prop where
  fifo :
    ((List.range time).flatMap events).filterMap QueueEvent.handed? ++
        (trace time).world.bus.interrupts.items =
      (((List.range time).flatMap events).filterMap QueueEvent.pushed?).map InterruptItem.kept
  /-- A drain under way leaves nothing behind. -/
  passed :
    ∀ state ∈ (trace time).drainStates, ∀ index < state.1,
      (trace time).world.bus.interrupts.item? index = none
  packed : ¬ (trace time).Draining → (trace time).world.bus.interrupts.Packed

theorem Recounts.ordered
    (recounts : Recounts trace events last)
    (undisturbed : DrainsUndisturbed trace last)
    (bound : time ≤ last) :
    Ordered trace events time := by
  rcases recounts.histories time bound with ⟨loops, history, stands⟩
  have order := history.inOrder (recounts.undisturbed undisturbed bound)
  refine ⟨order.fifo, ?_, ?_⟩
  · intro state member index early
    rw [← stands] at member
    rcases List.mem_map.mp member with ⟨loop, inside, rfl⟩
    exact order.passed loop inside index early
  · exact fun outermost => order.packed (stands.eq_nil outermost)

/-- A drain that finds nothing more leaves nothing at all. -/
theorem Ordered.items_eq_nil
    {position delivered : Nat}
    (ordered : Ordered trace events time)
    (stack : (trace time).stack = .drain position delivered :: below)
    (control : (trace time).control = .proceed)
    (nothing : (trace time).world.bus.interrupts.take? position = none) :
    (trace time).world.bus.interrupts.items = [] := by
  have state : (position, false) ∈ (trace time).drainStates := by
    rw [drainStates, stack, control]
    exact List.mem_cons_self
  exact InterruptQueue.items_eq_nil
    (InterruptQueue.nothing_of_passed (ordered.passed _ state) nothing)

/-- Along a stretch in which nothing is put in, what is taken out is what waited first. -/
theorem Ordered.handed_append
    (before : Ordered trace events first)
    (after : Ordered trace events time)
    (order : first ≤ time)
    (quiet : ∀ moment, first ≤ moment → moment < time → ∀ item, .accepted item ∉ events moment) :
    ((List.range' first (time - first)).flatMap events).filterMap QueueEvent.handed? ++
        (trace time).world.bus.interrupts.items =
      (trace first).world.bus.interrupts.items := by
  have whole : List.range time = List.range first ++ List.range' first (time - first) := by
    rw [← Nat.add_sub_cancel' order, List.range_add, Nat.add_sub_cancel_left,
      List.range'_eq_map_range]
  have nothing :
      ((List.range' first (time - first)).flatMap events).filterMap QueueEvent.pushed? = [] := by
    rw [List.filterMap_eq_nil_iff]
    intro event member
    rcases List.mem_flatMap.mp member with ⟨moment, inside, told⟩
    rw [List.mem_range'_1] at inside
    cases event with
    | accepted item => exact absurd told (quiet moment inside.1 (by omega) item)
    | _ => rfl
  have fifo := after.fifo
  rw [whole, List.flatMap_append, List.filterMap_append, List.filterMap_append, nothing,
    List.append_nil, ← before.fifo, List.append_assoc] at fifo
  exact List.append_cancel_left fifo

/-! ## One drain -/

/-- A drain begins at the first entry, with nothing counted. -/
theorem Executes.drain_begins (executes : Executes .drain before after) :
    after.stack = .drain 0 0 :: before.stack ∧ after.control = .proceed ∧
      after.world = before.world := by
  rcases executes.eq_execute with ⟨program, payload, started, world, stack, same⟩
  rw [same, ← world, ← stack]
  exact ⟨rfl, rfl, rfl⟩

/-- As long as its call lasts a drain is under way. -/
theorem Call.draining
    (call : Call .drain trace start finish)
    (late : start + 1 ≤ time)
    (early : time < finish) :
    (trace time).Draining := by
  have stays {frame last : Frame}
      (continues : frame.Continues last)
      (drain : frame.position?.isSome) :
      last.position?.isSome := by
    cases continues with
    | drain => rfl
    | _ => cases drain
  have start : (trace (start + 1)).Bears (trace start).stack (.drain 0 0) :=
    .of_stack call.made.drain_begins.1
  rcases call.span.bears start late early with ⟨frame, bears, reached⟩
  exact bears.draining (Frame.keeps_of_continues stays reached rfl)

theorem sublist_filterMap_flatMap
    {α β γ : Type}
    {some? : α → Option β}
    {many : α → List γ}
    {kept : γ → Option β}
    (list : List α)
    (alone :
      ∀ entry ∈ list, ∀ value, some? entry = some value →
        (many entry).filterMap kept = [value]) :
    (list.filterMap some?).Sublist ((list.flatMap many).filterMap kept) := by
  induction list with
  | nil => exact List.Sublist.refl _
  | cons entry list ih =>
      have others := ih fun other member => alone other (List.mem_cons_of_mem _ member)
      rw [List.flatMap_cons, List.filterMap_append]
      cases found : some? entry with
      | none =>
          rw [List.filterMap_cons_none found]
          exact others.trans (List.sublist_append_right _ _)
      | some value =>
          rw [List.filterMap_cons_some found, alone entry List.mem_cons_self value found]
          exact others.cons_cons value

/-- The account of a drain that comes back. -/
theorem Call.drainAccount
    (call : Call .drain trace start finish)
    (recounts : Recounts trace events last)
    (undisturbed : DrainsUndisturbed trace last)
    (bound : finish ≤ last)
    (back : (trace finish).stack = (trace start).stack) :
    DrainAccount trace events start finish := by
  have within {time : Nat} (early : time < finish) : time < last :=
    Nat.lt_of_lt_of_le early bound
  rcases call.made.drain_begins with ⟨stack, control, world⟩
  have ended : DrainEnd (trace start).stack trace 0 (start + 1) finish :=
    drainEnd_of_ready call.span stack control back fun _ _ early _ _ message innermost =>
      not_unwind_of_abandoning (undisturbed.calm _ (within early)) innermost message
  have emptied : (trace finish).world.bus.interrupts.items = [] := by
    rcases ended.exhausted with ⟨moment, position, delivered, rfl, late, innermost, turn, nothing⟩
    have move := call.span.moves moment late (Nat.lt_succ_self moment)
    have ordered := recounts.ordered undisturbed (Nat.le_of_succ_le bound)
    rw [(move.of_drained innermost turn nothing).2.2]
    exact ordered.items_eq_nil innermost turn nothing
  have handed :
      ((List.range' (start + 1) (finish - (start + 1))).flatMap events).filterMap
          QueueEvent.handed? =
        (trace start).world.bus.interrupts.items := by
    have before := recounts.ordered undisturbed (Nat.le_trans call.begins bound)
    have after := recounts.ordered undisturbed bound
    have taken := before.handed_append after call.begins fun time late early item member =>
      undisturbed.not_draining (recounts.tells time (within early)) (within early) member
        (call.draining late early)
    rwa [emptied, List.append_nil, world] at taken
  refine ⟨handed, emptied, ?_, ?_⟩
  · rw [← handed]
    apply sublist_filterMap_flatMap
    intro time member item drains
    rw [List.mem_range'_1] at member
    have early : time < finish := by omega
    exact (recounts.tells time (within early)).of_draining
      (call.span.moves time member.1 early) drains
  · simpa using ended.counted

end

/-! ## Every session -/

/-- The interrupt queue of a bus has the same number of entries all the time. -/
theorem SessionRun.interrupts_capacity
    {trace : Nat → Machine}
    {last : Nat}
    (session : SessionRun trace last) :
    (trace last).world.bus.interrupts.capacity = Limits.interruptDepth := by
  rcases session.history with ⟨events, _, histories⟩
  rcases histories last (Nat.le_refl last) with ⟨loops, history, _⟩
  exact history.capacity_eq.trans (InterruptQueue.capacity_ofCapacity _)

/-- Interrupts leave the queue of a bus in the order in which they were put in. -/
theorem SessionRun.drainsInOrder
    {trace : Nat → Machine}
    {last : Nat}
    (session : SessionRun trace last)
    (undisturbed : DrainsUndisturbed trace last) :
    ∃ events, DrainsInOrder trace events last := by
  rcases session.history with ⟨events, tells, histories⟩
  have recounts : Recounts trace events last := ⟨tells, histories⟩
  refine ⟨events, tells, fun time bound => (recounts.ordered undisturbed bound).fifo,
    fun time bound => (recounts.ordered undisturbed bound).packed, ?_, ?_⟩
  · intro time bound item member
    rcases (tells time bound).of_handed member with
      cleanup | ⟨position, delivered, below, stack, control, taken⟩
    · exact Or.inl cleanup
    · rcases (session.moves time bound).of_draining stack control taken with
        ⟨_, under, base, same⟩
      exact Or.inr ⟨position, delivered, below, stack,
        draining?_eq_some_iff.mpr ⟨position, delivered, _, stack, control, taken⟩,
        ⟨under, base, same⟩, .nil _ trace (time + 1)⟩
  · intro start finish bound call back
    exact call.drainAccount recounts undisturbed bound back

/-- What goes through an interrupt queue comes out in the order in which it was put in, as long as
nobody puts something in during a drain and no callback of a drain panics. -/
structure OrdersInterrupts : Prop where
  histories :
    ∀ capacity events reached,
      History (.ofCapacity capacity) events reached → Undisturbed events → InOrder events reached
  /-- Requests to a queue of its own, with drains nested in the callbacks of drains, come to such a
  history. -/
  requests :
    ∀ capacity requests, (∀ request ∈ requests, QueueRequest.reserved request = true) →
      ∃ events,
        ToldAll requests (QueueRequest.answerAll requests (.ofCapacity capacity)).1 events ∧
          InOrder events ⟨(QueueRequest.answerAll requests (.ofCapacity capacity)).2, []⟩
  /-- So does a session, and its drains replay the interrupts in that order. -/
  sessions :
    ∀ trace last, SessionRun trace last → DrainsUndisturbed trace last →
      ∃ events, DrainsInOrder trace events last
  /-- A drain comes back if everything comes back that it hands out. -/
  returns :
    ∀ trace start,
      (∀ last, SessionRun trace last) → (∀ time, (trace time).abandoning = false) →
      Executes .drain (trace start) (trace (start + 1)) →
      (∀ time > start, ((trace time).draining? (trace start).stack).isSome →
        ∃ returned > time, ∃ position delivered,
          (trace returned).stack = .drain position delivered :: (trace start).stack) →
        ∃ finish, Call .drain trace start finish ∧ (trace finish).stack = (trace start).stack

/-- The interrupt queue keeps the order of its pushes. -/
theorem ordersInterrupts : OrdersInterrupts := by
  constructor
  · intro capacity events reached history undisturbed
    exact history.inOrder undisturbed
  · intro capacity requests reserved
    rcases QueueRequest.answerAll_undisturbed requests reserved
      (History.refl : History (.ofCapacity capacity) [] _) undisturbed_nil with
      ⟨events, told, history, undisturbed⟩
    exact ⟨events, told, history.inOrder undisturbed⟩
  · intro trace last session undisturbed
    exact session.drainsInOrder undisturbed
  · intro trace start sessions calm executes resolves
    rcases executes.drain_begins with ⟨stack, control, _⟩
    rcases drain_returns (fun time => (sessions (time + 1)).moves time (Nat.lt_succ_self time))
      (fun time => (sessions time).interrupts_capacity)
      (fun time _ _ message innermost => not_unwind_of_abandoning (calm time) innermost message)
      resolves stack control with ⟨finish, span, back⟩
    exact ⟨finish, ⟨span.ordered, executes, span⟩, back⟩

/-- A callback that drains the queue in its first turn. -/
def redraining : Program where
  routines := [{ commands := [{ label := "drain", turn := some 1, operation := .drain }] }]

/-- Three interrupts, the second of which fails, a drain, and another interrupt. -/
def redrainingOperations : List Operation :=
  [.init, .register "signal" none none, .connect "signal" 0 none none .nowhere,
    .interrupt "signal" 1, .interrupt "absent" 2, .interrupt "signal" 3, .drain,
    .interrupt "signal" 4]

/-- The states of this session. -/
def redrained (time : Nat) : Machine :=
  (session redraining .heap {} redrainingOperations time).1

/-- After it nothing happens any more. -/
theorem redrained_fixed {time : Nat} (later : 39 ≤ time) : redrained time = redrained 39 :=
  congrArg Prod.fst (session_fixed (by decide +kernel) (by decide +kernel) later)

/-- The outer drain hands out the first interrupt, and the one in its callback the other two; each
of them comes back with one. -/
theorem ordersInterrupts_redrained :
    (∃ finish, Call .drain redrained 12 finish ∧
        (redrained finish).stack = (redrained 12).stack) ∧
      DrainsUndisturbed redrained 39 ∧
      ∃ events,
        DrainsInOrder redrained events 39 ∧ DrainAccount redrained events 12 38 ∧
          (redrained 12).world.bus.interrupts.items =
            [⟨0, "signal", 1⟩, ⟨1, "absent", 2⟩, ⟨2, "signal", 3⟩] ∧
          handings [] redrained 13 38 = [13] ∧
          (redrained 29).control = .answer (.number 1) ∧
          (redrained 38).control = .answer (.number 1) ∧
          (redrained 39).world.bus.interrupts.items = [⟨0, "signal", 4⟩] := by
  have sessions (last : Nat) : SessionRun redrained last := sessionRun_session _ _ _ _ last
  have undisturbed : DrainsUndisturbed redrained 39 := by decide +kernel
  have call : Call .drain redrained 12 38 :=
    call_session (by decide) (by decide +kernel) (by decide +kernel) rfl (by decide +kernel)
  have idle : (redrained 12).stack = [] := by decide +kernel
  have calm (time : Nat) : (redrained time).abandoning = false := by
    rcases Nat.lt_or_ge time 39 with early | late
    · exact undisturbed.calm time early
    · rw [redrained_fixed late]
      decide +kernel
  have resolves (time : Nat) (late : time > 12)
      (drains : ((redrained time).draining? (redrained 12).stack).isSome) :
      ∃ returned > time, ∃ position delivered,
        (redrained returned).stack = .drain position delivered :: (redrained 12).stack := by
    rw [idle] at drains ⊢
    have once : ∀ time < 40, 12 < time → ((redrained time).draining? []).isSome → time = 13 := by
      decide +kernel
    have last : (redrained 39).draining? [] = none := by decide +kernel
    rcases Nat.lt_or_ge time 39 with early | after
    · rw [once time (Nat.lt_succ_of_lt early) late drains]
      exact ⟨36, by decide, 1, 0, by decide +kernel⟩
    · simp [redrained_fixed after, last] at drains
  rcases ordersInterrupts.sessions redrained 39 (sessions 39) undisturbed with ⟨events, order⟩
  exact ⟨ordersInterrupts.returns redrained 12 sessions calm call.made resolves, undisturbed,
    events, order, order.drains 12 38 (by decide) call (by decide +kernel), by decide +kernel,
    by decide +kernel, by decide +kernel, by decide +kernel, by decide +kernel⟩

end SignalDispatch.Machine
