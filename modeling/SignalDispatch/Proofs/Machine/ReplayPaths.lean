import SignalDispatch.Proofs.Machine.Batches
import SignalDispatch.Proofs.Machine.Relaying
import SignalDispatch.Proofs.Machine.Retiming

/-!
# Ways to replay emissions

A list of emissions can be emitted one by one, collected in a batch that is emitted, or deferred and
flushed.  `Machine.replay_paths_agree` compares the three, as long as user code leaves the deferred
queue alone: if one of them comes back all do, with the same effect and with answers that go
together.

What runs when a context is let go of counts as user code too: `Machine.farewell_overtakes` is a
farewell that flushes.
-/

namespace SignalDispatch

namespace Operation

/-- The routine that an operation makes a callback or the hook, or runs in its own place. -/
def installs? : Operation → Option RoutineId
  | connect _ callback _ _ _ => some callback
  | setHook routine => routine
  | catching routine => some routine
  | _ => none

def panics : Operation → Bool
  | panic _ => true
  | _ => false

end Operation

/-- A batch holds what was added to it, in order. -/
theorem Batch.entries_foldl (batch : Batch) (entries : List Emission) :
    (entries.foldl add batch).entries = batch.entries ++ entries := by
  induction entries generalizing batch with
  | nil => exact (List.append_nil _).symm
  | cons emission rest ih =>
      rw [List.foldl_cons, ih, add, List.append_assoc]
      rfl

/-- The record of an emission that was deferred. -/
def deferralRecord (emission : Emission) : LogRecord :=
  .debug ("Deferred emission of '" ++ emission.name ++ "'")

namespace Machine

variable {program : Program} {clock : Nat → Nat} {allowed : Operation → Prop}
  {machine other emitted ended : Machine} {entries : List Emission} {answers : List Answer}
  {batch : String}

/-! ## Deferring -/

/-- An emission for which there is room joins the queue. -/
theorem execute_defer
    (present : machine.world.bus.isInitialized = true)
    (room : machine.waiting.length < machine.world.bus.deferred.capacity)
    (emission : Emission) :
    machine.execute program .void (.defer emission) =
      { machine.awaiting (machine.waiting ++ [emission]) with
        stack := .release [] none :: .conclude [deferralRecord emission] .done :: machine.stack
        control := .proceed } := by
  rw [execute, machine.world.bus.defer_of_room present room emission]
  rfl

/-- Deferring an emission for which there is room succeeds. -/
theorem ComesBack.of_defer
    (present : machine.world.bus.isInitialized = true)
    (room : machine.waiting.length < machine.world.bus.deferred.capacity)
    (emission : Emission) :
    ComesBack program allowed machine.stack (machine.execute program .void (.defer emission)) .done
      (((machine.awaiting (machine.waiting ++ [emission])).log
        [deferralRecord emission]).answering .done) := by
  rw [execute_defer present room]
  refine .step (Nat.lt_add_of_pos_right Nat.two_pos) (issued?_of_stack rfl rfl) ?_
  exact .turn rfl rfl (.back rfl rfl)

/-- Deferring emissions for which there is room comes back with successes only. -/
theorem Performs.of_defer
    (present : machine.world.bus.isInitialized = true)
    (fits : machine.waiting.length + entries.length ≤ machine.world.bus.deferred.capacity) :
    ∃ deferred : Machine,
      Performs program allowed machine (entries.map .defer) (entries.map fun _ => .done) deferred ∧
        deferred.stack = machine.stack ∧
        deferred.world = (machine.awaiting (machine.waiting ++ entries)).world ∧
        deferred.events =
          (entries.map deferralRecord).reverse.map Event.logged ++ machine.events := by
  induction entries generalizing machine with
  | nil =>
      refine ⟨machine, .nil, rfl, ?_, rfl⟩
      rw [List.append_nil]
      rfl
  | cons emission rest ih =>
      rw [List.length_cons] at fits
      have comes := @ComesBack.of_defer program allowed machine present (by omega) emission
      let between :=
        ((machine.awaiting (machine.waiting ++ [emission])).log
          [deferralRecord emission]).answering .done
      have longer : between.waiting.length = machine.waiting.length + 1 := List.length_append
      have fits' : between.waiting.length + rest.length ≤ between.world.bus.deferred.capacity := by
        have same : between.world.bus.deferred.capacity = machine.world.bus.deferred.capacity :=
          rfl
        omega
      rcases @ih between present fits' with ⟨deferred, performs, stack, world, events⟩
      refine ⟨deferred, .cons comes performs, stack, ?_, ?_⟩
      · rw [world, List.append_cons machine.waiting emission rest]
        rfl
      · rw [events, List.map_cons, List.reverse_cons, List.map_append, List.append_assoc]
        rfl

/-! ## Frames that face direct emissions -/

/-- A batch that is emitted while nothing is deferred. -/
theorem faces_batch
    (empty : machine.waiting = [])
    (built : machine.world.batchOf batch = entries.foldl Batch.add {}) :
    Relay.batch.Faces entries [] machine.stack machine
      (machine.execute program .void (.batchEmit batch)) := by
  refine ⟨?_, rfl, empty, ?_, rfl⟩
  · have collected : (machine.world.batchOf batch).entries = entries := by
      rw [built, Batch.entries_foldl]
      rfl
    exact congrArg (fun entries => Frame.batch entries none :: machine.stack) collected
  · have still : machine.awaiting [] = machine := by
      rw [awaiting, ← empty]
      rfl
    have started : (machine.execute program .void (.batchEmit batch)).world = machine.world := rfl
    exact started.trans (congrArg Machine.world still.symm)

/-- A flush of what has been deferred. -/
theorem faces_flush
    {deferred : Machine}
    (present : machine.world.bus.isInitialized = true)
    (empty : machine.waiting = [])
    (stack : deferred.stack = machine.stack)
    (world : deferred.world = (machine.awaiting (machine.waiting ++ entries)).world) :
    Relay.flush.Faces entries [] machine.stack machine (deferred.execute program .void .flush) := by
  rw [empty, List.nil_append] at world
  have started : deferred.execute program .void .flush =
      (deferred.push (.flush entries.length 0)).proceeding := by
    have ready : deferred.world.bus.isInitialized = true := by
      rw [world]
      exact present
    have length : deferred.world.bus.deferred.length = entries.length := by
      rw [world]
      rfl
    rw [execute, if_pos ready, length]
  rw [started]
  exact ⟨congrArg (List.cons _) stack, rfl, empty, world, rfl⟩

/-! ## By the same clock -/

/-- A batch emits what is emitted directly. -/
theorem Performs.batched
    (empty : machine.waiting = [])
    (built : machine.world.batchOf batch = entries.foldl Batch.add {})
    (apart : ∀ operation, allowed operation → operation.usesDeferred = false)
    (direct : Performs program allowed machine (entries.map .emit) answers emitted) :
    ∃ batched,
      Performs program allowed machine [.batchEmit batch]
          [.verdict (Answer.firstFault? answers)] batched ∧
        batched.world = emitted.world ∧ batched.events = emitted.events ∧
        ((∀ operation, allowed operation → operation.rewrites batch = false) →
          batched.world.batchOf batch = machine.world.batchOf batch) := by
  have faces : Relay.batch.Faces entries [] machine.stack machine
      (machine.execute program .void (.batchEmit batch)) :=
    faces_batch empty built
  rcases Relay.comesBack apart direct faces with ⟨batched, fresh, comes, world, events, events'⟩
  exact ⟨batched, .cons comes .nil, world, events'.trans events.symm, fun keeps =>
    comes.batchOf_eq keeps⟩

/-- Deferring and flushing emits what is emitted directly. -/
theorem Performs.flushed
    (present : machine.world.bus.isInitialized = true)
    (empty : machine.waiting = [])
    (fits : entries.length ≤ machine.world.bus.deferred.capacity)
    (apart : ∀ operation, allowed operation → operation.usesDeferred = false)
    (direct : Performs program allowed machine (entries.map .emit) answers emitted) :
    ∃ flushed fresh,
      Performs program allowed machine (entries.map .defer ++ [.flush])
          (entries.map (fun _ => .done) ++ [.number (Answer.successes answers)]) flushed ∧
        flushed.world = emitted.world ∧ emitted.events = fresh ++ machine.events ∧
        flushed.events =
          .logged (flushRecord (Answer.successes answers)) ::
            (fresh ++ (entries.map deferralRecord).reverse.map Event.logged ++
              machine.events) := by
  have room : machine.waiting.length + entries.length ≤ machine.world.bus.deferred.capacity := by
    rw [empty, List.length_nil, Nat.zero_add]
    exact fits
  rcases @Performs.of_defer program allowed machine entries present room with
    ⟨deferred, defers, stack, world, events⟩
  rcases Relay.comesBack apart direct (faces_flush present empty stack world) with
    ⟨flushed, fresh, comes, world', told, told'⟩
  rw [← stack] at comes
  have before : (deferred.execute program .void .flush).events = deferred.events := by
    rw [execute]
    split <;> rfl
  refine ⟨flushed, fresh, defers.append (.cons comes .nil), world', told, ?_⟩
  rw [told', before, events, List.append_assoc]
  rfl

/-- What a batch emits and comes back from is emitted directly as well. -/
theorem Performs.of_batched
    (empty : machine.waiting = [])
    (built : machine.world.batchOf batch = entries.foldl Batch.add {})
    (apart : ∀ operation, allowed operation → operation.usesDeferred = false)
    (performs : Performs program allowed machine [.batchEmit batch] answers ended) :
    ∃ answers emitted, Performs program allowed machine (entries.map .emit) answers emitted := by
  cases performs with
  | cons comes _ => exact Relay.performs apart comes (faces_batch empty built)

/-- What is deferred and flushed is emitted directly as well. -/
theorem Performs.of_flushed
    (present : machine.world.bus.isInitialized = true)
    (empty : machine.waiting = [])
    (fits : entries.length ≤ machine.world.bus.deferred.capacity)
    (apart : ∀ operation, allowed operation → operation.usesDeferred = false)
    (performs : Performs program allowed machine (entries.map .defer ++ [.flush]) answers ended) :
    ∃ answers emitted, Performs program allowed machine (entries.map .emit) answers emitted := by
  have room : machine.waiting.length + entries.length ≤ machine.world.bus.deferred.capacity := by
    rw [empty, List.length_nil, Nat.zero_add]
    exact fits
  rcases @Performs.of_defer program allowed machine entries present room with
    ⟨deferred, defers, stack, world, _⟩
  rcases performs.split with ⟨_, _, between, first, second⟩
  rw [first.unique defers] at second
  cases second with
  | cons comes _ =>
      rw [stack] at comes
      exact Relay.performs apart comes (faces_flush present empty stack world)

/-! ## The three ways -/

/-- Emissions were replayed in another way as they were emitted directly.  Measured times aside it
is the same registry, and callbacks and hooks were called and contexts released in the same order.
By the same clock it is the same world, and there are only more records, `earlier` and `later`
ones. -/
structure ReplaysLike
    (program : Program)
    (clock : Nat → Nat)
    (earlier later : List LogRecord)
    (emitted replayed : Machine) :
    Prop where
  registry :
    replayed.world.bus.registry.map (Registry.seen .untimed) =
      emitted.world.bus.registry.map (Registry.seen .untimed)
  notices : replayed.notices = emitted.notices
  exactly :
    clock = program.clock →
      replayed.world = emitted.world ∧
        replayed.events =
          later.map Event.logged ++ emitted.events ++ earlier.map Event.logged

/-- Records are no notices. -/
theorem notices_of_records
    {earlier later : List LogRecord}
    (events :
      other.events = later.map Event.logged ++ machine.events ++ earlier.map Event.logged) :
    other.notices = machine.notices := by
  have silent (records : List LogRecord) :
      (records.map Event.logged).filter Event.isNotice = [] := by
    rw [List.filter_eq_nil_iff]
    intro event member
    rcases List.mem_map.mp member with ⟨record, _, rfl⟩
    exact Bool.false_ne_true
  rw [notices, events, List.filter_append, List.filter_append, silent, silent, List.append_nil]
  rfl

/-- What was replayed by the clock of direct emissions is replayed by any other. -/
theorem Performs.replaysLike
    {replayed : Machine}
    {operations : List Operation}
    {results : List Answer}
    {earlier later : List LogRecord}
    (performs : Performs program allowed (resting machine.world) operations results replayed)
    (reachable : Reachable machine)
    (plain : ∀ operation ∈ operations, operation.measures = false)
    (world : replayed.world = emitted.world)
    (events :
      replayed.events = later.map Event.logged ++ emitted.events ++ earlier.map Event.logged)
    (clock : Nat → Nat) :
    ∃ replayed',
      Performs (program.retimed clock) allowed (resting machine.world) operations results
          replayed' ∧
        ReplaysLike program clock earlier later emitted replayed' ∧
        replayed'.world.batches = replayed.world.batches := by
  have notices := notices_of_records events
  by_cases same : clock = program.clock
  · subst same
    exact ⟨replayed, performs, ⟨by rw [world], notices, fun _ => ⟨world, events⟩⟩, rfl⟩
  · rcases performs.retimed_resting reachable clock plain with ⟨replayed', performs', pairs⟩
    refine ⟨replayed', performs', ⟨?_, ?_, fun equal => absurd equal same⟩,
      pairs.world.batches.symm⟩
    · rw [← world]
      exact pairs.world.bus.registry.symm
    · rw [← notices, ← notices_told, ← notices_told]
      exact (filter_notices_untimed pairs.events).symm

/-- A batch replays what is emitted directly. -/
theorem Performs.replays_batched
    (direct :
      Performs program allowed (resting machine.world) (entries.map .emit) answers emitted)
    (reachable : Reachable machine)
    (empty : machine.waiting = [])
    (built : machine.world.batchOf batch = entries.foldl Batch.add {})
    (apart : ∀ operation, allowed operation → operation.usesDeferred = false)
    (clock : Nat → Nat) :
    ∃ batched,
      Performs (program.retimed clock) allowed (resting machine.world) [.batchEmit batch]
          [.verdict (Answer.firstFault? answers)] batched ∧
        ReplaysLike program clock [] [] emitted batched ∧
        ((∀ operation, allowed operation → operation.rewrites batch = false) →
          batched.world.batchOf batch = machine.world.batchOf batch) := by
  have empty' : (resting machine.world).waiting = [] := empty
  have built' : (resting machine.world).world.batchOf batch = entries.foldl Batch.add {} := built
  rcases direct.batched empty' built' apart with ⟨batched, performs, world, events, keeps⟩
  have silent : batched.events =
      ([] : List LogRecord).map Event.logged ++ emitted.events ++ [].map Event.logged :=
    events.trans (List.append_nil _).symm
  have plain : ∀ operation ∈ [Operation.batchEmit batch], operation.measures = false :=
    List.forall_mem_singleton.mpr rfl
  rcases performs.replaysLike reachable plain world silent clock with
    ⟨replayed, performs', alike, batches⟩
  exact ⟨replayed, performs', alike, fun unchanged =>
    (World.batchOf_congr batches batch).trans (keeps unchanged)⟩

/-- Deferring and flushing do not ask for times. -/
theorem measures_deferrals (entries : List Emission) :
    ∀ operation ∈ entries.map Operation.defer ++ [.flush], operation.measures = false := by
  intro operation member
  rcases List.mem_append.mp member with deferral | flush
  · rcases List.mem_map.mp deferral with ⟨emission, _, rfl⟩
    rfl
  · rw [List.mem_singleton.mp flush]
    rfl

/-- Deferring and flushing replays what is emitted directly. -/
theorem Performs.replays_flushed
    (direct :
      Performs program allowed (resting machine.world) (entries.map .emit) answers emitted)
    (reachable : Reachable machine)
    (present : machine.world.bus.isInitialized = true)
    (empty : machine.waiting = [])
    (fits : entries.length ≤ machine.world.bus.deferred.capacity)
    (apart : ∀ operation, allowed operation → operation.usesDeferred = false)
    (clock : Nat → Nat) :
    ∃ flushed,
      Performs (program.retimed clock) allowed (resting machine.world)
          (entries.map .defer ++ [.flush])
          (entries.map (fun _ => .done) ++ [.number (Answer.successes answers)]) flushed ∧
        ReplaysLike program clock (entries.map deferralRecord).reverse
          [flushRecord (Answer.successes answers)] emitted flushed := by
  have present' : (resting machine.world).world.bus.isInitialized = true := present
  have empty' : (resting machine.world).waiting = [] := empty
  rcases direct.flushed present' empty' fits apart with
    ⟨flushed, fresh, performs, world, told, told'⟩
  have events : flushed.events =
      [flushRecord (Answer.successes answers)].map Event.logged ++ emitted.events ++
        (entries.map deferralRecord).reverse.map Event.logged := by
    have past : (resting machine.world).events = [] := rfl
    rw [told', told, past, List.append_nil, List.append_nil]
    rfl
  rcases performs.replaysLike reachable (measures_deferrals entries) world events clock with
    ⟨replayed, performs', alike, _⟩
  exact ⟨replayed, performs', alike⟩

/-- Whatever comes back by another clock does so by the own one. -/
theorem Performs.untimed
    {operations : List Operation}
    (reachable : Reachable machine)
    (plain : ∀ operation ∈ operations, operation.measures = false)
    (performs :
      Performs (program.retimed clock) allowed (resting machine.world) operations answers ended) :
    ∃ ended', Performs program allowed (resting machine.world) operations answers ended' := by
  rcases performs.retimed_resting reachable program.clock plain with ⟨ended', performs', _⟩
  exact ⟨ended', performs'⟩

/-- All ways to replay emissions agree.

Emissions for which the deferred queue has room are emitted one after another, and meanwhile user
code of any kind, be it a callback, a hook or the farewell of a context, neither uses the deferred
queue nor cleans up.  They can also be added to a batch that is emitted, or deferred and flushed.
If one of the three comes back all of them do, whatever the clocks say: with the same effect, and
after all entries have been emitted in order.  The batch comes back with the first fault, if there
is one, and it is still the same unless user code has changed it; the flush comes back with the
number of emissions that came back without a fault. -/
theorem replay_paths_agree
    (reachable : Reachable machine)
    (present : machine.world.bus.isInitialized = true)
    (empty : machine.waiting = [])
    (fits : entries.length ≤ machine.world.bus.deferred.capacity)
    (built : machine.world.batchOf batch = entries.foldl Batch.add {})
    (apart : ∀ operation, allowed operation → operation.usesDeferred = false)
    (clock : Nat → Nat) :
    let start : Machine := resting machine.world
    let emits := Performs program allowed start (entries.map .emit)
    let batches := Performs (program.retimed clock) allowed start [.batchEmit batch]
    let flushes :=
      Performs (program.retimed clock) allowed start (entries.map .defer ++ [.flush])
    ((∃ answers emitted, emits answers emitted) ↔ ∃ answers batched, batches answers batched) ∧
      ((∃ answers emitted, emits answers emitted) ↔ ∃ answers flushed, flushes answers flushed) ∧
      ∀ answers emitted, emits answers emitted →
        (∃ batched,
          batches [.verdict (Answer.firstFault? answers)] batched ∧
            ReplaysLike program clock [] [] emitted batched ∧
            ((∀ operation, allowed operation → operation.rewrites batch = false) →
              batched.world.batchOf batch = machine.world.batchOf batch)) ∧
          ∃ flushed,
            flushes
                (entries.map (fun _ => .done) ++ [.number (Answer.successes answers)]) flushed ∧
              ReplaysLike program clock (entries.map deferralRecord).reverse
                [flushRecord (Answer.successes answers)] emitted flushed := by
  intro start emits batches flushes
  have forward (answers : List Answer) (emitted : Machine) (direct : emits answers emitted) :=
    And.intro (direct.replays_batched reachable empty built apart clock)
      (direct.replays_flushed reachable present empty fits apart clock)
  refine ⟨⟨?emitted_batched, ?batched_emitted⟩, ⟨?emitted_flushed, ?flushed_emitted⟩, forward⟩
  case emitted_batched =>
    rintro ⟨answers, emitted, direct⟩
    rcases (forward answers emitted direct).1 with ⟨batched, performs, _⟩
    exact ⟨_, batched, performs⟩
  case batched_emitted =>
    rintro ⟨answers, batched, performs⟩
    have plain : ∀ operation ∈ [Operation.batchEmit batch], operation.measures = false :=
      List.forall_mem_singleton.mpr rfl
    rcases performs.untimed reachable plain with ⟨batched', performs'⟩
    exact performs'.of_batched empty built apart
  case emitted_flushed =>
    rintro ⟨answers, emitted, direct⟩
    rcases (forward answers emitted direct).2 with ⟨flushed, performs, _⟩
    exact ⟨_, flushed, performs⟩
  case flushed_emitted =>
    rintro ⟨answers, flushed, performs⟩
    rcases performs.untimed reachable (measures_deferrals entries) with ⟨flushed', performs'⟩
    exact performs'.of_flushed present empty fits apart

/-- A callback that registers a signal and connects a slot to it, one without commands, and a
hook. -/
def recruiting : Program where
  routines :=
    [{ commands :=
        [{ label := "register", operation := .register "late" none none },
          { label := "connect", operation := .connect "late" 1 none none .nowhere }] },
      {}, {}]

/-- Emissions of a signal before and after it is registered. -/
def openings : List Emission :=
  [⟨"late", .int 1⟩, ⟨"signal", .int 2⟩, ⟨"late", .int 3⟩]

/-- A timed signal with one slot, a hook, and a batch. -/
def staffed : Machine :=
  (initial .heap { profiling := true }).play recruiting 8
    ([.init, .register "signal" none none, .connect "signal" 0 none none .nowhere,
      .setHook (some 2)] ++ openings.map (.batchAdd "batch"))

/-- The batch and the flush go on after the first emission has failed, and the callback of the
second one makes the third succeed. -/
theorem replay_paths_agree_recruiting :
    let apart : Operation → Prop := fun operation =>
      operation.usesDeferred = false ∧ operation.rewrites "batch" = false
    let late : Program := recruiting.retimed (7 * ·)
    let absent : Answer := .fault (.notFound "late")
    let notices : List Event :=
      [.called ⟨2⟩ 1 (.int 3) none, .called ⟨1⟩ 0 (.int 2) none,
        .hooked .notFound "Not found: late"]
    (∃ emitted,
        Performs recruiting apart (resting staffed.world) (openings.map .emit)
          [absent, .done, .done] emitted ∧ emitted.notices = notices) ∧
      (∃ batched,
        Performs late apart (resting staffed.world) [.batchEmit "batch"] [absent] batched ∧
          batched.notices = notices ∧ (batched.world.batchOf "batch").entries = openings) ∧
      ∃ flushed,
        Performs late apart (resting staffed.world) (openings.map .defer ++ [.flush])
            [.done, .done, .done, .number 2] flushed ∧
          flushed.notices = notices := by
  intro apart late absent notices
  have reachable : Reachable staffed :=
    ⟨.heap, { profiling := true }, reaches_play recruiting 8 _ _⟩
  have direct : Performs recruiting apart (resting staffed.world) (openings.map .emit)
      [absent, .done, .done] _ :=
    .next 3 (by decide +kernel) (.next 15 (by decide +kernel) (.next 7 (by decide +kernel) .nil))
  have told : (resting staffed.world |>.after recruiting 3 (.emit ⟨"late", .int 1⟩)
      |>.after recruiting 15 (.emit ⟨"signal", .int 2⟩)
      |>.after recruiting 7 (.emit ⟨"late", .int 3⟩)).notices = notices := by
    decide +kernel
  rcases (replay_paths_agree reachable (by decide +kernel) (by decide +kernel) (by decide +kernel)
      (show staffed.world.batchOf "batch" = openings.foldl Batch.add {} by decide +kernel)
      (fun _ plain => plain.1) (7 * ·)).2.2 _ _ direct with
    ⟨⟨batched, performs, alike, keeps⟩, flushed, performs', alike'⟩
  refine ⟨⟨_, direct, told⟩, ⟨batched, performs, alike.notices.trans told, ?_⟩, flushed,
    performs', alike'.notices.trans told⟩
  rw [keeps fun _ plain => plain.2]
  decide +kernel

/-- A callback that disconnects an idle slot, two callbacks without commands, and a farewell that
flushes. -/
def bequeathing : Program where
  routines :=
    [{ commands := [{ label := "disconnect", operation := .disconnect "idle" 2 }] }, {}, {},
      { commands := [{ label := "flush", operation := .flush }] }]

/-- A signal with two slots, and another one with a slot whose context has that farewell. -/
def attended : Machine :=
  (initial .heap {}).play bequeathing 8
    [.init, .register "signal" none none, .register "idle" none none,
      .connect "signal" 0 none none .nowhere, .connect "signal" 1 none none .nowhere,
      .connect "idle" 2 none (some (.tracked "token" 3)) .nowhere]

/-- Routines among which are all that run as callbacks or as the hook, and none of which panics or
has anything to do with the deferred queue.  Nothing is said of farewells. -/
structure CallsPlainly (program : Program) (world : World) (called : List RoutineId) : Prop where
  slots :
    ∀ registry ∈ world.bus.registry, ∀ entry ∈ registry.slots.toList, entry.2.callback ∈ called
  hook : ∀ hook ∈ world.bus.hook, hook.routine ∈ called
  commands :
    ∀ routine ∈ program.routines, ∀ command ∈ routine.commands,
      ∀ other ∈ command.operation.installs?, other ∈ called
  plain :
    ∀ routine ∈ called, ∀ command ∈ (program.routine routine).commands,
      command.operation.usesDeferred = false ∧ command.operation.panics = false

theorem callsPlainly_attended : CallsPlainly bequeathing attended.world [0, 1, 2] :=
  ⟨by decide +kernel, by decide +kernel, by decide +kernel, by decide +kernel⟩

/-- It is not enough that callbacks and hooks leave the deferred queue alone: the first emission may
let go of a context whose farewell flushes.  If both emissions were deferred, the second one is then
made in the middle of the first, and the outer flush comes back with one although both succeed. -/
theorem farewell_overtakes :
    ¬ ∀ (program : Program) (machine emitted flushed : Machine) (called : List RoutineId)
        (entries : List Emission) (answers : List Answer) (delivered : Nat),
      Reachable machine → machine.stack = [] → machine.world.bus.isInitialized = true →
        machine.waiting = [] → entries.length ≤ machine.world.bus.deferred.capacity →
        CallsPlainly program machine.world called →
        Performs program (fun _ => True) (resting machine.world) (entries.map .emit) answers
          emitted →
        Performs program (fun _ => True) (resting machine.world) (entries.map .defer ++ [.flush])
          (entries.map (fun _ => .done) ++ [.number delivered]) flushed →
        delivered = Answer.successes answers ∧ flushed.notices = emitted.notices := by
  intro always
  let entries : List Emission := [⟨"signal", .int 1⟩, ⟨"signal", .int 2⟩]
  have emits : Performs bequeathing (fun _ => True) (resting attended.world) (entries.map .emit)
      [.done, .done] _ :=
    .next 20 (by decide +kernel) (.next 11 (by decide +kernel) .nil)
  have flushes : Performs bequeathing (fun _ => True) (resting attended.world)
      (entries.map .defer ++ [.flush]) (entries.map (fun _ => .done) ++ [.number 1]) _ :=
    .next 2 (by decide +kernel) (.next 2 (by decide +kernel) (.next 36 (by decide +kernel) .nil))
  have agree := always _ attended _ _ [0, 1, 2] entries _ _
    ⟨.heap, {}, reaches_play bequeathing 8 _ _⟩ (by decide +kernel) (by decide +kernel)
    (by decide +kernel) (by decide +kernel) callsPlainly_attended emits flushes
  exact absurd agree.1 (by decide +kernel)

end Machine

end SignalDispatch
