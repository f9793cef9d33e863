import SignalDispatch.Proofs.Machine.StaleCalls

/-!
# The deferred queue along a run

A move leaves the deferred queue alone, adds one accepted emission at its end, takes the oldest one
for a flush, or forgets all of them in a cleanup.  `Machine.Queues` says which and `Move.queues`
says that there is nothing else.

Equal emissions may wait at the same time, so an entry is known by its number: the entries that wait
at the start of a stretch of a run come first, then the ones that are accepted, one after another.
`Machine.entries` lists them and `Machine.departed` counts those that left, so that the entries with
the numbers from there on are the ones that wait (`Run.waiting_eq`).
-/

namespace SignalDispatch

/-- An operation that asks for an emission to be deferred. -/
def Operation.Defers (operation : Operation) (emission : Emission) : Prop :=
  operation = .defer emission ∨ operation = .forwardDeferred emission.name

/-! ## What calls do to the queue -/

/-- What the start of an operation does to the waiting emissions. -/
inductive Awaits (operation : Operation) (before after : List Emission) : Prop where
  | keep : after = before → Awaits operation before after
  | accept {emission : Emission} :
      operation.Defers emission →
      after = before ++ [emission] →
      Awaits operation before after
  | clear : operation = .cleanup → after = [] → Awaits operation before after

namespace Bus

variable (bus : Bus)

theorem deferred_init : bus.init.bus.deferred = bus.deferred := by
  rw [init]
  split <;> rfl

theorem deferred_withRegistry
    {call : Registry → Effect}
    (keeps : ∀ registry, (call registry).bus.deferred = bus.deferred) :
    (bus.withRegistry call).bus.deferred = bus.deferred := by
  rw [withRegistry]
  split
  · rfl
  · exact keeps _

theorem deferred_register
    (name : String)
    (description : Option String)
    (priority : Priority) :
    (bus.register name description priority).bus.deferred = bus.deferred := by
  refine bus.deferred_withRegistry fun registry => ?_
  dsimp only
  split <;> rfl

theorem deferred_unregister (name : String) :
    (bus.unregister name).bus.deferred = bus.deferred := by
  refine bus.deferred_withRegistry fun registry => ?_
  split <;> rfl

theorem deferred_connect
    (name : String)
    (callback : RoutineId)
    (context : Option Context)
    (priority : Option Priority) :
    (bus.connect name callback context priority).bus.deferred = bus.deferred := by
  rw [connect]
  dsimp only
  split
  · rfl
  · split
    · rfl
    · split <;> rfl

theorem deferred_disconnect (name : String) (callback : RoutineId) :
    (bus.disconnect name callback).bus.deferred = bus.deferred := by
  refine bus.deferred_withRegistry fun registry => ?_
  split
  · rfl
  · split <;> rfl

theorem deferred_disconnectHandle (handle : Handle) :
    (bus.disconnectHandle handle).bus.deferred = bus.deferred := by
  rw [disconnectHandle]
  split
  · refine bus.deferred_withRegistry fun registry => ?_
    split <;> rfl
  · rfl

theorem deferred_disconnectAll (name : String) :
    (bus.disconnectAll name).bus.deferred = bus.deferred := by
  refine bus.deferred_withRegistry fun registry => ?_
  dsimp only
  split <;> rfl

theorem deferred_setMaxSlots (limit : Nat) :
    (bus.setMaxSlots limit).bus.deferred = bus.deferred := by
  rw [setMaxSlots]
  split <;> rfl

theorem deferred_timing (name : String) : (bus.timing name).bus.deferred = bus.deferred :=
  bus.deferred_withRegistry fun _ => rfl

theorem deferred_memoryStats : bus.memoryStats.bus.deferred = bus.deferred :=
  bus.deferred_withRegistry fun _ => rfl

theorem deferred_leaving (signalRef : SignalRef) (elapsed : Option Nat) :
    (bus.leaving signalRef elapsed).deferred = bus.deferred := by
  rw [leaving]
  split <;> rfl

theorem awaits_defer
    {operation : Operation}
    {emission : Emission}
    (defers : operation.Defers emission) :
    Awaits operation bus.deferred.waiting (bus.defer emission).bus.deferred.waiting := by
  rw [defer, withRegistry]
  split
  · exact .keep rfl
  · split
    next => exact .keep rfl
    next pushed => exact .accept defers (DeferredQueue.waiting_of_push pushed)

/-- An emission for which there is room is put behind those that wait. -/
theorem defer_of_room
    (initialized : bus.isInitialized = true)
    (room : bus.deferred.waiting.length < bus.deferred.capacity)
    (emission : Emission) :
    bus.defer emission =
      { bus :=
          { bus with
            deferred := { bus.deferred with waiting := bus.deferred.waiting ++ [emission] } }
        after := [.debug ("Deferred emission of '" ++ emission.name ++ "'")]
        result := .ok .done } := by
  rcases Option.isSome_iff_exists.mp initialized with ⟨registry, present⟩
  have pushed :
      bus.deferred.push emission =
        .ok { bus.deferred with waiting := bus.deferred.waiting ++ [emission] } :=
    if_pos room
  simp only [defer, withRegistry, present, pushed]

theorem awaits_cleanup :
    Awaits .cleanup bus.deferred.waiting bus.cleanup.bus.deferred.waiting := by
  rw [cleanup]
  split
  · exact .keep rfl
  · exact .clear rfl rfl

end Bus

namespace Machine

/-- The deferred emissions that wait, the oldest in front. -/
def waiting (machine : Machine) : List Emission :=
  machine.world.bus.deferred.waiting

theorem waiting_log (machine : Machine) (records : List LogRecord) :
    (machine.log records).waiting = machine.waiting := by
  rw [waiting, world_log]
  rfl

theorem waiting_apply (machine : Machine) (effect : Effect) :
    (machine.apply effect).waiting = effect.bus.deferred.waiting := by
  rw [apply]
  exact waiting_log (machine.setBus effect.bus) effect.before

theorem waiting_beginEmission (machine : Machine) (emission : Emission) :
    (machine.beginEmission emission).waiting = machine.waiting := by
  rw [beginEmission]
  dsimp only
  split
  · rfl
  · split <;> rfl

theorem waiting_connect
    (machine : Machine)
    (name : String)
    (callback : RoutineId)
    (priority : Option Priority)
    (request : Option ContextRequest)
    (keep : KeepRequest) :
    (machine.connect name callback priority request keep).waiting = machine.waiting := by
  have kept (context : Option Context) :
      (machine.world.bus.connect name callback context priority).bus.deferred.waiting =
        machine.waiting := by
    rw [Bus.deferred_connect]
    rfl
  unfold connect
  dsimp only
  split
  · exact (waiting_apply _ _).trans (kept _)
  · exact (waiting_apply _ _).trans (kept _)
  · exact (waiting_apply _ _).trans (kept _)

/-- Starting an operation defers an emission, forgets all, or leaves the queue alone. -/
theorem execute_awaits
    (program : Program)
    (machine : Machine)
    (payload : Payload)
    (operation : Operation) :
    Awaits operation machine.waiting (machine.execute program payload operation).waiting := by
  have applied {effect : Effect}
      (keeps : effect.bus.deferred = machine.world.bus.deferred) :
      Awaits operation machine.waiting (machine.apply effect).waiting := by
    refine .keep ?_
    rw [waiting_apply, keeps]
    rfl
  have deferring {emission : Emission} (defers : operation.Defers emission) :
      Awaits operation machine.waiting
        (machine.apply (machine.world.bus.defer emission)).waiting := by
    rw [waiting_apply]
    exact Bus.awaits_defer _ defers
  have emits (emission : Emission) :
      Awaits operation machine.waiting (machine.beginEmission emission).waiting :=
    .keep (waiting_beginEmission machine emission)
  cases operation with
  | init => exact applied (Bus.deferred_init _)
  | register => exact applied (Bus.deferred_register _ _ _ _)
  | unregister => exact applied (Bus.deferred_unregister _ _)
  | disconnect => exact applied (Bus.deferred_disconnect _ _ _)
  | disconnectHandle => exact applied (Bus.deferred_disconnectHandle _ _)
  | disconnectAll => exact applied (Bus.deferred_disconnectAll _ _)
  | setMaxSlots => exact applied (Bus.deferred_setMaxSlots _ _)
  | timing => exact applied (Bus.deferred_timing _ _)
  | memoryStats => exact applied (Bus.deferred_memoryStats _)
  | setSpace | setThreadSafe | setProfiling | setHook | resetTiming | resetPeak =>
      exact applied rfl
  | connect => exact .keep (waiting_connect _ _ _ _ _ _)
  | cleanup => exact (waiting_apply _ _).symm ▸ Bus.awaits_cleanup _
  | defer emission => exact deferring (Or.inl rfl)
  | forwardDeferred name => exact deferring (Or.inr rfl)
  | emit => exact emits _
  | forward => exact emits _
  | emitIn => exact emits _
  | emitDown request =>
      simp only [execute]
      split
      · cases request with
        | name => exact emits _
        | unreadable => exact .keep rfl
      · exact .keep rfl
  | flush =>
      rw [execute]
      split <;> exact .keep rfl
  | interrupt =>
      rw [execute]
      split <;> exact .keep rfl
  | isInitialized | contains | count | listing | deferredLength | space | drain
  | pendingInterrupts | maxSlots | isThreadSafe | isProfiling | display | batchAdd | batchInfo
  | batchClear | batchEmit | panic | catching | unreadable =>
      exact .keep rfl

/-! ## What moves do to the queue -/

/-- What a move does to the waiting emissions. -/
inductive Queues (before after : Machine) : Prop where
  | keep : after.waiting = before.waiting → Queues before after
  | accept {operation : Operation} {emission : Emission} :
      operation.Defers emission →
      Executes operation before after →
      after.waiting = before.waiting ++ [emission] →
      Queues before after
  /-- A flush takes the oldest. -/
  | take {remaining delivered : Nat} {below : List Frame} {emission : Emission} :
      before.stack = .flush (remaining + 1) delivered :: below →
      before.control = .proceed →
      before.waiting = emission :: after.waiting →
      Queues before after
  | clear : Executes .cleanup before after → after.waiting = [] → Queues before after

theorem Awaits.queues
    {operation : Operation}
    {before after : Machine}
    (awaits : Awaits operation before.waiting after.waiting)
    (executes : Executes operation before after) :
    Queues before after := by
  cases awaits with
  | keep same => exact .keep same
  | accept defers added => exact .accept defers executes added
  | clear cleanup none =>
      subst cleanup
      exact .clear executes none

/-- An emission that leaves its signal leaves the queue alone. -/
theorem waiting_leave (program : Program) (machine : Machine) (walk : Walk) :
    (machine.leave program walk).1.waiting = machine.waiting := by
  rcases leave_fields program machine walk with ⟨_, _, elapsed, bus, _⟩
  rw [waiting, bus, Bus.deferred_leaving]
  rfl

theorem waiting_resume (machine : Machine) (answer : Answer) (frame : Frame) :
    (machine.resume answer frame).waiting = machine.waiting := by
  cases frame with
  | routine commands => cases commands <;> rfl
  | _ => rfl

theorem waiting_unwindThrough
    (program : Program)
    (machine : Machine)
    (message : String)
    (frame : Frame) :
    (machine.unwindThrough program message frame).waiting = machine.waiting := by
  cases frame with
  | walk walk =>
      rw [unwindThrough]
      split
      · rfl
      · exact waiting_leave program machine walk
  | release contexts panic => cases panic <;> rfl
  | _ => rfl

theorem waiting_proceedWalk (program : Program) (machine : Machine) (walk : Walk) :
    (machine.proceedWalk program walk).waiting = machine.waiting := by
  rw [proceedWalk]
  split
  · rfl
  · dsimp only
    split
    · exact waiting_leave program machine walk
    · split <;> rfl

theorem waiting_proceedRelease
    (program : Program)
    (machine : Machine)
    (contexts : List Context)
    (panic : Option String) :
    (machine.proceedRelease program contexts panic).waiting = machine.waiting := by
  rw [proceedRelease.eq_def]
  split
  · split <;> rfl
  · dsimp only
    split
    · rfl
    · split <;> rfl

theorem waiting_proceedReject (program : Program) (machine : Machine) (fault : Fault) :
    (machine.proceedReject program fault).waiting = machine.waiting := by
  rw [proceedReject]
  dsimp only
  split
  · exact waiting_log _ _
  · exact waiting_log _ _

theorem waiting_proceedDrain (machine : Machine) (position delivered : Nat) :
    (machine.proceedDrain position delivered).waiting = machine.waiting := by
  rw [proceedDrain]
  dsimp only
  split
  · exact waiting_log _ _
  · exact waiting_beginEmission _ _

theorem waiting_proceedBatch
    (machine : Machine)
    (entries : List Emission)
    (first : Option Fault) :
    (machine.proceedBatch entries first).waiting = machine.waiting := by
  rw [proceedBatch.eq_def]
  split
  · split <;> rfl
  · exact waiting_beginEmission _ _

/-- An emission that begins, or its fault, is put in front. -/
theorem stack_beginEmission (machine : Machine) (emission : Emission) :
    ∃ frame, (machine.beginEmission emission).stack = frame :: machine.stack := by
  rw [beginEmission]
  dsimp only
  split
  · exact ⟨_, rfl⟩
  · split <;> exact ⟨_, rfl⟩

/-- A flush whose turn it is takes the oldest entry, as long as it may and there is one. -/
theorem proceedFlush_spec (machine : Machine) (remaining delivered : Nat) :
    (machine.proceedFlush remaining delivered).waiting = machine.waiting ∧
        (machine.proceedFlush remaining delivered).stack = machine.stack ∧
        (remaining = 0 ∨ machine.waiting = []) ∨
      ∃ left emission frame,
        remaining = left + 1 ∧
          machine.waiting = emission :: (machine.proceedFlush remaining delivered).waiting ∧
          (machine.proceedFlush remaining delivered).stack =
            frame :: .flush left delivered :: machine.stack := by
  have empty_or_not (queue : DeferredQueue) :
      queue.pop? = none ∧ queue.waiting = [] ∨
        ∃ emission rest, queue.pop? = some (emission, { queue with waiting := rest }) ∧
          queue.waiting = emission :: rest := by
    rw [DeferredQueue.pop?]
    cases queue.waiting with
    | nil => exact Or.inl ⟨rfl, rfl⟩
    | cons emission rest => exact Or.inr ⟨emission, rest, rfl, rfl⟩
  rw [proceedFlush.eq_def]
  cases remaining with
  | zero => exact Or.inl ⟨waiting_log _ _, stack_log _ _, Or.inl rfl⟩
  | succ left =>
      rcases empty_or_not machine.world.bus.deferred with
        ⟨none, empty⟩ | ⟨emission, rest, popped, queue⟩
      · dsimp only
        rw [none]
        exact Or.inl ⟨waiting_log _ _, stack_log _ _, Or.inr empty⟩
      · dsimp only
        rw [popped, Option.map_some]
        dsimp only
        rcases stack_beginEmission
          ((machine.setBus
              { machine.world.bus with
                deferred := { machine.world.bus.deferred with waiting := rest } }).push
            (.flush left delivered)) emission with ⟨frame, stack⟩
        refine Or.inr ⟨left, emission, frame, rfl, ?_, stack⟩
        rw [waiting_beginEmission]
        exact queue

/-- The next move of a frame that is not a flush leaves the queue alone, unless it starts an
operation. -/
theorem waiting_proceed
    (program : Program)
    (machine : Machine)
    {frame : Frame}
    (silent : frame.issued? = none)
    (other : ∀ remaining delivered, frame ≠ .flush remaining delivered) :
    (machine.proceed program frame).waiting = machine.waiting := by
  cases frame with
  | routine commands payload turn =>
      cases commands with
      | nil => rfl
      | cons command rest =>
          rw [Frame.issued?] at silent
          rw [proceed, proceedRoutine]
          split at silent
          · cases silent
          next skipped => rw [if_neg skipped]; rfl
  | walk walk => exact waiting_proceedWalk program machine walk
  | release contexts panic => exact waiting_proceedRelease program machine contexts panic
  | conclude records answer => exact waiting_log machine records
  | reject fault => exact waiting_proceedReject program machine fault
  | flush remaining delivered => exact absurd rfl (other remaining delivered)
  | drain position delivered => exact waiting_proceedDrain machine position delivered
  | batch entries first => exact waiting_proceedBatch machine entries first
  | catching => rfl

/-- A step takes an entry for a flush, or does to the queue what the operation does that it
starts. -/
theorem step_queues (program : Program) (machine : Machine) :
    Queues machine (machine.step program) := by
  cases issued : machine.issued? with
  | some operation =>
      rcases step_of_issued program issued with ⟨started, payload, world, same⟩
      have awaits := execute_awaits program started payload operation
      rw [waiting, world, ← same] at awaits
      exact Awaits.queues awaits (.command program issued)
  | none =>
      cases stack : machine.stack with
      | nil =>
          rw [step, stack]
          exact .keep rfl
      | cons frame below =>
          rw [issued?, stack] at issued
          rw [step, stack]
          cases control : machine.control with
          | aborted => exact .keep rfl
          | answer answer => exact .keep (waiting_resume _ answer frame)
          | unwind message => exact .keep (waiting_unwindThrough program _ message frame)
          | proceed =>
              simp only [control] at issued
              by_cases flushes : ∃ remaining delivered, frame = .flush remaining delivered
              · rcases flushes with ⟨remaining, delivered, rfl⟩
                rcases proceedFlush_spec { machine with stack := below } remaining delivered with
                  ⟨same, _⟩ | ⟨left, emission, _, rfl, taken, _⟩
                · exact .keep same
                · exact .take stack control taken
              · refine .keep (waiting_proceed program _ issued ?_)
                exact fun remaining delivered same => flushes ⟨remaining, delivered, same⟩

theorem Move.queues {before after : Machine} (move : Move before after) :
    Queues before after := by
  cases move with
  | step program => exact step_queues program before
  | perform program operation idle going =>
      exact Awaits.queues
        (execute_awaits program ({ world := before.world } : Machine) .void operation)
        (.session program idle going)

/-! ## Entries by their number -/

/-- Every entry so far: those that wait at the start, then the accepted ones in their order. -/
def entries (trace : Nat → Machine) : Nat → List Emission
  | 0 => (trace 0).waiting
  | time + 1 => entries trace time ++ (trace (time + 1)).waiting.drop (trace time).waiting.length

/-- How many entries have left the queue. -/
def departed (trace : Nat → Machine) : Nat → Nat
  | 0 => 0
  | time + 1 =>
      departed trace time + ((trace time).waiting.length - (trace (time + 1)).waiting.length)

/-- In the move at `moment` an emission is accepted; it becomes the entry of a number. -/
structure Accepts
    (trace : Nat → Machine)
    (moment number : Nat)
    (emission : Emission) : Prop where
  asked : ∃ operation, operation.Defers emission ∧
    Executes operation (trace moment) (trace (moment + 1))
  added : (trace (moment + 1)).waiting = (trace moment).waiting ++ [emission]
  last : number = (entries trace moment).length

/-- A move adds to the end of the queue, or takes from its front. -/
theorem Queues.grows_or_shrinks {before after : Machine} (queues : Queues before after) :
    (∃ added, after.waiting = before.waiting ++ added) ∨
      ∃ gone, before.waiting = gone ++ after.waiting := by
  cases queues with
  | keep same => exact Or.inl ⟨[], same.trans (List.append_nil _).symm⟩
  | accept _ _ added => exact Or.inl ⟨_, added⟩
  | take _ _ taken => exact Or.inr ⟨[_], taken⟩
  | clear _ none => exact Or.inr ⟨before.waiting, by rw [none, List.append_nil]⟩

section

variable {trace : Nat → Machine} {time : Nat}

theorem entries_of_grows
    {added : List Emission}
    (grows : (trace (time + 1)).waiting = (trace time).waiting ++ added) :
    entries trace (time + 1) = entries trace time ++ added ∧
      departed trace (time + 1) = departed trace time := by
  rw [entries, departed, grows, List.drop_left, List.length_append]
  exact ⟨rfl, by omega⟩

theorem entries_of_shrinks
    (gone : List Emission)
    (shrinks : (trace time).waiting = gone ++ (trace (time + 1)).waiting) :
    entries trace (time + 1) = entries trace time ∧
      departed trace (time + 1) = departed trace time + gone.length := by
  rw [entries, departed, shrinks, List.length_append,
    List.drop_eq_nil_of_le (Nat.le_add_left _ _), List.append_nil]
  exact ⟨rfl, by omega⟩

end

/-- An entry keeps its number. -/
theorem entries_from_start (trace : Nat → Machine) :
    ∀ time, (trace 0).waiting <+: entries trace time
  | 0 => List.prefix_rfl
  | time + 1 => (entries_from_start trace time).trans (List.prefix_append _ _)

namespace Run

variable {trace : Nat → Machine} {last : Nat}

/-- What waits is what has not left. -/
theorem waiting_eq (run : Run trace 0 last) :
    ∀ time ≤ last,
      departed trace time ≤ (entries trace time).length ∧
        (entries trace time).drop (departed trace time) = (trace time).waiting := by
  intro time
  induction time with
  | zero => exact fun _ => ⟨Nat.zero_le _, rfl⟩
  | succ time ih =>
      intro bound
      rcases ih (Nat.le_of_succ_le bound) with ⟨within, waits⟩
      rcases (run.moves time (Nat.zero_le _) bound).queues.grows_or_shrinks with
        ⟨added, grows⟩ | ⟨gone, shrinks⟩
      · rcases entries_of_grows grows with ⟨more, same⟩
        rw [more, same, grows, List.drop_append_of_le_length within, waits, List.length_append]
        exact ⟨Nat.le_add_right_of_le within, rfl⟩
      · rcases entries_of_shrinks gone shrinks with ⟨same, more⟩
        have lengths := congrArg List.length waits
        rw [shrinks, List.length_drop, List.length_append] at lengths
        rw [same, more, ← List.drop_drop, waits, shrinks, List.drop_left]
        exact ⟨by omega, rfl⟩

/-- An entry that did not wait at the start was accepted since. -/
theorem accepts_of_late
    (run : Run trace 0 last)
    {number : Nat}
    {emission : Emission}
    (late : (trace 0).waiting.length ≤ number) :
    ∀ time ≤ last, (entries trace time)[number]? = some emission →
      ∃ moment < time, Accepts trace moment number emission := by
  intro time
  induction time with
  | zero =>
      intro _ found
      rw [entries, List.getElem?_eq_none late] at found
      cases found
  | succ time ih =>
      intro bound found
      have earlier (same : entries trace (time + 1) = entries trace time) :
          ∃ moment < time + 1, Accepts trace moment number emission := by
        rw [same] at found
        rcases ih (Nat.le_of_succ_le bound) found with ⟨moment, before, accepts⟩
        exact ⟨moment, Nat.lt_succ_of_lt before, accepts⟩
      have queues := (run.moves time (Nat.zero_le _) bound).queues
      cases queues with
      | keep same =>
          rw [← List.append_nil (trace time).waiting] at same
          exact earlier ((entries_of_grows same).1.trans (List.append_nil _))
      | take _ _ taken =>
          exact earlier (entries_of_shrinks [_] taken).1
      | clear _ none =>
          refine earlier (entries_of_shrinks (trace time).waiting ?_).1
          rw [none, List.append_nil]
      | @accept operation other defers executes added =>
          have more := (entries_of_grows added).1
          rw [more] at found
          rcases Nat.lt_or_ge number (entries trace time).length with inside | beyond
          · rw [List.getElem?_append_left inside] at found
            rcases ih (Nat.le_of_succ_le bound) found with ⟨moment, before, accepts⟩
            exact ⟨moment, Nat.lt_succ_of_lt before, accepts⟩
          · rw [List.getElem?_append_right beyond, List.getElem?_singleton] at found
            split at found
            next first =>
              rw [Option.some.injEq] at found
              subst found
              exact ⟨time, Nat.lt_succ_self _, ⟨operation, defers, executes⟩, added, by omega⟩
            next => cases found

/-- The oldest entry that waits has the number of those that have left. -/
theorem oldest_eq
    (run : Run trace 0 last)
    {time : Nat}
    (bound : time ≤ last)
    {emission : Emission}
    (oldest : (trace time).waiting.head? = some emission) :
    (entries trace time)[departed trace time]? = some emission := by
  rw [← (run.waiting_eq time bound).2, List.head?_drop] at oldest
  exact oldest

end Run

end Machine

end SignalDispatch
