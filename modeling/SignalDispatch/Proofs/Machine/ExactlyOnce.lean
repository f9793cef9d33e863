import SignalDispatch.Proofs.Machine.Backends
import SignalDispatch.Proofs.Machine.Replays

/-!
# The deferred queue hands out every entry at most once, in order

Flushes may be nested in callbacks and hooks, callbacks may defer more, clean the bus up, initialize
it again or panic: along every run from the start of a session the flushes together take what was
accepted, in the order in which it was accepted, and leave out only what a cleanup discarded.
`ExactlyOnce` collects this, when a deferral is accepted and how many entries wait; `FlushAccount`
is about one flush.  `SessionRun.exactlyOnce` shows both of every run.
-/

namespace SignalDispatch.Machine

instance (machine : Machine) (capacity : Nat) : Decidable (machine.Admits capacity) :=
  inferInstanceAs (Decidable (_ ∧ _))

/-- What one flush takes and comes back with. -/
structure FlushAccount (trace : Nat → Machine) (start finish : Nat) : Prop where
  /-- It takes at most as many entries as waited when it started. -/
  bounded :
    (takings (trace start).stack trace (start + 1) finish).length ≤ (trace start).waiting.length
  /-- What it takes is part of what flushes take. -/
  among :
    ((takings (trace start).stack trace (start + 1) finish).map (departed trace)).Sublist
      (dequeued trace finish)
  /-- It answers how many of the emissions succeeded; each of them has come back. -/
  answered :
    ∀ answer,
      (trace start).world.bus.isInitialized →
      (trace finish).stack = (trace start).stack →
      (trace finish).control = .answer answer →
        ∃ replays : List Replay,
          (∀ replay ∈ replays, replay.Recorded (trace start).stack trace) ∧
            takings (trace start).stack trace (start + 1) finish = replays.map Replay.taken ∧
            answer = .number (replays.countP Replay.succeeded)
  /-- A panic comes from the emission of the last entry that it took; the others have come back, and
  the panic takes nothing out of the queue. -/
  panicked :
    ∀ message,
      (trace start).world.bus.isInitialized →
      (trace finish).stack = (trace start).stack →
      (trace finish).control = .unwind message →
        ∃ (replays : List Replay) (moment : Nat) (emission : Emission),
          (∀ replay ∈ replays, replay.Recorded (trace start).stack trace) ∧
            takings (trace start).stack trace (start + 1) finish =
              replays.map Replay.taken ++ [moment] ∧
            (trace moment).waiting = emission :: (trace (moment + 1)).waiting ∧
            (trace finish).waiting = (trace (finish - 1)).waiting
  /-- While the bus is not initialized it takes nothing. -/
  refused :
    ¬ (trace start).world.bus.isInitialized →
      takings (trace start).stack trace (start + 1) finish = []

/-- Every accepted emission leaves the deferred queue at most once, and in order. -/
structure ExactlyOnce (capacity : Nat) (trace : Nat → Machine) (last : Nat) : Prop where
  /-- What flushes took, and then what waits, is what was accepted without what was discarded. -/
  order :
    ∀ time ≤ last,
      dequeued trace time ++ List.range' (departed trace time) (trace time).waiting.length =
        (List.range (entries trace time).length).filter
          fun number => number ∉ discarded trace time
  once : ∀ time ≤ last, (dequeued trace time ++ discarded trace time).Nodup
  /-- What waits are the entries that have not left, in order. -/
  waits :
    ∀ time ≤ last, (trace time).waiting = (entries trace time).drop (departed trace time)
  /-- What waits later is what waits now, with what is accepted meanwhile, without what leaves
  meanwhile. -/
  kept :
    ∀ time later, time ≤ later → later ≤ last →
      (trace later).waiting =
        ((trace time).waiting ++ (entries trace later).drop (entries trace time).length).drop
          (departed trace later - departed trace time)
  /-- A deferral becomes an entry exactly if the bus is initialized and has room for it. -/
  accepted :
    ∀ time < last, ∀ operation emission,
      Executes operation (trace time) (trace (time + 1)) →
      operation.deferred? (trace time).payload = some emission →
        entries trace (time + 1) =
          entries trace time ++ if (trace time).Admits capacity then [emission] else []
  /-- Nothing else becomes one. -/
  only :
    ∀ time < last, entries trace (time + 1) ≠ entries trace time →
      ∃ operation emission,
        Executes operation (trace time) (trace (time + 1)) ∧
          operation.deferred? (trace time).payload = some emission ∧
          (trace time).Admits capacity
  /-- The caller is told which. -/
  told :
    ∀ start finish operation emission answer,
      finish ≤ last →
      Call operation trace start finish →
      operation.deferred? (trace start).payload = some emission →
      (trace finish).stack = (trace start).stack →
      (trace finish).control = .answer answer →
        (answer.fault? = none ↔ (trace start).Admits capacity)
  /-- A flush that takes an entry begins to emit it. -/
  emitted :
    ∀ time < last, (trace time).takes →
      ∃ left delivered below emission,
        (trace time).stack = .flush (left + 1) delivered :: below ∧
          (entries trace time)[departed trace time]? = some emission ∧
          Emits (.flush left delivered :: below) trace emission time (time + 1)
  /-- Only a cleanup discards, and it discards all that waits. -/
  discards :
    ∀ time < last, discarded trace (time + 1) ≠ discarded trace time →
      Executes .cleanup (trace time) (trace (time + 1)) ∧
        discarded trace (time + 1) =
          discarded trace time ++
            List.range' (departed trace time) (trace time).waiting.length
  /-- How many wait is how many were accepted and neither taken nor discarded. -/
  length :
    ∀ time ≤ last,
      (trace time).waiting.length =
        (entries trace time).length - (dequeued trace time).length - (discarded trace time).length
  /-- And this is what the caller is told. -/
  counted :
    ∀ time < last, Executes .deferredLength (trace time) (trace (time + 1)) →
      (trace (time + 1)).control =
        .answer
          (.number
            ((entries trace time).length - (dequeued trace time).length -
              (discarded trace time).length))
  flushes :
    ∀ start finish, finish ≤ last → Call .flush trace start finish →
      FlushAccount trace start finish

/-! ## One flush -/

section

variable {trace : Nat → Machine} {start finish : Nat}

/-- A flush of an initialized bus begins with its turn, and may take what waits. -/
theorem Call.flush_begins
    (call : Call .flush trace start finish)
    (initialized : (trace start).world.bus.isInitialized) :
    Flushing (trace start).stack trace (start + 1) (trace start).waiting.length (start + 1) := by
  have nothing : takings (trace start).stack trace (start + 1) (start + 1) = [] := by
    rw [takings, List.filter_eq_nil_iff]
    intro moment member
    have early := List.mem_range.mp member
    simp [Nat.not_le_of_lt early]
  rcases call.made.eq_execute with ⟨program, payload, started, world, stack, same⟩
  rw [execute, if_pos (world ▸ initialized), world] at same
  refine @Flushing.ready _ _ _ _ _ [] (trace start).waiting.length (List.forall_mem_nil _) nothing
    ?_ ?_ ?_
  · exact (Nat.zero_add _).le
  · rw [same, ← stack]
    rfl
  · rw [same]
    rfl

/-- A flush of an initialized bus goes on, or it has come to its end. -/
theorem Call.flush_goes
    (call : Call .flush trace start finish)
    (initialized : (trace start).world.bus.isInitialized)
    {time : Nat}
    (early : start + 1 ≤ time)
    (late : time ≤ finish) :
    Flushing (trace start).stack trace (start + 1) (trace start).waiting.length time ∧
        (trace time).stack ≠ (trace start).stack ∨
      ∃ moment, time = moment + 1 ∧ (trace time).stack = (trace start).stack ∧
        FlushEnd (trace start).stack trace (start + 1) (trace start).waiting.length moment := by
  have stays {time : Nat}
      (flushing :
        Flushing (trace start).stack trace (start + 1) (trace start).waiting.length time) :
      (trace time).stack ≠ (trace start).stack := by
    cases flushing with
    | ready _ _ _ stack => exact (Bears.of_stack stack).ne_below
    | busy _ bears =>
        rcases bears with ⟨above, stack⟩
        exact Bears.ne_below ⟨above ++ [_], stack.trans (List.append_cons _ _ _)⟩
    | back _ stack => exact (Bears.of_stack stack).ne_below
    | failed _ stack => exact (Bears.of_stack stack).ne_below
  have begins := call.flush_begins initialized
  refine call.span.invariant
    (fun time =>
      Flushing (trace start).stack trace (start + 1) (trace start).waiting.length time ∧
          (trace time).stack ≠ (trace start).stack ∨
        ∃ moment, time = moment + 1 ∧ (trace time).stack = (trace start).stack ∧
          FlushEnd (trace start).stack trace (start + 1) (trace start).waiting.length moment)
    (Or.inl ⟨begins, stays begins⟩) ?_ time early late
  rintro time early _ move busy (⟨flushing, _⟩ | ⟨_, _, back, _⟩)
  · rcases flushing.move early move with next | ⟨back, ended⟩
    · exact Or.inl ⟨next, stays next⟩
    · exact Or.inr ⟨time, rfl, back, ended⟩
  · exact absurd back busy

/-- A flush of a bus that is not initialized reports a fault and takes nothing. -/
theorem Call.takings_of_refused
    (call : Call .flush trace start finish)
    (refused : ¬ (trace start).world.bus.isInitialized) :
    takings (trace start).stack trace (start + 1) finish = [] := by
  rcases call.made.eq_execute with ⟨program, payload, started, world, stack, same⟩
  rw [execute, if_neg (world ▸ refused)] at same
  have rejects : (trace (start + 1)).Bears (trace start).stack (.reject Fault.notInitialized) :=
    .of_stack (by rw [same, ← stack]; rfl)
  rw [takings, List.filter_eq_nil_iff]
  intro moment member
  have late := List.mem_range.mp member
  simp only [Bool.and_eq_true, decide_eq_true_eq, not_and]
  intro early replaying
  rcases call.span.bears rejects early late with ⟨frame, bears, reached⟩
  have fails := Frame.keeps_of_continues Frame.Continues.fails reached
    (show Frame.Fails Fault.notInitialized (.reject Fault.notInitialized) from rfl)
  rcases Option.isSome_iff_exists.mp replaying with ⟨emission, replays⟩
  rcases (replaying?_eq_some_iff _ _ _).mp replays with ⟨left, delivered, innermost, _⟩
  rw [bears.eq (.of_stack innermost)] at fails
  cases fails

theorem Call.flushAccount (call : Call .flush trace start finish) :
    FlushAccount trace start finish := by
  have begins := call.begins
  by_cases initialized : (trace start).world.bus.isInitialized
  · have goes := call.flush_goes initialized begins (Nat.le_refl finish)
    constructor
    · rcases goes with ⟨flushing, _⟩ | ⟨moment, rfl, _, ended⟩
      · exact flushing.length_takings
      · exact ended.length_takings
    · refine List.Sublist.map _ (List.monotone_filter_right _ fun moment turn => ?_)
      rw [Bool.and_eq_true] at turn
      rcases Option.isSome_iff_exists.mp turn.2 with ⟨emission, replays⟩
      rcases (replaying?_eq_some_iff _ _ _).mp replays with ⟨left, delivered, stack, control, head⟩
      rcases List.head?_eq_some_iff.mp head with ⟨rest, waits⟩
      exact takes_iff.mpr ⟨left, delivered, _, emission, rest, stack, control, waits⟩
    · intro answer _ back control
      rcases goes with ⟨_, busy⟩ | ⟨moment, rfl, _, ended⟩
      · exact absurd back busy
      · cases ended with
        | answered recorded taken _ control' =>
            rw [control] at control'
            cases control'
            exact ⟨_, recorded, taken, rfl⟩
        | panicked _ _ _ control' =>
            rw [control] at control'
            cases control'
    · intro message _ back control
      rcases goes with ⟨_, busy⟩ | ⟨moment, rfl, _, ended⟩
      · exact absurd back busy
      · cases ended with
        | answered _ _ _ control' =>
            rw [control] at control'
            cases control'
        | @panicked replays left taken _ out same _ _ waiting =>
            rcases out.emits with ⟨emission, head, begins, span⟩
            rcases List.head?_eq_some_iff.mp head with ⟨rest, waits⟩
            refine ⟨replays, taken, emission, out.recorded, same.trans out.taken, ?_, waiting⟩
            -- the move at `taken` only takes the entry that is emitted
            have turn : (trace taken).takes :=
              takes_iff.mpr ⟨left, _, _, emission, rest, out.stack, out.control, waits⟩
            have member : taken ∈ takings (trace start).stack trace (start + 1) (moment + 1) := by
              rw [same, out.taken]
              exact List.mem_append_right _ (List.mem_singleton_self _)
            have among := List.mem_filter.mp member
            simp only [Bool.and_eq_true, decide_eq_true_eq] at among
            have move := call.span.moves taken among.2.1 (List.mem_range.mp among.1)
            rcases move.of_takes turn with ⟨_, _, _, oldest, _, _, taken', _⟩
            rw [waits] at taken'
            rw [waits, (List.cons.inj taken').2]
    · exact fun refused => absurd initialized refused
  · have nothing := call.takings_of_refused initialized
    refine ⟨?_, ?_, ?_, ?_, fun _ => nothing⟩
    · simp [nothing]
    · simp [nothing]
    · exact fun _ ready => absurd ready initialized
    · exact fun _ ready => absurd ready initialized

end

/-! ## Every run -/

section

variable {trace : Nat → Machine} {time later last start finish : Nat} {operation : Operation}
  {emission : Emission}

/-- Entries are only added, and their departure is never taken back. -/
theorem entries_later (trace : Nat → Machine) (ordered : time ≤ later) :
    entries trace time <+: entries trace later ∧ departed trace time ≤ departed trace later := by
  induction ordered with
  | refl => exact ⟨List.prefix_rfl, Nat.le_refl _⟩
  | step _ ih => exact ⟨ih.1.trans (List.prefix_append _ _), ih.2.trans (Nat.le_add_right _ _)⟩

/-- What waits later is accounted for by what waits now, what is added and what leaves. -/
theorem Run.waiting_later
    (run : Run trace 0 last)
    (ordered : time ≤ later)
    (bound : later ≤ last) :
    (trace later).waiting =
      ((trace time).waiting ++ (entries trace later).drop (entries trace time).length).drop
        (departed trace later - departed trace time) := by
  rcases run.waiting_eq time (ordered.trans bound) with ⟨within, waits⟩
  rcases run.waiting_eq later bound with ⟨_, waits'⟩
  rcases entries_later trace ordered with ⟨⟨added, same⟩, more⟩
  rw [← waits', ← waits, ← same, List.drop_left, ← List.drop_append_of_le_length within,
    List.drop_drop, Nat.add_sub_cancel' more]

/-- The answer to a deferral says whether it was accepted. -/
theorem Call.deferral_answer
    {answer : Answer}
    (call : Call operation trace start finish)
    (asks : operation.deferred? (trace start).payload = some emission)
    (back : (trace finish).stack = (trace start).stack)
    (control : (trace finish).control = .answer answer) :
    answer.fault? = none ↔ (trace start).Admits (trace start).room := by
  by_cases admits : (trace start).Admits (trace start).room
  · rcases (call.made.admitted asks admits).2 with ⟨records, stack, _⟩
    have concludes : (trace (start + 1)).Bears (trace start).stack (.conclude records .done) :=
      ⟨[_], stack⟩
    rcases call.span.returned concludes back with ⟨frame, reached, returns⟩
    have succeeds := Frame.keeps_of_continues Frame.Continues.succeeds reached
      (show Frame.Succeeds (.conclude records .done) from rfl)
    refine iff_of_true ?_ admits
    cases answer with
    | fault cause => exact absurd control (returns.unfaulted succeeds cause)
    | _ => rfl
  · rcases (call.made.turnedAway asks admits).2 with ⟨fault, stack, _⟩
    have rejects : (trace (start + 1)).Bears (trace start).stack (.reject fault) := ⟨[_], stack⟩
    rcases call.span.returned rejects back with ⟨frame, reached, returns⟩
    have fails := Frame.keeps_of_continues Frame.Continues.fails reached
      (show Frame.Fails fault (.reject fault) from rfl)
    refine iff_of_false ?_ admits
    rcases returns.of_fails fails with same | ⟨message, same⟩
    · rw [control] at same
      cases same
      exact Option.some_ne_none _
    · rw [control] at same
      cases same

/-- Along every run of a session the deferred queue hands out every entry at most once, and in
order. -/
theorem SessionRun.exactlyOnce
    {backend : Backend}
    {config : Config}
    (session : SessionRun trace last)
    (starts : trace 0 = initial backend config) :
    ExactlyOnce (max 1 config.deferredCapacity) trace last := by
  have room := session.room_eq starts
  have lengths {time : Nat} (bound : time ≤ last) :
      (trace time).waiting.length =
        (entries trace time).length - (dequeued trace time).length -
          (discarded trace time).length := by
    have all := session.length_entries bound
    have left := (session.numbered time bound).departed_eq
    omega
  constructor
  case order => exact fun time bound => session.dequeued_eq bound
  case once => exact fun time bound => (session.numbered time bound).nodup_append
  case waits => exact fun time bound => (session.run.waiting_eq time bound).2.symm
  case kept => exact fun time later ordered bound => session.run.waiting_later ordered bound
  case length => exact fun time bound => lengths bound
  case flushes => exact fun start finish _ call => call.flushAccount
  case accepted =>
    intro time bound operation emission executes asks
    rw [← room time (Nat.le_of_lt bound)]
    split
    next admits => exact (entries_of_grows (executes.admitted asks admits).1).1
    next full =>
      have same := (executes.turnedAway asks full).1
      rw [← List.append_nil (trace time).waiting] at same
      exact (entries_of_grows same).1
  case only =>
    intro time bound grown
    rw [← room time (Nat.le_of_lt bound)]
    have move := session.moves time bound
    cases turn : (trace time).takes with
    | true =>
        rcases move.of_takes turn with ⟨_, _, _, emission, _, _, taken, _⟩
        exact absurd (entries_of_shrinks [emission] taken).1 grown
    | false =>
        cases move.untaken turn with
        | accept executes asks admits => exact ⟨_, _, executes, asks, admits⟩
        | keep same =>
            rw [← List.append_nil (trace time).waiting] at same
            exact absurd ((entries_of_grows same).1.trans (List.append_nil _)) grown
        | clear _ none =>
            refine absurd (entries_of_shrinks (trace time).waiting ?_).1 grown
            rw [none, List.append_nil]
  case told =>
    intro start finish operation emission answer bound call asks back control
    rw [← room start (Nat.le_of_lt (Nat.lt_of_lt_of_le call.begins bound))]
    exact call.deferral_answer asks back control
  case emitted =>
    intro time bound turn
    rcases (session.moves time bound).of_takes turn with
      ⟨left, delivered, below, emission, under, stack, waits, reached, _, same⟩
    refine ⟨left, delivered, below, emission, stack, ?_, ⟨under, reached, same⟩, ?_⟩
    · exact session.run.oldest_eq (Nat.le_of_lt bound) (by rw [waits, List.head?_cons])
    · exact ⟨Nat.le_refl _, fun _ late early => absurd early (Nat.not_lt_of_le late),
        fun _ late early => absurd early (Nat.not_lt_of_le late)⟩
  case discards =>
    intro time bound changed
    have move := session.moves time bound
    cases turn : (trace time).takes with
    | true => exact absurd (numbers_of_takes move turn).2.1 changed
    | false =>
        rcases numbers_of_idle turn with ⟨_, gone, _⟩
        have stays (same : departed trace (time + 1) = departed trace time) :
            discarded trace (time + 1) = discarded trace time := by
          rw [gone, same, Nat.sub_self, List.range'_zero, List.append_nil]
        cases move.untaken turn with
        | accept _ _ _ added => exact absurd (stays (entries_of_grows added).2) changed
        | keep same =>
            rw [← List.append_nil (trace time).waiting] at same
            exact absurd (stays (entries_of_grows same).2) changed
        | clear executes none =>
            have shrinks : (trace time).waiting = (trace time).waiting ++
                (trace (time + 1)).waiting := by rw [none, List.append_nil]
            refine ⟨executes, ?_⟩
            rw [gone, (entries_of_shrinks _ shrinks).2, Nat.add_sub_cancel_left]
  case counted =>
    intro time bound executes
    rw [← lengths (Nat.le_of_lt bound)]
    rcases executes.eq_execute with ⟨program, payload, started, world, _, same⟩
    rw [same, execute, world]
    rfl

end

/-- The callback flushes the queue in its first turn and panics in its third; another routine
flushes the queue too. -/
def collapsing : Program where
  routines :=
    [{ turns := 3
       commands :=
        [{ label := "flush", turn := some 1, operation := .flush },
          { label := "panic", turn := some 3, operation := .panic "third" }] },
      { commands := [{ label := "flush", operation := .flush }] }]

/-- Five deferrals for four places, a flush that collapses, a cleanup and a new start. -/
def collapsingOperations : List Operation :=
  [.init, .register "signal" none none, .connect "signal" 0 none none .nowhere,
    .defer ⟨"signal", .int 0⟩, .defer ⟨"signal", .int 1⟩, .defer ⟨"signal", .int 2⟩,
    .defer ⟨"signal", .int 3⟩, .defer ⟨"signal", .int 4⟩, .catching 1, .cleanup, .init,
    .defer ⟨"signal", .int 5⟩, .flush]

/-- The states of this session. -/
def collapsed (time : Nat) : Machine :=
  (session collapsing .heap { deferredCapacity := 4 } collapsingOperations time).1

/-- The nested flush takes the second entry and the one that panics, the fourth is discarded, and
the entry that was accepted after the new start is taken as well. -/
theorem exactlyOnce_collapsed :
    ExactlyOnce 4 collapsed 80 ∧
      dequeued collapsed 80 = [0, 1, 2, 4] ∧ discarded collapsed 80 = [3] ∧
      (entries collapsed 80).map Emission.payload = [.int 0, .int 1, .int 2, .int 3, .int 5] :=
  ⟨SessionRun.exactlyOnce
      (sessionRun_session collapsing .heap { deferredCapacity := 4 } collapsingOperations 80) rfl,
    by decide +kernel, by decide +kernel, by decide +kernel⟩

end SignalDispatch.Machine
