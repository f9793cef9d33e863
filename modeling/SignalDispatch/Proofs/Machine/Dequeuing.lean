import SignalDispatch.Proofs.Machine.Capacity
import Mathlib.Data.List.Range

/-!
# Accepted, dequeued, discarded

An entry of the deferred queue leaves it in one of two ways: a flush takes it, which may be any of
the flushes that are under way, or a cleanup discards it.  Entries are known by their number, the
order in which they were accepted.  `Machine.dequeued` lists the numbers that flushes took, in the
order in which they took them, and `Machine.discarded` those that cleanups threw away.

`SessionRun.dequeued_eq` is what a run preserves: what flushes took is what was accepted, in that
order, without what was discarded.  `Executes.admitted` and `Executes.turnedAway` say which
deferrals are accepted.
-/

namespace SignalDispatch

/-- The emission that an operation asks to be deferred, with the payload that user code has. -/
def Operation.deferred? (payload : Payload) : Operation → Option Emission
  | .defer emission => some emission
  | .forwardDeferred name => some ⟨name, payload⟩
  | _ => none

namespace Machine

/-- The payload that user code has; a session has none. -/
def payload (machine : Machine) : Payload :=
  match machine.stack with
  | .routine _ payload _ :: _ => payload
  | _ => .void

/-- A deferral is accepted: the bus is initialized and there is room in the queue. -/
def Admits (machine : Machine) (capacity : Nat) : Prop :=
  machine.world.bus.isInitialized ∧ machine.waiting.length < capacity

/-- A flush takes the oldest entry in the next move. -/
def takes (machine : Machine) : Bool :=
  match machine.stack, machine.control with
  | .flush (_ + 1) _ :: _, .proceed => !machine.waiting.isEmpty
  | _, _ => false

/-- The numbers of the entries that flushes took before a time, in the order in which they did. -/
def dequeued (trace : Nat → Machine) (time : Nat) : List Nat :=
  ((List.range time).filter fun moment => (trace moment).takes).map (departed trace)

/-- The numbers of the entries that left the queue otherwise before a time. -/
def discarded (trace : Nat → Machine) : Nat → List Nat
  | 0 => []
  | time + 1 =>
      discarded trace time ++
        if (trace time).takes then []
        else
          List.range' (departed trace time)
            (departed trace (time + 1) - departed trace time)

/-! ## Starting an operation -/

variable {machine before after : Machine} {operation : Operation} {emission : Emission}

/-- User code starts its operation with the payload that it has. -/
theorem step_of_issued_payload
    (program : Program)
    (issued : machine.issued? = some operation) :
    machine.step program = machine.execute program machine.payload operation := by
  rcases machine with ⟨world, stack, control, events⟩
  rcases stack with _ | ⟨frame, below⟩
  · cases issued
  · cases control with
    | answer | unwind | aborted => cases issued
    | proceed =>
        cases frame with
        | walk | release | conclude | reject | flush | drain | batch | catching => cases issued
        | routine commands payload turn =>
            cases commands with
            | nil => cases issued
            | cons command rest =>
                simp only [issued?, Frame.issued?] at issued
                split at issued
                next due =>
                  cases issued
                  simp only [step, proceed, proceedRoutine, if_pos due]
                  rfl
                next => cases issued

/-- An operation is started in the world, on the stack and with the payload that the move finds. -/
theorem Executes.eq_execute_payload (executes : Executes operation before after) :
    ∃ program started, started.world = before.world ∧ started.stack = before.stack ∧
      after = execute program started before.payload operation := by
  cases executes with
  | command program issued =>
      exact ⟨program, before, rfl, rfl, step_of_issued_payload program issued⟩
  | session program idle going =>
      refine ⟨program, { world := before.world }, rfl, idle.symm, ?_⟩
      rw [payload, idle, perform]

theorem execute_of_deferred?
    (program : Program)
    (machine : Machine)
    {payload : Payload}
    (asks : operation.deferred? payload = some emission) :
    machine.execute program payload operation =
      machine.apply (machine.world.bus.defer emission) := by
  cases operation <;> cases asks <;> rfl

/-- A call that succeeded lets go of what it has to and then concludes. -/
theorem stack_apply_of_ok
    {effect : Effect}
    {answer : Answer}
    (succeeded : effect.result = .ok answer) :
    (machine.apply effect).stack =
        .release effect.released none :: .conclude effect.after answer :: machine.stack ∧
      (machine.apply effect).control = .proceed := by
  have same := stack_log (machine.setBus effect.bus) effect.before
  rw [apply, succeeded]
  exact ⟨congrArg (fun rest => _ :: _ :: rest) same, rfl⟩

/-- A deferral that is accepted adds its emission at the end of the queue. -/
theorem Executes.admitted
    (executes : Executes operation before after)
    (asks : operation.deferred? before.payload = some emission)
    (admits : before.Admits before.room) :
    after.waiting = before.waiting ++ [emission] ∧
      ∃ records,
        after.stack = .release [] none :: .conclude records .done :: before.stack ∧
          after.control = .proceed := by
  rcases executes.eq_execute_payload with ⟨program, started, world, stack, rfl⟩
  rcases admits with ⟨initialized, inside⟩
  rw [execute_of_deferred? program started asks, world, ← stack,
    before.world.bus.defer_of_room initialized inside, waiting_apply]
  exact ⟨rfl, _, stack_apply_of_ok rfl⟩

/-- A deferral that is not accepted leaves the queue alone and is about to report a fault. -/
theorem Executes.turnedAway
    (executes : Executes operation before after)
    (asks : operation.deferred? before.payload = some emission)
    (full : ¬ before.Admits before.room) :
    after.waiting = before.waiting ∧
      ∃ fault,
        after.stack = .release [] none :: .reject fault :: before.stack ∧
          after.control = .proceed := by
  rcases executes.eq_execute_payload with ⟨program, started, world, stack, rfl⟩
  rw [execute_of_deferred? program started asks, world, ← stack]
  have fails : ∃ fault, before.world.bus.defer emission = before.world.bus.failing fault := by
    rw [Bus.defer, Bus.withRegistry]
    cases present : before.world.bus.registry with
    | none => exact ⟨_, rfl⟩
    | some registry =>
        have refused : ¬ before.world.bus.deferred.length < before.world.bus.deferred.capacity := by
          intro inside
          refine full ⟨?_, inside⟩
          rw [Bus.isInitialized, present]
          rfl
        simp only [DeferredQueue.push, if_neg refused]
        exact ⟨_, rfl⟩
  rcases fails with ⟨fault, failing⟩
  rw [failing, waiting_apply]
  exact ⟨rfl, fault, stack_apply_of_error rfl, rfl⟩

/-! ## Moves -/

theorem takes_iff :
    machine.takes ↔
      ∃ left delivered below emission rest,
        machine.stack = .flush (left + 1) delivered :: below ∧ machine.control = .proceed ∧
          machine.waiting = emission :: rest := by
  rw [takes.eq_def]
  constructor
  · intro turn
    split at turn
    next left delivered below stack proceeds =>
      cases waits : machine.waiting with
      | nil => simp [waits] at turn
      | cons emission rest => exact ⟨left, delivered, below, emission, rest, stack, proceeds, rfl⟩
    next => cases turn
  · rintro ⟨left, delivered, below, emission, rest, stack, proceeds, waits⟩
    simp [stack, proceeds, waits]

/-- A flush that takes the oldest entry begins its emission, and changes nothing else. -/
theorem Move.of_takes (move : Move before after) (takes : before.takes) :
    ∃ (left delivered : Nat) (below : List Frame) (emission : Emission) (under : Machine),
      before.stack = .flush (left + 1) delivered :: below ∧
        before.waiting = emission :: after.waiting ∧
        under.stack = .flush left delivered :: below ∧
        under.world =
          { before.world with
            bus :=
              { before.world.bus with
                deferred := { before.world.bus.deferred with waiting := after.waiting } } } ∧
        after = under.beginEmission emission := by
  rcases takes_iff.mp takes with ⟨left, delivered, below, emission, rest, stack, proceeds, waits⟩
  cases move with
  | perform program operation idle => simp [idle] at stack
  | step program =>
      have popped :
          before.world.bus.deferred.pop? =
            some (emission, { before.world.bus.deferred with waiting := rest }) := by
        rw [DeferredQueue.pop?,
          show before.world.bus.deferred.waiting = emission :: rest from waits]
      have stepped :
          before.step program =
            ((({ before with stack := below } : Machine).setBus
                { before.world.bus with
                  deferred := { before.world.bus.deferred with waiting := rest } }).push
              (.flush left delivered)).beginEmission emission := by
        rw [step_of_proceed program stack proceeds, proceed, proceedFlush]
        simp only [popped, Option.map_some]
      have same : (before.step program).waiting = rest := by
        rw [stepped, waiting_beginEmission]
        rfl
      rw [same]
      exact ⟨left, delivered, below, emission, _, stack, waits, rfl, rfl, stepped⟩

/-- What a move does to the queue, when no flush takes an entry. -/
inductive Untaken (before after : Machine) : Prop where
  | keep : after.waiting = before.waiting → Untaken before after
  | accept {operation : Operation} {emission : Emission} :
      Executes operation before after →
      operation.deferred? before.payload = some emission →
      before.Admits before.room →
      after.waiting = before.waiting ++ [emission] →
      Untaken before after
  | clear : Executes .cleanup before after → after.waiting = [] → Untaken before after

/-- An operation that asks for an emission to be deferred asks for one with a payload. -/
theorem Operation.Defers.deferred?
    (defers : operation.Defers emission)
    (payload : Payload) :
    ∃ asked, operation.deferred? payload = some asked := by
  rcases defers with rfl | rfl
  · exact ⟨_, rfl⟩
  · exact ⟨_, rfl⟩

theorem Move.untaken (move : Move before after) (idle : before.takes = false) :
    Untaken before after := by
  cases move.queues with
  | keep same => exact .keep same
  | clear executes none => exact .clear executes none
  | take stack proceeds taken =>
      rw [Bool.eq_false_iff] at idle
      exact absurd (takes_iff.mpr ⟨_, _, _, _, _, stack, proceeds, taken⟩) idle
  | @accept operation emission defers executes added =>
      rcases Operation.Defers.deferred? defers before.payload with ⟨asked, asks⟩
      by_cases admits : before.Admits before.room
      · exact .accept executes asks admits (executes.admitted asks admits).1
      · exact .keep (executes.turnedAway asks admits).1

/-! ## Numbers -/

section

variable {trace : Nat → Machine} {time last : Nat}

theorem dequeued_succ (trace : Nat → Machine) (time : Nat) :
    dequeued trace (time + 1) =
      dequeued trace time ++ if (trace time).takes then [departed trace time] else [] := by
  rw [dequeued, List.range_succ, List.filter_append, List.map_append, ← dequeued,
    List.filter_singleton]
  cases (trace time).takes <;> rfl

/-- What becomes of the numbers when a flush takes an entry. -/
theorem numbers_of_takes
    (move : Move (trace time) (trace (time + 1)))
    (takes : (trace time).takes) :
    dequeued trace (time + 1) = dequeued trace time ++ [departed trace time] ∧
      discarded trace (time + 1) = discarded trace time ∧
      departed trace (time + 1) = departed trace time + 1 := by
  rcases move.of_takes takes with ⟨_, _, _, emission, _, _, taken, _⟩
  refine ⟨?_, ?_, (entries_of_shrinks [emission] taken).2⟩
  · rw [dequeued_succ, if_pos takes]
  · rw [discarded, if_pos takes, List.append_nil]

/-- What becomes of the numbers when no flush takes an entry. -/
theorem numbers_of_idle (idle : (trace time).takes = false) :
    dequeued trace (time + 1) = dequeued trace time ∧
      discarded trace (time + 1) =
        discarded trace time ++
          List.range' (departed trace time) (departed trace (time + 1) - departed trace time) ∧
      departed trace time ≤ departed trace (time + 1) := by
  refine ⟨?_, ?_, ?_⟩
  · simp [dequeued_succ, idle]
  · simp [discarded, idle]
  · rw [departed]
    exact Nat.le_add_right _ _

/-- What flushes took and what cleanups discarded is apart, and is all that has left the queue. -/
structure Numbered (trace : Nat → Machine) (time : Nat) : Prop where
  taken :
    dequeued trace time =
      (List.range (departed trace time)).filter fun number => number ∉ discarded trace time
  passed : ∀ number ∈ discarded trace time, number < departed trace time
  nodup : (discarded trace time).Nodup

theorem Numbered.zero (trace : Nat → Machine) : Numbered trace 0 :=
  ⟨rfl, by simp [discarded], by simp [discarded]⟩

theorem Numbered.succ
    (numbered : Numbered trace time)
    (move : Move (trace time) (trace (time + 1))) :
    Numbered trace (time + 1) := by
  rcases numbered with ⟨taken, passed, nodup⟩
  cases turn : (trace time).takes with
  | true =>
      rcases numbers_of_takes move turn with ⟨added, same, more⟩
      constructor
      · have fresh : departed trace time ∉ discarded trace time :=
          fun gone => Nat.lt_irrefl _ (passed _ gone)
        rw [added, same, more, taken, List.range_succ, List.filter_append]
        simp [fresh]
      · intro number gone
        rw [same] at gone
        rw [more]
        exact Nat.lt_succ_of_lt (passed number gone)
      · rwa [same]
  | false =>
      rcases numbers_of_idle turn with ⟨same, gone, order⟩
      rcases Nat.exists_eq_add_of_le order with ⟨count, sum⟩
      rw [sum, Nat.add_sub_cancel_left] at gone
      constructor
      · -- the numbers that are discarded now are those that `departed` goes past
        have dropped :
            (List.range' (departed trace time) count).filter
                (fun number => number ∉ discarded trace (time + 1)) =
              [] := by
          rw [List.filter_eq_nil_iff]
          intro number member
          simp [gone, List.mem_range'_1.mp member]
        rw [same, sum, List.range_add, List.filter_append, ← List.range'_eq_map_range, dropped,
          List.append_nil, taken]
        apply List.filter_congr
        intro number member
        have early : ¬ departed trace time ≤ number := by
          have bound := List.mem_range.mp member
          omega
        simp [gone, List.mem_range'_1, early]
      · intro number member
        rw [gone, List.mem_append] at member
        rw [sum]
        rcases member with earlier | now
        · have bound := passed number earlier
          omega
        · exact (List.mem_range'_1.mp now).2
      · rw [gone]
        refine nodup.append List.nodup_range' ?_
        intro number earlier now
        have bound := passed number earlier
        have first := (List.mem_range'_1.mp now).1
        omega

/-- Nothing is both taken and discarded, or taken or discarded twice. -/
theorem Numbered.nodup_append (numbered : Numbered trace time) :
    (dequeued trace time ++ discarded trace time).Nodup := by
  rw [numbered.taken]
  refine (List.nodup_range.filter _).append numbered.nodup ?_
  intro number taken gone
  simp only [List.mem_filter, decide_eq_true_eq] at taken
  exact taken.2 gone

/-- How many entries have left the queue is how many were taken and how many were discarded. -/
theorem Numbered.departed_eq (numbered : Numbered trace time) :
    departed trace time = (dequeued trace time).length + (discarded trace time).length := by
  have members :
      (dequeued trace time ++ discarded trace time).Perm
        (List.range (departed trace time)) := by
    refine (List.perm_ext_iff_of_nodup numbered.nodup_append List.nodup_range).mpr fun number => ?_
    have known := numbered.passed number
    rw [List.mem_append, numbered.taken, List.mem_filter, List.mem_range, decide_eq_true_eq]
    constructor
    · rintro (⟨bound, _⟩ | gone)
      · exact bound
      · exact known gone
    · intro bound
      by_cases gone : number ∈ discarded trace time
      · exact Or.inr gone
      · exact Or.inl ⟨bound, gone⟩
  rw [← List.length_append, members.length_eq, List.length_range]

end

namespace SessionRun

variable {trace : Nat → Machine} {last : Nat}

theorem numbered (session : SessionRun trace last) :
    ∀ time ≤ last, Numbered trace time := by
  intro time
  induction time with
  | zero => exact fun _ => .zero trace
  | succ time ih => exact fun bound => (ih (Nat.le_of_lt bound)).succ (session.moves time bound)

/-- Every entry has left the queue or waits in it. -/
theorem length_entries (session : SessionRun trace last) {time : Nat} (bound : time ≤ last) :
    (entries trace time).length = departed trace time + (trace time).waiting.length := by
  rcases session.run.waiting_eq time bound with ⟨within, waits⟩
  rw [← waits, List.length_drop]
  omega

/-- What flushes took, in the order in which they did, and then what waits, is what was accepted, in
that order, without what was discarded. -/
theorem dequeued_eq (session : SessionRun trace last) {time : Nat} (bound : time ≤ last) :
    dequeued trace time ++ List.range' (departed trace time) (trace time).waiting.length =
      (List.range (entries trace time).length).filter
        fun number => number ∉ discarded trace time := by
  have numbered := session.numbered time bound
  have waits :
      (List.range' (departed trace time) (trace time).waiting.length).filter
          (fun number => number ∉ discarded trace time) =
        List.range' (departed trace time) (trace time).waiting.length := by
    rw [List.filter_eq_self]
    intro number member
    have late := (List.mem_range'_1.mp member).1
    have kept : number ∉ discarded trace time := by
      intro gone
      have early := numbered.passed number gone
      omega
    simpa using kept
  rw [session.length_entries bound, List.range_add, List.filter_append,
    ← List.range'_eq_map_range, waits, numbered.taken]

end SessionRun

end Machine

end SignalDispatch
