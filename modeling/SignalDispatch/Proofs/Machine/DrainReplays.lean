import SignalDispatch.Proofs.Interrupt.Entries
import SignalDispatch.Proofs.Machine.Replays

/-!
# What one drain hands out and counts

A drain hands out an interrupt, waits for its emission to come back, and goes on behind the entry
that the interrupt was in.  Other drains may be under way meanwhile, around it and inside the
callbacks of its emissions; `Machine.handings` are the moments at which it hands out something
itself.

A drain that is not left by a panic comes back, if it comes back at all, when nothing waits any more
at or after its position.  `Machine.drainEnd_of_ready` says so, and that by then every emission
that the drain began has come back to it, and those that succeeded have been counted.
-/

namespace SignalDispatch.Machine

/-- The interrupt that the drain above `below` hands out in the next move. -/
def draining? (machine : Machine) (below : List Frame) : Option InterruptItem :=
  match machine.stack, machine.control with
  | .drain position _ :: under, .proceed =>
      if under = below then (machine.world.bus.interrupts.take? position).map Prod.fst else none
  | _, _ => none

/-- The moments from `first` to `last` at which the drain above `below` hands out an interrupt. -/
def handings (below : List Frame) (trace : Nat → Machine) (first last : Nat) : List Nat :=
  (List.range' first (last - first)).filter fun moment => ((trace moment).draining? below).isSome

/-- The drain above `below` handed out an interrupt and got the answer of its emission. -/
structure Replay.Drained (below : List Frame) (trace : Nat → Machine) (replay : Replay) :
    Prop where
  happens :
    ∃ position delivered item,
      (trace replay.taken).stack = .drain position delivered :: below ∧
        (trace replay.taken).draining? below = some item ∧
        Emits (.drain (item.index + 1) delivered :: below) trace ⟨item.name, .int item.value⟩
          replay.taken replay.returned ∧
        (trace replay.returned).stack = .drain (item.index + 1) delivered :: below
  answered : (trace replay.returned).control = .answer replay.answer
  plain : replay.answer = .done ∨ replay.answer.fault?.isSome

/-- How the drain above `below`, which has counted `delivered` emissions at `first`, comes back at
`last`. -/
structure DrainEnd
    (below : List Frame)
    (trace : Nat → Machine)
    (delivered first last : Nat) :
    Prop where
  /-- Every emission that it began came back, and those that succeeded were counted. -/
  counted :
    ∃ replays : List Replay,
      (∀ replay ∈ replays, replay.Drained below trace) ∧
        handings below trace first last = replays.map Replay.taken ∧
        (trace last).control =
          .answer (.number (delivered + replays.countP Replay.succeeded))
  /-- Nothing is left at or after its position. -/
  exhausted :
    ∃ moment position delivered,
      last = moment + 1 ∧ first ≤ moment ∧
        (trace moment).stack = .drain position delivered :: below ∧
        (trace moment).control = .proceed ∧
        (trace moment).world.bus.interrupts.take? position = none

section

variable {before after machine : Machine} {below : List Frame} {position delivered : Nat}
  {item : InterruptItem} {rest : InterruptQueue}

theorem draining?_eq_some_iff :
    machine.draining? below = some item ↔
      ∃ position delivered rest,
        machine.stack = .drain position delivered :: below ∧ machine.control = .proceed ∧
          machine.world.bus.interrupts.take? position = some (item, rest) := by
  rw [draining?.eq_def]
  constructor
  · intro drains
    split at drains
    next position delivered under stack proceeds =>
      split at drains
      next same =>
        subst same
        rcases Option.map_eq_some_iff.mp drains with ⟨⟨_, rest⟩, taken, rfl⟩
        exact ⟨position, delivered, rest, stack, proceeds, taken⟩
      next => cases drains
    next => cases drains
  · rintro ⟨position, delivered, rest, stack, proceeds, taken⟩
    simp [stack, proceeds, taken]

/-- A drain below other frames hands out nothing. -/
theorem draining?_of_covered
    {frame : Frame}
    (bears : machine.Bears (.drain position delivered :: below) frame) :
    machine.draining? below = none := by
  rcases bears with ⟨above, stack⟩
  cases drains : machine.draining? below with
  | none => rfl
  | some item =>
      rcases draining?_eq_some_iff.mp drains with ⟨_, _, _, innermost, _⟩
      have lengths := congrArg List.length (innermost.symm.trans stack)
      simp only [List.length_append, List.length_cons] at lengths
      omega

/-- Nor does one that has not the turn. -/
theorem draining?_of_control (busy : machine.control ≠ .proceed) :
    machine.draining? below = none := by
  cases drains : machine.draining? below with
  | none => rfl
  | some item =>
      rcases draining?_eq_some_iff.mp drains with ⟨_, _, _, _, proceeds, _⟩
      exact absurd proceeds busy

/-! ## Moves -/

/-- A drain whose turn it is frees the entry of the interrupt that it hands out, and begins to emit
it. -/
theorem Move.of_draining
    (move : Move before after)
    (stack : before.stack = .drain position delivered :: below)
    (control : before.control = .proceed)
    (taken : before.world.bus.interrupts.take? position = some (item, rest)) :
    after.world.bus.interrupts = rest ∧
      ∃ under : Machine,
        under.stack = .drain (item.index + 1) delivered :: below ∧
          after = under.beginEmission ⟨item.name, .int item.value⟩ := by
  cases move with
  | perform program operation idle => simp [idle] at stack
  | step program =>
      let under : Machine :=
        (({ before with stack := below } : Machine).setBus
          { before.world.bus with interrupts := rest }).push (.drain (item.index + 1) delivered)
      have stepped : before.step program = under.beginEmission ⟨item.name, .int item.value⟩ := by
        rw [step_of_proceed program stack control, proceed, proceedDrain]
        simp only [taken]
        rfl
      have spares := spares_beginEmission under ⟨item.name, .int item.value⟩
      exact ⟨by rw [stepped, spares.interrupts]; rfl, under, rfl, stepped⟩

/-- A drain that finds nothing comes back with what it has counted. -/
theorem Move.of_drained
    (move : Move before after)
    (stack : before.stack = .drain position delivered :: below)
    (control : before.control = .proceed)
    (nothing : before.world.bus.interrupts.take? position = none) :
    after.stack = below ∧ after.control = .answer (.number delivered) ∧
      after.world = before.world := by
  cases move with
  | perform program operation idle => simp [idle] at stack
  | step program =>
      rw [step_of_proceed program stack control, proceed, proceedDrain]
      simp only [nothing]
      exact ⟨stack_log _ _, rfl, world_log _ _⟩

/-- A drain counts an emission that comes back without a fault, and goes on. -/
theorem Move.of_counting
    {answer : Answer}
    (move : Move before after)
    (stack : before.stack = .drain position delivered :: below)
    (control : before.control = .answer answer) :
    after.stack =
        .drain position (if answer.fault?.isSome then delivered else delivered + 1) :: below ∧
      after.control = .proceed := by
  cases move with
  | perform program operation idle => simp [idle] at stack
  | step program =>
      rw [step_of_answer program stack control]
      exact ⟨rfl, rfl⟩

end

/-! ## From one turn to the next -/

section

variable {below : List Frame} {trace : Nat → Machine} {first middle last position delivered : Nat}
  {item : InterruptItem} {rest : InterruptQueue}

theorem handings_append
    (early : first ≤ middle)
    (late : middle ≤ last) :
    handings below trace first last =
      handings below trace first middle ++ handings below trace middle last := by
  have split := List.range'_append_1 (s := first) (m := middle - first) (n := last - middle)
  rw [Nat.add_sub_cancel' early, show middle - first + (last - middle) = last - first by omega]
    at split
  rw [handings, ← split, List.filter_append]
  rfl

theorem handings_eq_nil
    (idle : ∀ time, first ≤ time → time < last → (trace time).draining? below = none) :
    handings below trace first last = [] := by
  rw [handings, List.filter_eq_nil_iff]
  intro time member
  rw [List.mem_range'_1] at member
  simp [idle time member.1 (by omega)]

/-- An interrupt that a drain hands out comes back to it before anything else becomes of the
drain. -/
theorem drained_of_taken
    (begins : first < last)
    (moves : ∀ time, first ≤ time → time < last → Move (trace time) (trace (time + 1)))
    (stack : (trace first).stack = .drain position delivered :: below)
    (control : (trace first).control = .proceed)
    (taken : (trace first).world.bus.interrupts.take? position = some (item, rest))
    (gone : ∀ later, ¬ (trace last).Bears (.drain (item.index + 1) delivered :: below) later) :
    ∃ returned,
      first < returned ∧ returned ≤ last ∧
        (trace returned).stack = .drain (item.index + 1) delivered :: below ∧
        Span below trace first returned ∧
        ((∃ message, (trace returned).control = .unwind message) ∨
          ∃ answer,
            (trace returned).control = .answer answer ∧
              Replay.Drained below trace ⟨first, returned, answer⟩ ∧
              handings below trace first (returned + 1) = [first]) := by
  have turn : (trace first).draining? below = some item :=
    draining?_eq_some_iff.mpr ⟨position, delivered, rest, stack, control, taken⟩
  have move := moves first (Nat.le_refl first) begins
  rcases move.of_draining stack control taken with ⟨_, under, base, same⟩
  rcases emitting_beginEmission under ⟨item.name, .int item.value⟩ with
    ⟨frame, above, _, emitting⟩
  rw [← same, base] at above
  have start : (trace (first + 1)).Bears (.drain (item.index + 1) delivered :: below) frame :=
    .of_stack above
  have later (time : Nat) (from_next : first + 1 ≤ time) := moves time (Nat.le_of_lt from_next)
  rcases span_of_gone begins later start gone with ⟨returned, early, reached, emission⟩
  have late := emission.ordered
  have whole : Span below trace first returned :=
    ((Span.nil below trace first).extend move (Bears.of_stack stack).ne_below).trans
      (emission.under start)
  refine ⟨returned, late, early, reached, whole, ?_⟩
  rcases emission.returned start reached with ⟨later, kept, returns⟩
  have emitting' := Frame.keeps_of_continues Frame.Continues.emitting kept emitting
  rcases returns.of_emitting emitting' with ⟨answer, control', plain⟩ | unwinds
  · refine Or.inr ⟨answer, control', ⟨?_, control', plain⟩, ?_⟩
    · exact ⟨position, delivered, item, stack, turn, ⟨⟨under, base, same⟩, emission⟩, reached⟩
    · have waits : handings below trace (first + 1) (returned + 1) = [] := by
        apply handings_eq_nil
        intro time from_next before
        rcases Nat.lt_succ_iff_lt_or_eq.mp before with earlier | rfl
        · rcases emission.bears start from_next earlier with ⟨_, bears, _⟩
          exact draining?_of_covered bears
        · exact draining?_of_control (by rw [control']; exact Control.noConfusion)
      have now : handings below trace first (first + 1) = [first] := by
        simp [handings, turn]
      rw [handings_append (Nat.le_succ first) (Nat.le_succ_of_le late), now, waits]
      rfl
  · exact Or.inl unwinds

/-- A drain that finds nothing has come back. -/
theorem drainEnd_of_drained
    (span : Span below trace first last)
    (begins : first < last)
    (stack : (trace first).stack = .drain position delivered :: below)
    (control : (trace first).control = .proceed)
    (nothing : (trace first).world.bus.interrupts.take? position = none) :
    DrainEnd below trace delivered first last := by
  have move := span.moves first (Nat.le_refl first) begins
  rcases move.of_drained stack control nothing with ⟨reached, answered, _⟩
  have now : last = first + 1 := by
    by_contra later
    exact span.lasts (first + 1) (Nat.le_succ first) (by omega) reached
  subst now
  have idle : (trace first).draining? below = none := by
    cases drains : (trace first).draining? below with
    | none => rfl
    | some item =>
        rcases draining?_eq_some_iff.mp drains with ⟨_, _, _, stack', _, taken⟩
        rw [stack] at stack'
        cases stack'
        rw [nothing] at taken
        cases taken
  refine ⟨⟨[], List.forall_mem_nil _, ?_, answered⟩,
    first, position, delivered, rfl, Nat.le_refl first, stack, control, nothing⟩
  apply handings_eq_nil
  intro time late early
  rwa [Nat.le_antisymm (Nat.le_of_lt_succ early) late]

/-- One more interrupt that has come back. -/
theorem DrainEnd.cons
    {returned : Nat}
    {answer : Answer}
    (drained : Replay.Drained below trace ⟨first, returned, answer⟩)
    (handed : handings below trace first (returned + 1) = [first])
    (late : first ≤ returned + 1)
    (early : returned + 1 ≤ last)
    (further :
      DrainEnd below trace (if answer.fault?.isSome then delivered else delivered + 1)
        (returned + 1) last) :
    DrainEnd below trace delivered first last := by
  rcases further with
    ⟨⟨replays, recorded, others, answered⟩, moment, _, _, ends, inside, exhausted⟩
  refine ⟨⟨⟨first, returned, answer⟩ :: replays, ?_, ?_, ?_⟩,
    moment, _, _, ends, late.trans inside, exhausted⟩
  · exact List.forall_mem_cons.mpr ⟨drained, recorded⟩
  · rw [handings_append late early, handed, others]
    rfl
  · rw [answered, List.countP_cons]
    congr 2
    cases failed : answer.fault? with
    | none =>
        simp [Replay.succeeded, failed]
        omega
    | some fault => simp [Replay.succeeded, failed]

/-- A drain that has the turn, and that no panic leaves, comes back when nothing waits any more at
or after its position. -/
theorem drainEnd_of_ready
    (span : Span below trace first last)
    (stack : (trace first).stack = .drain position delivered :: below)
    (control : (trace first).control = .proceed)
    (back : (trace last).stack = below)
    (calm :
      ∀ time, first ≤ time → time < last → ∀ position delivered message,
        (trace time).stack = .drain position delivered :: below →
          (trace time).control ≠ .unwind message) :
    DrainEnd below trace delivered first last := by
  -- by how long the drain lasts
  obtain ⟨count, length⟩ : ∃ count, count = last - first := ⟨_, rfl⟩
  induction count using Nat.strong_induction_on generalizing first position delivered with
  | _ count ih =>
      have begins := span.lt_of_back (.of_stack stack) back
      cases taken : (trace first).world.bus.interrupts.take? position with
      | none => exact drainEnd_of_drained span begins stack control taken
      | some found =>
          rcases found with ⟨item, rest⟩
          rcases drained_of_taken begins span.moves stack control taken
            (fun _ bears => bears.under.ne_below back) with
            ⟨returned, late, early, reached, _, resolved⟩
          have before : returned < last := by
            refine Nat.lt_of_le_of_ne early ?_
            rintro rfl
            exact (Bears.of_stack reached).ne_below back
          rcases resolved with ⟨message, unwinds⟩ | ⟨answer, answered, drained, handed⟩
          · exact absurd unwinds (calm returned (Nat.le_of_lt late) before _ _ message reached)
          · have move := span.moves returned (Nat.le_of_lt late) before
            have after : first ≤ returned + 1 := Nat.le_succ_of_le (Nat.le_of_lt late)
            rcases move.of_counting reached answered with ⟨stack', control'⟩
            refine .cons drained handed after before ?_
            exact ih (last - (returned + 1)) (by omega) (span.since after before) stack' control'
              (fun time later => calm time (after.trans later)) rfl

/-- A drain that has the turn, and that no panic leaves, comes back if everything comes back that it
hands out. -/
theorem drain_returns
    {capacity : Nat}
    (moves : ∀ time, Move (trace time) (trace (time + 1)))
    (room : ∀ time, (trace time).world.bus.interrupts.capacity = capacity)
    (calm :
      ∀ time position delivered message,
        (trace time).stack = .drain position delivered :: below →
          (trace time).control ≠ .unwind message)
    (resolves :
      ∀ time, first ≤ time → ((trace time).draining? below).isSome →
        ∃ returned > time, ∃ position delivered,
          (trace returned).stack = .drain position delivered :: below)
    (stack : (trace first).stack = .drain position delivered :: below)
    (control : (trace first).control = .proceed) :
    ∃ last, Span below trace first last ∧ (trace last).stack = below := by
  -- by how many entries the drain has not passed
  obtain ⟨count, ahead⟩ : ∃ count, count = capacity - position := ⟨_, rfl⟩
  induction count using Nat.strong_induction_on generalizing first position delivered with
  | _ count ih =>
      have started : Span below trace first (first + 1) :=
        (Span.nil below trace first).extend (moves first) (Bears.of_stack stack).ne_below
      cases taken : (trace first).world.bus.interrupts.take? position with
      | none =>
          exact ⟨first + 1, started, ((moves first).of_drained stack control taken).1⟩
      | some found =>
          rcases found with ⟨item, rest⟩
          have yields := InterruptQueue.yields_of_take? taken
          have passed := yields.passed
          have within := room first ▸ InterruptQueue.lt_capacity_of_item? yields.waits
          have turn : ((trace first).draining? below).isSome := by
            rw [draining?_eq_some_iff.mpr ⟨position, delivered, rest, stack, control, taken⟩]
            rfl
          rcases resolves first (Nat.le_refl first) turn with ⟨later, after, _, _, resolved⟩
          have gone (frame : Frame) :
              ¬ (trace later).Bears (.drain (item.index + 1) delivered :: below) frame := by
            rintro ⟨above, covered⟩
            have lengths := congrArg List.length (resolved.symm.trans covered)
            simp only [List.length_append, List.length_cons] at lengths
            omega
          rcases drained_of_taken after (fun time _ _ => moves time) stack control taken gone with
            ⟨returned, late, _, reached, span, ⟨message, unwinds⟩ | ⟨answer, answered, _⟩⟩
          · exact absurd unwinds (calm returned _ _ message reached)
          · rcases (moves returned).of_counting reached answered with ⟨stack', control'⟩
            have further (time : Nat) (ordered : returned + 1 ≤ time) :=
              resolves time ((Nat.le_succ_of_le (Nat.le_of_lt late)).trans ordered)
            rcases ih (capacity - (item.index + 1)) (by omega) further stack' control' rfl with
              ⟨last, rest, back⟩
            have on := span.extend (moves returned) (Bears.of_stack reached).ne_below
            exact ⟨last, on.trans rest, back⟩

end

end SignalDispatch.Machine
