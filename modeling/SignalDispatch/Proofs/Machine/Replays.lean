import SignalDispatch.Proofs.Machine.Dequeuing
import SignalDispatch.Proofs.Machine.Spans

/-!
# What one flush takes and counts

A flush takes an entry, waits for its emission to come back, and goes on.  Along the stretch in
which it lasts, `Machine.takings` are the moments at which it takes an entry itself; other flushes
that are under way meanwhile take theirs at other moments.  `Machine.Flushing` says what there is to
know about a flush in progress: which of its entries came back, with which answers, and whether one
is out at present.  Every move keeps it (`Flushing.move`), and when the flush is over, either
everything came back and was counted, or a panic came back from the last entry (`FlushEnd`).
-/

namespace SignalDispatch.Machine

/-- An entry that a flush took: the moment at which it did, the one at which the emission came back,
and with what. -/
structure Replay where
  taken : Nat
  returned : Nat
  answer : Answer
  deriving DecidableEq, Repr

namespace Replay

/-- The emission succeeded. -/
def succeeded (replay : Replay) : Bool :=
  replay.answer.fault?.isNone

/-- The flush above `below` took the entry and got the answer of its emission. -/
structure Recorded (below : List Frame) (trace : Nat → Machine) (replay : Replay) : Prop where
  happens :
    ∃ left delivered emission,
      (trace replay.taken).stack = .flush (left + 1) delivered :: below ∧
        (trace replay.taken).control = .proceed ∧
        (trace replay.taken).waiting.head? = some emission ∧
        Emits (.flush left delivered :: below) trace emission replay.taken replay.returned ∧
        (trace replay.returned).stack = .flush left delivered :: below
  answered : (trace replay.returned).control = .answer replay.answer
  plain : replay.answer = .done ∨ replay.answer.fault?.isSome

end Replay

/-- The moments from `first` on at which the flush above `below` takes an entry. -/
def takings (below : List Frame) (trace : Nat → Machine) (first time : Nat) : List Nat :=
  (List.range time).filter fun moment =>
    decide (first ≤ moment) && ((trace moment).replaying? below).isSome

/-- The flush above `below`, which began at `first` and might take `bound` entries, waits for the
entry that it took at `moment`; the earlier ones came back. -/
structure Outstanding
    (below : List Frame)
    (trace : Nat → Machine)
    (first bound : Nat)
    (replays : List Replay)
    (left moment time : Nat) :
    Prop where
  recorded : ∀ replay ∈ replays, replay.Recorded below trace
  taken : takings below trace first time = replays.map Replay.taken ++ [moment]
  within : replays.length + 1 + left ≤ bound
  stack : (trace moment).stack = .flush (left + 1) (replays.countP Replay.succeeded) :: below
  control : (trace moment).control = .proceed
  emits :
    ∃ emission, (trace moment).waiting.head? = some emission ∧
      Emits (.flush left (replays.countP Replay.succeeded) :: below) trace emission moment time

/-- What there is to know about the flush above `below`, which began at `first` and might take
`bound` entries. -/
inductive Flushing (below : List Frame) (trace : Nat → Machine) (first bound time : Nat) :
    Prop where
  /-- It is its turn. -/
  | ready {replays : List Replay} {remaining : Nat} :
      (∀ replay ∈ replays, replay.Recorded below trace) →
      takings below trace first time = replays.map Replay.taken →
      replays.length + remaining ≤ bound →
      (trace time).stack = .flush remaining (replays.countP Replay.succeeded) :: below →
      (trace time).control = .proceed →
      Flushing below trace first bound time
  /-- It waits for an emission that goes on. -/
  | busy {replays : List Replay} {left moment : Nat} {frame : Frame} :
      Outstanding below trace first bound replays left moment time →
      (trace time).Bears (.flush left (replays.countP Replay.succeeded) :: below) frame →
      frame.Emitting →
      Flushing below trace first bound time
  /-- The emission has just come back. -/
  | back {replays : List Replay} {left moment : Nat} {answer : Answer} :
      Outstanding below trace first bound replays left moment time →
      (trace time).stack = .flush left (replays.countP Replay.succeeded) :: below →
      (trace time).control = .answer answer →
      answer = .done ∨ answer.fault?.isSome →
      Flushing below trace first bound time
  /-- The emission has just panicked. -/
  | failed {replays : List Replay} {left moment : Nat} {message : String} :
      Outstanding below trace first bound replays left moment time →
      (trace time).stack = .flush left (replays.countP Replay.succeeded) :: below →
      (trace time).control = .unwind message →
      Flushing below trace first bound time

/-- How a flush comes to its end in the move after `time`. -/
inductive FlushEnd (below : List Frame) (trace : Nat → Machine) (first bound time : Nat) :
    Prop where
  /-- Every entry that it took came back, and those that succeeded were counted. -/
  | answered {replays : List Replay} :
      (∀ replay ∈ replays, replay.Recorded below trace) →
      takings below trace first (time + 1) = replays.map Replay.taken →
      replays.length ≤ bound →
      (trace (time + 1)).control = .answer (.number (replays.countP Replay.succeeded)) →
      FlushEnd below trace first bound time
  /-- The emission of the last entry that it took panicked, and the queue stays as it was then. -/
  | panicked {replays : List Replay} {left moment : Nat} {message : String} :
      Outstanding below trace first bound replays left moment time →
      takings below trace first (time + 1) = takings below trace first time →
      (trace time).control = .unwind message →
      (trace (time + 1)).control = .unwind message →
      (trace (time + 1)).waiting = (trace time).waiting →
      FlushEnd below trace first bound time

variable {below : List Frame} {trace : Nat → Machine} {first bound time left moment : Nat}

theorem takings_succ (below : List Frame) (trace : Nat → Machine) (ordered : first ≤ time) :
    takings below trace first (time + 1) =
      takings below trace first time ++
        if ((trace time).replaying? below).isSome then [time] else [] := by
  rw [takings, List.range_succ, List.filter_append, ← takings, List.filter_singleton]
  simp [ordered]

/-- A flush that is not innermost, or has not the turn, takes nothing. -/
theorem takings_of_waits
    (above : List Frame)
    {remaining delivered : Nat}
    (ordered : first ≤ time)
    (stack : (trace time).stack = above ++ .flush remaining delivered :: below)
    (waits : above ≠ [] ∨ (trace time).control ≠ .proceed) :
    takings below trace first (time + 1) = takings below trace first time := by
  rw [takings_succ below trace ordered, replaying?_eq_none above stack waits]
  exact List.append_nil _

section Outstanding

variable {replays : List Replay}
  (waits : Outstanding below trace first bound replays left moment time)

include waits

/-- A frame above the flush acts. -/
theorem Outstanding.extend
    {above : List Frame}
    {frame : Frame}
    (ordered : first ≤ time)
    (stack :
      (trace time).stack =
        above ++ frame :: .flush left (replays.countP Replay.succeeded) :: below)
    (move : Move (trace time) (trace (time + 1))) :
    Outstanding below trace first bound replays left moment (time + 1) := by
  rcases waits with ⟨recorded, taken, within, start, proceeds, emission, head, begins, span⟩
  have busy : (trace time).Bears (.flush left (replays.countP Replay.succeeded) :: below) frame :=
    ⟨above, stack⟩
  have same : takings below trace first (time + 1) = takings below trace first time := by
    rw [List.append_cons] at stack
    exact takings_of_waits _ ordered stack (Or.inl (by simp))
  exact ⟨recorded, same.trans taken, within, start, proceeds, emission, head, begins,
    span.extend move busy.ne_below⟩

/-- An entry that comes back is recorded. -/
theorem Outstanding.back
    {answer : Answer}
    (stack : (trace time).stack = .flush left (replays.countP Replay.succeeded) :: below)
    (control : (trace time).control = .answer answer)
    (plain : answer = .done ∨ answer.fault?.isSome) :
    ∀ replay ∈ replays ++ [⟨moment, time, answer⟩], replay.Recorded below trace := by
  rcases waits with ⟨recorded, _, _, start, proceeds, emission, head, emits⟩
  intro replay member
  rcases List.mem_append.mp member with earlier | now
  · exact recorded replay earlier
  · rw [List.mem_singleton.mp now]
    exact ⟨⟨left, _, emission, start, proceeds, head, emits, stack⟩, control, plain⟩

end Outstanding

/-- A flush whose turn it is takes the next entry, or it is over. -/
theorem flushing_of_ready
    {replays : List Replay}
    {remaining : Nat}
    (recorded : ∀ replay ∈ replays, replay.Recorded below trace)
    (taken : takings below trace first time = replays.map Replay.taken)
    (within : replays.length + remaining ≤ bound)
    (stack : (trace time).stack = .flush remaining (replays.countP Replay.succeeded) :: below)
    (control : (trace time).control = .proceed)
    (ordered : first ≤ time)
    (move : Move (trace time) (trace (time + 1))) :
    Flushing below trace first bound (time + 1) ∨
      (trace (time + 1)).stack = below ∧ FlushEnd below trace first bound time := by
  cases turn : (trace time).takes with
  | true =>
      rcases move.of_takes turn with
        ⟨left, delivered, under, emission, begun, innermost, waits, reached, _, same⟩
      rw [stack] at innermost
      cases innermost
      have replays? : (trace time).replaying? below = some emission :=
        (replaying?_eq_some_iff _ _ _).mpr
          ⟨left, _, stack, control, by rw [waits, List.head?_cons]⟩
      rcases emitting_beginEmission begun emission with ⟨frame, above, _, emitting⟩
      rw [← same, reached] at above
      have out : Outstanding below trace first bound replays left time (time + 1) := by
        refine ⟨recorded, ?_, by omega, stack, control, emission, by rw [waits, List.head?_cons],
          ⟨begun, reached, same⟩, .nil _ trace (time + 1)⟩
        rw [takings_succ below trace ordered, replays?, taken]
        rfl
      exact Or.inl (.busy out (.of_stack above) emitting)
  | false =>
      have idle : (trace time).replaying? below = none := by
        cases replays? : (trace time).replaying? below with
        | none => rfl
        | some emission =>
            rcases (replaying?_eq_some_iff _ _ _).mp replays? with
              ⟨left, _, innermost, proceeds, head⟩
            rcases List.head?_eq_some_iff.mp head with ⟨rest, waits⟩
            have takes := takes_iff.mpr ⟨left, _, _, emission, rest, innermost, proceeds, waits⟩
            simp [turn] at takes
      have same : takings below trace first (time + 1) = takings below trace first time := by
        rw [takings_succ below trace ordered, idle]
        exact List.append_nil _
      -- nothing may be taken, or nothing waits
      have ended :
          (trace (time + 1)).stack = below ∧
            (trace (time + 1)).control = .answer (.number (replays.countP Replay.succeeded)) := by
        generalize trace (time + 1) = after at move
        cases move with
        | perform program operation empty => simp [stack] at empty
        | step program =>
            rw [step_of_proceed program stack control, proceed, proceedFlush.eq_def]
            cases remaining with
            | zero => exact ⟨stack_log _ _, rfl⟩
            | succ left =>
                have empty : (trace time).waiting = [] := by
                  cases waits : (trace time).waiting with
                  | nil => rfl
                  | cons emission rest =>
                      have takes := takes_iff.mpr
                        ⟨left, _, _, emission, rest, stack, control, waits⟩
                      simp [turn] at takes
                have nothing : (trace time).world.bus.deferred.pop? = none := by
                  rw [DeferredQueue.pop?,
                    show (trace time).world.bus.deferred.waiting = [] from empty]
                simp only [nothing, Option.map_none]
                exact ⟨stack_log _ _, rfl⟩
      exact Or.inr ⟨ended.1, .answered recorded (same.trans taken) (by omega) ended.2⟩

/-- One move of a run during a flush. -/
theorem Flushing.move
    (flushing : Flushing below trace first bound time)
    (ordered : first ≤ time)
    (move : Move (trace time) (trace (time + 1))) :
    Flushing below trace first bound (time + 1) ∨
      (trace (time + 1)).stack = below ∧ FlushEnd below trace first bound time := by
  cases flushing with
  | ready recorded taken within stack control =>
      exact flushing_of_ready recorded taken within stack control ordered move
  | busy out bears emitting =>
      rcases bears with ⟨above, stack⟩
      have on := out.extend ordered stack move
      cases move.minds ⟨above, stack⟩ with
      | covered _ kept => exact Or.inl (.busy on kept emitting)
      | turn _ turns =>
          cases turns with
          | continues reached continues =>
              exact Or.inl (.busy on ⟨_, reached⟩ (continues.emitting emitting))
          | returns reached returns =>
              rcases returns.of_emitting emitting with ⟨answer, control, plain⟩ | ⟨message, control⟩
              · exact Or.inl (.back on reached control plain)
              · exact Or.inl (.failed on reached control)
  | @back replays left entry answer out stack control plain =>
      have same : takings below trace first (time + 1) = takings below trace first time :=
        takings_of_waits [] ordered stack
          (Or.inr (by rw [control]; exact Control.noConfusion))
      let counted : List Replay := replays ++ [⟨entry, time, answer⟩]
      have next :
          (trace (time + 1)).stack = .flush left (counted.countP Replay.succeeded) :: below ∧
            (trace (time + 1)).control = .proceed := by
        generalize trace (time + 1) = after at move
        cases move with
        | perform program operation empty => simp [stack] at empty
        | step program =>
            rw [step_of_answer program stack control, resume]
            refine ⟨?_, rfl⟩
            rw [List.countP_append, List.countP_singleton]
            cases failed : answer.fault? <;> simp [push, proceeding, Replay.succeeded, failed]
      refine Or.inl (.ready (out.back stack control plain) ?_ ?_ next.1 next.2)
      · rw [same, out.taken, List.map_append, List.map_singleton]
      · rw [List.length_append, List.length_singleton]
        exact out.within
  | @failed replays left entry message out stack control =>
      have same : takings below trace first (time + 1) = takings below trace first time :=
        takings_of_waits [] ordered stack
          (Or.inr (by rw [control]; exact Control.noConfusion))
      have ended :
          (trace (time + 1)).stack = below ∧ (trace (time + 1)).control = .unwind message ∧
            (trace (time + 1)).waiting = (trace time).waiting := by
        generalize trace (time + 1) = after at move
        cases move with
        | perform program operation empty => simp [stack] at empty
        | step program =>
            rw [step_of_unwind program stack control]
            exact ⟨rfl, rfl, rfl⟩
      exact Or.inr ⟨ended.1, .panicked out same control ended.2.1 ended.2.2⟩

theorem Outstanding.length_takings
    {replays : List Replay}
    (waits : Outstanding below trace first bound replays left moment time) :
    (takings below trace first time).length ≤ bound := by
  have within := waits.within
  rw [waits.taken, List.length_append, List.length_map, List.length_singleton]
  omega

/-- A flush takes no more entries than it might at first. -/
theorem Flushing.length_takings (flushing : Flushing below trace first bound time) :
    (takings below trace first time).length ≤ bound := by
  cases flushing with
  | ready _ taken within =>
      rw [taken, List.length_map]
      omega
  | busy out => exact out.length_takings
  | back out => exact out.length_takings
  | failed out => exact out.length_takings

/-- So does one that has come to its end. -/
theorem FlushEnd.length_takings (ended : FlushEnd below trace first bound time) :
    (takings below trace first (time + 1)).length ≤ bound := by
  cases ended with
  | answered _ taken within => rwa [taken, List.length_map]
  | panicked out same => exact same ▸ out.length_takings

end SignalDispatch.Machine
