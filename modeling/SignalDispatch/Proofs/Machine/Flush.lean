import SignalDispatch.Proofs.Machine.Queue

/-!
# What a flush replays

A flush fixes the number of entries that it replays when it begins, and nothing marks the end of
what waits then.  As long as nobody else takes entries out of the queue that number is enough: the
flush replays the entries that waited at its start.  A nested flush or a cleanup takes entries out
as well, and then the flush goes on with entries that were deferred during it.

`FlushRun.predates_iff` says exactly when: an entry that the flush takes was accepted before it
began if and only if fewer entries left otherwise than the flush may still take.
-/

namespace SignalDispatch.Machine

/-- The flush that has exactly `below` under it may still take `remaining` entries. -/
def Flushes (machine : Machine) (below : List Frame) (remaining : Nat) : Prop :=
  ∃ above delivered, machine.stack = above ++ .flush remaining delivered :: below

/-- The entry that the flush above `below` takes in the next move. -/
def replaying? (machine : Machine) (below : List Frame) : Option Emission :=
  match machine.stack, machine.control with
  | .flush (_ + 1) _ :: under, .proceed =>
      if under = below then machine.waiting.head? else none
  | _, _ => none

/-- A flush from its start on, as long as it lasts. -/
structure FlushRun
    (below : List Frame)
    (trace : Nat → Machine)
    (remaining : Nat → Nat)
    (last : Nat) : Prop where
  /-- The flush was just called. -/
  begun :
    ∃ (machine : Machine) (program : Program) (payload : Payload),
      machine.stack = below ∧ machine.execute program payload .flush = trace 0
  run : Run trace 0 last
  lasts : ∀ time ≤ last, (trace time).Flushes below (remaining time)

/-- How many entries have left the queue otherwise than by the flush above `below`. -/
def elsewhere (below : List Frame) (trace : Nat → Machine) : Nat → Nat
  | 0 => 0
  | time + 1 =>
      elsewhere below trace time +
        if (trace time).replaying? below = none then
          (trace time).waiting.length - (trace (time + 1)).waiting.length
        else 0

/-- The entry that leaves the queue next waited there at the start. -/
def Predates (trace : Nat → Machine) (time : Nat) (emission : Emission) : Prop :=
  (trace 0).waiting[departed trace time]? = some emission

/-- The entry that leaves the queue next was accepted in an earlier move since the start. -/
def Postdates (trace : Nat → Machine) (time : Nat) (emission : Emission) : Prop :=
  ∃ moment < time, Accepts trace moment (departed trace time) emission

theorem replaying?_eq_some_iff (machine : Machine) (below : List Frame) (emission : Emission) :
    machine.replaying? below = some emission ↔
      ∃ left delivered, machine.stack = .flush (left + 1) delivered :: below ∧
        machine.control = .proceed ∧ machine.waiting.head? = some emission := by
  rw [replaying?.eq_def]
  constructor
  · intro replays
    split at replays
    next left delivered under stack proceeds =>
      split at replays
      next same =>
        subst same
        exact ⟨left, delivered, stack, proceeds, replays⟩
      next => cases replays
    next => cases replays
  · rintro ⟨left, delivered, stack, proceeds, oldest⟩
    rw [stack, proceeds]
    exact (if_pos rfl).trans oldest

theorem Flushes.remaining_eq
    {machine : Machine}
    {below above : List Frame}
    {remaining left delivered : Nat}
    (flushes : machine.Flushes below remaining)
    (stack : machine.stack = above ++ .flush left delivered :: below) :
    remaining = left := by
  rcases flushes with ⟨top, delivered', start⟩
  rw [start] at stack
  have lengths := congrArg List.length stack
  simp only [List.length_append, List.length_cons] at lengths
  have parts := (List.append_inj stack (by omega)).2
  rw [List.cons.injEq, Frame.flush.injEq] at parts
  exact parts.1.1

theorem Flushes.remaining_eq_innermost
    {machine : Machine}
    {below : List Frame}
    {remaining left delivered : Nat}
    (flushes : machine.Flushes below remaining)
    (stack : machine.stack = .flush left delivered :: below) :
    remaining = left :=
  flushes.remaining_eq (show machine.stack = [] ++ .flush left delivered :: below from stack)

/-- A flush that lasts is not the frames below it. -/
theorem Flushes.not_below
    {machine : Machine}
    {below : List Frame}
    {remaining : Nat}
    (flushes : machine.Flushes below remaining) :
    machine.stack ≠ below := by
  rcases flushes with ⟨above, delivered, stack⟩
  intro same
  have lengths := congrArg List.length (stack.symm.trans same)
  simp only [List.length_append, List.length_cons] at lengths
  omega

/-- A step takes one frame off the stack and puts others in its place. -/
theorem step_stack
    (program : Program)
    {machine : Machine}
    {frame : Frame}
    {below : List Frame}
    (stack : machine.stack = frame :: below) :
    ∃ above, (machine.step program).stack = above ++ below := by
  cases emission : frame.walk? with
  | some walk =>
      rw [walk?_eq_some emission] at stack
      exact (step_goes program stack).stack
  | none =>
      rcases step_acts program stack emission with ⟨above, reached, _⟩
      exact ⟨above, reached⟩

/-- Only a flush whose turn it is takes an entry. -/
theorem replaying?_eq_none
    {machine : Machine}
    {below : List Frame}
    (above : List Frame)
    {remaining delivered : Nat}
    (stack : machine.stack = above ++ .flush remaining delivered :: below)
    (waits : above ≠ [] ∨ machine.control ≠ .proceed) :
    machine.replaying? below = none := by
  cases replays : machine.replaying? below with
  | none => rfl
  | some emission =>
      rcases (replaying?_eq_some_iff _ _ _).mp replays with ⟨_, _, start, proceeds, _⟩
      have lengths := congrArg List.length (start.symm.trans stack)
      simp only [List.length_append, List.length_cons] at lengths
      rcases waits with covered | stopped
      · exact absurd (List.eq_nil_of_length_eq_zero (by omega)) covered
      · exact absurd proceeds stopped

/-- What a move means for a flush that lasts: it takes an entry, or its count stays. -/
theorem Move.flushes
    {before after : Machine}
    {below : List Frame}
    {remaining left : Nat}
    (move : Move before after)
    (flushes : before.Flushes below remaining)
    (lasts : after.Flushes below left) :
    before.replaying? below = none ∧ left = remaining ∨
      ∃ emission, before.replaying? below = some emission ∧ remaining = left + 1 ∧
        before.waiting = emission :: after.waiting := by
  rcases flushes with ⟨above, delivered, stack⟩
  cases move with
  | perform program operation idle => simp [idle] at stack
  | step program =>
      cases above with
      | cons frame above =>
          -- a frame above the flush acts, and the flush is among the frames that stay
          refine Or.inl ⟨replaying?_eq_none _ stack (Or.inl (List.cons_ne_nil _ _)), ?_⟩
          rcases step_stack program stack with ⟨reached, same⟩
          exact lasts.remaining_eq (same.trans (List.append_assoc _ _ _).symm)
      | nil =>
          rw [List.nil_append] at stack
          have stepped {next : Machine} (same : before.step program = next) :
              next.Flushes below left :=
            same ▸ lasts
          cases control : before.control with
          | aborted =>
              have idle := replaying?_eq_none [] stack
                (Or.inr (by rw [control]; exact Control.noConfusion))
              refine Or.inl ⟨idle, ?_⟩
              have same : before.step program = before := by
                rw [Machine.step, stack]
                simp only [control]
              exact (stepped same).remaining_eq_innermost stack
          | answer answer =>
              have idle := replaying?_eq_none [] stack
                (Or.inr (by rw [control]; exact Control.noConfusion))
              refine Or.inl ⟨idle, ?_⟩
              have same :
                  before.step program =
                    ({ before with stack := below } : Machine).resume answer
                      (.flush remaining delivered) := by
                rw [Machine.step, stack]
                simp only [control]
              exact (stepped same).remaining_eq_innermost rfl
          | unwind message =>
              have same :
                  before.step program =
                    ({ before with stack := below } : Machine).unwinding message := by
                rw [Machine.step, stack]
                simp only [control, unwindThrough]
              exact absurd rfl (stepped same).not_below
          | proceed =>
              have same :
                  before.step program =
                    ({ before with stack := below } : Machine).proceedFlush remaining
                      delivered := by
                rw [Machine.step, stack]
                simp only [control, proceed]
              rcases proceedFlush_spec { before with stack := below } remaining delivered with
                ⟨_, ended, _⟩ | ⟨left', emission, frame, rfl, taken, reached⟩
              · exact absurd ended (stepped same).not_below
              · have under :
                    (({ before with stack := below } : Machine).proceedFlush (left' + 1)
                      delivered).stack = [frame] ++ .flush left' delivered :: below :=
                  reached
                refine Or.inr ⟨emission, ?_, ?_, ?_⟩
                · refine (replaying?_eq_some_iff _ _ _).mpr
                    ⟨left', delivered, stack, control, ?_⟩
                  exact congrArg List.head? taken
                · exact congrArg _ ((stepped same).remaining_eq under).symm
                · rw [same]
                  exact taken

namespace FlushRun

variable
  {below : List Frame}
  {trace : Nat → Machine}
  {remaining : Nat → Nat}
  {last : Nat}

/-- At its start a flush may take as many entries as wait. -/
theorem remaining_start (flush : FlushRun below trace remaining last) :
    remaining 0 = (trace 0).waiting.length := by
  have lasts := flush.lasts 0 (Nat.zero_le _)
  rcases flush.begun with ⟨machine, program, payload, rfl, begun⟩
  rw [execute] at begun
  split at begun
  · rw [← begun] at lasts ⊢
    exact lasts.remaining_eq_innermost rfl
  · rw [← begun] at lasts
    rcases lasts with ⟨above, delivered, stack⟩
    cases above with
    | nil => cases stack
    | cons frame above =>
        have lengths := congrArg List.length stack
        simp only [proceeding, push, List.length_append, List.length_cons] at lengths
        omega

/-- What left the queue and what the flush may still take are what it could take at first and what
left otherwise. -/
theorem balance (flush : FlushRun below trace remaining last) :
    ∀ time ≤ last,
      departed trace time + remaining time =
        (trace 0).waiting.length + elsewhere below trace time := by
  intro time
  induction time with
  | zero =>
      intro _
      rw [departed, elsewhere, flush.remaining_start, Nat.zero_add, Nat.add_zero]
  | succ time ih =>
      intro bound
      have before := ih (Nat.le_of_succ_le bound)
      rcases (flush.run.moves time (Nat.zero_le _) bound).flushes
        (flush.lasts time (Nat.le_of_succ_le bound)) (flush.lasts (time + 1) bound) with
          ⟨idle, same⟩ | ⟨emission, replays, count, taken⟩
      · rw [departed, elsewhere, if_pos idle, same]
        omega
      · have lengths := congrArg List.length taken
        rw [List.length_cons] at lengths
        rw [departed, elsewhere, if_neg (replays ▸ Option.some_ne_none _), lengths]
        omega

/-- An entry that is taken waited at the start exactly if its number is among the first ones. -/
theorem predates_iff_lt
    (flush : FlushRun below trace remaining last)
    {time : Nat}
    {emission : Emission}
    (bound : time ≤ last)
    (replays : (trace time).replaying? below = some emission) :
    Predates trace time emission ↔ departed trace time < (trace 0).waiting.length := by
  rcases (replaying?_eq_some_iff _ _ _).mp replays with ⟨_, _, _, _, oldest⟩
  have numbered := flush.run.oldest_eq bound oldest
  constructor
  · exact fun found => (List.getElem?_eq_some_iff.mp found).1
  · intro inside
    rcases entries_from_start trace time with ⟨accepted, same⟩
    rw [← same, List.getElem?_append_left inside] at numbered
    exact numbered

/-- An entry that is taken and did not wait at the start was accepted since. -/
theorem postdates_iff_le
    (flush : FlushRun below trace remaining last)
    {time : Nat}
    {emission : Emission}
    (bound : time ≤ last)
    (replays : (trace time).replaying? below = some emission) :
    Postdates trace time emission ↔ (trace 0).waiting.length ≤ departed trace time := by
  rcases (replaying?_eq_some_iff _ _ _).mp replays with ⟨_, _, _, _, oldest⟩
  constructor
  · rintro ⟨moment, _, accepts⟩
    rw [accepts.last]
    exact (entries_from_start trace moment).length_le
  · intro beyond
    exact flush.run.accepts_of_late beyond time bound (flush.run.oldest_eq bound oldest)

/-- A flush that takes an entry may still take one. -/
theorem remaining_pos
    (flush : FlushRun below trace remaining last)
    {time : Nat}
    {emission : Emission}
    (bound : time ≤ last)
    (replays : (trace time).replaying? below = some emission) :
    0 < remaining time := by
  rcases (replaying?_eq_some_iff _ _ _).mp replays with ⟨left, _, stack, _⟩
  rw [(flush.lasts time bound).remaining_eq_innermost stack]
  exact Nat.succ_pos left

/-- As long as nobody else takes entries out of the queue, a flush takes those that waited at its
start, one after another. -/
theorem predates_of_undisturbed
    (flush : FlushRun below trace remaining last)
    {time : Nat}
    {emission : Emission}
    (bound : time ≤ last)
    (undisturbed : elsewhere below trace time = 0)
    (replays : (trace time).replaying? below = some emission) :
    departed trace time + remaining time = (trace 0).waiting.length ∧
      Predates trace time emission := by
  have balance := flush.balance time bound
  have more := flush.remaining_pos bound replays
  refine ⟨by omega, (flush.predates_iff_lt bound replays).mpr (by omega)⟩

/-- An entry that a flush takes was accepted before the flush began exactly if fewer entries have
left otherwise than it may still take; else it was deferred during the flush. -/
theorem predates_iff
    (flush : FlushRun below trace remaining last)
    {time : Nat}
    {emission : Emission}
    (bound : time ≤ last)
    (replays : (trace time).replaying? below = some emission) :
    (Predates trace time emission ↔ elsewhere below trace time < remaining time) ∧
      (Postdates trace time emission ↔ remaining time ≤ elsewhere below trace time) := by
  have balance := flush.balance time bound
  rw [flush.predates_iff_lt bound replays, flush.postdates_iff_le bound replays]
  constructor
  · omega
  · omega

end FlushRun

/-- The first call of the routine flushes the queue and then defers an emission. -/
def flushing : Program where
  routines :=
    [{ commands :=
        [{ label := "flush", operation := .flush },
          { label := "defer", operation := .defer ⟨"signal", .int 3⟩ }] }]

/-- A signal with one slot, for which two emissions wait. -/
def loaded : Machine :=
  (initial .heap {}).play flushing 8
    [.init, .register "signal" none none, .connect "signal" 0 none none .nowhere,
      .defer ⟨"signal", .int 1⟩, .defer ⟨"signal", .int 2⟩]

/-- The steps of a flush during which another flush takes the second entry. -/
def overtaken (time : Nat) : Machine :=
  (step flushing)^[time] (loaded.play flushing 0 [.flush])

/-- How many entries the outermost flush may still take. -/
def outermostCount (machine : Machine) : Nat :=
  match machine.stack.getLast? with
  | some (.flush remaining _) => remaining
  | _ => 0

theorem flushRun_overtaken :
    FlushRun [] overtaken (fun time => outermostCount (overtaken time)) 25 := by
  have reachable : Reachable (overtaken 0) :=
    ⟨.heap, {}, (reaches_play flushing 8 _ _).trans (reaches_play flushing 0 _ _)⟩
  have frames :
      ∀ time < 26, ∃ delivered < 4,
        (overtaken time).stack.getLast? =
          some (.flush (outermostCount (overtaken time)) delivered) := by
    decide +kernel
  refine ⟨⟨{ world := loaded.world }, flushing, .void, rfl, by decide +kernel⟩,
    .of_steps flushing reachable 25, ?_⟩
  intro time bound
  rcases frames time (Nat.lt_succ_of_le bound) with ⟨delivered, _, outermost⟩
  rcases List.getLast?_eq_some_iff.mp outermost with ⟨above, stack⟩
  exact ⟨above, delivered, stack⟩

/-- The entry that the outer flush takes last was deferred during it. -/
theorem postdates_overtaken :
    (overtaken 25).replaying? [] = some ⟨"signal", .int 3⟩ ∧
      Postdates overtaken 25 ⟨"signal", .int 3⟩ := by
  have replays : (overtaken 25).replaying? [] = some ⟨"signal", .int 3⟩ := by decide +kernel
  have exceeded : outermostCount (overtaken 25) ≤ elsewhere [] overtaken 25 := by
    decide +kernel
  exact ⟨replays,
    (flushRun_overtaken.predates_iff (Nat.le_refl _) replays).2.mpr exceeded⟩

/-- A flush does not only take entries that were accepted before it began. -/
theorem replays_deferred_meanwhile :
    ¬ ∀ (below : List Frame) (trace : Nat → Machine) (remaining : Nat → Nat) (last : Nat),
        FlushRun below trace remaining last → ∀ time ≤ last, ∀ emission,
          (trace time).replaying? below = some emission → Predates trace time emission := by
  intro always
  have replays : (overtaken 25).replaying? [] = some ⟨"signal", .int 3⟩ := by decide +kernel
  have predates := always _ _ _ _ flushRun_overtaken 25 (Nat.le_refl _) _ replays
  have absent : (overtaken 0).waiting[departed overtaken 25]? = none := by decide +kernel
  rw [Predates, absent] at predates
  cases predates

end SignalDispatch.Machine
