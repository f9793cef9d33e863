import SignalDispatch.Proofs.Machine.Reachability
import Mathlib.Data.Nat.Init

/-!
# One emission along a run

An emission is known by the frames below it: as long as it lasts they do not change, and its walk
is the frame right above them.  `Machine.Episode` is a stretch of a run in which one emission lasts.
Everything else, nested emissions included, happens in the frames above.

Along an episode the cursor moves only when the emission reads, and then to the position after the
slot that was read.  While the registration is there its chain only grows, and the slots in it stay
the same apart from tombstones.
-/

namespace SignalDispatch.Machine

/-- The emission that has exactly `below` under it. -/
def Hosts (machine : Machine) (below : List Frame) (walk : Walk) : Prop :=
  ∃ above, machine.stack = above ++ .walk walk :: below

/-- It is the turn of the emission that has exactly `below` under it, and it reads a slot. -/
def Reads (machine : Machine) (below : List Frame) (slot : Slot) : Prop :=
  ∃ walk position registry,
    machine.stack = .walk walk :: below ∧ machine.control = .proceed ∧ walk.running = none ∧
      walk.cursor = some position ∧ machine.world.bus.registry = some registry ∧
      (registry.resolve? walk.signalRef).isSome ∧ registry.slots.get? position = some slot

theorem Hosts.walk_eq
    {machine : Machine}
    {below : List Frame}
    {walk other : Walk}
    (hosts : machine.Hosts below walk)
    {above : List Frame}
    (stack : machine.stack = above ++ .walk other :: below) :
    other = walk := by
  rcases hosts with ⟨top, start⟩
  rw [start] at stack
  have lengths := congrArg List.length stack
  simp only [List.length_append, List.length_cons] at lengths
  have parts := (List.append_inj stack (by omega)).2
  rw [List.cons.injEq, Frame.walk.injEq] at parts
  exact parts.1.symm

theorem Hosts.walk_eq_innermost
    {machine : Machine}
    {below : List Frame}
    {walk other : Walk}
    (hosts : machine.Hosts below walk)
    (stack : machine.stack = .walk other :: below) :
    other = walk :=
  hosts.walk_eq (show machine.stack = [] ++ .walk other :: below from stack)

/-- Frames that are not emissions do not hide one. -/
theorem Hosts.not_walkless
    {machine : Machine}
    {below above : List Frame}
    {walk : Walk}
    (hosts : machine.Hosts below walk)
    (stack : machine.stack = above ++ below) :
    ¬ Walkless above := by
  rcases hosts with ⟨top, start⟩
  have same : above = top ++ [.walk walk] :=
    List.append_cancel_right (stack.symm.trans (start.trans (List.append_cons _ _ _)))
  intro walkless
  rw [Walkless, same, List.filterMap_append] at walkless
  exact List.cons_ne_nil _ _ (List.append_eq_nil_iff.mp walkless).2

theorem Hosts.walk?_ne_none
    {machine : Machine}
    {below : List Frame}
    {frame : Frame}
    {walk : Walk}
    (hosts : machine.Hosts below walk)
    (stack : machine.stack = frame :: below) :
    frame.walk? ≠ none :=
  fun other =>
    hosts.not_walkless (show machine.stack = [frame] ++ below from stack) (Walkless.nil.cons other)

theorem Hosts.mem_walks
    {machine : Machine}
    {below : List Frame}
    {walk : Walk}
    (hosts : machine.Hosts below walk) :
    walk ∈ machine.walks := by
  rcases hosts with ⟨above, stack⟩
  rw [walks, stack, List.filterMap_append]
  exact List.mem_append_right _ List.mem_cons_self

/-- Only one slot is read at a time. -/
theorem Reads.slot_eq
    {machine : Machine}
    {below : List Frame}
    {slot other : Slot}
    (reads : machine.Reads below slot)
    (reads' : machine.Reads below other) :
    slot = other := by
  rcases reads with ⟨walk, position, registry, stack, _, _, cursor, present, _, stored⟩
  rcases reads' with ⟨walk', position', registry', stack', _, _, cursor', present', _, stored'⟩
  rw [stack, List.cons.injEq, Frame.walk.injEq] at stack'
  rcases stack' with ⟨rfl, _⟩
  rw [cursor, Option.some.injEq] at cursor'
  rw [present, Option.some.injEq] at present'
  subst cursor' present'
  rw [stored, Option.some.injEq] at stored'
  exact stored'

/-- What a move means for an emission that lasts: it reads, or its cursor stays where it is. -/
inductive Follows (below : List Frame) (before after : Machine) (walk later : Walk) : Prop where
  | quiet :
      (∀ slot, ¬ before.Reads below slot) →
      later.cursor = walk.cursor →
      Follows below before after walk later
  | read {slot : Slot} {position : Nat} {passed ahead : List Nat} :
      before.Reads below slot →
      walk.cursor = some position →
      before.world.bus.chain walk.signalRef.index = passed ++ position :: ahead →
      before.world.bus.slotAt position = some slot.content →
      slot.next = ahead.head? →
      later.cursor = slot.next →
      after.world.bus = before.world.bus →
      Follows below before after walk later

theorem not_reads_of_stack
    {machine : Machine}
    {below above : List Frame}
    {frame : Frame}
    {walk : Walk}
    (stack : machine.stack = frame :: above ++ .walk walk :: below)
    (slot : Slot) :
    ¬ machine.Reads below slot := by
  rintro ⟨other, _, _, start, _⟩
  have lengths := congrArg List.length (stack.symm.trans start)
  simp only [List.length_append, List.length_cons] at lengths
  omega

/-- The move of a frame above an emission leaves the emission alone. -/
theorem follows_of_above
    {before after : Machine}
    {below above reached : List Frame}
    {frame : Frame}
    {walk later : Walk}
    (stack : before.stack = frame :: above ++ .walk walk :: below)
    (same : after.stack = reached ++ (above ++ .walk walk :: below))
    (hosts : after.Hosts below later) :
    later.signalRef = walk.signalRef ∧ Follows below before after walk later := by
  rw [← List.append_assoc] at same
  have unchanged := hosts.walk_eq same
  subst unchanged
  exact ⟨rfl, .quiet (not_reads_of_stack stack) rfl⟩

/-- Whatever an emission does, the frames below stay. -/
theorem Goes.stack
    {before after : Machine}
    {below : List Frame}
    {walk : Walk}
    (goes : Goes walk below before after) :
    ∃ reached, after.stack = reached ++ below := by
  cases goes with
  | stay above _ reached => exact ⟨_, reached.trans (List.append_cons _ _ _)⟩
  | pass _ _ _ _ reached => exact ⟨[_], reached⟩
  | invoke above _ _ _ _ reached => exact ⟨_, reached.trans (List.append_cons _ _ _)⟩
  | leave above _ _ reached => exact ⟨above, reached⟩

/-- An emission that reads goes on to the position after its cursor. -/
theorem follows_of_reading
    {before after : Machine}
    {below : List Frame}
    {walk later : Walk}
    {reading : SlotReading}
    (coherent : Coherent before.world.bus before.walks)
    (stack : before.stack = .walk walk :: below)
    (proceeds : before.control = .proceed)
    (ready : walk.running = none)
    (reads : before.reading? walk = some reading)
    (cursor : later.cursor = reading.next)
    (bus : after.world.bus = before.world.bus) :
    Follows below before after walk later := by
  rcases (reading?_eq_some_iff _ _ _).mp reads with
    ⟨position, registry, slot, placed, present, resolved, stored, rfl⟩
  have member : walk ∈ before.walks := by
    rw [walks_of_innermost stack]
    exact List.mem_cons_self
  rcases next_of_cursor coherent member placed present resolved stored with
    ⟨_, content, passed, ahead, chain, link⟩
  exact .read ⟨walk, position, registry, stack, proceeds, ready, placed, present, resolved, stored⟩
    placed chain content link cursor bus

/-- A move during an emission. -/
theorem Turn.follows
    {before after : Machine}
    {below : List Frame}
    {walk later : Walk}
    (turn : Turn before after)
    (coherent : Coherent before.world.bus before.walks)
    (hosts : before.Hosts below walk)
    (lasts : after.Hosts below later) :
    later.signalRef = walk.signalRef ∧ Follows below before after walk later := by
  rcases hosts with ⟨top, stack⟩
  cases turn with
  | idle start => simp [start] at stack
  | starts start => simp [start] at stack
  | @acts frame above under other start reached _ =>
      cases top with
      | nil =>
          rw [start, List.nil_append, List.cons.injEq] at stack
          rw [stack.1] at other
          cases other
      | cons first top =>
          have under := stack
          rw [start, List.cons_append, List.cons.injEq] at under
          rw [under.2] at reached
          exact follows_of_above stack reached lasts
  | @goes innermost under start goes =>
      cases top with
      | cons first top =>
          have under := stack
          rw [start, List.cons_append, List.cons.injEq] at under
          rcases goes.stack with ⟨reached, same⟩
          rw [under.2] at same
          exact follows_of_above stack same lasts
      | nil =>
          rw [start, List.nil_append, List.cons.injEq, Frame.walk.injEq] at stack
          rcases stack with ⟨rfl, rfl⟩
          cases goes with
          | stay above rests reached _ signalRef cursor _ _ =>
              have same := lasts.walk_eq reached
              subst same
              refine ⟨signalRef, .quiet ?_ cursor⟩
              rintro slot ⟨walk, _, _, again, proceeds, ready, _⟩
              rw [start, List.cons.injEq, Frame.walk.injEq] at again
              rcases again with ⟨rfl, _⟩
              rcases rests with waits | runs
              · exact waits proceeds
              · exact runs ready
          | pass proceeds ready reads _ reached _ bus _ =>
              have same := lasts.walk_eq_innermost reached
              subst same
              exact ⟨rfl, follows_of_reading coherent start proceeds ready reads rfl bus⟩
          | invoke above proceeds ready reads _ reached _ bus _ =>
              have same := lasts.walk_eq reached
              subst same
              exact ⟨rfl, follows_of_reading coherent start proceeds ready reads rfl bus⟩
          | leave above _ _ reached quiet _ _ =>
              exact absurd quiet (lasts.not_walkless reached)

/-! ## Calls -/

/-- A move calls the callback of a slot. -/
def Calls (before after : Machine) (handle : Handle) : Prop :=
  ∃ callback payload context,
    after.events = .called handle callback payload context :: before.events

theorem not_calls_of_calls_eq
    {before after : Machine}
    {events : List Event}
    (same : after.calls = events.filterMap Event.called?)
    (fewer : events = before.events ∨ events = [])
    (handle : Handle) :
    ¬ Calls before after handle := by
  rintro ⟨callback, payload, context, observed⟩
  have one : after.calls = handle :: before.calls := by
    rw [calls, observed]
    rfl
  have lengths := congrArg List.length (one.symm.trans same)
  rcases fewer with rfl | rfl
  · rw [List.length_cons, calls] at lengths
    omega
  · rw [List.length_cons] at lengths
    simp at lengths

/-- A callback is called by an emission that reads a live slot. -/
theorem Turn.calls
    {before after : Machine}
    {handle : Handle}
    (turn : Turn before after)
    (calls : Calls before after handle) :
    ∃ below slot, before.Reads below slot ∧ slot.removed = false ∧ slot.handle = handle := by
  have silent (same : after.calls = before.calls) :
      ∃ below slot, before.Reads below slot ∧ slot.removed = false ∧ slot.handle = handle :=
    absurd calls (not_calls_of_calls_eq same (Or.inl rfl) handle)
  cases turn with
  | idle _ same => exact silent (congrArg Machine.calls same)
  | starts _ _ acts =>
      cases acts with
      | shift _ _ same => exact absurd calls (not_calls_of_calls_eq same (Or.inr rfl) handle)
      | enter _ _ _ _ _ _ same =>
          exact absurd calls (not_calls_of_calls_eq same (Or.inr rfl) handle)
  | acts _ _ _ acts =>
      cases acts with
      | shift _ _ same => exact silent same
      | enter _ _ _ _ _ _ same => exact silent same
  | @goes walk below start goes =>
      cases goes with
      | stay _ _ _ _ _ _ _ same => exact silent same
      | pass _ _ _ _ _ _ _ same => exact silent same
      | leave _ _ _ _ _ _ same => exact silent same
      | @invoke _ reading target proceeds ready reads aims _ _ _ observed =>
          rcases calls with ⟨callback, payload, context, observed'⟩
          rcases (reading?_eq_some_iff _ _ _).mp reads with
            ⟨position, registry, slot, cursor, present, resolved, stored, rfl⟩
          dsimp only at aims
          split at aims
          · cases aims
          next live =>
            rw [Option.some.injEq] at aims
            subst aims
            rw [observed, List.cons.injEq, Event.called.injEq] at observed'
            exact ⟨below, slot, ⟨walk, position, registry, start, proceeds, ready, cursor, present,
              resolved, stored⟩, Bool.eq_false_iff.mpr live, observed'.1.1⟩

/-- An emission that reads a live slot calls its callback. -/
theorem Turn.calls_of_reads
    {before after : Machine}
    {below : List Frame}
    {slot : Slot}
    (turn : Turn before after)
    (reads : before.Reads below slot)
    (live : slot.removed = false) :
    Calls before after slot.handle := by
  rcases reads with
    ⟨walk, position, registry, stack, proceeds, ready, cursor, present, resolved, stored⟩
  have reading : before.reading? walk = some ⟨slot.next, some slot⟩ := by
    refine (reading?_eq_some_iff _ _ _).mpr
      ⟨position, registry, slot, cursor, present, resolved, stored, ?_⟩
    rw [live]
    rfl
  cases turn with
  | idle start => rw [stack] at start; cases start
  | starts start => rw [stack] at start; cases start
  | acts other start =>
      rw [stack, List.cons.injEq] at start
      rw [← start.1] at other
      cases other
  | goes start goes =>
      rw [stack, List.cons.injEq, Frame.walk.injEq] at start
      rcases start with ⟨rfl, rfl⟩
      cases goes with
      | stay _ rests =>
          rcases rests with waits | runs
          · exact absurd proceeds waits
          · exact absurd ready runs
      | pass _ _ reads aims =>
          rw [reading, Option.some.injEq] at reads
          rw [← reads] at aims
          cases aims
      | invoke _ _ _ reads aims _ _ _ observed =>
          rw [reading, Option.some.injEq] at reads
          rw [← reads] at aims
          cases aims
          exact ⟨_, _, _, observed⟩
      | leave _ _ why =>
          rcases why with ⟨_, nothing⟩ | ⟨message, panics⟩
          · rw [reading] at nothing
            cases nothing
          · rw [proceeds] at panics
            cases panics

/-! ## Stretches of a run -/

/-- Moves from one time to another, from a reachable state on. -/
structure Run (trace : Nat → Machine) (first last : Nat) : Prop where
  reachable : Reachable (trace first)
  moves : ∀ time, first ≤ time → time < last → Move (trace time) (trace (time + 1))

namespace Run

variable {trace : Nat → Machine} {first last : Nat}

theorem reachable_at (run : Run trace first last) :
    ∀ time, first ≤ time → time ≤ last → Reachable (trace time) := by
  intro time start
  induction time, start using Nat.le_induction with
  | base => exact fun _ => run.reachable
  | succ time start ih =>
      intro bound
      exact (ih (Nat.le_of_succ_le bound)).move (run.moves time start bound)

theorem coherent
    (run : Run trace first last)
    {time : Nat}
    (start : first ≤ time)
    (bound : time ≤ last) :
    Coherent (trace time).world.bus (trace time).walks :=
  (run.reachable_at time start bound).coherent

/-- The steps of one program from a reachable state on. -/
theorem of_steps
    (program : Program)
    {machine : Machine}
    (reachable : Reachable machine)
    (last : Nat) :
    Run (fun time => (step program)^[time] machine) 0 last := by
  refine ⟨reachable, ?_⟩
  intro time _ _
  rw [Function.iterate_succ_apply']
  exact .step program _

/-- A part of a run. -/
theorem part
    (run : Run trace first last)
    {start finish : Nat}
    (from_first : first ≤ start)
    (ordered : start ≤ finish)
    (to_last : finish ≤ last) :
    Run trace start finish :=
  ⟨run.reachable_at start from_first (Nat.le_trans ordered to_last),
    fun time low high =>
      run.moves time (Nat.le_trans from_first low) (Nat.lt_of_lt_of_le high to_last)⟩

end Run

/-- A run during which the emission above `below` lasts. -/
structure Episode
    (below : List Frame)
    (trace : Nat → Machine)
    (walk : Nat → Walk)
    (first last : Nat) : Prop where
  run : Run trace first last
  hosts : ∀ time, first ≤ time → time ≤ last → (trace time).Hosts below (walk time)

namespace Episode

variable
  {below : List Frame}
  {trace : Nat → Machine}
  {walk : Nat → Walk}
  {first last : Nat}

theorem part
    (episode : Episode below trace walk first last)
    {start finish : Nat}
    (from_first : first ≤ start)
    (ordered : start ≤ finish)
    (to_last : finish ≤ last) :
    Episode below trace walk start finish :=
  ⟨episode.run.part from_first ordered to_last,
    fun time low high =>
      episode.hosts time (Nat.le_trans from_first low) (Nat.le_trans high to_last)⟩

/-- What one move of an episode does. -/
theorem follows
    (episode : Episode below trace walk first last)
    {time : Nat}
    (start : first ≤ time)
    (bound : time < last) :
    (walk (time + 1)).signalRef = (walk time).signalRef ∧
      Follows below (trace time) (trace (time + 1)) (walk time) (walk (time + 1)) :=
  (episode.run.moves time start bound).turn.follows
    (episode.run.coherent start (Nat.le_of_lt bound))
    (episode.hosts time start (Nat.le_of_lt bound))
    (episode.hosts (time + 1) (Nat.le_succ_of_le start) bound)

/-- An emission stays with its registration. -/
theorem signalRef_eq (episode : Episode below trace walk first last) :
    ∀ time, first ≤ time → time ≤ last → (walk time).signalRef = (walk first).signalRef := by
  intro time start
  induction time, start using Nat.le_induction with
  | base => exact fun _ => rfl
  | succ time start ih =>
      intro bound
      exact (episode.follows start bound).1.trans (ih (Nat.le_of_succ_le bound))

/-- The chain of the registration keeps its slots during one move. -/
theorem kept_step
    (episode : Episode below trace walk first last)
    {time : Nat}
    (start : first ≤ time)
    (bound : time < last)
    (resolves : (trace (time + 1)).world.bus.Resolves (walk first).signalRef) :
    (trace time).world.bus.Resolves (walk first).signalRef ∧
      ((trace time).world.bus.chain (walk first).signalRef.index).Sublist
        ((trace (time + 1)).world.bus.chain (walk first).signalRef.index) ∧
      ∀ position ∈ (trace time).world.bus.chain (walk first).signalRef.index,
        ∀ slot, (trace time).world.bus.slotAt position = some slot →
          ∃ later, (trace (time + 1)).world.bus.slotAt position = some later ∧
            later.Outlasts slot := by
  have coherent := episode.run.coherent start (Nat.le_of_lt bound)
  have coherentAfter := episode.run.coherent (Nat.le_succ_of_le start) bound
  have among := (episode.hosts time start (Nat.le_of_lt bound)).mem_walks
  have amongAfter := (episode.hosts (time + 1) (Nat.le_succ_of_le start) bound).mem_walks
  have same := episode.signalRef_eq time start (Nat.le_of_lt bound)
  have sameAfter := episode.signalRef_eq (time + 1) (Nat.le_succ_of_le start) bound
  rcases ((episode.run.moves time start bound).coherent coherent).2 with ⟨depth, retains⟩
  have known := coherent.known _ among
  rw [same] at known
  rcases retains.resolves_before known resolves with
    ⟨earlier, signal, there, serial, found, _⟩
  have serialAfter : signal.serial = (walk first).signalRef.serial := by
    rcases resolves with ⟨other, again, serial'⟩
    rw [found, Option.some.injEq] at again
    rw [again, serial']
  have busy : earlier.emitting ≠ 0 := by
    refine coherent.depth_ne_zero among ?_ ?_
    · rw [same]
      exact there
    · rw [same]
      exact serial
  have busyAfter : signal.emitting ≠ 0 := by
    refine coherentAfter.depth_ne_zero amongAfter ?_ ?_
    · rw [sameAfter]
      exact found
    · rw [sameAfter]
      exact serialAfter
  have sublist := retains.chains there found busy busyAfter
  refine ⟨⟨earlier, there, serial⟩, sublist, ?_⟩
  intro position member slot stored
  rcases coherentAfter.sane.slotAt_of_mem (sublist.subset member) with ⟨later, present⟩
  rcases retains.slots present with ⟨old, stored', outlasts⟩ | ⟨vacant, _⟩
  · rw [stored, Option.some.injEq] at stored'
    subst stored'
    exact ⟨later, present, outlasts⟩
  · rw [stored] at vacant
    cases vacant

/-- As long as the registration is there its chain keeps its slots. -/
theorem kept
    (episode : Episode below trace walk first last) :
    ∀ time, first ≤ time → time ≤ last →
      (trace time).world.bus.Resolves (walk first).signalRef →
        (trace first).world.bus.Resolves (walk first).signalRef ∧
          ((trace first).world.bus.chain (walk first).signalRef.index).Sublist
            ((trace time).world.bus.chain (walk first).signalRef.index) ∧
          ∀ position ∈ (trace first).world.bus.chain (walk first).signalRef.index,
            ∀ slot, (trace first).world.bus.slotAt position = some slot →
              ∃ later, (trace time).world.bus.slotAt position = some later ∧
                later.Outlasts slot := by
  intro time start
  induction time, start using Nat.le_induction with
  | base =>
      intro _ resolves
      exact ⟨resolves, .refl _, fun _ _ slot stored => ⟨slot, stored, .refl slot⟩⟩
  | succ time start ih =>
      intro bound resolves
      rcases episode.kept_step start bound resolves with ⟨before, grows, stays⟩
      rcases ih (Nat.le_of_succ_le bound) before with ⟨earlier, grew, stayed⟩
      refine ⟨earlier, grew.trans grows, ?_⟩
      intro position member slot stored
      rcases stayed position member slot stored with ⟨middle, present, outlasts⟩
      rcases stays position (grew.subset member) middle present with ⟨later, found, outlasts'⟩
      exact ⟨later, found, outlasts'.trans outlasts⟩

/-- The cursor stays where it is until the emission reads. -/
theorem cursor_eq
    (episode : Episode below trace walk first last)
    (quiet :
      ∀ time, first ≤ time → time < last → ∀ slot, ¬ (trace time).Reads below slot) :
    ∀ time, first ≤ time → time ≤ last → (walk time).cursor = (walk first).cursor := by
  intro time start
  induction time, start using Nat.le_induction with
  | base => exact fun _ => rfl
  | succ time start ih =>
      intro bound
      have earlier := ih (Nat.le_of_succ_le bound)
      cases (episode.follows start bound).2 with
      | quiet _ same => exact same.trans earlier
      | read reads => exact absurd reads (quiet time start bound _)

end Episode

end SignalDispatch.Machine
