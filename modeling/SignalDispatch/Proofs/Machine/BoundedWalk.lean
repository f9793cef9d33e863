import SignalDispatch.Proofs.Bus.ChainLength
import SignalDispatch.Proofs.Machine.ExactDelivery
import SignalDispatch.Proofs.Machine.Handles
import Mathlib.Algebra.Order.Group.Nat
import Mathlib.Data.Nat.Count

/-!
# How much one emission reads

While an emission walks a chain the chain grows, and what has been passed stays in it, live or as a
tombstone.  So the slots that the emission has read are at distinct positions of the chain as it is
now, and their number is at most its length: the length at the start, with one more for each
connection that was accepted in the meantime.  In a pool the length has a bound, whatever callbacks
do, and an emission that never ends does not go on reading.
-/

namespace SignalDispatch.Machine

/-- It is the turn of the emission that has exactly `below` under it, to read or to leave. -/
def ReadsOn (machine : Machine) (below : List Frame) : Prop :=
  ∃ walk, machine.stack = .walk walk :: below ∧ machine.control = .proceed ∧ walk.running = none

/-- A connection to a registration is accepted in a move. -/
def ConnectsTo (signalRef : SignalRef) (before after : Machine) : Prop :=
  ∃ name callback priority request keep handle registry,
    Executes (.connect name callback priority request keep) before after ∧
      before.world.bus.registry = some registry ∧ registry.find? name = some signalRef.index ∧
      (registry.resolve? signalRef).isSome ∧
      (before.world.bus.connect name callback (issuedContext request before.world.tickets)
        priority).result = .ok (.connected handle)

open Classical in
/-- The number of slots that the emission above `below` has read before a time. -/
noncomputable def readings (below : List Frame) (trace : Nat → Machine) (time : Nat) : Nat :=
  Nat.count (fun moment => ∃ slot, (trace moment).Reads below slot) time

open Classical in
/-- The number of turns that the emission above `below` has had before a time. -/
noncomputable def rounds (below : List Frame) (trace : Nat → Machine) (time : Nat) : Nat :=
  Nat.count (fun moment => (trace moment).ReadsOn below) time

open Classical in
/-- The number of connections to a registration that were accepted before a time. -/
noncomputable def connectionsTo
    (signalRef : SignalRef)
    (trace : Nat → Machine)
    (time : Nat) :
    Nat :=
  Nat.count (fun moment => ConnectsTo signalRef (trace moment) (trace (moment + 1))) time

open Classical in
theorem connectionsTo_mono (signalRef : SignalRef) (trace : Nat → Machine) :
    Monotone (connectionsTo signalRef trace) :=
  Nat.count_monotone _

/-! ## One move -/

section Move

variable {before after : Machine}

/-- A move that draws no handle makes no chain longer. -/
theorem Move.length_chain_le
    (move : Move before after)
    (sane : before.world.bus.Sane)
    (same : after.world.bus.nextHandle = before.world.bus.nextHandle)
    (index : Nat) :
    (after.world.bus.chain index).length ≤ (before.world.bus.chain index).length := by
  have acts
      {operation : Option Operation}
      {middle : Machine}
      {above : List Frame}
      (acts : Acts operation middle after above)
      (bus : middle.world.bus = before.world.bus) :
      (after.world.bus.chain index).length ≤ (before.world.bus.chain index).length := by
    cases acts with
    | shift _ shifts =>
        rw [bus] at shifts
        exact shifts.length_chain_le sane same index
    | enter _ present begun _ replaced =>
        rw [bus] at present
        rcases (sane.registry present).formed.beginEmission begun with ⟨_, _, _, adjusts, _⟩
        rw [Bus.chain_of_some replaced, Bus.chain_of_some present, adjusts.chain]
  cases move.turn with
  | idle _ unchanged => rw [unchanged]
  | starts _ _ started => exact acts started rfl
  | acts _ _ _ acted => exact acts acted rfl
  | @goes walk _ _ goes =>
      cases goes with
      | stay _ _ _ _ _ _ bus | pass _ _ _ _ _ _ bus | invoke _ _ _ _ _ _ _ bus => rw [bus]
      | leave _ _ _ _ _ bus =>
          rw [bus, Bus.leaving]
          cases present : before.world.bus.registry with
          | none => exact Nat.le_refl _
          | some registry =>
              rw [Bus.chain_of_some rfl, Bus.chain_of_some present]
              exact (sane.registry present).formed.length_chain_endEmission_le _ _ _

/-- A move makes the chain of a registration longer only if it connects to it, and then by one. -/
theorem Move.length_chain
    (move : Move before after)
    (sane : before.world.bus.Sane)
    {signalRef : SignalRef}
    (resolves : before.world.bus.Resolves signalRef) :
    (after.world.bus.chain signalRef.index).length ≤
        (before.world.bus.chain signalRef.index).length ∨
      (after.world.bus.chain signalRef.index).length =
          (before.world.bus.chain signalRef.index).length + 1 ∧
        ConnectsTo signalRef before after := by
  have undrawn (same : after.world.bus.nextHandle = before.world.bus.nextHandle) :=
    move.length_chain_le sane same signalRef.index
  cases move.deals with
  | spares spares => exact Or.inl (undrawn spares.nextHandle)
  | takes _ _ _ spares => exact Or.inl (undrawn spares.nextHandle)
  | @executes operation executes undertakes =>
      generalize reached : after.world.bus = bus at undertakes undrawn ⊢
      cases undertakes with
      | spares spares => exact Or.inl (undrawn spares.nextHandle)
      | cleanup => exact Or.inl (undrawn before.world.bus.cleanup_contained.2.2.1)
      | interrupt => exact Or.inl (undrawn rfl)
      | @connect name callback priority request keep =>
          rcases Bus.length_chain_connect_le sane name callback
              (issuedContext request before.world.tickets) priority signalRef.index with
            kept | ⟨longer, ⟨handle, result⟩, registry, present, named⟩
          · exact Or.inl kept
          · exact Or.inr ⟨longer, name, callback, priority, request, keep, handle, registry,
              executes, present, named, (Bus.resolves_iff present _).mp resolves, result⟩

/-- An emission that lasts beyond its turn has read a slot in it. -/
theorem Move.reads_of_readsOn
    {below : List Frame}
    {walk : Walk}
    (move : Move before after)
    (turn : before.ReadsOn below)
    (lasts : after.Hosts below walk) :
    ∃ slot, before.Reads below slot := by
  rcases turn with ⟨reader, stack, proceeds, ready⟩
  have read {reading : SlotReading} (reads : before.reading? reader = some reading) :
      ∃ slot, before.Reads below slot := by
    rcases (reading?_eq_some_iff _ _ _).mp reads with
      ⟨position, registry, slot, cursor, present, resolved, stored, _⟩
    exact ⟨slot, reader, position, registry, stack, proceeds, ready, cursor, present, resolved,
      stored⟩
  cases move.turn with
  | idle start => rw [stack] at start; cases start
  | starts start => rw [stack] at start; cases start
  | acts other start =>
      rw [stack, List.cons.injEq] at start
      rw [← start.1] at other
      cases other
  | goes start goes =>
      rw [stack, List.cons.injEq, Frame.walk.injEq] at start
      rcases start with ⟨rfl, rfl⟩
      cases goes with
      | stay _ rests =>
          rcases rests with waits | runs
          · exact absurd proceeds waits
          · exact absurd ready runs
      | pass _ _ reads => exact read reads
      | invoke _ _ _ reads => exact read reads
      | leave _ _ _ reached quiet => exact absurd quiet (lasts.not_walkless reached)

end Move

/-! ## From the start of an episode on -/

namespace Episode

variable {below : List Frame} {trace : Nat → Machine} {walk : Nat → Walk} {last : Nat}

/-- The chain of the registration grows by the connections that are accepted. -/
theorem length_chain_le
    (episode : Episode below trace walk 0 last) :
    ∀ time ≤ last, (trace time).world.bus.Resolves (walk 0).signalRef →
      ((trace time).world.bus.chain (walk 0).signalRef.index).length ≤
        ((trace 0).world.bus.chain (walk 0).signalRef.index).length +
          connectionsTo (walk 0).signalRef trace time := by
  intro time
  induction time with
  | zero => exact fun _ _ => Nat.le_add_right _ _
  | succ time ih =>
      intro bound resolves
      have within := Nat.le_of_succ_le bound
      have before := (episode.kept_step (Nat.zero_le _) bound resolves).1
      have earlier := ih within before
      have sane := (episode.run.coherent (Nat.zero_le _) within).sane
      have counted : connectionsTo (walk 0).signalRef trace time ≤
          connectionsTo (walk 0).signalRef trace (time + 1) :=
        connectionsTo_mono _ _ (Nat.le_succ time)
      rcases (episode.run.moves time (Nat.zero_le _) bound).length_chain sane before with
        shorter | ⟨longer, connects⟩
      · omega
      · have more : connectionsTo (walk 0).signalRef trace (time + 1) =
            connectionsTo (walk 0).signalRef trace time + 1 := by
          rw [connectionsTo, Nat.count_succ, if_pos connects, connectionsTo]
        omega

/-- When the emission reads, what it has read is at distinct positions of the chain. -/
theorem readings_le_length
    (episode : Episode below trace walk 0 last)
    {time : Nat}
    {slot : Slot}
    (bound : time ≤ last)
    (reads : (trace time).Reads below slot) :
    readings below trace (time + 1) ≤
      ((trace time).world.bus.chain (walk 0).signalRef.index).length := by
  classical
  have part := episode.part (Nat.le_refl 0) (Nat.zero_le time) bound
  rcases part.reads_spec (Nat.zero_le _) (Nat.le_refl _) reads with ⟨_, _, resolves, _⟩
  -- the position that is read at each time, and the slot that is there by now
  have positions (moment : Nat) :
      ∃ position, ∀ read, moment ≤ time → (trace moment).Reads below read →
        position ∈ (trace time).world.bus.chain (walk 0).signalRef.index ∧
          ∃ later, (trace time).world.bus.slotAt position = some later ∧
            later.handle = read.handle := by
    by_cases within : moment ≤ time ∧ ∃ read, (trace moment).Reads below read
    · rcases within with ⟨within, read, reads'⟩
      rcases part.reads_spec (Nat.zero_le _) within reads' with ⟨position, _, _, member, found⟩
      have rest := part.part (Nat.zero_le moment) within (Nat.le_refl _)
      have signalRef := part.signalRef_eq moment (Nat.zero_le _) within
      rw [← signalRef] at member resolves
      rcases rest.kept time within (Nat.le_refl _) resolves with ⟨_, grows, stays⟩
      rcases stays position member _ found with ⟨later, present, outlasts⟩
      rw [signalRef] at member grows
      refine ⟨position, fun other _ again => ⟨grows.subset member, later, present, ?_⟩⟩
      rw [outlasts.handle_eq, again.slot_eq reads', Slot.content_handle]
    · exact ⟨0, fun read inside reads' => absurd ⟨inside, read, reads'⟩ within⟩
  choose position placed using positions
  rw [readings, Nat.count_eq_card_filter_range]
  refine le_trans (Finset.card_le_card_of_injOn position ?_ ?_) (List.toFinset_card_le _)
  · intro moment member
    rcases Finset.mem_filter.mp member with ⟨inside, read, reads'⟩
    have within := Nat.le_of_lt_succ (Finset.mem_range.mp inside)
    exact List.mem_toFinset.mpr (placed moment read within reads').1
  · intro first firstMember second secondMember same
    rcases Finset.mem_filter.mp firstMember with ⟨inside, read, reads'⟩
    rcases Finset.mem_filter.mp secondMember with ⟨inside', read', reads''⟩
    have within := Nat.le_of_lt_succ (Finset.mem_range.mp inside)
    have within' := Nat.le_of_lt_succ (Finset.mem_range.mp inside')
    rcases (placed first read within reads').2 with ⟨there, present, handle⟩
    rcases (placed second read' within' reads'').2 with ⟨there', present', handle'⟩
    rw [same, present', Option.some.injEq] at present
    refine part.reads_unique (Nat.zero_le _) within (Nat.zero_le _) within' reads' reads'' ?_
    rw [← handle, ← handle', present]

/-- A bound on the chain whenever the emission reads is a bound on what it reads. -/
theorem readings_le
    (episode : Episode below trace walk 0 last)
    {most : Nat}
    (bounded :
      ∀ time ≤ last, ∀ slot, (trace time).Reads below slot →
        ((trace time).world.bus.chain (walk 0).signalRef.index).length ≤ most) :
    ∀ time ≤ last + 1, readings below trace time ≤ most := by
  intro time
  induction time with
  | zero =>
      intro _
      rw [readings, Nat.count_zero]
      exact Nat.zero_le _
  | succ time ih =>
      intro bound
      have within := Nat.le_of_succ_le_succ bound
      by_cases reads : ∃ slot, (trace time).Reads below slot
      · rcases reads with ⟨slot, reads⟩
        exact (episode.readings_le_length within reads).trans (bounded time within slot reads)
      · rw [readings, Nat.count_succ, if_neg reads, Nat.add_zero]
        exact ih (Nat.le_of_succ_le bound)

/-- The emission has as many turns as it reads slots, but for the last. -/
theorem rounds_le (episode : Episode below trace walk 0 last) :
    ∀ time ≤ last, rounds below trace time ≤ readings below trace time := by
  intro time
  induction time with
  | zero =>
      intro _
      rw [rounds, Nat.count_zero]
      exact Nat.zero_le _
  | succ time ih =>
      intro bound
      have earlier := ih (Nat.le_of_succ_le bound)
      rw [rounds, Nat.count_succ, ← rounds, readings, Nat.count_succ, ← readings]
      by_cases turn : (trace time).ReadsOn below
      · have reads := (episode.run.moves time (Nat.zero_le _) bound).reads_of_readsOn turn
          (episode.hosts (time + 1) (Nat.zero_le _) bound)
        rw [if_pos turn, if_pos reads]
        exact Nat.succ_le_succ earlier
      · rw [if_neg turn]
        exact Nat.le_add_right_of_le earlier

end Episode

namespace Run

variable {trace : Nat → Machine} {last : Nat}

/-- No move of a run changes the storage of the bus. -/
theorem backend_eq (run : Run trace 0 last) :
    ∀ time ≤ last, (trace time).world.bus.backend = (trace 0).world.bus.backend := by
  intro time
  induction time with
  | zero => exact fun _ => rfl
  | succ time ih =>
      intro bound
      exact (run.moves time (Nat.zero_le _) bound).deals.backend.trans
        (ih (Nat.le_of_succ_le bound))

end Run

/-- An emission reads no more slots than its chain had at its start and connections were accepted
since; in a pool it reads no more than there are entries, and does not go on for ever. -/
theorem readings_bounded
    {below : List Frame}
    {trace : Nat → Machine}
    {walk : Nat → Walk}
    {last : Nat}
    (emission : EmissionRun below trace walk last) :
    readings below trace (last + 1) ≤
        ((trace 0).world.bus.chain (walk 0).signalRef.index).length +
          connectionsTo (walk 0).signalRef trace last ∧
      ∀ signals capacity, (trace 0).world.bus.backend = .pool signals capacity →
        readings below trace (last + 1) ≤ capacity ∧
          rounds below trace (last + 1) ≤ capacity + 1 := by
  have episode := emission.episode
  constructor
  · refine episode.readings_le ?_ (last + 1) (Nat.le_refl _)
    intro time bound slot reads
    rcases episode.reads_spec (Nat.zero_le _) bound reads with ⟨_, _, resolves, _⟩
    refine (episode.length_chain_le time bound resolves).trans (Nat.add_le_add_left ?_ _)
    exact connectionsTo_mono _ _ bound
  · intro signals capacity pool
    have read : ∀ time ≤ last + 1, readings below trace time ≤ capacity := by
      refine episode.readings_le ?_
      intro time bound slot _
      have reachable := episode.run.reachable_at time (Nat.zero_le _) bound
      exact Bus.length_chain_le_of_pool reachable.coherent.sane reachable.housed
        ((episode.run.backend_eq time bound).trans pool) _
    refine ⟨read (last + 1) (Nat.le_refl _), ?_⟩
    have earlier := (episode.rounds_le last (Nat.le_refl _)).trans (read last (Nat.le_succ _))
    rw [rounds, Nat.count_succ, ← rounds]
    split
    · exact Nat.succ_le_succ earlier
    · exact Nat.le_succ_of_le earlier

/-- A routine that disconnects the slot that it runs for and connects a replacement, every time. -/
def replacingSelf (routine : RoutineId) (place : String) : Routine where
  turns := 100
  commands :=
    [{ label := "leave", operation := .disconnectHandle (.kept place) },
      { label := "return", operation := .connect "signal" routine none none (.under place) }]

/-- Two routines that take turns in replacing themselves. -/
def replacing : Program where
  routines := [replacingSelf 0 "first", replacingSelf 1 "second"]

/-- A signal with a slot for each routine, in a pool of five. -/
def manned : Machine :=
  (initial (.pool 1 5) {}).play replacing 8
    [.init, .register "signal" none none, .connect "signal" 0 none none (.under "first"),
      .connect "signal" 1 none none (.under "second")]

/-- The steps of an emission whose callbacks replace themselves. -/
def replacement (time : Nat) : Machine :=
  (step replacing)^[time] (manned.play replacing 0 [.emit ⟨"signal", .void⟩])

/-- The emission comes to its end when the pool is full: it has read five slots, two of them were
there at its start. -/
theorem readings_bounded_replacement :
    (replacement 60).calls = [⟨5⟩, ⟨4⟩, ⟨3⟩, ⟨2⟩, ⟨1⟩] ∧ (replacement 61).walks = [] ∧
      readings [] replacement 61 ≤
        2 + connectionsTo (outermost (replacement 0)).signalRef replacement 60 ∧
      readings [] replacement 61 ≤ 5 ∧ rounds [] replacement 61 ≤ 6 := by
  have reachable : Reachable (replacement 0) :=
    ⟨.pool 1 5, {}, (reaches_play replacing 8 _ _).trans (reaches_play replacing 0 _ _)⟩
  have frames :
      ∀ time < 61,
        (replacement time).stack.getLast? = some (.walk (outermost (replacement time))) := by
    decide +kernel
  have emission :
      EmissionRun [] replacement (fun time => outermost (replacement time)) 60 := by
    refine ⟨⟨{ world := manned.world }, ⟨"signal", .void⟩, rfl, by decide +kernel⟩,
      .of_steps replacing reachable 60, ?_⟩
    intro time _ bound
    exact List.getLast?_eq_some_iff.mp (frames time (Nat.lt_succ_of_le bound))
  have start :
      ((replacement 0).world.bus.chain (outermost (replacement 0)).signalRef.index).length = 2 := by
    decide +kernel
  have bounded := readings_bounded emission
  rw [start] at bounded
  exact ⟨by decide +kernel, by decide +kernel, bounded.1, bounded.2 1 5 (by decide +kernel)⟩

end SignalDispatch.Machine
