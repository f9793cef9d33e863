import SignalDispatch.Proofs.Machine.Coherence
import Mathlib.Logic.Function.Iterate

/-!
# Reachable states are coherent

`Machine.Move` is one move: a step, or the start of an operation of a session.  The program may be
another one at every move, so nothing is assumed about what user code does.  `Move.turn` sorts moves
by the frame that makes them, `Move.paces` by what becomes of the emissions in progress.
`Move.coherent` is what one move preserves and `Reachable.coherent` what every run preserves.
-/

namespace SignalDispatch.Machine

/-- A session starts an operation in the world that was left. -/
def perform (program : Program) (machine : Machine) (operation : Operation) : Machine :=
  ({ world := machine.world } : Machine).execute program .void operation

/-- One move: a step, or the next operation of a session. -/
inductive Move : Machine → Machine → Prop where
  | step (program : Program) (machine : Machine) : Move machine (machine.step program)
  | perform (program : Program) {machine : Machine} (operation : Operation) :
      machine.stack = [] →
      machine.control ≠ .aborted →
      Move machine (machine.perform program operation)

/-- User code, or a session, starts an operation in a move. -/
inductive Executes (operation : Operation) : Machine → Machine → Prop where
  | command (program : Program) {machine : Machine} :
      machine.issued? = some operation →
      Executes operation machine (machine.step program)
  | session (program : Program) {machine : Machine} :
      machine.stack = [] →
      machine.control ≠ .aborted →
      Executes operation machine (machine.perform program operation)

/-- Any number of moves. -/
def Reaches : Machine → Machine → Prop :=
  Relation.ReflTransGen Move

/-- A session that has not started yet. -/
def initial (backend : Backend) (config : Config) : Machine where
  world := { bus := Bus.ofConfig backend config }

/-- A state that a session can come to, whatever its storage, its settings and its user code. -/
def Reachable (machine : Machine) : Prop :=
  ∃ backend config, Reaches (initial backend config) machine

/-! ## Moves by the frame that makes them -/

/-- What a move is, by the frame that makes it. -/
inductive Turn (before after : Machine) : Prop where
  /-- Nothing is left to be done. -/
  | idle : before.stack = [] → after = before → Turn before after
  /-- A session starts an operation; what was observed before is put aside. -/
  | starts {operation : Operation} {above : List Frame} :
      before.stack = [] →
      after.stack = above ++ [] →
      Acts (some operation) { before with events := [] } after above →
      Turn before after
  /-- A frame that is not an emission acts above the frames below. -/
  | acts {frame : Frame} {above below : List Frame} :
      frame.walk? = none →
      before.stack = frame :: below →
      after.stack = above ++ below →
      Acts before.issued? before after above →
      Turn before after
  | goes {walk : Walk} {below : List Frame} :
      before.stack = .walk walk :: below →
      Goes walk below before after →
      Turn before after

theorem walk?_eq_some {frame : Frame} {walk : Walk} (emission : frame.walk? = some walk) :
    frame = .walk walk := by
  cases frame <;> cases emission
  rfl

theorem Move.turn {before after : Machine} (move : Move before after) : Turn before after := by
  cases move with
  | step program =>
      cases stack : before.stack with
      | nil => exact .idle stack (by rw [Machine.step, stack])
      | cons frame below =>
          cases emission : frame.walk? with
          | some walk =>
              rw [walk?_eq_some emission] at stack
              exact .goes stack (step_goes program stack)
          | none =>
              rcases step_acts program stack emission with ⟨above, reached, acts⟩
              exact .acts emission stack reached acts
  | perform program operation idle =>
      rcases execute_acts program ({ world := before.world } : Machine) .void operation with
        ⟨above, reached, acts⟩
      have same : Acts (some operation) { before with events := [] } _ (above ++ []) :=
        acts.extend rfl rfl .nil
      rw [List.append_nil] at same
      exact .starts idle reached same

/-! ## Moves by what becomes of the emissions in progress -/

/-- Frames that are not emissions in front of a stack do not change its emissions. -/
theorem walks_of_stack
    {machine : Machine}
    {above below : List Frame}
    (stack : machine.stack = above ++ below)
    (walkless : Walkless above) :
    machine.walks = below.filterMap Frame.walk? := by
  rw [walks, stack, List.filterMap_append, walkless]
  rfl

theorem walks_of_walk
    {machine : Machine}
    {walk : Walk}
    {above below : List Frame}
    (stack : machine.stack = above ++ .walk walk :: below)
    (walkless : Walkless above) :
    machine.walks = walk :: below.filterMap Frame.walk? := by
  rw [walks_of_stack stack walkless]
  rfl

theorem walks_of_innermost
    {machine : Machine}
    {walk : Walk}
    {below : List Frame}
    (stack : machine.stack = .walk walk :: below) :
    machine.walks = walk :: below.filterMap Frame.walk? := by
  rw [walks, stack]
  rfl

section Paces

variable {before after : Machine}

/-- The emissions in progress: their registrations, and whether they are timed. -/
def timers (machine : Machine) : List (SignalRef × Bool) :=
  machine.walks.map fun walk => (walk.signalRef, walk.startedAt.isSome)

theorem length_timers (machine : Machine) : machine.timers.length = machine.walks.length :=
  List.length_map _

theorem length_walks_eq (same : after.timers = before.timers) :
    after.walks.length = before.walks.length := by
  rw [← length_timers, same, length_timers]

/-- What a move does to the emissions in progress, and to the bus. -/
inductive Paces (before after : Machine) : Prop where
  | steady {operation : Option Operation} :
      after.timers = before.timers →
      Bus.Shifts operation before.world.bus after.world.bus →
      (∀ asked, operation = some asked → Executes asked before after) →
      Paces before after
  /-- An emission begins; it is timed exactly if profiling is on. -/
  | enters {registry next : Registry} {walk : Walk} :
      after.walks = walk :: before.walks →
      before.world.bus.registry = some registry →
      registry.beginEmission walk.name = .ok (next, walk.signalRef, walk.cursor) →
      after.world.bus.registry = some next →
      walk.startedAt.isSome = before.world.bus.profiling →
      Paces before after
  | leaves {walk : Walk} {elapsed : Option Nat} :
      before.walks = walk :: after.walks →
      after.world.bus = before.world.bus.leaving walk.signalRef elapsed →
      elapsed.isSome = walk.startedAt.isSome →
      Paces before after

namespace Paces

/-- A move of a frame that is not an emission. -/
theorem of_acts
    {operation : Option Operation}
    {started : Machine}
    {above below : List Frame}
    (acts : Acts operation started after above)
    (bus : started.world.bus = before.world.bus)
    (executes : ∀ asked, operation = some asked → Executes asked before after)
    (walks : before.walks = below.filterMap Frame.walk?)
    (reached : after.stack = above ++ below) :
    Paces before after := by
  cases acts with
  | shift quiet shifts =>
    rw [bus] at shifts
    refine .steady ?_ shifts executes
    rw [timers, walks_of_stack reached quiet, timers, walks]
  | enter quiet present begun _ replaced _ _ timed =>
    rw [bus] at present timed
    refine .enters ?_ present begun replaced timed
    rw [Machine.walks, reached, List.cons_append, List.filterMap_cons, List.filterMap_append, quiet,
      walks]
    rfl

/-- A move of the innermost emission. -/
theorem of_goes
    {walk : Walk}
    {below : List Frame}
    (goes : Goes walk below before after)
    (stack : before.stack = .walk walk :: below) :
    Paces before after := by
  have earlier := walks_of_innermost stack
  have steady
      {same : Walk}
      (walks : after.walks = same :: below.filterMap Frame.walk?)
      (signalRef : same.signalRef = walk.signalRef)
      (startedAt : same.startedAt = walk.startedAt)
      (bus : after.world.bus = before.world.bus) :
      Paces before after := by
    refine @Paces.steady _ _ none ?_ (bus ▸ .refl _ _) fun _ nothing => nomatch nothing
    rw [timers, walks, timers, earlier, List.map_cons, List.map_cons, signalRef, startedAt]
  cases goes with
  | stay above _ reached quiet signalRef _ bus _ startedAt =>
    exact steady (walks_of_walk reached quiet) signalRef startedAt bus
  | pass _ _ _ _ reached _ bus => exact steady (walks_of_innermost reached) rfl rfl bus
  | invoke above _ _ _ _ reached quiet bus =>
    exact steady (walks_of_walk reached quiet) rfl rfl bus
  | leave above _ _ reached quiet left _ taken =>
    refine .leaves ?_ left taken
    rw [earlier, walks_of_stack reached quiet]

end Paces

theorem Move.paces (move : Move before after) : Paces before after := by
  cases move with
  | step program =>
    cases stack : before.stack with
    | nil =>
      have same : before.step program = before := step_of_idle program stack
      refine @Paces.steady _ _ none ?_ ?_ fun _ nothing => nomatch nothing
      · rw [same]
      · rw [same]
        exact .refl _ _
    | cons frame below =>
      cases emission : frame.walk? with
      | some walk =>
        rw [walk?_eq_some emission] at stack
        exact .of_goes (step_goes program stack) stack
      | none =>
        rcases step_acts program stack emission with ⟨above, reached, acts⟩
        refine .of_acts acts rfl (fun asked issued => .command program issued) ?_ reached
        rw [walks, stack, List.filterMap_cons_none emission]
  | perform program operation idle going =>
    rcases execute_acts program ({ world := before.world } : Machine) .void operation with
      ⟨above, reached, acts⟩
    refine .of_acts acts rfl ?_ ?_ reached
    · rintro asked same
      cases same
      exact .session program idle going
    · rw [walks, idle]

end Paces

/-! ## Moves by what becomes of the bus -/

/-- What a move does to the bus. -/
inductive OnBus (before after : Machine) : Prop where
  /-- It executes an operation, or a frame that is not an emission goes on. -/
  | shifts {operation : Option Operation} :
      Bus.Shifts operation before.world.bus after.world.bus →
      (∀ asked, operation = some asked → Executes asked before after) →
      OnBus before after
  | enters {registry next : Registry} {walk : Walk} :
      before.world.bus.registry = some registry →
      registry.beginEmission walk.name = .ok (next, walk.signalRef, walk.cursor) →
      after.world.bus.registry = some next →
      OnBus before after
  | leaves {walk : Walk} {elapsed : Option Nat} :
      after.world.bus = before.world.bus.leaving walk.signalRef elapsed →
      OnBus before after

theorem Move.onBus {before after : Machine} (move : Move before after) : OnBus before after := by
  cases move.paces with
  | steady _ shifts executes => exact .shifts shifts executes
  | enters _ present begun replaced => exact .enters present begun replaced
  | leaves _ left => exact .leaves left

theorem reading?_eq_some_iff (machine : Machine) (walk : Walk) (reading : SlotReading) :
    machine.reading? walk = some reading ↔
      ∃ position registry slot,
        walk.cursor = some position ∧ machine.world.bus.registry = some registry ∧
          (registry.resolve? walk.signalRef).isSome ∧
          registry.slots.get? position = some slot ∧
          reading = ⟨slot.next, if slot.removed then none else some slot⟩ := by
  rw [reading?, Option.bind_eq_some_iff]
  constructor
  · rintro ⟨position, cursor, reads⟩
    rcases Option.bind_eq_some_iff.mp reads with ⟨registry, present, reads⟩
    rcases (Registry.read?_eq_some_iff _ _ _ _).mp reads with ⟨resolved, slot, stored, same⟩
    exact ⟨position, registry, slot, cursor, present, resolved, stored, same⟩
  · rintro ⟨position, registry, slot, cursor, present, resolved, stored, same⟩
    refine ⟨position, cursor, Option.bind_eq_some_iff.mpr ⟨registry, present, ?_⟩⟩
    exact (Registry.read?_eq_some_iff _ _ _ _).mpr ⟨resolved, slot, stored, same⟩

/-- A cursor is in the chain of its registration, and the link at the cursor leads to the position
after it. -/
theorem next_of_cursor
    {bus : Bus}
    {walk : Walk}
    {walks : List Walk}
    {position : Nat}
    {registry : Registry}
    {slot : Slot}
    (coherent : Coherent bus walks)
    (member : walk ∈ walks)
    (cursor : walk.cursor = some position)
    (present : bus.registry = some registry)
    (resolved : (registry.resolve? walk.signalRef).isSome)
    (stored : registry.slots.get? position = some slot) :
    bus.Resolves walk.signalRef ∧ bus.slotAt position = some slot.content ∧
      ∃ earlier later,
        bus.chain walk.signalRef.index = earlier ++ position :: later ∧
          slot.next = later.head? := by
  have resolves : bus.Resolves walk.signalRef := (Bus.resolves_iff present _).mpr resolved
  have placed := coherent.cursors walk member resolves position cursor
  rcases List.append_of_mem placed with ⟨earlier, later, chain⟩
  have linked := chain
  rw [Bus.chain_of_some present] at linked
  rcases (coherent.sane.registry present).formed.next_eq linked with ⟨found, there, next⟩
  rw [stored, Option.some.injEq] at there
  subst there
  exact ⟨resolves, Bus.slotAt_of_get? present stored, earlier, later, chain, next⟩

/-- While its registration is there, a slot is stored at the cursor of a walk. -/
theorem slot_of_cursor
    {bus : Bus}
    {walk : Walk}
    {walks : List Walk}
    {position : Nat}
    (coherent : Coherent bus walks)
    (member : walk ∈ walks)
    (resolves : bus.Resolves walk.signalRef)
    (cursor : walk.cursor = some position) :
    ∃ registry slot,
      bus.registry = some registry ∧ (registry.resolve? walk.signalRef).isSome ∧
        registry.slots.get? position = some slot := by
  have placed := coherent.cursors walk member resolves position cursor
  rcases coherent.sane.slotAt_of_mem placed with ⟨content, found⟩
  cases present : bus.registry with
  | none => exact absurd resolves (Bus.not_resolves_of_none present _)
  | some registry =>
      rw [Bus.slotAt_of_some present] at found
      rcases (Registry.contentAt_eq_some_iff _ _ _).mp found with ⟨slot, stored, _⟩
      exact ⟨registry, slot, rfl, (Bus.resolves_iff present _).mp resolves, stored⟩

/-- What a frame that is not an emission does keeps the emissions in agreement with the bus. -/
theorem Acts.coherent
    {operation : Option Operation}
    {before after : Machine}
    {above below : List Frame}
    (acts : Acts operation before after above)
    (coherent : Coherent before.world.bus (below.filterMap Frame.walk?))
    (reached : after.stack = above ++ below) :
    Coherent after.world.bus after.walks ∧
      ∃ depth, Bus.Retains depth before.world.bus after.world.bus := by
  cases acts with
  | shift quiet shifts =>
      rw [walks_of_stack reached quiet]
      exact ⟨coherent.shift shifts, _, (shifts.sane coherent.sane).2⟩
  | @enter registry next walk others quiet present begun _ replaced counts =>
      have walksAfter : after.walks = walk :: below.filterMap Frame.walk? := by
        rw [Machine.walks, reached, List.cons_append, List.filterMap_cons, List.filterMap_append,
          quiet, List.nil_append]
        rfl
      rw [walksAfter]
      exact coherent.enter present begun replaced counts

/-- A move keeps the emissions in agreement with the bus, and retains the bus. -/
theorem Turn.coherent
    {before after : Machine}
    (turn : Turn before after)
    (coherent : Coherent before.world.bus before.walks) :
    Coherent after.world.bus after.walks ∧
      ∃ depth, Bus.Retains depth before.world.bus after.world.bus := by
  cases turn with
  | idle _ same =>
      subst same
      exact ⟨coherent, _, .of_same rfl (.refl _)⟩
  | starts start reached acts =>
      rw [Machine.walks, start] at coherent
      exact acts.coherent coherent reached
  | acts other start reached acts =>
      rw [Machine.walks, start, List.filterMap_cons_none other] at coherent
      exact acts.coherent coherent reached
  | @goes walk below start goes =>
      rw [walks_of_innermost start] at coherent
      have unchanged (same : after.world.bus = before.world.bus) :
          ∃ depth, Bus.Retains depth before.world.bus after.world.bus :=
        ⟨_, .of_same (congrArg Bus.registry same) (same ▸ .refl _)⟩
      have onwards
          {reading : SlotReading}
          (reads : before.reading? walk = some reading)
          (position : Nat)
          (next : reading.next = some position) :
          position ∈ before.world.bus.chain walk.signalRef.index := by
        rcases (reading?_eq_some_iff _ _ _).mp reads with
          ⟨_, registry, slot, cursor, present, resolved, stored, rfl⟩
        rcases next_of_cursor coherent List.mem_cons_self cursor present resolved stored with
          ⟨_, _, earlier, later, chain, link⟩
        rw [link] at next
        rw [chain]
        exact List.mem_append_right _
          (List.mem_cons_of_mem _ (List.mem_of_mem_head? (Option.mem_def.mpr next)))
      cases goes with
      | stay above _ reached quiet signalRef cursor same _ =>
          rw [walks_of_walk reached quiet]
          refine ⟨?_, unchanged same⟩
          rw [same]
          refine coherent.innermost signalRef ?_
          intro resolves position placed
          rw [cursor] at placed
          exact coherent.cursors walk List.mem_cons_self resolves position placed
      | pass _ _ reads _ reached _ same _ =>
          rw [walks_of_innermost reached]
          refine ⟨?_, unchanged same⟩
          rw [same]
          exact coherent.innermost rfl fun _ => onwards reads
      | invoke above _ _ reads _ reached quiet same _ =>
          rw [walks_of_walk reached quiet]
          refine ⟨?_, unchanged same⟩
          rw [same]
          exact coherent.innermost rfl fun _ => onwards reads
      | leave above _ _ reached quiet left _ =>
          rw [walks_of_stack reached quiet, left]
          exact coherent.leave _

/-- One move keeps a state coherent. -/
theorem Move.coherent
    {before after : Machine}
    (move : Move before after)
    (coherent : Coherent before.world.bus before.walks) :
    Coherent after.world.bus after.walks ∧
      ∃ depth, Bus.Retains depth before.world.bus after.world.bus :=
  move.turn.coherent coherent

/-- Every run keeps a state coherent. -/
theorem Reaches.coherent
    {before after : Machine}
    (reaches : Reaches before after)
    (coherent : Coherent before.world.bus before.walks) :
    Coherent after.world.bus after.walks := by
  induction reaches with
  | refl => exact coherent
  | tail _ move ih => exact (move.coherent ih).1

/-- Before a session starts nothing is registered and nothing is emitted. -/
theorem coherent_initial (backend : Backend) (config : Config) :
    Coherent (initial backend config).world.bus (initial backend config).walks where
  sane := .ofConfig backend config
  known := by
    intro walk member
    cases member
  depths := by
    intro index signal found
    rw [Bus.signalAt_of_none rfl] at found
    cases found
  cursors := by
    intro walk member
    cases member

/-- Every reachable state is coherent. -/
theorem Reachable.coherent {machine : Machine} (reachable : Reachable machine) :
    Coherent machine.world.bus machine.walks := by
  rcases reachable with ⟨backend, config, reaches⟩
  exact reaches.coherent (coherent_initial backend config)

/-! ## Sessions -/

theorem Reaches.iterate (program : Program) (machine : Machine) (count : Nat) :
    Reaches machine ((step program)^[count] machine) := by
  induction count with
  | zero => exact .refl
  | succ count ih =>
      rw [Function.iterate_succ_apply']
      exact ih.tail (.step program _)

/-- Operations one after another, as long as each one is over after `limit` steps. -/
def play (program : Program) (limit : Nat) (operations : List Operation) (machine : Machine) :
    Machine :=
  operations.foldl
    (fun machine operation =>
      if machine.stack = [] ∧ machine.control ≠ .aborted then
        (step program)^[limit] (machine.perform program operation)
      else machine)
    machine

theorem reaches_play
    (program : Program)
    (limit : Nat)
    (operations : List Operation)
    (machine : Machine) :
    Reaches machine (machine.play program limit operations) := by
  induction operations generalizing machine with
  | nil => exact .refl
  | cons operation rest ih =>
      rw [play, List.foldl_cons, ← play]
      split
      next ready =>
        have performed := Reaches.iterate program (machine.perform program operation) limit
        exact Relation.ReflTransGen.trans
          (.head (.perform program operation ready.1 ready.2) performed) (ih _)
      next => exact ih machine

/-- A finished state stays as it is. -/
theorem step_of_finished (program : Program) {machine : Machine} (stopped : machine.finished) :
    machine.step program = machine := by
  rw [finished, Bool.or_eq_true] at stopped
  rcases stopped with idle | dead
  · rw [step, List.isEmpty_iff.mp idle]
  · rw [step]
    split
    · rfl
    · rw [beq_iff_eq.mp dead]

/-- Running is stepping as often as the limit says. -/
theorem run_eq_iterate (program : Program) (limit : Nat) (machine : Machine) :
    machine.run program limit = (step program)^[limit] machine := by
  induction limit generalizing machine with
  | zero => rfl
  | succ limit ih =>
      rw [run, Function.iterate_succ_apply]
      split
      next stopped =>
        rw [step_of_finished program stopped]
        exact (Function.iterate_fixed (step_of_finished program stopped) limit).symm
      next => exact ih _

/-- A state with an outcome has nothing left to be done, and was not aborted. -/
theorem idle_of_outcome? {machine : Machine} (answered : machine.outcome?.isSome) :
    machine.stack = [] ∧ machine.control ≠ .aborted := by
  rw [outcome?.eq_def] at answered
  split at answered
  next idle answer => exact ⟨idle, by rw [answer]; exact Control.noConfusion⟩
  next idle panic => exact ⟨idle, by rw [panic]; exact Control.noConfusion⟩
  next => cases answered

theorem Reachable.move {before after : Machine} (reachable : Reachable before)
    (move : Move before after) :
    Reachable after := by
  rcases reachable with ⟨backend, config, reaches⟩
  exact ⟨backend, config, reaches.tail move⟩

theorem Reachable.reaches {before after : Machine} (reachable : Reachable before)
    (reaches : Reaches before after) :
    Reachable after := by
  rcases reachable with ⟨backend, config, earlier⟩
  exact ⟨backend, config, earlier.trans reaches⟩

/-- The worlds that a session comes to are worlds of reachable states. -/
theorem Reachable.session
    (program : Program)
    (operations : List Operation)
    {machine : Machine}
    (reachable : Reachable machine)
    (idle : machine.stack = [])
    (going : machine.control ≠ .aborted)
    (answered :
      ∀ report ∈ Session.run program machine.world operations, report.answer.isSome) :
    ∀ report ∈ Session.run program machine.world operations,
      ∃ other, Reachable other ∧ other.world = report.world := by
  induction operations generalizing machine with
  | nil =>
      intro report member
      cases member
  | cons operation rest ih =>
      have started := reachable.move (.perform program operation idle going)
      have ended := started.reaches (.iterate program _ Session.stepLimit)
      rw [← run_eq_iterate] at ended
      rw [Session.run] at answered ⊢
      rcases idle_of_outcome? (answered _ List.mem_cons_self) with ⟨idleAfter, goingAfter⟩
      intro report member
      rcases List.mem_cons.mp member with rfl | later
      · exact ⟨_, ended, rfl⟩
      · exact ih ended idleAfter goingAfter
          (fun other among => answered other (List.mem_cons_of_mem _ among)) report later

end SignalDispatch.Machine
