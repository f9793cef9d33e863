import SignalDispatch.Proofs.Machine.ReportedOnce
import SignalDispatch.Proofs.Machine.Requeueing

/-!
# Operations that come back

An operation is performed on top of whatever frames there are, and comes back to them with an
answer.  `Machine.ComesBack` is the run in between, together with what user code may do in it, and
`Machine.Performs` is one operation after another.

An emission that comes back does so amid other surroundings too, with the same answer, the same
effect on the world and the same events.
-/

namespace SignalDispatch.Machine

/-- What was started comes back to the frames below with an answer.  Until then other frames stand
above them, and the operations that user code starts are allowed. -/
inductive ComesBack (program : Program) (allowed : Operation → Prop) (below : List Frame) :
    Machine → Answer → Machine → Prop where
  | back {machine : Machine} {answer : Answer} :
      machine.stack = below →
      machine.control = .answer answer →
      ComesBack program allowed below machine answer machine
  | step {machine ended : Machine} {answer : Answer} :
      below.length < machine.stack.length →
      (∀ operation ∈ machine.issued?, allowed operation) →
      ComesBack program allowed below (machine.step program) answer ended →
      ComesBack program allowed below machine answer ended

/-- Operations are performed one after another, each when the one before has come back. -/
inductive Performs (program : Program) (allowed : Operation → Prop) :
    Machine → List Operation → List Answer → Machine → Prop where
  | nil {machine : Machine} : Performs program allowed machine [] [] machine
  | cons
      {machine between ended : Machine}
      {operation : Operation}
      {operations : List Operation}
      {answer : Answer}
      {answers : List Answer} :
      ComesBack program allowed machine.stack (machine.execute program .void operation) answer
        between →
      Performs program allowed between operations answers ended →
      Performs program allowed machine (operation :: operations) (answer :: answers) ended

variable {program : Program} {allowed : Operation → Prop} {below : List Frame}
  {machine between ended : Machine} {answer : Answer}

namespace ComesBack

theorem stack (comes : ComesBack program allowed below machine answer ended) :
    ended.stack = below := by
  induction comes with
  | back stack => exact stack
  | step _ _ _ ih => exact ih

theorem control (comes : ComesBack program allowed below machine answer ended) :
    ended.control = .answer answer := by
  induction comes with
  | back _ control => exact control
  | step _ _ _ ih => exact ih

/-- A frame starts something and comes back itself after it has been answered. -/
theorem trans
    {frame : Frame}
    {other : Answer}
    (comes : ComesBack program allowed (frame :: below) machine other between)
    (rest : ComesBack program allowed below between answer ended) :
    ComesBack program allowed below machine answer ended := by
  induction comes with
  | back => exact rest
  | step above issues _ ih => exact .step (Nat.lt_of_succ_lt above) issues (ih rest)

/-- What is started comes back in one way only. -/
theorem unique
    {other : Answer}
    {ended' : Machine}
    (comes : ComesBack program allowed below machine answer ended)
    (comes' : ComesBack program allowed below machine other ended') :
    ended = ended' := by
  induction comes with
  | back stack =>
      cases comes' with
      | back => rfl
      | step above => exact absurd (stack ▸ above) (Nat.lt_irrefl _)
  | step above _ _ ih =>
      cases comes' with
      | back stack => exact absurd (stack ▸ above) (Nat.lt_irrefl _)
      | step _ _ comes' => exact ih comes'

/-- A panic goes on through a frame that emits, which then does not come back. -/
theorem not_unwinding
    {frame : Frame}
    {message : String}
    (relays : frame.Relays)
    (stack : machine.stack = frame :: below)
    (control : machine.control = .unwind message) :
    ¬ ComesBack program allowed below machine answer ended := by
  have unwinds : machine.step program =
      ({ machine with stack := below } : Machine).unwinding message := by
    rw [step_of_unwind program stack control]
    cases relays <;> rfl
  intro comes
  cases comes with
  | back stack' _ => exact absurd (stack'.symm.trans stack) (above_ne_below [] frame below).symm
  | step _ _ comes =>
      rw [unwinds] at comes
      cases comes with
      | back _ control' => cases control'
      | step above => exact absurd above (Nat.lt_irrefl _)

/-- A frame that has started something and comes back itself has been answered. -/
theorem split
    {frame top : Frame}
    (comes : ComesBack program allowed below machine answer ended)
    (relays : frame.Relays)
    (bears : machine.Bears (frame :: below) top)
    (answers : top.Answers) :
    ∃ other between,
      ComesBack program allowed (frame :: below) machine other between ∧
        ComesBack program allowed below between answer ended := by
  induction comes generalizing top with
  | back stack =>
      rcases bears with ⟨upper, stack'⟩
      have lengths := congrArg List.length (stack.symm.trans stack')
      simp only [List.length_append, List.length_cons] at lengths
      omega
  | @step machine ended answer _ issues comes ih =>
      have higher : (frame :: below).length < machine.stack.length := by
        rcases bears with ⟨upper, stack⟩
        rw [stack, List.length_append, List.length_cons (a := top)]
        omega
      cases (Move.step program machine).minds bears with
      | covered _ bears' =>
          rcases ih bears' answers with ⟨other, between, first, second⟩
          exact ⟨other, between, .step higher issues first, second⟩
      | turn _ turns =>
          cases turns with
          | continues stack continues =>
              rcases ih ⟨_, stack⟩ (continues.answers answers) with
                ⟨other, between, first, second⟩
              exact ⟨other, between, .step higher issues first, second⟩
          | returns stack returns =>
              have going := returns.ne_proceed answers
              cases control : (machine.step program).control with
              | answer other => exact ⟨other, _, .step higher issues (.back stack control), comes⟩
              | unwind message => exact absurd comes (not_unwinding relays stack control)
              | proceed => exact absurd control going
              | aborted =>
                  rw [control] at returns
                  cases returns

/-- What comes back does so amid other surroundings, as long as it leaves the deferred queue
alone. -/
theorem amid_other
    (around other : Surroundings)
    (apart : ∀ operation, allowed operation → operation.usesDeferred = false)
    (same : around.below.flatMap Frame.contexts = other.below.flatMap Frame.contexts)
    (flushless : Flushless machine.stack)
    (comes : ComesBack program allowed around.below (machine.amid around) answer ended) :
    ∃ last : Machine, last.stack = [] ∧ ended = last.amid around ∧
      ComesBack program allowed other.below (machine.amid other) answer (last.amid other) := by
  generalize start : machine.amid around = started at comes
  induction comes generalizing machine with
  | back stack control =>
      subst start
      have empty : machine.stack = [] := List.append_left_eq_self.mp stack
      have stack' : (machine.amid other).stack = other.below := congrArg (· ++ other.below) empty
      exact ⟨machine, empty, rfl, .back stack' control⟩
  | step above issues _ ih =>
      subst start
      have busy : machine.stack ≠ [] := by
        intro empty
        have short : (machine.amid around).stack = around.below :=
          congrArg (· ++ around.below) empty
        rw [short] at above
        exact absurd above (Nat.lt_irrefl _)
      have issued (surroundings : Surroundings) :
          (machine.amid surroundings).issued? = machine.issued? :=
        issued?_atop surroundings.below busy
      rw [issued] at issues
      rcases step_amid program busy flushless (fun operation issue => apart _ (issues _ issue)) same
        with ⟨next, steps, steps', flushless'⟩
      rcases ih flushless' steps.symm with ⟨last, empty, ends, comes⟩
      refine ⟨last, empty, ends, .step ?_ ((issued other).symm ▸ issues) (steps'.symm ▸ comes)⟩
      have longer : (machine.amid other).stack.length =
          machine.stack.length + other.below.length :=
        List.length_append
      rw [longer]
      exact Nat.lt_add_of_pos_left (List.length_pos_iff.mpr busy)

end ComesBack

/-- How an emission begins does not depend on how the frames below went on. -/
theorem beginEmission_proceeding (machine : Machine) (emission : Emission) :
    machine.proceeding.beginEmission emission = machine.beginEmission emission := by
  rw [beginEmission, beginEmission]
  dsimp only [proceeding]
  split
  · rfl
  · split <;> rfl

/-- Two machines in the same world but for what waits in the deferred queue, above frames that own
the same contexts. -/
structure Matches (left right : Machine) : Prop where
  world : right.world = left.world.requeue right.world.bus.deferred
  contexts : left.stack.flatMap Frame.contexts = right.stack.flatMap Frame.contexts

theorem Matches.symm {left right : Machine} (same : left.Matches right) : right.Matches left := by
  refine ⟨?_, same.contexts.symm⟩
  rw [same.world]
  rfl

/-- The same has happened to two machines, and nobody has touched what waits there. -/
structure Advanced (left right left' right' : Machine) : Prop extends Matches left' right' where
  queue : left'.world.bus.deferred = left.world.bus.deferred
  queue' : right'.world.bus.deferred = right.world.bus.deferred
  events : ∃ fresh, left'.events = fresh ++ left.events ∧ right'.events = fresh ++ right.events

theorem Advanced.symm
    {left right left' right' : Machine}
    (same : Advanced left right left' right') :
    Advanced right left right' left' := by
  rcases same.events with ⟨fresh, told, told'⟩
  exact { same.toMatches.symm with
    queue := same.queue'
    queue' := same.queue
    events := ⟨fresh, told', told⟩ }

/-- An emission that comes back does so in a state in which other emissions wait. -/
theorem ComesBack.emission
    {emission : Emission}
    {other : Machine}
    (comes : ComesBack program allowed machine.stack (machine.beginEmission emission) answer ended)
    (apart : ∀ operation, allowed operation → operation.usesDeferred = false)
    (same : machine.Matches other) :
    ∃ ended',
      ComesBack program allowed other.stack (other.beginEmission emission) answer ended' ∧
        Advanced machine other ended ended' := by
  let bare : Machine := { world := machine.world }
  let around : Surroundings := ⟨machine.world.bus.deferred, machine.events, machine.stack⟩
  let around' : Surroundings := ⟨other.world.bus.deferred, other.events, other.stack⟩
  have begins : machine.beginEmission emission = (bare.beginEmission emission).amid around := by
    rw [← beginEmission_amid, ← beginEmission_proceeding]
    rfl
  have begins' : other.beginEmission emission = (bare.beginEmission emission).amid around' := by
    have stands : other.proceeding = bare.amid around' := by
      rw [amid, beside, ← same.world]
      rfl
    rw [← beginEmission_amid, ← beginEmission_proceeding, stands]
  have flushless : Flushless (bare.beginEmission emission).stack := by
    rcases answers_beginEmission bare emission with ⟨frame, begun, _, plain⟩
    intro frame' member
    rw [begun, List.mem_singleton] at member
    rw [member, plain]
    exact (Option.some_ne_none _).symm
  rw [begins] at comes
  rcases amid_other around around' apart same.contexts flushless comes with
    ⟨last, empty, rfl, comes'⟩
  refine ⟨last.amid around', begins' ▸ comes', ⟨rfl, ?_⟩, rfl, rfl, last.events, rfl, rfl⟩
  rw [comes.stack, comes'.stack]
  exact same.contexts

/-- Frames below which an emission was begun have been answered when they come back. -/
theorem ComesBack.begun
    {frame : Frame}
    {emission : Emission}
    (comes : ComesBack program allowed below (machine.beginEmission emission) answer ended)
    (stack : machine.stack = frame :: below)
    (relays : frame.Relays) :
    ∃ other between,
      ComesBack program allowed machine.stack (machine.beginEmission emission) other between ∧
        ComesBack program allowed below (between.step program) answer ended := by
  rcases answers_beginEmission machine emission with ⟨top, begun, answers, _⟩
  have bears : (machine.beginEmission emission).Bears machine.stack top := ⟨[], begun⟩
  rw [stack] at bears
  rcases comes.split relays bears answers with ⟨other, between, first, second⟩
  rw [stack]
  refine ⟨other, between, first, ?_⟩
  cases second with
  | back stack' _ =>
      exact absurd (stack'.symm.trans first.stack) (above_ne_below [] frame below).symm
  | step _ _ rest => exact rest

theorem Performs.append
    {operations others : List Operation}
    {answers answers' : List Answer}
    (first : Performs program allowed machine operations answers between)
    (second : Performs program allowed between others answers' ended) :
    Performs program allowed machine (operations ++ others) (answers ++ answers') ended := by
  induction first with
  | nil => exact second
  | cons comes _ ih => exact .cons comes (ih second)

/-- Operations are performed in one way only. -/
theorem Performs.unique
    {operations : List Operation}
    {answers answers' : List Answer}
    {ended' : Machine}
    (performs : Performs program allowed machine operations answers ended)
    (performs' : Performs program allowed machine operations answers' ended') :
    ended = ended' := by
  induction performs generalizing answers' with
  | nil =>
      cases performs'
      rfl
  | cons comes _ ih =>
      cases performs' with
      | cons comes' rest =>
          rw [comes'.unique comes] at rest
          exact ih rest

theorem Performs.split
    {operations others : List Operation}
    {answers : List Answer}
    (performs : Performs program allowed machine (operations ++ others) answers ended) :
    ∃ first second between,
      Performs program allowed machine operations first between ∧
        Performs program allowed between others second ended := by
  induction operations generalizing machine answers with
  | nil => exact ⟨[], answers, machine, .nil, performs⟩
  | cons operation rest ih =>
      cases performs with
      | cons comes performs =>
          rcases ih performs with ⟨first, second, between, performs', performs''⟩
          exact ⟨_ :: first, second, between, .cons comes performs', performs''⟩

/-! ## Runs of known length -/

/-- An operation is started, and so many steps are taken. -/
def after (program : Program) (count : Nat) (operation : Operation) (machine : Machine) : Machine :=
  (Machine.step program)^[count] (machine.execute program .void operation)

/-- An operation comes back with an answer after so many steps. -/
def ComesBackIn
    (program : Program)
    (allowed : Operation → Prop)
    (count : Nat)
    (operation : Operation)
    (answer : Answer)
    (machine : Machine) :
    Prop :=
  (∀ earlier < count,
      machine.stack.length < (machine.after program earlier operation).stack.length ∧
        ∀ issued ∈ (machine.after program earlier operation).issued?, allowed issued) ∧
    (machine.after program count operation).stack = machine.stack ∧
    (machine.after program count operation).control = .answer answer

instance
    (allowed : Operation → Prop)
    [DecidablePred allowed]
    (count : Nat)
    (operation : Operation)
    (answer : Answer)
    (machine : Machine) :
    Decidable (machine.ComesBackIn program allowed count operation answer) :=
  inferInstanceAs (Decidable (_ ∧ _ ∧ _))

theorem ComesBack.of_iterate
    (count : Nat)
    (above : ∀ earlier < count,
      below.length < ((Machine.step program)^[earlier] machine).stack.length ∧
        ∀ operation ∈ ((Machine.step program)^[earlier] machine).issued?, allowed operation)
    (stack : ((Machine.step program)^[count] machine).stack = below)
    (control : ((Machine.step program)^[count] machine).control = .answer answer) :
    ComesBack program allowed below machine answer ((Machine.step program)^[count] machine) := by
  induction count generalizing machine with
  | zero => exact .back stack control
  | succ count ih =>
      have first := above 0 (Nat.succ_pos count)
      exact .step first.1 first.2
        (ih (fun earlier bound => above (earlier + 1) (Nat.succ_lt_succ bound)) stack control)

/-- The next operation takes so many steps. -/
theorem Performs.next
    {operation : Operation}
    {operations : List Operation}
    {answers : List Answer}
    (count : Nat)
    (comes : machine.ComesBackIn program allowed count operation answer)
    (rest : Performs program allowed (machine.after program count operation) operations answers
      ended) :
    Performs program allowed machine (operation :: operations) (answer :: answers) ended :=
  .cons (.of_iterate count comes.1 comes.2.1 comes.2.2) rest

end SignalDispatch.Machine
