import SignalDispatch.Proofs.Machine.Performing

/-!
# Frames that emit one entry after another

A batch and a flush take the next entry, begin its emission above themselves, and note what it came
back with.  `Relay` is what they have in common: the frame for the entries that are left and the
answers that have come back, and what waits in the deferred queue meanwhile.

As long as user code leaves the deferred queue alone, such a frame emits its entries exactly as if
each had been emitted directly: `Relay.comesBack` follows direct emissions entry by entry, and
`Relay.performs` is the way back.
-/

namespace SignalDispatch

namespace Answer

/-- The first fault among answers. -/
def firstFault? (answers : List Answer) : Option Fault :=
  answers.findSome? fault?

/-- Success, or the fault that there was. -/
def verdict : Option Fault → Answer
  | none => .done
  | some cause => .fault cause

/-- How many answers are no faults. -/
def successes (answers : List Answer) : Nat :=
  answers.countP fun answer => answer.fault?.isNone

theorem firstFault?_append (answers : List Answer) (answer : Answer) :
    firstFault? (answers ++ [answer]) = (firstFault? answers <|> answer.fault?) := by
  rw [firstFault?, firstFault?, List.findSome?_append, List.findSome?_singleton]
  cases answers.findSome? fault? <;> rfl

theorem successes_append (answers : List Answer) (answer : Answer) :
    successes (answers ++ [answer]) =
      if answer.fault?.isSome then successes answers else successes answers + 1 := by
  rw [successes, successes, List.countP_append, List.countP_singleton]
  cases answer.fault? <;> rfl

end Answer

/-- The record of a replay that is over. -/
def flushRecord (delivered : Nat) : LogRecord :=
  .debug ("Flushed " ++ toString delivered ++ " deferred emissions")

namespace Machine

/-- The same bus, with other emissions in the deferred queue. -/
def awaiting (machine : Machine) (waiting : List Emission) : Machine :=
  machine.setBus (machine.world.bus.requeue { machine.world.bus.deferred with waiting := waiting })

end Machine

/-- A way to emit entries one after another. -/
structure Relay where
  /-- The frame for the entries that are left, after answers that have come back. -/
  frame : List Emission → List Answer → Frame
  /-- What waits in the deferred queue while entries are left. -/
  waiting : List Emission → List Emission
  /-- What it comes back with. -/
  verdict : List Answer → Answer
  /-- What is written at the end. -/
  records : List Answer → List LogRecord
  relays : ∀ entries answers, (frame entries answers).Relays
  drained : waiting [] = []
  begins :
    ∀ (program : Program) (machine : Machine) emission rest answers,
      machine.waiting = waiting (emission :: rest) →
        machine.proceed program (frame (emission :: rest) answers) =
          ((machine.awaiting (waiting rest)).push (frame rest answers)).beginEmission emission
  resumes :
    ∀ (machine : Machine) entries answers answer,
      machine.resume answer (frame entries answers) =
        (machine.push (frame entries (answers ++ [answer]))).proceeding
  ends :
    ∀ (program : Program) (machine : Machine) answers,
      machine.waiting = [] →
        machine.proceed program (frame [] answers) =
          (machine.log (records answers)).answering (verdict answers)

namespace Relay

/-- A batch comes back with the first fault. -/
def batch : Relay where
  frame entries answers := .batch entries (Answer.firstFault? answers)
  waiting _ := []
  verdict answers := .verdict (Answer.firstFault? answers)
  records _ := []
  relays _ _ := .batch
  drained := rfl
  begins program machine emission rest answers empty := by
    have still : machine.awaiting [] = machine := by
      rw [Machine.awaiting, ← empty]
      rfl
    rw [still]
    rfl
  resumes machine entries answers answer := by
    rw [Answer.firstFault?_append]
    rfl
  ends program machine answers _ := by
    rw [Machine.proceed, Machine.proceedBatch.eq_def]
    cases Answer.firstFault? answers <;> rfl

/-- A flush takes its entries out of the deferred queue and comes back with the number of those
that came back without a fault. -/
def flush : Relay where
  frame entries answers := .flush entries.length (Answer.successes answers)
  waiting entries := entries
  verdict answers := .number (Answer.successes answers)
  records answers := [flushRecord (Answer.successes answers)]
  relays _ _ := .flush
  drained := rfl
  begins program machine emission rest answers oldest := by
    have popped : machine.world.bus.deferred.pop? =
        some (emission, { machine.world.bus.deferred with waiting := rest }) := by
      have front : machine.world.bus.deferred.waiting = emission :: rest := oldest
      rw [DeferredQueue.pop?, front]
    rw [Machine.proceed, Machine.proceedFlush.eq_def]
    simp only [List.length_cons, popped, Option.map_some]
    rfl
  resumes machine entries answers answer := by
    rw [Answer.successes_append]
    rfl
  ends program machine answers _ := rfl

end Relay

namespace Machine

variable {program : Program} {allowed : Operation → Prop} {below : List Frame}
  {machine other emitted ended : Machine} {entries : List Emission}
  {answers earlier : List Answer} {answer : Answer}

/-- A frame that takes its turn, and is not user code, issues nothing. -/
theorem issued?_of_stack
    {frame : Frame}
    (stack : machine.stack = frame :: below)
    (plain : frame.issued? = none) :
    ∀ operation ∈ machine.issued?, allowed operation := by
  intro operation issues
  rw [issued?, stack] at issues
  split at issues
  next same _ =>
    cases same
    rw [plain] at issues
    cases issues
  next => cases issues

theorem ComesBack.turn
    {frame : Frame}
    (stack : machine.stack = frame :: below)
    (plain : frame.issued? = none)
    (comes : ComesBack program allowed below (machine.step program) answer ended) :
    ComesBack program allowed below machine answer ended :=
  .step (by rw [stack]; exact Nat.lt_succ_self _) (issued?_of_stack stack plain) comes

end Machine

namespace Relay

open Machine

variable {relay : Relay} {program : Program} {allowed : Operation → Prop} {below : List Frame}
  {machine other emitted ended : Machine} {entries : List Emission}
  {answers earlier : List Answer} {answer : Answer}

theorem issued?_frame (relay : Relay) (entries : List Emission) (answers : List Answer) :
    (relay.frame entries answers).issued? = none := by
  have relays := relay.relays entries answers
  generalize relay.frame entries answers = frame at relays
  cases relays <;> rfl

theorem contexts_frame (relay : Relay) (entries : List Emission) (answers : List Answer) :
    (relay.frame entries answers).contexts = [] := by
  have relays := relay.relays entries answers
  generalize relay.frame entries answers = frame at relays
  cases relays <;> rfl

/-- It is the turn of the frame, and its entries could be emitted directly in another state. -/
structure Faces
    (relay : Relay)
    (entries : List Emission)
    (earlier : List Answer)
    (below : List Frame)
    (machine other : Machine) :
    Prop where
  stack : other.stack = relay.frame entries earlier :: below
  control : other.control = .proceed
  empty : machine.waiting = []
  world : other.world = (machine.awaiting (relay.waiting entries)).world
  contexts : machine.stack.flatMap Frame.contexts = below.flatMap Frame.contexts

namespace Faces

/-- The frame below which the next entry is emitted. -/
def under
    (relay : Relay)
    (entries : List Emission)
    (earlier : List Answer)
    (below : List Frame)
    (other : Machine) :
    Machine :=
  (({ other with stack := below } : Machine).awaiting (relay.waiting entries)).push
    (relay.frame entries earlier)

variable {emission : Emission} {rest : List Emission}

theorem begins
    (faces : relay.Faces (emission :: rest) earlier below machine other) :
    other.step program = (under relay rest earlier below other).beginEmission emission := by
  have oldest : other.waiting = relay.waiting (emission :: rest) :=
    congrArg (·.bus.deferred.waiting) faces.world
  rw [step_of_proceed program faces.stack faces.control]
  exact relay.begins program { other with stack := below } emission rest earlier oldest

theorem matched
    (faces : relay.Faces (emission :: rest) earlier below machine other) :
    machine.Matches (under relay rest earlier below other) := by
  refine ⟨?_, ?_⟩
  · have world : (under relay rest earlier below other).world =
        other.world.requeue { other.world.bus.deferred with waiting := relay.waiting rest } :=
      rfl
    rw [world, faces.world]
    rfl
  · have contexts : (under relay rest earlier below other).stack.flatMap Frame.contexts =
        (relay.frame rest earlier).contexts ++ below.flatMap Frame.contexts :=
      rfl
    rw [contexts, contexts_frame]
    exact faces.contexts

/-- After the emission it is the turn of the frame again. -/
theorem next
    (program : Program)
    {between back : Machine}
    (faces : relay.Faces (emission :: rest) earlier below machine other)
    (stack : back.stack = relay.frame rest earlier :: below)
    (control : back.control = .answer answer)
    (same : Advanced machine (under relay rest earlier below other) between back)
    (stack' : between.stack = machine.stack) :
    relay.Faces rest (earlier ++ [answer]) below between (back.step program) ∧
      (back.step program).events = back.events := by
  have resumes : back.step program =
      (({ back with stack := below } : Machine).push
        (relay.frame rest (earlier ++ [answer]))).proceeding :=
    (step_of_answer program stack control).trans (relay.resumes _ _ _ _)
  rw [resumes]
  have queue : back.world.bus.deferred =
      { between.world.bus.deferred with waiting := relay.waiting rest } := by
    rw [same.queue', same.queue]
    exact congrArg (fun world => { world.bus.deferred with waiting := relay.waiting rest })
      faces.world
  refine ⟨⟨rfl, rfl, ?_, ?_, ?_⟩, rfl⟩
  · rw [Machine.waiting, same.queue]
    exact faces.empty
  · have world := same.world
    rw [queue] at world
    exact world
  · rw [stack']
    exact faces.contexts

end Faces

/-- What is emitted directly is emitted from a frame, with the same effect. -/
theorem comesBack
    (apart : ∀ operation, allowed operation → operation.usesDeferred = false)
    (direct : Performs program allowed machine (entries.map .emit) answers emitted)
    (faces : relay.Faces entries earlier below machine other) :
    ∃ replayed fresh,
      ComesBack program allowed below other (relay.verdict (earlier ++ answers)) replayed ∧
        replayed.world = emitted.world ∧ emitted.events = fresh ++ machine.events ∧
        replayed.events =
          (relay.records (earlier ++ answers)).reverse.map Event.logged ++
            (fresh ++ other.events) := by
  induction entries generalizing machine answers other earlier with
  | nil =>
      cases direct
      have idle : other.world = emitted.world := by
        rw [faces.world, relay.drained, awaiting, ← faces.empty]
        rfl
      have empty : other.waiting = [] := by
        rw [Machine.waiting, idle]
        exact faces.empty
      have ends : other.step program =
          (({ other with stack := below } : Machine).log (relay.records earlier)).answering
            (relay.verdict earlier) :=
        (step_of_proceed program faces.stack faces.control).trans (relay.ends _ _ _ empty)
      rw [List.append_nil]
      refine ⟨other.step program, [], .turn faces.stack (relay.issued?_frame _ _) (.back ?_ ?_),
        ?_, rfl, ?_⟩
      · rw [ends]
        exact stack_log _ _
      · rw [ends]
        rfl
      · rw [ends]
        exact (world_log _ _).trans idle
      · rw [ends, List.map_reverse]
        exact events_log _ _
  | cons emission rest ih =>
      cases direct with
      | @cons _ between _ _ _ answer answers comes direct =>
          rcases comes.emission apart faces.matched with ⟨back, comes', same⟩
          rcases faces.next program comes'.stack comes'.control same comes.stack with
            ⟨faces', told⟩
          rcases ih direct faces' with ⟨replayed, later, comes'', world, events, events'⟩
          rcases same.events with ⟨fresh, first, first'⟩
          rw [List.append_assoc, List.singleton_append] at comes'' events'
          refine ⟨replayed, later ++ fresh, ?_, world, ?_, ?_⟩
          · refine .turn faces.stack (relay.issued?_frame _ _) ?_
            rw [faces.begins]
            exact comes'.trans (.turn comes'.stack (relay.issued?_frame _ _) comes'')
          · rw [events, first, List.append_assoc]
          · rw [events', told, first', List.append_assoc]
            rfl

/-- What a frame emits and comes back from is emitted directly as well. -/
theorem performs
    (apart : ∀ operation, allowed operation → operation.usesDeferred = false)
    (comes : ComesBack program allowed below other answer ended)
    (faces : relay.Faces entries earlier below machine other) :
    ∃ answers emitted, Performs program allowed machine (entries.map .emit) answers emitted := by
  induction entries generalizing machine other earlier with
  | nil => exact ⟨[], machine, .nil⟩
  | cons emission rest ih =>
      cases comes with
      | back stack _ =>
          exact absurd (stack.symm.trans faces.stack) (above_ne_below [] _ below).symm
      | step _ _ comes =>
          rw [faces.begins] at comes
          rcases comes.begun rfl (relay.relays _ _) with ⟨first, back, comes', comes''⟩
          rcases comes'.emission apart faces.matched.symm with ⟨between, direct, same⟩
          rcases faces.next program comes'.stack comes'.control same.symm direct.stack with
            ⟨faces', _⟩
          rcases ih comes'' faces' with ⟨answers, emitted, performs⟩
          exact ⟨first :: answers, emitted, .cons direct performs⟩

end Relay

end SignalDispatch
