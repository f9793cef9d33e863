import SignalDispatch.Machine.Step

/-!
# Runs of the machine

An operation runs until nothing is left to be done, and a session runs one operation after
another.  User code may call itself without end, so a run has a limit on its steps, far beyond
what any terminating program of practical size needs; a run that reaches it has no answer.
-/

namespace SignalDispatch

namespace Machine

/-- Take steps until nothing is left to be done, at most `limit` of them. -/
def run (program : Program) : Nat → Machine → Machine
  | 0, machine => machine
  | limit + 1, machine =>
      if machine.finished then machine else run program limit (machine.step program)

/-- The answer that a finished state came to. -/
def outcome? (machine : Machine) : Option Answer :=
  match machine.stack, machine.control with
  | [], .answer answer => some answer
  | [], .unwind message => some (.panicked message)
  | _, _ => none

end Machine

/-- What one operation of a session came to. -/
structure StepReport where
  /-- The answer; none if the run reached its limit. -/
  answer : Option Answer
  /-- What was observed, in order. -/
  events : List Event
  /-- The world afterwards. -/
  world : World
  deriving Repr

namespace Session

/-- The limit on the steps of one operation. -/
def stepLimit : Nat := 1000000000000

/-- Run one operation to its end. -/
def perform (program : Program) (world : World) (operation : Operation) : StepReport :=
  let started := ({ world := world } : Machine).execute program .void operation
  let ended := started.run program stepLimit
  { answer := ended.outcome?
    events := ended.events.reverse
    world := ended.world }

/-- Run operations one after another, each in the world that the one before left. -/
def run (program : Program) : World → List Operation → List StepReport
  | _, [] => []
  | world, operation :: rest =>
      let report := perform program world operation
      report :: run program report.world rest

end Session

end SignalDispatch
