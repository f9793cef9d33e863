import SignalDispatch.Proofs.Machine.Atop
import Mathlib.Logic.Function.Iterate

/-!
# Emissions left by a panic

A panic that leaves a callback takes its emission with it.  Here that emission is followed next to
the one whose callback returned at the same point and that has no more slots to read.  Both let go
of the callback's context, leave the signal, let go of what was swept, and are done; the first goes
on with the panic and the second with its answer.  `Alongside` relates the two at every point
between, and `Alongside.step` is the step, as long as no second panic comes.
-/

namespace SignalDispatch

namespace Walk

/-- The emission after a panic left its callback. -/
def unwound (walk : Walk) : Walk :=
  { walk with running := none }

/-- The emission without the slots it has not read yet. -/
def stopped (walk : Walk) : Walk :=
  { walk with cursor := none }

/-- The emission after its last callback returned. -/
def returned (walk : Walk) : Walk :=
  { walk.stopped with invoked := walk.invoked + 1, running := none }

/-- The record of an emission that is over. -/
def record (walk : Walk) : LogRecord :=
  .debug ("Emitted '" ++ walk.name ++ "' to " ++ toString walk.invoked ++ " slots")

end Walk

namespace Machine

variable {message : String} {walk : Walk} {panicking returning : Machine}
  {lower lower' below : List Frame}

/-- One machine has a panic over some frames, the other is to go on with other frames; nothing else
differs. -/
structure Parting
    (message : String)
    (lower lower' : List Frame)
    (panicking returning : Machine) :
    Prop where
  world : panicking.world = returning.world
  events : panicking.events = returning.events
  stack : panicking.stack = lower
  control : panicking.control = .unwind message
  stack' : returning.stack = lower'
  control' : returning.control = .proceed

/-- Two machines let go of the same contexts, one of them on account of a panic. -/
inductive LettingGo
    (message : String)
    (lower lower' : List Frame) :
    Machine → Machine → Prop where
  | intro (machine : Machine) (contexts : List Context) :
      LettingGo message lower lower'
        (machine.atop (.release contexts (some message) :: lower))
        (machine.atop (.release contexts none :: lower'))

theorem LettingGo.stack
    (letting : LettingGo message lower lower' panicking returning) :
    ∃ above contexts, panicking.stack = above ++ .release contexts (some message) :: lower := by
  rcases letting with ⟨machine, contexts⟩
  exact ⟨machine.stack, contexts, rfl⟩

theorem LettingGo.same
    (letting : LettingGo message lower lower' panicking returning) :
    panicking.world = returning.world ∧ panicking.events = returning.events := by
  rcases letting with ⟨machine, contexts⟩
  exact ⟨rfl, rfl⟩

/-- Letting go is the same with a panic and without, until the first of the two goes on with its
panic.  A farewell that panics itself aborts it. -/
theorem LettingGo.step
    (program : Program)
    (letting : LettingGo message lower lower' panicking returning)
    (owned : lower.flatMap Frame.contexts = lower'.flatMap Frame.contexts) :
    (panicking.step program).control = .aborted ∨
      LettingGo message lower lower' (panicking.step program) (returning.step program) ∨
      Parting message lower lower' (panicking.step program) (returning.step program) := by
  rcases letting with ⟨machine, contexts⟩
  have sameOwners :
      (Frame.release contexts (some message) :: lower).flatMap Frame.contexts =
        (Frame.release contexts none :: lower').flatMap Frame.contexts :=
    congrArg (contexts ++ ·) owned
  by_cases busy : machine.stack = []
  · -- nothing is above the contexts: they are let go of in turn
    rcases machine with ⟨world, stack, control, events⟩
    have idle : stack = [] := busy
    subst idle
    cases control with
    | aborted => exact Or.inl rfl
    | unwind second => exact Or.inl rfl
    | answer answer => exact Or.inr (Or.inl (.intro { world := world, events := events } contexts))
    | proceed =>
        cases contexts with
        | nil => exact Or.inr (Or.inr ⟨rfl, rfl, rfl, rfl, rfl, rfl⟩)
        | cons context rest =>
            let bare : Machine := { world := world, events := events }
            rcases bare.proceedRelease_atop program owned context rest (some message) none with
              ⟨next, first, second⟩
            have letting : LettingGo message lower lower' _ _ := .intro next rest
            rw [← first, ← second] at letting
            exact Or.inr (Or.inl letting)
  · rcases step_atop program busy sameOwners with ⟨next, first, second⟩
    rw [first, second]
    exact Or.inr (Or.inl (.intro next contexts))

/-- The emission of a panicking callback and the one whose callback returned, on their way out. -/
inductive Alongside
    (message : String)
    (walk : Walk)
    (below : List Frame)
    (panicking returning : Machine) :
    Prop where
  /-- The callback is left. -/
  | callback :
      Parting message (.walk walk :: below) (.walk walk.stopped :: below) panicking returning →
      Alongside message walk below panicking returning
  /-- The callback's context is let go of. -/
  | context :
      LettingGo message (.walk walk.unwound :: below) (.walk walk.returned :: below) panicking
        returning →
      Alongside message walk below panicking returning
  /-- The signal is to be left. -/
  | leaving :
      Parting message (.walk walk.unwound :: below) (.walk walk.returned :: below) panicking
        returning →
      Alongside message walk below panicking returning
  /-- What was swept is let go of. -/
  | swept :
      LettingGo message below (.conclude [walk.returned.record] .done :: below) panicking
        returning →
      Alongside message walk below panicking returning
  /-- The emission is over. -/
  | left :
      Parting message below (.conclude [walk.returned.record] .done :: below) panicking
        returning →
      Alongside message walk below panicking returning

theorem Alongside.same (alongside : Alongside message walk below panicking returning) :
    panicking.world = returning.world ∧ panicking.events = returning.events := by
  cases alongside with
  | callback parting | leaving parting | left parting => exact ⟨parting.world, parting.events⟩
  | context letting | swept letting => exact letting.same

/-- The first emission is over when the frames below are what is left. -/
theorem Alongside.left_of_stack
    (alongside : Alongside message walk below panicking returning)
    (stack : panicking.stack = below) :
    Parting message below (.conclude [walk.returned.record] .done :: below) panicking
      returning := by
  cases alongside with
  | callback parting => exact absurd (parting.stack.symm.trans stack) (above_ne_below [] _ below)
  | context letting =>
      rcases letting.stack with ⟨above, contexts, same⟩
      rw [same, List.append_cons] at stack
      exact absurd stack (above_ne_below _ _ below)
  | leaving parting => exact absurd (parting.stack.symm.trans stack) (above_ne_below [] _ below)
  | swept letting =>
      rcases letting.stack with ⟨above, contexts, same⟩
      exact absurd (same.symm.trans stack) (above_ne_below above _ below)
  | left parting => exact parting

/-- A machine is the one with these parts. -/
theorem Parting.eq
    (parting : Parting message lower lower' panicking returning) :
    ∃ world events,
      panicking =
          { world := world, stack := lower, control := .unwind message, events := events } ∧
        returning = { world := world, stack := lower', control := .proceed, events := events } := by
  refine ⟨returning.world, returning.events, ?_, ?_⟩
  · rw [← parting.world, ← parting.events, ← parting.stack, ← parting.control]
  · rw [← parting.stack', ← parting.control']

/-- What leaving a signal does to the world and the log depends on neither the stack nor the
control, and the cursor and the running slot of the emission have no part in it. -/
theorem leave_returned (program : Program) (world : World) (events : List Event) (walk : Walk) :
    ∃ after logged swept, ∀ stack control,
      leave program { world := world, stack := stack, control := control, events := events }
            walk.unwound =
          ({ world := after, stack := stack, control := control, events := logged }, swept) ∧
        leave program { world := world, stack := stack, control := control, events := events }
            walk.returned =
          ({ world := after, stack := stack, control := control, events := logged }, swept) := by
  have logged (machine : Machine) (records : List LogRecord) :
      machine.log records =
        { machine with events := (records.map Event.logged).reverse ++ machine.events } := by
    rw [← world_log machine records, ← stack_log machine records, ← control_log machine records,
      ← events_log]
  let left := leave program { world := world, events := events } walk.unwound
  refine ⟨left.1.world, left.1.events, left.2, fun stack control => ?_⟩
  cases present : world.bus.registry with
  | none =>
      simp only [left, leave, present, true_and]
      rfl
  | some registry =>
      simp only [left, leave, present, logged]
      exact ⟨rfl, rfl⟩

/-- A step of the two keeps them alongside each other, unless a second panic comes. -/
theorem Alongside.step
    (program : Program)
    {slot : Slot}
    (alongside : Alongside message walk below panicking returning)
    (running : walk.running = some slot)
    (lasts : panicking.stack ≠ below) :
    (panicking.step program).control = .aborted ∨
      Alongside message walk below (panicking.step program) (returning.step program) := by
  cases alongside with
  | callback parting =>
      rcases parting.eq with ⟨world, events, rfl, rfl⟩
      refine Or.inr (.context ?_)
      have letting : LettingGo message (.walk walk.unwound :: below) (.walk walk.returned :: below)
          _ _ :=
        .intro { world := world, events := events } slot.context.toList
      simp only [Machine.step, unwindThrough, proceed, proceedWalk, Walk.stopped, running]
      exact letting
  | context letting =>
      rcases letting.step program rfl with second | letting | parting
      · exact Or.inl second
      · exact Or.inr (.context letting)
      · exact Or.inr (.leaving parting)
  | leaving parting =>
      rcases parting.eq with ⟨world, events, rfl, rfl⟩
      rcases leave_returned program world events walk with ⟨after, logged, swept, left⟩
      refine Or.inr (.swept ?_)
      have letting :
          LettingGo message below (.conclude [walk.returned.record] .done :: below) _ _ :=
        .intro { world := after, events := logged } (Bus.contextsOf swept)
      have first : walk.unwound.running = none := rfl
      have second : walk.returned.running = none := rfl
      have unread : walk.returned.cursor = none := rfl
      simp only [Machine.step, unwindThrough, proceed, proceedWalk, first, second, unread,
        Option.bind_none, left]
      exact letting
  | swept letting =>
      rcases letting.step program rfl with second | letting | parting
      · exact Or.inl second
      · exact Or.inr (.swept letting)
      · exact Or.inr (.left parting)
  | left parting => exact absurd parting.stack lasts

end Machine

end SignalDispatch
