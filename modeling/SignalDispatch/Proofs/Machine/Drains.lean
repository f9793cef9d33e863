import SignalDispatch.Proofs.Machine.Sparing
import Mathlib.Data.List.Chain

/-!
# Where drains stand

A drain hands an interrupt to an emission that begins above it, and gets its turn again only by the
answer of that emission.  So the frame right above a drain is always one that comes back with an
answer or a panic: `Seated` says so of the whole stack, and every move keeps it.
-/

namespace SignalDispatch

namespace Frame

variable {frame last : Frame} {control : Control}

theorem Continues.position?_eq_none
    (continues : frame.Continues last)
    (plain : frame.position? = none) :
    last.position? = none := by
  cases continues with
  | drain => cases plain
  | _ => rfl

theorem Continues.answers (continues : frame.Continues last) (answers : frame.Answers) :
    last.Answers := by
  cases continues with
  | release panics => exact panics answers
  | walk | swept | done | conclude | reject | reported => trivial
  | routine | flush | drain | batch | catching => cases answers

theorem Returns.ne_proceed (returns : frame.Returns control) (answers : frame.Answers) :
    control ≠ .proceed := by
  rintro rfl
  cases returns <;> cases answers

end Frame

namespace Machine

/-- The frame right above a drain comes back with an answer or a panic. -/
def Seated (stack : List Frame) : Prop :=
  stack.IsChain fun upper lower => lower.position?.isSome → upper.Answers

/-- What a frame that is not a drain, and does not begin one, turns into. -/
inductive Becomes (frame : Frame) (below : List Frame) (after : Machine) : Prop where
  | stays {above : List Frame} {last : Frame} :
      after.stack = above ++ last :: below →
      Drainless (above ++ [last]) →
      (frame.Answers → last.Answers) →
      Becomes frame below after
  | leaves :
      after.stack = below →
      (frame.Answers → after.control ≠ .proceed) →
      Becomes frame below after

variable (program : Program) {machine : Machine} {frame : Frame} {below : List Frame}

/-! ## Steps of frames -/

/-- A step of a frame that is not a drain and does not begin one. -/
theorem step_becomes
    (stack : machine.stack = frame :: below)
    (plain : frame.position? = none)
    (idle : machine.issued? ≠ some .drain) :
    Becomes frame below (machine.step program) := by
  cases step_turns program stack with
  | @continues above last reached continues started =>
      refine .stays reached ?_ continues.answers
      rw [Drainless, List.filterMap_append, started.drainless idle,
        List.filterMap_cons_none (continues.position?_eq_none plain)]
      rfl
  | returns reached returns => exact .leaves reached returns.ne_proceed

/-- A drain that takes its turn hands out an interrupt below an emission, or is over. -/
theorem step_drain
    {position delivered : Nat}
    (stack : machine.stack = .drain position delivered :: below)
    (control : machine.control = .proceed) :
    (machine.world.bus.interrupts.take? position = none ∧
        (machine.step program).world = machine.world ∧ (machine.step program).stack = below ∧
        (machine.step program).control ≠ .proceed) ∨
      ∃ item frame,
        machine.world.bus.interrupts.take? position =
            some (item, (machine.step program).world.bus.interrupts) ∧
          (machine.step program).stack = frame :: .drain (item.index + 1) delivered :: below ∧
          frame.Answers ∧ frame.position? = none := by
  let under : Machine := { machine with stack := below }
  rw [step_of_proceed program stack control, proceed]
  rcases under.proceedDrain_spec position delivered with
    ⟨nothing, world, reached, answered⟩ | ⟨item, interrupts, frame, taken, spares, reached, begun⟩
  · exact Or.inl ⟨nothing, world, reached, by rw [answered]; exact Control.noConfusion⟩
  · exact Or.inr ⟨item, frame, spares.interrupts ▸ taken, reached, begun⟩

/-! ## The whole stack -/

theorem seated_of_drainless {frames : List Frame} (plain : Drainless frames) : Seated frames := by
  have other (lower : Frame) (member : lower ∈ frames) : lower.position? = none :=
    List.filterMap_eq_nil_iff.mp plain lower member
  apply List.Pairwise.isChain
  apply List.pairwise_of_forall_mem_list
  intro upper _ lower member drain
  rw [other lower member] at drain
  cases drain

/-- Frames that are not drains may be put above a frame that is none either. -/
theorem Seated.append
    {above : List Frame}
    (seated : Seated below)
    (plain : Drainless above)
    (top : ∀ frame ∈ below.head?, frame.position? = none) :
    Seated (above ++ below) := by
  refine List.isChain_append.mpr ⟨seated_of_drainless plain, seated, ?_⟩
  intro upper _ lower head drain
  rw [top lower head] at drain
  cases drain

/-- The frame that takes the place of another comes back like that. -/
theorem Becomes.seated
    {after : Machine}
    (becomes : Becomes frame below after)
    (seated : Seated (frame :: below)) :
    Seated after.stack := by
  rcases List.isChain_cons.mp seated with ⟨junction, lower⟩
  cases becomes with
  | leaves stack => rwa [stack]
  | @stays above last stack plain keeps =>
      rw [stack, List.append_cons]
      refine List.isChain_append.mpr ⟨seated_of_drainless plain, lower, ?_⟩
      intro upper member under head drain
      have same : upper = last := by simpa [eq_comm] using member
      exact same ▸ keeps (junction under head drain)

/-- The innermost frame issues an operation only if it is user code. -/
theorem head_of_issued
    {operation : Operation}
    (issued : machine.issued? = some operation)
    (top : Frame)
    (head : top ∈ machine.stack.head?) :
    top.position? = none := by
  cases stack : machine.stack with
  | nil => simp [stack] at head
  | cons frame below =>
      have same : frame = top := by simpa [stack] using head
      subst same
      cases frame with
      | drain position delivered =>
          rw [issued?, stack] at issued
          cases control : machine.control <;> simp [control, Frame.issued?] at issued
      | _ => rfl

theorem Executes.head
    {before after : Machine}
    {operation : Operation}
    (executes : Executes operation before after) :
    ∀ top ∈ before.stack.head?, top.position? = none := by
  cases executes with
  | command program issued => exact head_of_issued issued
  | session program idle => simp [idle]

/-- Starting an operation keeps the stack seated. -/
theorem Executes.seated
    {before after : Machine}
    {operation : Operation}
    (executes : Executes operation before after)
    (seated : Seated before.stack) :
    Seated after.stack := by
  have head := executes.head
  rcases executes.eq_execute with ⟨program, payload, started, _, stack, rfl⟩
  rw [← stack] at seated head
  by_cases drains : operation = .drain
  · subst drains
    refine List.isChain_cons.mpr ⟨?_, seated⟩
    intro lower top drain
    rw [head lower top] at drain
    cases drain
  · rcases execute_drainless program started payload drains with ⟨above, reached, plain⟩
    rw [reached]
    exact seated.append plain head

/-- A drain that goes on is as far from its surroundings as before. -/
theorem Seated.replace
    {position later delivered delivered' : Nat}
    (seated : Seated (.drain position delivered :: below)) :
    Seated (.drain later delivered' :: below) := by
  rcases List.isChain_cons.mp seated with ⟨junction, lower⟩
  exact List.isChain_cons.mpr ⟨junction, lower⟩

/-- A step of a drain keeps the stack seated. -/
theorem step_drain_seated
    {position delivered : Nat}
    (stack : machine.stack = .drain position delivered :: below)
    (seated : Seated machine.stack) :
    Seated (machine.step program).stack := by
  rw [stack] at seated
  cases control : machine.control with
  | aborted =>
      rwa [step_of_aborted program control, stack]
  | answer answer =>
      rw [step_of_answer program stack control]
      exact seated.replace
  | unwind message =>
      rw [step_of_unwind program stack control]
      exact seated.tail
  | proceed =>
      rcases step_drain program stack control with
        ⟨_, _, reached, _⟩ | ⟨item, frame, _, reached, answers, plain⟩
      · rw [reached]
        exact seated.tail
      · rw [reached]
        refine List.isChain_cons_cons.mpr ⟨fun _ => answers, ?_⟩
        exact seated.replace

/-- Every move keeps the stack seated. -/
theorem Move.seated
    {before after : Machine}
    (move : Move before after)
    (seated : Seated before.stack) :
    Seated after.stack := by
  cases move with
  | perform program operation idle going =>
      exact (Executes.session program idle going).seated seated
  | step program =>
      cases issued : before.issued? with
      | some operation => exact (Executes.command program issued).seated seated
      | none =>
          cases stack : before.stack with
          | nil =>
              rwa [step_of_idle program stack]
          | cons frame below =>
              rw [stack] at seated
              cases plain : frame.position? with
              | none => exact (step_becomes program stack plain (by simp [issued])).seated seated
              | some position =>
                  cases frame with
                  | drain position delivered =>
                      exact step_drain_seated program stack (stack ▸ seated)
                  | _ => cases plain

end Machine

end SignalDispatch
