import SignalDispatch.Proofs.Machine.Flush
import SignalDispatch.Proofs.Machine.Turns

/-!
# What frames come back with

User code comes back without an answer.  A frame that is a success comes back without a fault,
whatever goes on above it: the reports of faults alone, and batches that remember one, may bring one
back.
-/

namespace SignalDispatch

/-- A frame that does not bring back a fault. -/
def Frame.Succeeds : Frame → Prop
  | .conclude _ answer => answer.fault? = none
  | .reject _ => False
  | .batch _ _ => False
  | _ => True

namespace Frame

variable {frame last : Frame} {control : Control}

theorem Continues.succeeds (continues : frame.Continues last) (succeeds : frame.Succeeds) :
    last.Succeeds := by
  cases continues with
  | done => rfl
  | conclude => exact succeeds
  | reject | reported | batch => cases succeeds
  | routine | walk | swept | release | flush | drain | catching => trivial

theorem Returns.unfaulted
    (returns : frame.Returns control)
    (succeeds : frame.Succeeds)
    (fault : Fault) :
    control ≠ .answer (.fault fault) := by
  rintro rfl
  cases returns with
  | conclude => cases succeeds
  | reject | batch => cases succeeds
  | catching plain => cases plain

end Frame

namespace Machine

/-- The frames below are what is left, and no fault came back to them. -/
structure Unfaulted (below : List Frame) (machine : Machine) : Prop where
  stack : machine.stack = below
  control : ∀ fault, machine.control ≠ .answer (.fault fault)

/-- A success is still above the frames below. -/
def Succeeding (below : List Frame) (machine : Machine) : Prop :=
  ∃ above frame, machine.stack = above ++ frame :: below ∧ frame.Succeeds

variable (program : Program) {machine : Machine} {below : List Frame}

/-- User code stays where it is, with what it still has to do, or it is over. -/
theorem step_routine
    {commands : List Command}
    {payload : Payload}
    {turn : Nat}
    (stack : machine.stack = .routine commands payload turn :: below) :
    (∃ above left,
        (machine.step program).stack = above ++ .routine left payload turn :: below ∧
          left <:+ commands) ∨
      (machine.step program).stack = below ∧
        ((machine.step program).control = .proceed ∨
          ∃ message, (machine.step program).control = .unwind message) := by
  cases step_turns program stack with
  | @continues above last reached continues =>
      cases continues with
      | routine fewer => exact Or.inl ⟨above, _, reached, fewer⟩
  | returns reached returns =>
      generalize (machine.step program).control = control at returns ⊢
      cases returns with
      | panicked => exact Or.inr ⟨reached, Or.inr ⟨_, rfl⟩⟩
      | routine => exact Or.inr ⟨reached, Or.inl rfl⟩

/-- A success stays above the frames below it, or comes back to them without a fault. -/
theorem Succeeding.step (succeeding : Succeeding below machine) :
    Succeeding below (machine.step program) ∨ Unfaulted below (machine.step program) := by
  rcases succeeding with ⟨above, frame, stack, succeeds⟩
  cases above with
  | cons top above =>
      rcases step_stack program stack with ⟨reached, same⟩
      exact Or.inl ⟨reached ++ above, frame, same.trans (List.append_assoc _ _ _).symm, succeeds⟩
  | nil =>
      cases step_turns program stack with
      | continues reached continues =>
          exact Or.inl ⟨_, _, reached, continues.succeeds succeeds⟩
      | returns reached returns => exact Or.inr ⟨reached, returns.unfaulted succeeds⟩

/-- Until the frames below are what is left, a success stays above them; then there is no fault. -/
theorem Succeeding.iterate
    (succeeding : Succeeding below machine)
    (count : Nat)
    (within : ∀ earlier < count, ((Machine.step program)^[earlier] machine).stack ≠ below) :
    Succeeding below ((Machine.step program)^[count] machine) ∨
      Unfaulted below ((Machine.step program)^[count] machine) := by
  induction count with
  | zero => exact Or.inl succeeding
  | succ count ih =>
      rw [Function.iterate_succ_apply']
      rcases ih (fun earlier before => within earlier (Nat.lt_succ_of_lt before)) with
        lasting | ⟨back, _⟩
      · exact lasting.step program
      · exact absurd back (within count (Nat.lt_succ_self count))

end Machine

end SignalDispatch
