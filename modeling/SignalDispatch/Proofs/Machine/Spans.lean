import SignalDispatch.Proofs.Machine.Drains
import SignalDispatch.Proofs.Machine.Returning

/-!
# Stretches of a run above the same frames

A call is known by the frames below it: as long as it lasts something stands above them, and when it
is over they are what is left.  `Machine.Span` is a stretch of a run in which something stands above
some frames, and `Machine.Call` is a call, which is such a stretch from its start on.

The frame right above the frames below is what the call still has to do itself.  A move of a frame
further up leaves it alone, and its own move turns it into what it goes on with, or takes it off.
-/

namespace SignalDispatch

/-- What an emission in progress, or the report of its fault, may be. -/
def Frame.Emitting : Frame → Prop
  | .walk _ | .reject _ => True
  | .conclude _ answer => answer = .done ∨ answer.fault?.isSome
  | .release _ panic => panic.isSome
  | _ => False

/-- A frame that reports a fault and comes back with it. -/
def Frame.Fails (fault : Fault) : Frame → Prop
  | .reject cause => cause = fault
  | .conclude _ answer => answer = .fault fault
  | _ => False

namespace Frame

variable {frame last : Frame} {control : Control} {fault : Fault}

theorem Continues.emitting (continues : frame.Continues last) (emitting : frame.Emitting) :
    last.Emitting := by
  cases continues with
  | done => exact Or.inl rfl
  | reported => exact Or.inr rfl
  | conclude => exact emitting
  | release panics => exact panics emitting
  | walk | swept | reject => trivial
  | routine | flush | drain | batch | catching => cases emitting

/-- An emission comes back with a success or a fault, or it panics. -/
theorem Returns.of_emitting (returns : frame.Returns control) (emitting : frame.Emitting) :
    (∃ answer, control = .answer answer ∧ (answer = .done ∨ answer.fault?.isSome)) ∨
      ∃ message, control = .unwind message := by
  cases returns with
  | panicked => exact Or.inr ⟨_, rfl⟩
  | conclude => exact Or.inl ⟨_, rfl, emitting⟩
  | reject => exact Or.inl ⟨_, rfl, Or.inr rfl⟩
  | release | routine | flush | drain | batch | catching => cases emitting

theorem Continues.fails (continues : frame.Continues last) (fails : frame.Fails fault) :
    last.Fails fault := by
  cases continues with
  | reported => exact congrArg Answer.fault fails
  | conclude | reject => exact fails
  | routine | walk | swept | done | release | flush | drain | batch | catching => cases fails

theorem Returns.of_fails (returns : frame.Returns control) (fails : frame.Fails fault) :
    control = .answer (.fault fault) ∨ ∃ message, control = .unwind message := by
  cases returns with
  | panicked => exact Or.inr ⟨_, rfl⟩
  | conclude => exact Or.inl (congrArg Control.answer fails)
  | reject => exact Or.inl (congrArg (Control.answer ∘ Answer.fault) fails)
  | release | routine | flush | drain | batch | catching => cases fails

/-- What a frame keeps as it goes on it keeps for as long as it is there. -/
theorem keeps_of_continues
    {keeps : Frame → Prop}
    (step : ∀ {frame last : Frame}, frame.Continues last → keeps frame → keeps last)
    (reached : Relation.ReflTransGen Continues frame last)
    (start : keeps frame) :
    keeps last := by
  induction reached with
  | refl => exact start
  | tail _ continues ih => exact step continues ih

end Frame

namespace Machine

/-! ## The frame right above the frames below -/

/-- A frame stands right above the frames below, whatever is above it. -/
def Bears (machine : Machine) (below : List Frame) (frame : Frame) : Prop :=
  ∃ above, machine.stack = above ++ frame :: below

/-- What a move does to the frame right above the frames below. -/
inductive Minds (below : List Frame) (frame : Frame) (before after : Machine) : Prop where
  /-- A frame further up is innermost. -/
  | covered {top : Frame} {above : List Frame} :
      before.stack = top :: above ++ frame :: below →
      after.Bears below frame →
      Minds below frame before after
  /-- It is innermost itself. -/
  | turn :
      before.stack = frame :: below →
      Turns before.issued? frame below after →
      Minds below frame before after

section

variable {machine before after : Machine} {below : List Frame} {frame other : Frame}

theorem Bears.of_stack (stack : machine.stack = frame :: below) : machine.Bears below frame :=
  ⟨[], stack⟩

theorem Bears.ne_below (bears : machine.Bears below frame) : machine.stack ≠ below := by
  rcases bears with ⟨above, stack⟩
  rw [stack]
  exact above_ne_below above frame below

/-- What stands above a frame stands above the frames below it. -/
theorem Bears.under (bears : machine.Bears (other :: below) frame) : machine.Bears below other := by
  rcases bears with ⟨above, stack⟩
  exact ⟨above ++ [frame], stack.trans (List.append_cons _ _ _)⟩

/-- There is only one frame right above the frames below. -/
theorem Bears.eq (bears : machine.Bears below frame) (bears' : machine.Bears below other) :
    frame = other := by
  rcases bears with ⟨above, stack⟩
  rcases bears' with ⟨above', stack'⟩
  rw [stack] at stack'
  have lengths := congrArg List.length stack'
  simp only [List.length_append, List.length_cons] at lengths
  have parts := (List.append_inj stack' (by omega)).2
  exact (List.cons.inj parts).1

/-- A frame above others takes its turn, or a frame further up does. -/
theorem Move.minds (move : Move before after) (bears : before.Bears below frame) :
    Minds below frame before after := by
  rcases bears with ⟨above, stack⟩
  cases move with
  | perform program operation idle => simp [idle] at stack
  | step program =>
      cases above with
      | nil => exact .turn stack (step_turns program stack)
      | cons top above =>
          rcases step_stack program stack with ⟨reached, same⟩
          exact .covered stack ⟨reached ++ above, same.trans (List.append_assoc _ _ _).symm⟩

end

/-! ## Stretches -/

/-- A stretch of a run in which something stands above the frames below. -/
structure Span (below : List Frame) (trace : Nat → Machine) (first last : Nat) : Prop where
  ordered : first ≤ last
  moves : ∀ time, first ≤ time → time < last → Move (trace time) (trace (time + 1))
  lasts : ∀ time, first ≤ time → time < last → (trace time).stack ≠ below

/-- A call of an operation, from the state in which it is made up to one that is not later than its
end. -/
structure Call
    (operation : Operation)
    (trace : Nat → Machine)
    (start finish : Nat) :
    Prop where
  begins : start < finish
  made : Executes operation (trace start) (trace (start + 1))
  span : Span (trace start).stack trace (start + 1) finish

/-- An emission that begins above some frames in the move at `begun`, up to a state that is not
later than its end. -/
structure Emits
    (base : List Frame)
    (trace : Nat → Machine)
    (emission : Emission)
    (begun last : Nat) :
    Prop where
  begins : ∃ under : Machine, under.stack = base ∧ trace (begun + 1) = under.beginEmission emission
  span : Span base trace (begun + 1) last

namespace Span

variable {below : List Frame} {trace : Nat → Machine} {first middle last : Nat}

theorem nil (below : List Frame) (trace : Nat → Machine) (time : Nat) :
    Span below trace time time where
  ordered := Nat.le_refl time
  moves := fun _ late early => absurd early (Nat.not_lt_of_le late)
  lasts := fun _ late early => absurd early (Nat.not_lt_of_le late)

/-- What is left of a stretch. -/
theorem since
    (span : Span below trace first last)
    (late : first ≤ middle)
    (early : middle ≤ last) :
    Span below trace middle last where
  ordered := early
  moves := fun time from_middle => span.moves time (late.trans from_middle)
  lasts := fun time from_middle => span.lasts time (late.trans from_middle)

theorem extend
    (span : Span below trace first last)
    (move : Move (trace last) (trace (last + 1)))
    (busy : (trace last).stack ≠ below) :
    Span below trace first (last + 1) where
  ordered := span.ordered.trans (Nat.le_succ last)
  moves := by
    intro time from_first before
    rcases Nat.lt_succ_iff_lt_or_eq.mp before with earlier | rfl
    · exact span.moves time from_first earlier
    · exact move
  lasts := by
    intro time from_first before
    rcases Nat.lt_succ_iff_lt_or_eq.mp before with earlier | rfl
    · exact span.lasts time from_first earlier
    · exact busy

/-- What holds at the start of a stretch and is kept by every move of it while something stands
above the frames below holds at its end. -/
theorem invariant
    (span : Span below trace first last)
    (holds : Nat → Prop)
    (start : holds first)
    (keeps :
      ∀ time, first ≤ time → time < last → Move (trace time) (trace (time + 1)) →
        (trace time).stack ≠ below → holds time → holds (time + 1)) :
    ∀ time, first ≤ time → time ≤ last → holds time := by
  intro time from_first
  induction time, from_first using Nat.le_induction with
  | base => exact fun _ => start
  | succ time from_first ih =>
      intro bound
      exact keeps time from_first bound (span.moves time from_first bound)
        (span.lasts time from_first bound) (ih (Nat.le_of_lt bound))

/-- It takes a move to come back. -/
theorem lt_of_back
    {frame : Frame}
    (span : Span below trace first last)
    (start : (trace first).Bears below frame)
    (back : (trace last).stack = below) :
    first < last := by
  refine Nat.lt_of_le_of_ne span.ordered ?_
  rintro rfl
  exact start.ne_below back

/-- A frame above others is there, in one form or another, or they are what is left. -/
theorem bears
    {frame : Frame}
    (span : Span below trace first last)
    (start : (trace first).Bears below frame)
    {time : Nat}
    (early : first ≤ time)
    (late : time < last) :
    ∃ later, (trace time).Bears below later ∧
      Relation.ReflTransGen Frame.Continues frame later := by
  refine span.invariant
    (fun time => (trace time).stack ≠ below →
      ∃ later, (trace time).Bears below later ∧
        Relation.ReflTransGen Frame.Continues frame later)
    (fun _ => ⟨frame, start, .refl⟩) ?_ time early (Nat.le_of_lt late)
    (span.lasts time early late)
  intro time _ _ move busy earlier busy'
  rcases earlier busy with ⟨later, bears, reached⟩
  cases move.minds bears with
  | covered _ same => exact ⟨later, same, reached⟩
  | turn _ turns =>
      cases turns with
      | continues stack continues => exact ⟨_, ⟨_, stack⟩, reached.tail continues⟩
      | returns stack => exact absurd stack busy'

/-- When the frames below are what is left, the frame that stood right above them has come back. -/
theorem returned
    {frame : Frame}
    (span : Span below trace first last)
    (start : (trace first).Bears below frame)
    (back : (trace last).stack = below) :
    ∃ later, Relation.ReflTransGen Frame.Continues frame later ∧
      later.Returns (trace last).control := by
  rcases Nat.exists_eq_add_of_le span.ordered with ⟨_ | count, rfl⟩
  · exact absurd back start.ne_below
  · have late : first + count < first + (count + 1) := by omega
    rcases span.bears start (Nat.le_add_right _ _) late with ⟨later, bears, reached⟩
    have move := span.moves (first + count) (Nat.le_add_right _ _) late
    cases move.minds bears with
    | covered _ same => exact absurd back same.ne_below
    | turn _ turns =>
        cases turns with
        | continues stack => exact absurd back (Bears.ne_below ⟨_, stack⟩)
        | returns _ returns => exact ⟨later, reached, returns⟩

/-- A stretch above a frame is one above the frames below it. -/
theorem under
    {base frame : Frame}
    (span : Span (base :: below) trace first last)
    (start : (trace first).Bears (base :: below) frame) :
    Span below trace first last where
  ordered := span.ordered
  moves := span.moves
  lasts := by
    intro time late early
    rcases span.bears start late early with ⟨_, bears, _⟩
    exact bears.under.ne_below

theorem trans
    (span : Span below trace first middle)
    (rest : Span below trace middle last) :
    Span below trace first last where
  ordered := span.ordered.trans rest.ordered
  moves := by
    intro time late early
    rcases Nat.lt_or_ge time middle with before | after
    · exact span.moves time late before
    · exact rest.moves time after early
  lasts := by
    intro time late early
    rcases Nat.lt_or_ge time middle with before | after
    · exact span.lasts time late before
    · exact rest.lasts time after early

end Span

/-- What stands above some frames comes back to them before it is gone. -/
theorem span_of_gone
    {below : List Frame}
    {trace : Nat → Machine}
    {first last : Nat}
    {frame : Frame}
    (order : first ≤ last)
    (moves : ∀ time, first ≤ time → time < last → Move (trace time) (trace (time + 1)))
    (start : (trace first).Bears below frame)
    (gone : ∀ later, ¬ (trace last).Bears below later) :
    ∃ middle, middle ≤ last ∧ (trace middle).stack = below ∧ Span below trace first middle := by
  classical
  by_cases comes : ∃ middle, first ≤ middle ∧ middle ≤ last ∧ (trace middle).stack = below
  · -- the first time
    rcases Nat.find_spec comes with ⟨late, early, reached⟩
    refine ⟨Nat.find comes, early, reached, late, ?_, ?_⟩
    · exact fun time from_first before => moves time from_first (Nat.lt_of_lt_of_le before early)
    · intro time from_first before stack
      exact Nat.find_min comes before
        ⟨from_first, Nat.le_of_lt (Nat.lt_of_lt_of_le before early), stack⟩
  · have lasts (time : Nat) (late : first ≤ time) (early : time ≤ last) :
        (trace time).stack ≠ below :=
      fun stack => comes ⟨time, late, early, stack⟩
    have span : Span below trace first last :=
      ⟨order, moves, fun time late early => lasts time late (Nat.le_of_lt early)⟩
    rcases Nat.exists_eq_add_of_le order with ⟨_ | count, rfl⟩
    · exact absurd start (gone frame)
    · have late : first + count < first + (count + 1) := by omega
      rcases span.bears start (Nat.le_add_right _ _) late with ⟨later, bears, _⟩
      cases (moves (first + count) (Nat.le_add_right _ _) late).minds bears with
      | covered _ same => exact absurd same (gone later)
      | turn _ turns =>
          cases turns with
          | continues stack => exact absurd ⟨_, stack⟩ (gone _)
          | returns stack => exact absurd stack (lasts _ order (Nat.le_refl _))

/-- An emission that begins is in progress, or its fault is reported. -/
theorem emitting_beginEmission (machine : Machine) (emission : Emission) :
    ∃ frame, (machine.beginEmission emission).stack = frame :: machine.stack ∧
      (machine.beginEmission emission).control = .proceed ∧ frame.Emitting := by
  rw [beginEmission]
  dsimp only
  split
  · exact ⟨_, rfl, rfl, trivial⟩
  · split <;> exact ⟨_, rfl, rfl, trivial⟩

end Machine

end SignalDispatch
