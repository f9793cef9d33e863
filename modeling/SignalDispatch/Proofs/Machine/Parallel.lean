import SignalDispatch.Proofs.Machine.Backends
import SignalDispatch.Proofs.Machine.ResemblingMoves

/-!
# Sessions side by side

Two sessions that perform the same operations from machines that resemble each other resemble each
other at every moment, as long as the operations name handles that are known.  What they come to is
compared operation by operation: `asked` is the operation that a session has performed last, so an
answer that comes out of the stack is the answer of that one.
-/

namespace SignalDispatch.Machine

/-- The operation that a session has started last, by what is still to be performed. -/
def asked (operations waiting : List Operation) : Option Operation :=
  (operations.take (operations.length - waiting.length)).getLast?

/-- Everything that can be told of two states of sessions is the same, up to the view: what is left
to be done, how it goes on and with which answer, what was told, and the memory in use. -/
structure Parallel
    (view : View)
    (operations : List Operation)
    (left right : Machine × List Operation) : Prop where
  pending : left.2 = right.2
  depth : left.1.stack.length = right.1.stack.length
  control :
    left.1.control.Resembles view (awaited (asked operations left.2) left.1.stack)
      right.1.control
  events : List.Forall₂ (Event.Resembles view) left.1.told right.1.told
  memory : left.1.world.bus.memory? = right.1.world.bus.memory?

variable {program : Program} {view : View} {operations : List Operation} {left right : Machine}

theorem asked_self (operations : List Operation) : asked operations operations = none := by
  rw [asked, Nat.sub_self]
  rfl

/-- What was asked for last is what has been taken from the front. -/
theorem asked_of_suffix
    {operation : Operation}
    {rest : List Operation}
    (suffix : operation :: rest <:+ operations) :
    asked operations rest = some operation := by
  rcases suffix with ⟨performed, rfl⟩
  have split : performed ++ operation :: rest = performed ++ [operation] ++ rest :=
    List.append_cons _ _ _
  rw [asked, split, List.length_append, Nat.add_sub_cancel, List.take_left]
  exact List.getLast?_concat

/-- Machines that resemble each other are idle at the same time. -/
theorem Resembles.ready_iff
    {asked : Option Operation}
    (same : Resembles view asked left right) :
    (left.stack = [] ∧ left.control ≠ .aborted) ↔
      (right.stack = [] ∧ right.control ≠ .aborted) := by
  have frames := same.stack.length_eq
  have going : left.control = .aborted ↔ right.control = .aborted := by
    have controls := same.control
    generalize left.control = control at controls ⊢
    generalize right.control = control' at controls ⊢
    cases controls <;> simp
  rw [← List.length_eq_zero_iff, frames, List.length_eq_zero_iff, Ne, going]

/-- One move of two sessions. -/
theorem Resembles.advance
    {waiting : List Operation}
    (same : Resembles view (asked operations waiting) left right)
    (suffix : waiting <:+ operations)
    (known : ∀ operation ∈ starting? (right, waiting), right.world.Knows view operation) :
    (Machine.advance program (left, waiting)).2 = (Machine.advance program (right, waiting)).2 ∧
      (Machine.advance program (left, waiting)).2 <:+ operations ∧
      Resembles view (asked operations (Machine.advance program (left, waiting)).2)
        (Machine.advance program (left, waiting)).1
        (Machine.advance program (right, waiting)).1 := by
  cases waiting with
  | nil => exact ⟨rfl, suffix, same.step known⟩
  | cons operation rest =>
      rw [Machine.advance, Machine.advance]
      rw [starting?] at known
      by_cases ready : left.stack = [] ∧ left.control ≠ .aborted
      · have ready' := same.ready_iff.mp ready
        rw [if_pos ready'] at known
        rw [if_pos ready, if_pos ready']
        refine ⟨rfl, (List.suffix_cons operation rest).trans suffix, ?_⟩
        rw [asked_of_suffix suffix]
        exact same.perform (known operation rfl)
      · have busy := fun other => ready (same.ready_iff.mpr other)
        rw [if_neg busy] at known
        rw [if_neg ready, if_neg busy]
        exact ⟨rfl, suffix, same.step known⟩

/-- Two sessions resemble each other at every moment. -/
theorem Resembles.iterate
    (same : Resembles view none left right)
    (known :
      ∀ time,
        ∀ operation ∈ starting? ((Machine.advance program)^[time] (right, operations)),
          ((Machine.advance program)^[time] (right, operations)).1.world.Knows view operation)
    (time : Nat) :
    ((Machine.advance program)^[time] (left, operations)).2 =
        ((Machine.advance program)^[time] (right, operations)).2 ∧
      ((Machine.advance program)^[time] (left, operations)).2 <:+ operations ∧
      Resembles view (asked operations ((Machine.advance program)^[time] (left, operations)).2)
        ((Machine.advance program)^[time] (left, operations)).1
        ((Machine.advance program)^[time] (right, operations)).1 := by
  induction time with
  | zero =>
      rw [Function.iterate_zero, id, id, asked_self]
      exact ⟨rfl, List.suffix_refl _, same⟩
  | succ time ih =>
      have started := known time
      rw [Function.iterate_succ_apply', Function.iterate_succ_apply']
      generalize (Machine.advance program)^[time] (left, operations) = state at ih ⊢
      generalize (Machine.advance program)^[time] (right, operations) = state' at ih started ⊢
      rcases state with ⟨left, waiting⟩
      rcases state' with ⟨right, waiting'⟩
      rcases ih with ⟨pending, suffix, same⟩
      dsimp only at pending
      subst pending
      exact same.advance suffix started

/-- Sessions from machines that resemble each other cannot be told apart, up to the view. -/
theorem Resembles.parallel
    (same : Resembles view none left right)
    (known :
      ∀ time,
        ∀ operation ∈ starting? ((Machine.advance program)^[time] (right, operations)),
          ((Machine.advance program)^[time] (right, operations)).1.world.Knows view operation)
    (time : Nat) :
    Parallel view operations ((Machine.advance program)^[time] (left, operations))
      ((Machine.advance program)^[time] (right, operations)) := by
  rcases same.iterate known time with ⟨pending, _, same⟩
  exact ⟨pending, same.stack.length_eq, same.control, same.events, same.world.bus.memory?_eq⟩

end SignalDispatch.Machine
