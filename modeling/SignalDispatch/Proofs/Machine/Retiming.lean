import SignalDispatch.Proofs.Machine.FreshStart
import SignalDispatch.Proofs.Machine.Performing
import SignalDispatch.Proofs.Machine.Transparency

/-!
# Another clock does not show

The times of emissions are recorded, and nothing but the answers about them depends on the clock.
`Machine.Performs.retimed` says so of operations that are performed one after another: by another
clock they come back as well, with the same answers, and leave what differs in times only.
-/

namespace SignalDispatch.Machine

/-- Nothing is to be done, and nothing has been observed yet. -/
def resting (world : World) : Machine where
  world := world

variable {program : Program} {clock : Nat → Nat} {allowed : Operation → Prop}
  {asked : Option Operation} {left right ended : Machine} {answer : Answer}

/-- The same operation is issued. -/
theorem Resembles.issued?_eq
    {view : View}
    (same : Resembles view asked left right) :
    left.issued? = right.issued? := by
  have frames := same.stack
  have controls := same.control
  rw [issued?, issued?]
  generalize left.stack = stack at frames controls ⊢
  generalize right.stack = stack' at frames ⊢
  generalize left.control = control at controls ⊢
  generalize right.control = control' at controls ⊢
  cases frames with
  | nil => rfl
  | cons first rest => cases controls <;> first | rfl | (cases first <;> rfl)

/-- What a reachable world looks like without times it looks like to itself. -/
theorem Reachable.resembles_self
    {machine : Machine}
    (reachable : Reachable machine) :
    machine.world.Resembles .untimed machine.world :=
  { bus :=
      { backend := rfl
        registry := rfl
        guarded := fun _ => rfl
        nextHandle := rfl
        issued := reachable.counted.1
        nextSerial := rfl
        maxSlots := rfl
        profiling := fun _ => rfl
        hook := rfl
        space := rfl
        deferred := rfl
        interrupts := reachable.interrupts.1.resembles_self }
    calls := rfl
    tickets := rfl
    kept := fun _ _ found => by rw [Handle.seen_untimed]; exact found
    same := fun _ => rfl
    batches := rfl
    readings := fun _ => rfl }

/-- What comes back by one clock comes back by any other. -/
theorem ComesBack.retimed
    (comes : ComesBack program allowed [] left answer ended)
    (same : Resembles .untimed asked left right) :
    ∃ answer' ended',
      ComesBack (program.retimed clock) allowed [] right answer' ended' ∧
        answer.Resembles .untimed asked answer' ∧ Pairs .untimed asked ended ended' := by
  induction comes generalizing right with
  | @back machine answer stack control =>
      have controls := same.control
      have depth := same.stack.length_eq
      rw [stack] at controls depth
      rw [control] at controls
      generalize going : right.control = control' at controls
      cases controls with
      | answer answers =>
          have stack' : right.stack = [] := List.length_eq_zero_iff.mp depth.symm
          exact ⟨_, right, .back stack' going, answers, same.toPairs⟩
  | step above issues _ ih =>
      have known (operation : Operation) : right.world.Knows .untimed operation := by
        rintro ⟨⟩
      have stepped := @Resembles.step_retimed program clock _ _ _ _ same (by rintro ⟨⟩)
        fun operation _ => known operation
      rcases ih stepped with ⟨answer', ended', comes', answers, pairs⟩
      rw [same.stack.length_eq] at above
      rw [same.issued?_eq] at issues
      exact ⟨answer', ended', .step above issues comes', answers, pairs⟩

/-- Idle machines that are alike are so whatever was asked for. -/
theorem Pairs.reask
    {view : View}
    {other : Option Operation}
    (pairs : Pairs view asked left right)
    (idle : left.stack = []) :
    Pairs view other left right := by
  refine ⟨pairs.world, ?_, pairs.events⟩
  have frames := pairs.stack
  generalize left.stack = stack at idle frames ⊢
  generalize right.stack = stack' at frames ⊢
  subst idle
  cases frames
  exact .nil

/-- Operations that do not ask for times are performed by any other clock, with the same answers. -/
theorem Performs.retimed
    {operations : List Operation}
    {answers : List Answer}
    (performs : Performs program allowed left operations answers ended)
    (clock : Nat → Nat)
    (plain : ∀ operation ∈ operations, operation.measures = false)
    (idle : left.stack = [])
    (pairs : Pairs .untimed none left right) :
    ∃ ended', Performs (program.retimed clock) allowed right operations answers ended' ∧
      Pairs .untimed none ended ended' := by
  induction performs generalizing right with
  | nil => exact ⟨right, .nil, pairs⟩
  | @cons machine between _ operation _ _ _ comes _ ih =>
      have known : right.world.Knows .untimed operation := by
        rintro ⟨⟩
      have asking : awaited (some operation) machine.stack = some operation := by
        rw [idle]
        rfl
      have idle' : right.stack = [] := by
        have depth := pairs.stack.length_eq
        rw [idle] at depth
        exact List.length_eq_zero_iff.mp depth.symm
      have started : Resembles .untimed (some operation) (machine.execute program .void operation)
          (right.execute (program.retimed clock) .void operation) :=
        (pairs.reask idle).execute asking known .void
      rw [idle] at comes
      rcases @ComesBack.retimed program clock _ _ _ _ _ _ comes started with
        ⟨answer', between', comes', answers, pairs'⟩
      have unmeasured := plain operation List.mem_cons_self
      rcases answers.eq_untimed with rfl | measures
      · rcases ih (fun other member => plain other (List.mem_cons_of_mem _ member)) comes.stack
            (pairs'.reask comes.stack) with ⟨ended', performs', pairs''⟩
        rw [← idle'] at comes'
        exact ⟨ended', .cons comes' performs', pairs''⟩
      · exact absurd (measures.symm.trans unmeasured) (Bool.noConfusion)

/-- The same in one and the same reachable world. -/
theorem Performs.retimed_resting
    {machine : Machine}
    {operations : List Operation}
    {answers : List Answer}
    (performs : Performs program allowed (resting machine.world) operations answers ended)
    (reachable : Reachable machine)
    (clock : Nat → Nat)
    (plain : ∀ operation ∈ operations, operation.measures = false) :
    ∃ ended',
      Performs (program.retimed clock) allowed (resting machine.world) operations answers ended' ∧
        Pairs .untimed none ended ended' :=
  performs.retimed clock plain rfl ⟨reachable.resembles_self, .nil, .nil⟩

end SignalDispatch.Machine
