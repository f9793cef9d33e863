import SignalDispatch.Proofs.Machine.Abandonment
import SignalDispatch.Proofs.Machine.Representation
import SignalDispatch.Proofs.Registry.Leaving
import SignalDispatch.Proofs.Registry.Occupancy

/-!
# Panics and quiescence

User code may panic in a callback at any depth, in a hook or in a farewell.  `PanicSafe` says what
becomes of the registry: every level that the panic leaves lowers the depth of its signal again, the
outermost emission of a signal sweeps its tombstones, and all of it happens as if the callback had
returned and its emission had stopped there.  So when a session is at top level again, no emission
has left anything behind.
-/

namespace SignalDispatch

/-- No emission has left anything behind in a registry. -/
structure Registry.Quiet (registry : Registry) : Prop where
  idle :
    ∀ index signal, registry.signals.get? index = some signal →
      signal.emitting = 0 ∧ signal.tombstones = 0
  /-- Only live slots are stored. -/
  occupied :
    ∀ kind, (registry.memoryStats kind).slotsUsed =
      (registry.listing.map SignalInfo.slotCount).sum

/-- An emission has left its signal, and others remain in progress. -/
structure Bus.Departs
    (before after : Bus)
    (signalRef : SignalRef)
    (remaining : List Walk) :
    Prop where
  /-- The registration that was emitted is not there any more. -/
  gone : ¬ before.Resolves signalRef → after.registry = before.registry
  resolved :
    ∀ registry signal, before.registry = some registry →
      registry.resolve? signalRef = some signal →
        ∃ next later,
          after.registry = some next ∧
            registry.Leaves next signalRef.index signal.content later ∧
            signal.emitting = later.emitting + 1 ∧
            later.emitting = (remaining.map Walk.signalRef).count signalRef

namespace Coherent

variable {bus : Bus} {walks : List Walk} {walk : Walk} {registry : Registry}

/-- Without emissions in progress a registry is quiet. -/
theorem quiet (coherent : Coherent bus []) (present : bus.registry = some registry) :
    registry.Quiet := by
  have intact := coherent.intact present
  have idle (index : Nat) (signal : Signal)
      (registered : registry.signals.get? index = some signal) :
      signal.emitting = 0 ∧ signal.tombstones = 0 := by
    have depth : signal.emitting = 0 := intact.emitting_eq index signal registered
    have marked := intact.emitting_pos index signal registered
    omega
  refine ⟨idle, fun kind => ?_⟩
  have occupied := (coherent.sane.registry present).formed.size_slots
  show registry.slots.size = (registry.listing.map SignalInfo.slotCount).sum
  rw [occupied, Registry.listing, List.map_map]
  congr 1
  apply List.map_congr_left
  rintro ⟨index, signal⟩ listed
  have clean := (idle index signal ((Arena.mem_toList_iff _ _ _).mp listed)).2
  simp [clean, Signal.info]

/-- What the emission in front does when it leaves. -/
theorem departs (coherent : Coherent bus (walk :: walks)) (elapsed : Option Nat) :
    bus.Departs (bus.leaving walk.signalRef elapsed) walk.signalRef walks := by
  constructor
  · intro gone
    cases present : bus.registry with
    | none => simp [Bus.leaving, present]
    | some registry =>
        have unresolved : registry.resolve? walk.signalRef = none := by
          rw [Bus.resolves_iff present, Option.not_isSome_iff_eq_none] at gone
          exact gone
        simp [Bus.leaving, present, Bus.setRegistry,
          registry.endEmission_of_resolve?_eq_none _ elapsed unresolved]
  · intro registry signal present resolved
    rcases (coherent.sane.registry present).formed.leaves resolved elapsed with ⟨later, leaves⟩
    have left :
        (bus.leaving walk.signalRef elapsed).registry =
          some (registry.endEmission walk.signalRef elapsed).1 := by
      simp [Bus.leaving, present, Bus.setRegistry]
    have depthBefore := coherent.depths ((Bus.signalAt_of_some present _).trans leaves.found)
    have depthAfter :=
      (coherent.leave elapsed).1.depths ((Bus.signalAt_of_some left _).trans leaves.remains)
    have serial : signal.serial = walk.signalRef.serial :=
      ((Registry.resolve?_eq_some_iff _ _ _).mp resolved).2
    have same : (⟨walk.signalRef.index, walk.signalRef.serial⟩ : SignalRef) = walk.signalRef := rfl
    rw [Signal.content_serial, serial, same, List.map_cons, List.count_cons_self,
      Signal.content_emitting] at depthBefore
    rw [leaves.identity.2.2.2.1, Signal.content_serial, serial, same] at depthAfter
    refine ⟨_, later, left, leaves, ?_, depthAfter⟩
    rw [depthBefore, depthAfter]

end Coherent

namespace Machine

/-- The state in which the innermost callback has returned and its emission has no more slots to
read. -/
def returning (machine : Machine) (walk : Walk) (below : List Frame) : Machine :=
  { machine with stack := .walk walk.stopped :: below, control := .proceed }

/-- What panics do to the registry. -/
structure PanicSafe (machine : Machine) : Prop where
  /-- At top level, after an answer or after a panic that nothing stopped, the registry is quiet. -/
  quiescent :
    machine.stack = [] →
      ∀ registry, machine.world.bus.registry = some registry → registry.Quiet
  /-- At any time the depth of a signal is the number of its emissions that have not been left, and
  only a signal with a depth has tombstones. -/
  depth :
    ∀ registry index signal, machine.world.bus.registry = some registry →
      registry.signals.get? index = some signal →
        signal.emitting = (machine.walks.map Walk.signalRef).count ⟨index, signal.serial⟩ ∧
          (signal.emitting = 0 → signal.tombstones = 0)
  /-- A panic that has left the callback of an emission leaves its signal next, and goes on. -/
  level :
    ∀ program message walk below,
      machine.stack = .walk walk :: below → walk.running = none →
        machine.control = .unwind message →
          machine.world.bus.Departs (machine.step program).world.bus walk.signalRef
              (below.filterMap Frame.walk?) ∧
            ∃ contexts,
              (machine.step program).stack = .release contexts (some message) :: below ∧
                (machine.step program).control = .proceed
  /-- Until it has left the emission, a panic that leaves a callback does what is done when the
  callback returns and the emission stops there. -/
  as_returning :
    ∀ program message walk below,
      machine.stack = .walk walk :: below → walk.running.isSome →
        machine.control = .unwind message →
          ∀ count,
            (∀ earlier < count, ((step program)^[earlier] machine).stack ≠ below) →
              ((step program)^[count] machine).control ≠ .aborted →
                let panicked := (step program)^[count] machine
                let returned := (step program)^[count] (machine.returning walk below)
                panicked.world = returned.world ∧ panicked.events = returned.events ∧
                  (panicked.stack = below →
                    Parting message below (.conclude [walk.returned.record] .done :: below)
                      panicked returned)

/-- A step of an emission that a panic leaves. -/
theorem step_of_unwound
    (program : Program)
    {machine : Machine}
    {message : String}
    {walk : Walk}
    {below : List Frame}
    (stack : machine.stack = .walk walk :: below)
    (unwound : walk.running = none)
    (panics : machine.control = .unwind message) :
    (∃ elapsed,
        (machine.step program).world.bus = machine.world.bus.leaving walk.signalRef elapsed) ∧
      ∃ contexts,
        (machine.step program).stack = .release contexts (some message) :: below ∧
          (machine.step program).control = .proceed := by
  rcases leave_fields program { machine with stack := below } walk with
    ⟨leftStack, _, elapsed, leftBus, _⟩
  have moved :
      machine.step program =
        ({ machine with stack := below } : Machine).unwindThrough program message
          (.walk walk) := by
    simp only [step, stack, panics]
  rw [moved, unwindThrough, unwound]
  exact ⟨⟨elapsed, leftBus⟩, _, congrArg (List.cons _) leftStack, rfl⟩

/-- A panic that leaves a callback stays alongside the return of that callback. -/
theorem alongside_iterate
    (program : Program)
    {machine : Machine}
    {message : String}
    {walk : Walk}
    {below : List Frame}
    (stack : machine.stack = .walk walk :: below)
    (running : walk.running.isSome)
    (panics : machine.control = .unwind message)
    (count : Nat)
    (lasts : ∀ earlier < count, ((step program)^[earlier] machine).stack ≠ below)
    (single : ((step program)^[count] machine).control ≠ .aborted) :
    Alongside message walk below ((step program)^[count] machine)
      ((step program)^[count] (machine.returning walk below)) := by
  rcases Option.isSome_iff_exists.mp running with ⟨slot, called⟩
  induction count with
  | zero => exact .callback ⟨rfl, rfl, stack, panics, rfl, rfl⟩
  | succ count ih =>
      rw [Function.iterate_succ_apply'] at single ⊢
      rw [Function.iterate_succ_apply']
      -- a state that has been aborted stays so
      have going : ((step program)^[count] machine).control ≠ .aborted := by
        intro dead
        rw [step_of_aborted program dead] at single
        exact single dead
      have alongside := ih (fun earlier before => lasts earlier (Nat.lt_succ_of_lt before)) going
      rcases alongside.step program called (lasts count (Nat.lt_succ_self count)) with
        second | alongside
      · exact absurd second single
      · exact alongside

/-- Panics keep the registry in order, in every state that a session can come to. -/
theorem panic_safety {machine : Machine} (reachable : Reachable machine) : PanicSafe machine := by
  have coherent := reachable.coherent
  constructor
  · intro idle registry present
    rw [walks, idle] at coherent
    exact coherent.quiet present
  · intro registry index signal present registered
    have intact := coherent.intact present
    have marked := intact.emitting_pos index signal registered
    exact ⟨intact.emitting_eq index signal registered, by omega⟩
  · intro program message walk below stack unwound panics
    rcases step_of_unwound program stack unwound panics with ⟨⟨elapsed, left⟩, onwards⟩
    rw [walks_of_innermost stack] at coherent
    rw [left]
    exact ⟨coherent.departs elapsed, onwards⟩
  · intro program message walk below stack running panics count lasts single
    have alongside := alongside_iterate program stack running panics count lasts single
    exact ⟨alongside.same.1, alongside.same.2, alongside.left_of_stack⟩

/-- In its first turn the routine emits again; in its second it removes its slot and panics. -/
def nestedPanic : Program where
  routines :=
    [{ turns := 2
       commands :=
        [{ label := "again", turn := some 1, operation := .emit ⟨"signal", .void⟩ },
          { label := "remove", turn := some 2, operation := .disconnectHandle (.number 1) },
          { label := "panic", turn := some 2, operation := .panic "boom" }] }]

/-- The steps of an emission that is entered again by its callback and left by a panic. -/
def escaping (time : Nat) : Machine :=
  (step nestedPanic)^[time]
    ((initial .heap {}).play nestedPanic 8
        [.init, .register "signal" none none, .connect "signal" 0 none none .nowhere]
      |>.play nestedPanic 0 [.emit ⟨"signal", .void⟩])

theorem reachable_escaping (time : Nat) : Reachable (escaping time) :=
  Reachable.reaches ⟨.heap, {}, (reaches_play _ _ _ _).trans (reaches_play _ _ _ _)⟩
    (.iterate nestedPanic _ time)

/-- The panic finds a tombstone under two emissions, and leaves a quiet registry. -/
theorem panic_safety_escaping :
    ((escaping 9).control = .unwind "boom" ∧ (escaping 9).walks.length = 2 ∧
        (escaping 9).world.bus.registry.map (fun registry =>
          (registry.slotsOf 0).map Slot.removed) = some [true]) ∧
      PanicSafe (escaping 9) ∧
      ((escaping 20).control = .unwind "boom" ∧ (escaping 20).stack = []) ∧
      PanicSafe (escaping 20) :=
  ⟨by decide +kernel, panic_safety (reachable_escaping 9), by decide +kernel,
    panic_safety (reachable_escaping 20)⟩

end Machine

end SignalDispatch
