import SignalDispatch.Proofs.Bus.Retirement
import SignalDispatch.Proofs.Machine.Episode
import SignalDispatch.Proofs.Machine.Representation

/-!
# No stale calls

A walk keeps the position of the slot that it reads next while user code runs, and user code may do
anything to the bus in the meantime.  `NoStaleCalls` says that this is safe: what the walk finds at
its cursor is the slot that was there when the cursor was set, callbacks of live slots alone are
called, and what a removal has taken away is never called again.
-/

namespace SignalDispatch.Machine

/-- The step of a routine that starts an operation is that operation. -/
theorem step_of_issued
    (program : Program)
    {machine : Machine}
    {operation : Operation}
    (issued : machine.issued? = some operation) :
    ∃ (started : Machine) (payload : Payload), started.world = machine.world ∧
      machine.step program = started.execute program payload operation := by
  rw [issued?.eq_def] at issued
  split at issued
  next frame below stack proceeds =>
    rw [Frame.issued?.eq_def] at issued
    split at issued
    next command rest payload turn =>
      split at issued
      next due =>
        rw [Option.some.injEq] at issued
        subst issued
        refine ⟨({ machine with stack := below } : Machine).push
          (.routine (command :: rest) payload turn), payload, rfl, ?_⟩
        rw [step, stack]
        simp only [proceeds, proceed, proceedRoutine, if_pos due]
      next => cases issued
    next => cases issued
  next => cases issued

/-- What a successful removal takes away is retired after its move. -/
theorem Executes.retired
    {operation : Operation}
    {before after : Machine}
    {handle : Handle}
    (executes : Executes operation before after)
    (sane : before.world.bus.Sane)
    (withdraws : before.world.Withdraws operation handle) :
    after.world.bus.Retired handle := by
  cases executes with
  | command program issued =>
      rcases step_of_issued program issued with ⟨started, payload, world, same⟩
      rw [← world] at sane withdraws
      rw [same]
      exact retired_of_withdraws program payload sane withdraws
  | session program =>
      have started : ({ world := before.world } : Machine).world.bus.Sane := sane
      exact retired_of_withdraws program .void started withdraws

/-- A handle that is retired during a run stays so. -/
theorem Run.retired
    {trace : Nat → Machine}
    {first last : Nat}
    {handle : Handle}
    (run : Run trace first last)
    (retired : (trace first).world.bus.Retired handle) :
    ∀ time, first ≤ time → time ≤ last → (trace time).world.bus.Retired handle := by
  intro time start
  induction time, start using Nat.le_induction with
  | base => exact fun _ => retired
  | succ time start ih =>
      intro bound
      have coherent := run.coherent start (Nat.le_of_succ_le bound)
      rcases ((run.moves time start bound).coherent coherent).2 with ⟨depth, retains⟩
      exact retains.retired (ih (Nat.le_of_succ_le bound))

/-- A retired handle is not called. -/
theorem not_calls_of_retired
    {before after : Machine}
    {handle : Handle}
    (move : Move before after)
    (coherent : Coherent before.world.bus before.walks)
    (retired : before.world.bus.Retired handle) :
    ¬ Calls before after handle := by
  intro calls
  rcases move.turn.calls calls with ⟨below, slot, reads, live, rfl⟩
  rcases reads with
    ⟨walk, position, registry, stack, _, _, cursor, present, resolved, stored⟩
  have member : walk ∈ before.walks := by
    rw [walks_of_innermost stack]
    exact List.mem_cons_self
  have content := (next_of_cursor coherent member cursor present resolved stored).2.1
  have gone := retired.dead content rfl
  rw [Slot.content_removed, live] at gone
  cases gone

/-- What the slots read and called during a run have to do with the slots there were. -/
structure NoStaleCalls (trace : Nat → Machine) (first last : Nat) : Prop where
  /-- An emission whose cursor was set at one time and that reads at a later one finds the slot
  that was there, in the chain of the registration that it walks. -/
  same_slot :
    ∀ {below : List Frame} {walk : Nat → Walk} {captured time position : Nat} {slot : Slot},
      first ≤ captured → captured ≤ time → time ≤ last →
      (∀ moment, captured ≤ moment → moment ≤ time →
        (trace moment).Hosts below (walk moment)) →
      (walk captured).cursor = some position →
      (∀ moment, captured ≤ moment → moment < time →
        ∀ other, ¬ (trace moment).Reads below other) →
      (trace time).Reads below slot →
        (walk time).signalRef = (walk captured).signalRef ∧
          (trace time).world.bus.Resolves (walk captured).signalRef ∧
          position ∈ (trace time).world.bus.chain (walk captured).signalRef.index ∧
          (trace time).world.bus.slotAt position = some slot.content ∧
          ∃ old, (trace captured).world.bus.slotAt position = some old ∧
            old.handle = slot.handle
  /-- A callback is called for a slot that is live then. -/
  live_only :
    ∀ {time : Nat} {handle : Handle},
      first ≤ time → time < last → Calls (trace time) (trace (time + 1)) handle →
        ∃ below slot, (trace time).Reads below slot ∧ slot.removed = false ∧
          slot.handle = handle
  /-- What a successful removal has taken away is never called again. -/
  never_again :
    ∀ {time : Nat} {operation : Operation} {handle : Handle},
      first ≤ time → time < last → Executes operation (trace time) (trace (time + 1)) →
      (trace time).world.Withdraws operation handle →
        ∀ later, time < later → later < last →
          ¬ Calls (trace later) (trace (later + 1)) handle

/-- No run of the machine calls a stale slot. -/
theorem no_stale_calls
    {trace : Nat → Machine}
    {first last : Nat}
    (run : Run trace first last) :
    NoStaleCalls trace first last := by
  constructor
  · intro below walk captured time position slot start ordered bound hosts cursor quiet reads
    have episode : Episode below trace walk captured time :=
      ⟨run.part start ordered bound, hosts⟩
    have signalRef := episode.signalRef_eq time ordered (Nat.le_refl _)
    have unmoved := episode.cursor_eq quiet time ordered (Nat.le_refl _)
    have lasting := hosts time ordered (Nat.le_refl _)
    have coherent := episode.run.coherent ordered (Nat.le_refl _)
    have coherentBefore := episode.run.coherent (Nat.le_refl _) ordered
    rcases reads with
      ⟨reader, there, registry, stack, _, _, placed, present, resolved, stored⟩
    have same := lasting.walk_eq_innermost stack
    subst same
    rw [unmoved, cursor, Option.some.injEq] at placed
    subst placed
    have spec := next_of_cursor coherent lasting.mem_walks (unmoved.trans cursor) present resolved
      stored
    rcases spec with ⟨resolves, content, passed, ahead, chain, _⟩
    rw [signalRef] at resolves chain
    rcases episode.kept time ordered (Nat.le_refl _) resolves with ⟨resolved, _, stays⟩
    have member := coherentBefore.cursors _
      (hosts captured (Nat.le_refl _) ordered).mem_walks resolved position cursor
    rcases coherentBefore.sane.slotAt_of_mem member with ⟨old, was⟩
    rcases stays position member old was with ⟨later, found, outlasts⟩
    rw [content, Option.some.injEq] at found
    subst found
    refine ⟨signalRef, resolves, ?_, content, old, was, outlasts.handle_eq.symm⟩
    rw [chain]
    simp
  · intro time handle start bound calls
    exact (run.moves time start bound).turn.calls calls
  · intro time operation handle start bound executes withdraws later after toLast
    have coherent := run.coherent start (Nat.le_of_lt bound)
    have rest := run.part (Nat.le_succ_of_le start) after (Nat.le_of_lt toLast)
    have retired := rest.retired (executes.retired coherent.sane withdraws) later after
      (Nat.le_refl _)
    exact not_calls_of_retired
      (run.moves later (Nat.le_trans start (Nat.le_of_lt after)) toLast)
      (run.coherent (Nat.le_trans start (Nat.le_of_lt after)) (Nat.le_of_lt toLast)) retired

/-- The steps of an emission whose first callback removes its own slot. -/
def removal (time : Nat) : Machine :=
  (step selfRemoving)^[time] entering

/-- The first slot is removed by its own callback and not called again; the second is called. -/
theorem no_stale_calls_removal :
    (removal 20).calls = [⟨2⟩, ⟨1⟩] ∧
      ∀ later, 1 < later → later < 20 → ¬ Calls (removal later) (removal (later + 1)) ⟨1⟩ := by
  have run : Run removal 0 20 := .of_steps selfRemoving reachable_entering 20
  have executes : Executes (.disconnectHandle (.number 1)) (removal 1) (removal 2) := by
    have moved : removal 2 = (removal 1).step selfRemoving :=
      Function.iterate_succ_apply' _ _ _
    rw [moved]
    exact .command selfRemoving (by decide +kernel)
  have withdraws : (removal 1).world.Withdraws (.disconnectHandle (.number 1)) ⟨1⟩ :=
    .disconnectHandle (by decide +kernel)
  exact ⟨by decide +kernel,
    (no_stale_calls run).never_again (by decide) (by decide) executes withdraws⟩

end SignalDispatch.Machine
