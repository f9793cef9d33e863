import SignalDispatch.Proofs.Machine.Failing

/-!
# A failing call leaves no trace

A call may be made at top level or by user code, and in the middle of any number of emissions.  From
its start until a fault comes back to the frames below it, `NoTrace` accounts for every move: the
moves of the call itself leave the world undisturbed, and any other move is one of user code that
the failure has called, the farewell of a rejected context or the error hook.
-/

namespace SignalDispatch.Machine

/-- The steps after an operation was started. -/
def later (program : Program) (started : Machine) (time : Nat) : Machine :=
  (step program)^[time] started

/-- The fault of a call was reported to a hook. -/
def Reported
    (program : Program)
    (fault : Fault)
    (below : List Frame)
    (started : Machine)
    (time : Nat)
    (hook : Hook) :
    Prop :=
  ∃ earlier < time,
    (later program started earlier).stack = .reject fault :: below ∧
      (later program started earlier).world.bus.hook = some hook

/-- From the state before a call over the one in which it was started until it has come back with a
fault, nothing has changed but by user code that the failure has called. -/
structure NoTrace
    (program : Program)
    (operation : Operation)
    (fault : Fault)
    (before started : Machine)
    (count : Nat) :
    Prop where
  start : before.world.Undisturbed started.world
  /-- Until it comes back, it is the turn of the call or of user code that it has called. -/
  between :
    ∀ time < count,
      Failing program operation.farewell? (Reported program fault before.stack started time) fault
        before.stack (later program started time)
  /-- In its own turn the call changes nothing. -/
  own :
    ∀ time < count,
      Handling operation.farewell? fault before.stack (later program started time) →
        (later program started time).world.Undisturbed (later program started (time + 1)).world
  /-- If there is no hook and no context that user code is called for, nothing has changed. -/
  alone :
    before.world.bus.hook = none → operation.farewell? = none →
      before.world.Undisturbed (later program started count).world

variable (program : Program) {before started : Machine} {operation : Operation} {fault : Fault}
  {below : List Frame} {farewell : Option RoutineId} {count : Nat}

theorem later_succ (started : Machine) (time : Nat) :
    later program started (time + 1) = (later program started time).step program :=
  Function.iterate_succ_apply' _ _ _

/-- A call that failed is failing until it has come back with its fault. -/
theorem failing_later
    (handling : Handling farewell fault below started)
    (count : Nat)
    (within : ∀ time < count, (later program started time).stack ≠ below) :
    Failing program farewell (Reported program fault below started count) fault below
        (later program started count) ∨
      Faulted fault below (later program started count) := by
  induction count with
  | zero => exact Or.inl (Or.inl handling)
  | succ count ih =>
      rw [later_succ]
      rcases ih (fun time bound => within time (Nat.lt_succ_of_lt bound)) with
        (own | meanwhile) | back
      · refine own.step program ?_
        intro hook stack installed
        exact ⟨count, Nat.lt_succ_self count, stack, installed⟩
      · refine Or.inl (Meanwhile.step program (meanwhile.mono ?_))
        rintro hook ⟨earlier, past, report⟩
        exact ⟨earlier, Nat.lt_succ_of_lt past, report⟩
      · exact absurd back.stack (within count (Nat.lt_succ_self count))

/-- Without a hook and without a farewell a failing call is alone. -/
theorem undisturbed_later
    (start : before.world.Undisturbed started.world)
    (between :
      ∀ time < count,
        Failing program none (Reported program fault below started time) fault below
          (later program started time))
    (unhooked : before.world.bus.hook = none) :
    before.world.Undisturbed (later program started count).world := by
  have undisturbed (time : Nat) : time ≤ count →
      before.world.Undisturbed (later program started time).world := by
    induction time using Nat.strong_induction_on with
    | _ time ih =>
        intro bound
        cases time with
        | zero => exact start
        | succ time =>
            have earlier := ih time (Nat.lt_succ_self time) (Nat.le_of_succ_le bound)
            rw [later_succ]
            rcases between time bound with own | ⟨named, _⟩ | ⟨⟨reported, past, _, installed⟩, _⟩
            · exact earlier.trans (own.undisturbed program)
            · cases named
            · have known := ih reported (Nat.lt_succ_of_lt past)
                (Nat.le_of_lt (Nat.lt_trans past bound))
              rw [known.hook_eq_none unhooked] at installed
              cases installed
  exact undisturbed count (Nat.le_refl count)

/-- What starting an operation comes to, in a state from which it is executed. -/
theorem Executes.starts
    (reachable : Reachable before)
    (reliable : before.world.bus.backend.slots.Reliable)
    (ordinary : ∀ batch, operation ≠ .batchEmit batch)
    (executes : Executes operation before started) :
    Starts operation before started := by
  rcases executes.eq_execute with ⟨program, payload, machine, world, stack, rfl⟩
  have sane := reachable.coherent.sane
  have housed := reachable.housed
  rw [← world] at sane housed reliable
  cases execute_starts program sane housed reliable payload ordinary with
  | succeeds succeeding => exact .succeeds (stack ▸ succeeding)
  | returns unfaulted => exact .returns (stack ▸ unfaulted)
  | fails undisturbed handling => exact .fails (world ▸ undisturbed) (stack ▸ handling)
  | answers undisturbed same answered =>
      exact .answers (world ▸ undisturbed) (same.trans stack) answered

/-- A call that comes back with a fault leaves no trace. -/
theorem no_trace_of_fault
    (reachable : Reachable before)
    (reliable : before.world.bus.backend.slots.Reliable)
    (ordinary : ∀ batch, operation ≠ .batchEmit batch)
    (executes : Executes operation before started)
    (within : ∀ time < count, (later program started time).stack ≠ before.stack)
    (returned : (later program started count).stack = before.stack)
    (failed : (later program started count).control = .answer (.fault fault)) :
    NoTrace program operation fault before started count := by
  cases executes.starts reachable reliable ordinary with
  | succeeds succeeding =>
      rcases succeeding.iterate program count within with ⟨above, frame, stack, _⟩ | back
      · exact absurd (stack.symm.trans returned) (above_ne_below above frame before.stack)
      · exact absurd failed (back.control fault)
  | returns back =>
      cases count with
      | zero => exact absurd failed (back.control fault)
      | succ count => exact absurd back.stack (within 0 (Nat.succ_pos count))
  | answers undisturbed stack answered =>
      cases count with
      | succ count => exact absurd stack (within 0 (Nat.succ_pos count))
      | zero =>
          exact ⟨undisturbed, fun _ past => absurd past (Nat.not_lt_zero _),
            fun _ past => absurd past (Nat.not_lt_zero _), fun _ _ => undisturbed⟩
  | @fails reported undisturbed handling =>
      have failing (time : Nat) (past : time < count) :
          Failing program operation.farewell?
            (Reported program reported before.stack started time) reported before.stack
            (later program started time) := by
        rcases failing_later program handling time
          (fun earlier bound => within earlier (Nat.lt_trans bound past)) with failing | back
        · exact failing
        · exact absurd back.stack (within time past)
      have same : fault = reported := by
        rcases failing_later program handling count within with failing | back
        · exact absurd returned failing.ne_below
        · exact back.control fault failed
      subst same
      refine ⟨undisturbed, failing, ?_, ?_⟩
      · intro time past own
        rw [later_succ]
        exact own.undisturbed program
      · intro unhooked untracked
        rw [untracked] at failing
        exact undisturbed_later program undisturbed failing unhooked

/-- A callback that connects another slot, with a farewell for its context. -/
def crowded : Program where
  routines :=
    [{ commands :=
        [{ label := "crowd"
           operation := .connect "signal" 1 none (some (.tracked "context" 1)) .nowhere }] }]

/-- The callback is about to make the connection, in a pool that has no slot left. -/
def crowding : Machine :=
  (step crowded)^[1]
    ((initial (.pool 1 1) {}).play crowded 8
        [.init, .register "signal" none none, .setHook (some 1),
          .connect "signal" 0 none none .nowhere]
      |>.play crowded 0 [.emit ⟨"signal", .void⟩])

theorem reachable_crowding : Reachable crowding :=
  Reachable.reaches ⟨.pool 1 1, {}, (reaches_play _ _ _ _).trans (reaches_play _ _ _ _)⟩
    (.iterate crowded _ 1)

/-- The rejected connection comes back after a farewell and a report, in the middle of an
emission. -/
theorem no_trace_of_fault_crowding :
    crowding.walks.length = 1 ∧
      (later crowded (crowding.step crowded) 6).control =
        .answer (.fault (.resourceExhausted (.slotPool 1))) ∧
      NoTrace crowded (.connect "signal" 1 none (some (.tracked "context" 1)) .nowhere)
        (.resourceExhausted (.slotPool 1)) crowding (crowding.step crowded) 6 :=
  ⟨by decide +kernel, by decide +kernel,
    no_trace_of_fault crowded reachable_crowding (StoragePolicy.reliable_pool 1)
      (fun _ => Operation.noConfusion) (.command crowded (by decide +kernel)) (by decide +kernel)
      (by decide +kernel) (by decide +kernel)⟩

end SignalDispatch.Machine
