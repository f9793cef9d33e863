import SignalDispatch.Proofs.Machine.Custody
import SignalDispatch.Proofs.Machine.Lockstep

/-!
# Growing storage and pools

A session on growing storage and the same session on pools hand out different indices, link their
chains through different positions and let go of contexts in different orders.  As long as the pools
have room none of this shows: at every moment both have come to answers that agree, and user code
has been called in the same way.

`Machine.Meets.advance` is one move of both sessions, and `Machine.session_meets` a whole run.
-/

namespace SignalDispatch.Machine

/-- The states of a session that performs some operations, with the operations still to perform. -/
def session
    (program : Program)
    (backend : Backend)
    (config : Config)
    (operations : List Operation)
    (time : Nat) :
    Machine × List Operation :=
  (advance program)^[time] (initial backend config, operations)

/-- The operation that the next move starts, on behalf of user code or of the session. -/
def starting? : Machine × List Operation → Option Operation
  | (machine, operation :: _) =>
      if machine.stack = [] ∧ machine.control ≠ .aborted then some operation else machine.issued?
  | (machine, []) => machine.issued?

/-- Two states of a session have come to the same: the same operations are left, the outcomes agree,
and so does everything that user code took part in. -/
structure Concord
    (signalRoom slotRoom : Nat)
    (left right : Machine × List Operation) : Prop where
  pending : left.2 = right.2
  outcome : Option.Rel (Answer.Agrees signalRoom slotRoom) left.1.outcome? right.1.outcome?
  events : List.Forall₂ (Event.Agrees signalRoom slotRoom) left.1.observed right.1.observed

variable
  {program : Program}
  {signalRoom slotRoom : Nat}
  {left right : Machine}

theorem outcome?_of_busy {machine : Machine} (busy : machine.stack ≠ []) :
    machine.outcome? = none := by
  rw [outcome?.eq_def]
  split
  next idle _ => exact absurd idle busy
  next idle _ => exact absurd idle busy
  next => rfl

/-- Machines that meet agree on what they have come to. -/
theorem Meets.concord
    (meets : Meets program signalRoom slotRoom left right)
    (operations : List Operation) :
    Concord signalRoom slotRoom (left, operations) (right, operations) := by
  cases meets with
  | now alike =>
      refine ⟨rfl, ?_, alike.events⟩
      have frames := alike.stack
      have going := alike.control
      dsimp only
      rw [outcome?.eq_def, outcome?.eq_def]
      generalize left.stack = stack at frames ⊢
      generalize right.stack = stack' at frames ⊢
      generalize left.control = control at going ⊢
      generalize right.control = control' at going ⊢
      cases frames with
      | nil =>
          cases going with
          | proceed => exact .none
          | answer agrees => exact .some agrees
          | unwind message => exact .some (.same _)
      | cons => cases going <;> exact .none
  | later busy busy' events =>
      refine ⟨rfl, ?_, events⟩
      dsimp only
      rw [outcome?_of_busy busy, outcome?_of_busy busy']
      exact .none

/-- One move of two sessions. -/
theorem Meets.advance
    {operations : List Operation}
    (meets : Meets program signalRoom slotRoom left right)
    (coherent : Coherent left.world.bus left.walks)
    (coherent' : Coherent right.world.bus right.walks)
    (portable :
      ∀ operation, starting? (left, operations) = some operation → operation.Portable program)
    (room :
      (Machine.advance program (left, operations)).1.world.bus.Fits signalRoom slotRoom ∨
        ¬ (Machine.advance program (right, operations)).1.Refused signalRoom slotRoom) :
    Meets program signalRoom slotRoom (Machine.advance program (left, operations)).1
        (Machine.advance program (right, operations)).1 ∧
      (Machine.advance program (left, operations)).2 =
        (Machine.advance program (right, operations)).2 := by
  cases operations with
  | nil =>
      refine ⟨?_, rfl⟩
      cases meets with
      | now alike => exact alike.step_meets coherent coherent' portable room
      | later _ _ _ next => exact next
  | cons operation rest =>
      rw [Machine.advance, Machine.advance] at room ⊢
      rw [starting?] at portable
      cases meets with
      | later busy busy' _ next =>
          rw [if_neg fun ready => busy ready.1, if_neg fun ready => busy' ready.1]
          exact ⟨next, rfl⟩
      | now alike =>
          have same : (left.stack = [] ∧ left.control ≠ .aborted) ↔
              (right.stack = [] ∧ right.control ≠ .aborted) := by
            have frames := alike.stack
            have going := alike.control
            generalize left.stack = stack at frames ⊢
            generalize right.stack = stack' at frames ⊢
            generalize left.control = control at going ⊢
            generalize right.control = control' at going ⊢
            cases frames <;> cases going <;> simp
          by_cases ready : left.stack = [] ∧ left.control ≠ .aborted
          · rw [if_pos ready, if_pos (same.mp ready)] at room ⊢
            rw [if_pos ready] at portable
            exact ⟨alike.perform_meets coherent coherent' (portable operation rfl) ready.1 room,
              rfl⟩
          · rw [if_neg ready, if_neg fun other => ready (same.mpr other)] at room ⊢
            rw [if_neg ready] at portable
            exact ⟨alike.step_meets coherent coherent' portable room, rfl⟩

/-- A session comes to reachable states. -/
theorem reachable_session
    (program : Program)
    (backend : Backend)
    (config : Config)
    (operations : List Operation)
    (time : Nat) :
    Reachable (session program backend config operations time).1 := by
  induction time with
  | zero => exact ⟨backend, config, .refl⟩
  | succ time ih =>
      rw [session, Function.iterate_succ_apply']
      exact ih.move (move_advance program _)

theorem session_succ
    (program : Program)
    (backend : Backend)
    (config : Config)
    (operations : List Operation)
    (time : Nat) :
    session program backend config operations (time + 1) =
      Machine.advance program (session program backend config operations time) :=
  Function.iterate_succ_apply' _ _ _

/-- The states of a session are a run of it. -/
theorem sessionRun_session
    (program : Program)
    (backend : Backend)
    (config : Config)
    (operations : List Operation)
    (last : Nat) :
    SessionRun (fun time => (session program backend config operations time).1) last := by
  refine ⟨⟨backend, config, rfl⟩, fun time _ => ?_⟩
  rw [session_succ]
  exact move_advance program _

/-- A state in which nothing is left to be done stays as it is. -/
theorem iterate_advance_fixed
    {program : Program}
    {state : Machine × List Operation}
    {last time : Nat}
    (idle : ((Machine.advance program)^[last] state).1.stack = [])
    (nothing : ((Machine.advance program)^[last] state).2 = [])
    (later : last ≤ time) :
    (Machine.advance program)^[time] state = (Machine.advance program)^[last] state := by
  induction later with
  | refl => rfl
  | step _ ih =>
      rw [Function.iterate_succ_apply', ih]
      generalize (Machine.advance program)^[last] state = reached at idle nothing
      rcases reached with ⟨machine, waiting⟩
      dsimp only at nothing
      subst nothing
      rw [Machine.advance, step_of_idle program idle]

/-- A session that has nothing left to do stays as it is. -/
theorem session_fixed
    {program : Program}
    {backend : Backend}
    {config : Config}
    {operations : List Operation}
    {last time : Nat}
    (idle : (session program backend config operations last).1.stack = [])
    (nothing : (session program backend config operations last).2 = [])
    (later : last ≤ time) :
    session program backend config operations time =
      session program backend config operations last :=
  iterate_advance_fixed idle nothing later

/-- Sessions on growing storage and on pools meet at every moment. -/
theorem session_meets
    {config : Config}
    {operations : List Operation}
    (portable :
      ∀ time operation,
        starting? (session program .heap config operations time) = some operation →
          operation.Portable program)
    (room :
      ∀ time,
        (session program .heap config operations time).1.world.bus.Fits signalRoom slotRoom ∨
          ¬ (session program (.pool signalRoom slotRoom) config operations time).1.Refused
            signalRoom slotRoom)
    (time : Nat) :
    Meets program signalRoom slotRoom (session program .heap config operations time).1
        (session program (.pool signalRoom slotRoom) config operations time).1 ∧
      (session program .heap config operations time).2 =
        (session program (.pool signalRoom slotRoom) config operations time).2 := by
  induction time with
  | zero =>
      refine ⟨.now ⟨⟨⟨Bus.alike_ofConfig _ _ _ config, rfl⟩, .nil⟩, .nil, .proceed⟩, rfl⟩
  | succ time ih =>
      have coherent := (reachable_session program .heap config operations time).coherent
      have coherent' :=
        (reachable_session program (.pool signalRoom slotRoom) config operations time).coherent
      have started := portable time
      have next := room (time + 1)
      rw [session_succ, session_succ] at next ⊢
      generalize session program .heap config operations time = left at ih coherent started next ⊢
      generalize session program (.pool signalRoom slotRoom) config operations time = right
        at ih coherent' next ⊢
      rcases left with ⟨left, waiting⟩
      rcases right with ⟨right, waiting'⟩
      rcases ih with ⟨meets, same⟩
      dsimp only at same
      subst same
      exact meets.advance coherent coherent' started next

/-- Within the capacity of the pools, growing storage and pools cannot be told apart.

A pool never holds more than it has room for, so being within capacity is about what the session
asks for: at every moment the session on growing storage fits the pools, or the session on pools is
not refused an entry.  Nothing has to be known about the other calls, which may fail, panic or
change what an emission in progress goes through, to any depth. -/
theorem session_concord
    (program : Program)
    (config : Config)
    (operations : List Operation)
    (signalRoom slotRoom : Nat)
    (portable :
      ∀ time operation,
        starting? (session program .heap config operations time) = some operation →
          operation.Portable program)
    (room :
      ∀ time,
        (session program .heap config operations time).1.world.bus.Fits signalRoom slotRoom ∨
          ¬ (session program (.pool signalRoom slotRoom) config operations time).1.Refused
            signalRoom slotRoom)
    (time : Nat) :
    Concord signalRoom slotRoom (session program .heap config operations time)
      (session program (.pool signalRoom slotRoom) config operations time) := by
  rcases session_meets portable room time with ⟨meets, same⟩
  have concord := meets.concord (session program .heap config operations time).2
  exact ⟨same, concord.outcome, concord.events⟩

/-- A callback that disconnects itself and connects another one. -/
def regrouping : Program where
  routines :=
    [{ commands :=
        [{ label := "leave", operation := .disconnect "signal" 0 },
          { label := "follow", operation := .connect "signal" 3 none none .nowhere }] }]

/-- Connections whose places are given back and used again before the callback runs. -/
def regroupingOperations : List Operation :=
  [.init, .register "signal" none none,
    .connect "signal" 1 none none .nowhere,
    .connect "signal" 2 none none .nowhere,
    .disconnect "signal" 1, .disconnect "signal" 2,
    .connect "signal" 0 none (some (.tracked "context" 1)) .nowhere,
    .connect "signal" 1 none none .nowhere,
    .emit ⟨"signal", .void⟩, .listing]

/-- The two storages have come to different chains, and still cannot be told apart. -/
theorem concord_regrouping :
    (∀ time,
      Concord 1 3 (session regrouping .heap {} regroupingOperations time)
        (session regrouping (.pool 1 3) {} regroupingOperations time)) ∧
      (session regrouping .heap {} regroupingOperations 52).1.world.bus.chain 0 = [0, 2] ∧
      (session regrouping (.pool 1 3) {} regroupingOperations 52).1.world.bus.chain 0 = [1, 2] := by
  have bounded :
      ∀ time ≤ 52,
        (∀ operation ∈ starting? (session regrouping .heap {} regroupingOperations time),
          operation.Portable regrouping) ∧
        (session regrouping .heap {} regroupingOperations time).1.world.bus.Fits 1 3 := by
    decide +kernel
  have always (time : Nat) :
      (∀ operation ∈ starting? (session regrouping .heap {} regroupingOperations time),
        operation.Portable regrouping) ∧
      (session regrouping .heap {} regroupingOperations time).1.world.bus.Fits 1 3 := by
    rcases Nat.le_total time 52 with early | late
    · exact bounded time early
    · rw [session_fixed (by decide +kernel) (by decide +kernel) late]
      exact bounded 52 (Nat.le_refl _)
  refine ⟨fun time => ?_, by decide +kernel, by decide +kernel⟩
  exact session_concord regrouping {} regroupingOperations 1 3
    (fun time operation started => (always time).1 operation started)
    (fun time => .inl (always time).2) time

end SignalDispatch.Machine
