import SignalDispatch.Proofs.Machine.Backends
import SignalDispatch.Proofs.Machine.Reports
import SignalDispatch.Proofs.Machine.Spans

/-!
# One call of the hook for each failure

What a call does itself it does in the frame right above the frames below it.  So its own reports
are the moments at which that frame reports a fault, and reports of calls that are made meanwhile,
by a callback, by a farewell or by the hook, are made in frames further up.

A call that comes back with a fault has reported it once (`Call.reportedOnce`), and a call that
comes back with anything else has reported nothing (`Call.unreported`).  A flush, a drain and the
emission of a batch leave the report to the emissions that they begin.
-/

namespace SignalDispatch

/-- A frame that is not about to report a fault. -/
def Frame.Silent (frame : Frame) : Prop :=
  ∀ fault, frame ≠ .reject fault

theorem Frame.Continues.silent
    {frame last : Frame}
    (continues : frame.Continues last)
    (silent : frame.Silent) :
    last.Silent := by
  intro fault
  cases continues with
  | reject | reported => exact absurd rfl (silent _)
  | routine | walk | swept | done | release | conclude | flush | drain | batch | catching =>
      exact Frame.noConfusion

/-- A frame that begins one emission after another. -/
inductive Frame.Relays : Frame → Prop where
  | flush {remaining delivered : Nat} : Relays (.flush remaining delivered)
  | drain {position delivered : Nat} : Relays (.drain position delivered)
  | batch {entries : List Emission} {first : Option Fault} : Relays (.batch entries first)

theorem Frame.Relays.silent {frame : Frame} (relays : frame.Relays) : frame.Silent := by
  rintro fault rfl
  cases relays

theorem Frame.Succeeds.silent {frame : Frame} (succeeds : frame.Succeeds) : frame.Silent := by
  rintro fault rfl
  cases succeeds

namespace Machine

/-- Nothing is reported right above `below` from `first` until before `last`. -/
def Unreported (below : List Frame) (trace : Nat → Machine) (first last : Nat) : Prop :=
  ∀ time, first ≤ time → time < last → ∀ fault, ¬ (trace time).Reports below fault

/-- One fault is reported right above `below` from `first` until before `last`, and once: the hook
that is installed at that moment is told its kind and its message. -/
def ReportedOnce
    (below : List Frame)
    (trace : Nat → Machine)
    (first last : Nat)
    (fault : Fault) :
    Prop :=
  ∃ moment,
    first ≤ moment ∧ moment < last ∧ (trace moment).Reports below fault ∧
      Informs fault below (trace moment) (trace (moment + 1)) ∧
      ∀ time, first ≤ time → time < last → ∀ cause,
        (trace time).Reports below cause → time = moment

section

variable {below : List Frame} {trace : Nat → Machine} {first last : Nat} {frame : Frame}
  {fault : Fault}

theorem Reports.bears {machine : Machine} (reports : machine.Reports below fault) :
    machine.Bears below (.reject fault) :=
  .of_stack reports.stack

theorem unreported_self : Unreported below trace first first :=
  fun _ late early => absurd early (Nat.not_lt_of_le late)

theorem Unreported.succ
    (unreported : Unreported below trace first last)
    (quiet : ∀ cause, ¬ (trace last).Reports below cause) :
    Unreported below trace first (last + 1) := by
  intro time early late
  rcases Nat.lt_succ_iff_lt_or_eq.mp late with before | rfl
  · exact unreported time early before
  · exact quiet

theorem ReportedOnce.succ
    (once : ReportedOnce below trace first last fault)
    (quiet : ∀ cause, ¬ (trace last).Reports below cause) :
    ReportedOnce below trace first (last + 1) fault := by
  rcases once with ⟨moment, early, late, reports, informs, only⟩
  refine ⟨moment, early, Nat.lt_succ_of_lt late, reports, informs, ?_⟩
  intro time after before cause again
  rcases Nat.lt_succ_iff_lt_or_eq.mp before with within | rfl
  · exact only time after within cause again
  · exact absurd again (quiet cause)

theorem Unreported.reported
    (unreported : Unreported below trace first last)
    (ordered : first ≤ last)
    (reports : (trace last).Reports below fault)
    (move : Move (trace last) (trace (last + 1))) :
    ReportedOnce below trace first (last + 1) fault := by
  refine ⟨last, ordered, Nat.lt_succ_self last, reports, reports.informs move, ?_⟩
  intro time early late cause again
  rcases Nat.lt_succ_iff_lt_or_eq.mp late with before | rfl
  · exact absurd again (unreported time early before cause)
  · rfl

/-! ## Stretches -/

/-- As long as a frame that is not about to report stands there, nothing is reported. -/
theorem Span.unreported
    (span : Span below trace first last)
    (start : (trace first).Bears below frame)
    (silent : frame.Silent) :
    Unreported below trace first last := by
  intro time early late fault reports
  rcases span.bears start early late with ⟨later, bears, reached⟩
  have quiet := Frame.keeps_of_continues Frame.Continues.silent reached silent
  exact quiet fault (bears.eq reports.bears)

/-- A report that has not the turn waits, or a panic takes it off. -/
theorem Move.reject_waits
    {before after : Machine}
    (move : Move before after)
    (stack : before.stack = .reject fault :: below)
    (waits : before.control ≠ .proceed) :
    after.stack = .reject fault :: below ∨
      after.stack = below ∧ ∃ message, after.control = .unwind message := by
  cases move with
  | perform program operation idle => simp [idle] at stack
  | step program =>
      cases control : before.control with
      | proceed => exact absurd control waits
      | answer answer =>
          rw [step_of_answer program stack control]
          exact Or.inl rfl
      | unwind message =>
          rw [step_of_unwind program stack control]
          exact Or.inr ⟨rfl, message, rfl⟩
      | aborted =>
          rw [step_of_aborted program control]
          exact Or.inl stack

/-- What there is to know about the report of a fault above `below`. -/
inductive Reporting
    (below : List Frame)
    (trace : Nat → Machine)
    (first : Nat)
    (fault : Fault)
    (time : Nat) :
    Prop where
  /-- The fault is still to be reported. -/
  | due :
      (trace time).Bears below (.reject fault) →
      Unreported below trace first time →
      Reporting below trace first fault time
  /-- It has been reported, and user code may still be running. -/
  | ended {frame : Frame} :
      (trace time).Bears below frame →
      frame.Silent →
      ReportedOnce below trace first time fault →
      Reporting below trace first fault time
  | back :
      (trace time).stack = below →
      ReportedOnce below trace first time fault →
      Reporting below trace first fault time
  /-- A panic came in between. -/
  | panicked {message : String} :
      (trace time).stack = below →
      (trace time).control = .unwind message →
      Unreported below trace first time →
      Reporting below trace first fault time

/-- One move of a run in which a fault is to be reported. -/
theorem Reporting.move
    {time : Nat}
    (reporting : Reporting below trace first fault time)
    (ordered : first ≤ time)
    (move : Move (trace time) (trace (time + 1)))
    (busy : (trace time).stack ≠ below) :
    Reporting below trace first fault (time + 1) := by
  cases reporting with
  | back stack => exact absurd stack busy
  | panicked stack => exact absurd stack busy
  | ended bears silent once =>
      have quiet (cause : Fault) : ¬ (trace time).Reports below cause :=
        fun reports => silent cause (bears.eq reports.bears)
      cases move.minds bears with
      | covered _ same => exact .ended same silent (once.succ quiet)
      | turn _ turns =>
          cases turns with
          | continues reached continues =>
              exact .ended ⟨_, reached⟩ (continues.silent silent) (once.succ quiet)
          | returns reached => exact .back reached (once.succ quiet)
  | due bears unreported =>
      by_cases now : (trace time).control = .proceed ∧ (trace time).stack = .reject fault :: below
      · -- it is the turn of the report
        have once := unreported.reported ordered ⟨now.2, now.1⟩ move
        cases Reports.informs ⟨now.2, now.1⟩ move with
        | unheard _ _ reached => exact .back reached once
        | heard _ _ reached =>
            exact .ended ⟨[_], reached⟩ (fun _ => Frame.noConfusion) once
      · have quiet (cause : Fault) : ¬ (trace time).Reports below cause := by
          intro reports
          have same := bears.eq reports.bears
          exact now ⟨reports.control, same ▸ reports.stack⟩
        cases move.minds bears with
        | covered _ same => exact .due same (unreported.succ quiet)
        | turn stack _ =>
            have passing : (trace time).control ≠ .proceed := fun control => now ⟨control, stack⟩
            rcases move.reject_waits stack passing with same | ⟨reached, message, unwinds⟩
            · exact .due (.of_stack same) (unreported.succ quiet)
            · exact .panicked reached unwinds (unreported.succ quiet)

/-- A fault that is to be reported has been reported once when it comes back. -/
theorem Span.reportedOnce_of_reject
    (span : Span below trace first last)
    (start : (trace first).Bears below (.reject fault))
    (back : (trace last).stack = below)
    {answer : Answer}
    (answered : (trace last).control = .answer answer) :
    ReportedOnce below trace first last fault := by
  have reporting : Reporting below trace first fault last := by
    refine span.invariant (Reporting below trace first fault) (.due start unreported_self) ?_ last
      span.ordered (Nat.le_refl last)
    exact fun time early _ move busy reporting => reporting.move early move busy
  cases reporting with
  | due bears => exact absurd back bears.ne_below
  | ended bears => exact absurd back bears.ne_below
  | back _ once => exact once
  | panicked _ unwinds =>
      rw [answered] at unwinds
      cases unwinds

/-! ## How calls start -/

/-- What starting a call comes to. -/
inductive Outset (below : List Frame) (after : Machine) : Prop where
  | returns :
      after.stack = below →
      (∀ fault, after.control ≠ .answer (.fault fault)) →
      Outset below after
  | goes {frame : Frame} : after.Bears below frame → frame.Succeeds → Outset below after
  | rejects {fault : Fault} : after.Bears below (.reject fault) → Outset below after

theorem outset_apply
    {machine : Machine}
    {effect : Effect}
    (plain : ∀ answer, effect.result = .ok answer → answer.fault? = none) :
    Outset machine.stack (machine.apply effect) := by
  cases result : effect.result with
  | ok answer =>
      rcases succeeding_apply rfl result (plain answer result) with ⟨above, frame, stack, succeeds⟩
      exact .goes ⟨above, stack⟩ succeeds
  | error fault => exact .rejects ⟨[_], stack_apply_of_error result⟩

theorem outset_beginEmission (machine : Machine) (emission : Emission) :
    Outset machine.stack (machine.beginEmission emission) := by
  rw [beginEmission]
  dsimp only
  split
  · exact .rejects (.of_stack rfl)
  · split
    · exact .rejects (.of_stack rfl)
    · exact .goes (.of_stack rfl) trivial

/-- A connection that is made comes back with its handle, or with a complaint about its place. -/
theorem outset_connect
    (machine : Machine)
    (name : String)
    (callback : RoutineId)
    (priority : Option Priority)
    (request : Option ContextRequest)
    (keep : KeepRequest) :
    Outset machine.stack (machine.connect name callback priority request keep) := by
  let bus := machine.world.bus
  let context := issuedContext request machine.world.tickets
  cases result : (bus.connect name callback context priority).result with
  | error fault =>
      rcases connect_of_rejected keep rfl result with ⟨tickets, _, same⟩
      rw [same]
      exact .rejects ⟨[_], stack_apply_of_error result⟩
  | ok answer =>
      have connected : ∃ handle, answer = .connected handle := by
        rw [Bus.connect] at result
        dsimp only at result
        split at result
        · cases result
        · split at result
          · cases result
          · split at result
            · cases result
            · cases result
              exact ⟨_, rfl⟩
      rcases connected with ⟨handle, rfl⟩
      rcases connect_of_accepted keep result with ⟨above, frame, stack, succeeds⟩
      exact .goes ⟨above, stack⟩ succeeds

/-- Starting an operation other than the emission of a batch and an interrupt. -/
theorem execute_outset
    (program : Program)
    (machine : Machine)
    (payload : Payload)
    {operation : Operation}
    (ordinary : ∀ batch, operation ≠ .batchEmit batch)
    (deferred : ∀ name value, operation ≠ .interrupt name value) :
    Outset machine.stack (machine.execute program payload operation) := by
  let bus := machine.world.bus
  have applied {effect : Effect} (contains : bus.Contains effect) :
      Outset machine.stack (machine.apply effect) :=
    outset_apply contains.succeeds
  have emits (emission : Emission) := outset_beginEmission machine emission
  cases operation with
  | init => exact applied bus.contains_init
  | cleanup =>
      refine outset_apply fun answer result => ?_
      have done := bus.cleanup_contained.1
      rw [result] at done
      cases done
      rfl
  | register => exact applied (bus.contains_register _ _ _)
  | unregister => exact applied (bus.contains_unregister _)
  | connect => exact outset_connect _ _ _ _ _ _
  | disconnect => exact applied (bus.contains_disconnect _ _)
  | disconnectHandle => exact applied (bus.contains_disconnectHandle _)
  | disconnectAll => exact applied (bus.contains_disconnectAll _)
  | emit | forward | emitIn => exact emits _
  | emitDown request =>
      simp only [execute]
      split
      · cases request with
        | name => exact emits _
        | unreadable => exact .returns rfl fun _ => by simp [answering]
      · exact .returns rfl fun _ => by simp [answering]
  | forwardDeferred | defer => exact applied (bus.contains_defer _)
  | flush =>
      simp only [execute]
      split
      · exact .goes (.of_stack rfl) trivial
      · exact .rejects (.of_stack rfl)
  | interrupt name value => exact absurd rfl (deferred name value)
  | setSpace => exact applied (bus.contains_setSpace _)
  | setMaxSlots => exact applied (bus.contains_setMaxSlots _)
  | setThreadSafe => exact applied (bus.contains_setThreadSafe _)
  | setProfiling => exact applied (bus.contains_setProfiling _)
  | timing => exact applied (bus.contains_timing _)
  | resetTiming => exact applied bus.contains_resetTiming
  | resetPeak => exact applied bus.contains_resetPeak
  | memoryStats => exact applied bus.contains_memoryStats
  | setHook => exact applied (bus.contains_setHook _)
  | drain => exact .goes (.of_stack rfl) trivial
  | catching => exact .goes ⟨[_], rfl⟩ trivial
  | batchEmit batch => exact absurd rfl (ordinary batch)
  | panic => exact .returns rfl fun _ => Control.noConfusion
  | isInitialized | contains | count | listing | deferredLength | space | pendingInterrupts
  | maxSlots | isThreadSafe | isProfiling | display | batchAdd | batchInfo | batchClear
  | unreadable =>
      exact .returns rfl fun _ => by simp [execute, answering]

/-- A call that comes back with a fault has reported it once. -/
theorem Span.reportedOnce
    (span : Span below trace first last)
    (outset : Outset below (trace first))
    (back : (trace last).stack = below)
    (failed : (trace last).control = .answer (.fault fault)) :
    ReportedOnce below trace first last fault := by
  cases outset with
  | returns stack plain =>
      rcases Nat.lt_or_eq_of_le span.ordered with later | rfl
      · exact absurd stack (span.lasts first (Nat.le_refl _) later)
      · exact absurd failed (plain fault)
  | goes bears succeeds =>
      rcases span.returned bears back with ⟨frame, reached, returns⟩
      have plain := Frame.keeps_of_continues Frame.Continues.succeeds reached succeeds
      exact absurd failed (returns.unfaulted plain fault)
  | @rejects cause bears =>
      rcases span.returned bears back with ⟨frame, reached, returns⟩
      have fails := Frame.keeps_of_continues Frame.Continues.fails reached
        (show Frame.Fails cause (.reject cause) from rfl)
      rcases returns.of_fails fails with same | ⟨message, same⟩
      · rw [failed] at same
        cases same
        exact span.reportedOnce_of_reject bears back failed
      · rw [failed] at same
        cases same

/-- A call that comes back with another answer has reported nothing. -/
theorem Span.unreported_of_success
    (span : Span below trace first last)
    (outset : Outset below (trace first))
    (back : (trace last).stack = below)
    {answer : Answer}
    (answered : (trace last).control = .answer answer)
    (plain : answer.fault? = none) :
    Unreported below trace first last := by
  cases outset with
  | returns stack _ =>
      rcases Nat.lt_or_eq_of_le span.ordered with later | rfl
      · exact absurd stack (span.lasts first (Nat.le_refl _) later)
      · exact unreported_self
  | goes bears succeeds => exact span.unreported bears succeeds.silent
  | rejects bears =>
      rcases span.returned bears back with ⟨frame, reached, returns⟩
      have fails := Frame.keeps_of_continues Frame.Continues.fails reached rfl
      rcases returns.of_fails fails with same | ⟨message, same⟩
      · rw [answered] at same
        cases same
        cases plain
      · rw [answered] at same
        cases same

end

/-! ## Flushes, drains and batches -/

/-- A relay whose turn it is begins an emission, or it comes back. -/
theorem Move.relays
    {before after : Machine}
    {frame : Frame}
    {below : List Frame}
    (move : Move before after)
    (relays : frame.Relays)
    (stack : before.stack = frame :: below)
    (control : before.control = .proceed) :
    after.stack = below ∨
      ∃ (next : Frame) (under : Machine) (emission : Emission),
        next.Relays ∧ under.stack = next :: below ∧ after = under.beginEmission emission := by
  cases move with
  | perform program operation idle => simp [idle] at stack
  | step program =>
      rw [step_of_proceed program stack control]
      cases relays with
      | flush =>
          rw [proceed, proceedFlush.eq_def]
          dsimp only
          split
          · exact Or.inl (stack_log _ _)
          · exact Or.inr ⟨_, _, _, .flush, rfl, rfl⟩
      | drain =>
          rw [proceed, proceedDrain]
          dsimp only
          split
          · exact Or.inl (stack_log _ _)
          · exact Or.inr ⟨_, _, _, .drain, rfl, rfl⟩
      | @batch entries first =>
          cases entries with
          | nil => cases first <;> exact Or.inl rfl
          | cons emission rest => exact Or.inr ⟨_, _, emission, .batch, rfl, rfl⟩

/-- The frame that an operation of a flush, a drain or a batch puts in front. -/
theorem Executes.relays
    {operation : Operation}
    {before after : Machine}
    (executes : Executes operation before after)
    (wraps :
      operation = .flush ∧ before.world.bus.isInitialized ∨ operation = .drain ∨
        ∃ batch, operation = .batchEmit batch) :
    ∃ frame, frame.Relays ∧ after.Bears before.stack frame := by
  rcases executes.eq_execute with ⟨program, payload, machine, world, stack, same⟩
  rw [same, ← stack]
  rcases wraps with ⟨rfl, initialized⟩ | rfl | ⟨batch, rfl⟩
  · rw [execute, if_pos (world ▸ initialized)]
    exact ⟨_, .flush, .of_stack rfl⟩
  · exact ⟨_, .drain, .of_stack rfl⟩
  · exact ⟨_, .batch, .of_stack rfl⟩

/-! ## Every run -/

/-- Each failure is reported once. -/
structure OneReport : Prop where
  /-- A call that comes back with a fault has reported it once. -/
  failed :
    ∀ trace operation start finish fault,
      Call operation trace start finish →
      (∀ batch, operation ≠ .batchEmit batch) →
      (∀ name value, operation ≠ .interrupt name value) →
      (trace finish).stack = (trace start).stack →
      (trace finish).control = .answer (.fault fault) →
        ReportedOnce (trace start).stack trace (start + 1) finish fault
  /-- A call that succeeds has reported nothing. -/
  succeeded :
    ∀ trace operation start finish answer,
      Call operation trace start finish →
      (trace finish).stack = (trace start).stack →
      (trace finish).control = .answer answer →
      answer.fault? = none →
        Unreported (trace start).stack trace (start + 1) finish
  /-- A flush, a drain or the emission of a batch begins its emissions one at a time. -/
  relayed :
    ∀ before after frame below,
      Move before after →
      frame.Relays →
      before.stack = frame :: below →
      before.control = .proceed →
        after.stack = below ∨
          ∃ (next : Frame) (under : Machine) (emission : Emission),
            next.Relays ∧ under.stack = next :: below ∧ after = under.beginEmission emission
  /-- An emission that it begins and that fails is reported once. -/
  entryFailed :
    ∀ base trace emission begun finish fault,
      Emits base trace emission begun finish →
      (trace finish).stack = base →
      (trace finish).control = .answer (.fault fault) →
        ReportedOnce base trace (begun + 1) finish fault
  /-- An emission that it begins and that succeeds is not reported. -/
  entrySucceeded :
    ∀ base trace emission begun finish answer,
      Emits base trace emission begun finish →
      (trace finish).stack = base →
      (trace finish).control = .answer answer →
      answer.fault? = none →
        Unreported base trace (begun + 1) finish
  /-- It does not report a second time, whatever it comes back with, nor while it lasts. -/
  wrapped :
    ∀ trace operation start finish,
      Call operation trace start finish →
      (operation = .flush ∧ (trace start).world.bus.isInitialized ∨ operation = .drain ∨
        ∃ batch, operation = .batchEmit batch) →
        Unreported (trace start).stack trace (start + 1) finish
  /-- A flush succeeds even if emissions that it begins have failed. -/
  flushed :
    ∀ trace start finish answer,
      Call .flush trace start finish →
      (trace start).world.bus.isInitialized →
      (trace finish).stack = (trace start).stack →
      (trace finish).control = .answer answer →
        ∃ number, answer = .number number
  /-- An interrupt is over in one move, and that move does not call the hook. -/
  interrupts :
    ∀ name value before after,
      Executes (.interrupt name value) before after →
        after.stack = before.stack ∧ (∃ answer, after.control = .answer answer) ∧
          after.world.bus.hook = before.world.bus.hook ∧ before.announcement? = none
  /-- The hook is called in no other way. -/
  only :
    ∀ (program : Program) (machine : Machine),
      (machine.step program).hookings = machine.announcement?.toList ++ machine.hookings
  announced :
    ∀ (machine : Machine) (said : FaultKind × String),
      machine.announcement? = some said ↔
        ∃ fault below hook,
          machine.Reports below fault ∧ machine.world.bus.hook = some hook ∧
            said = (fault.kind, fault.message)

section

variable {trace : Nat → Machine} {operation : Operation} {start finish : Nat}

theorem Call.outset
    (call : Call operation trace start finish)
    (ordinary : ∀ batch, operation ≠ .batchEmit batch)
    (deferred : ∀ name value, operation ≠ .interrupt name value) :
    Outset (trace start).stack (trace (start + 1)) := by
  rcases call.made.eq_execute with ⟨program, payload, machine, _, stack, same⟩
  rw [same, ← stack]
  exact execute_outset program machine payload ordinary deferred

theorem Emits.outset
    {base : List Frame}
    {emission : Emission}
    (emits : Emits base trace emission start finish) :
    Outset base (trace (start + 1)) := by
  rcases emits.begins with ⟨under, rfl, same⟩
  rw [same]
  exact outset_beginEmission under emission

theorem Call.unreported_of_relays
    (call : Call operation trace start finish)
    (wraps :
      operation = .flush ∧ (trace start).world.bus.isInitialized ∨ operation = .drain ∨
        ∃ batch, operation = .batchEmit batch) :
    Unreported (trace start).stack trace (start + 1) finish := by
  rcases call.made.relays wraps with ⟨frame, relays, bears⟩
  exact call.span.unreported bears relays.silent

/-- A flush of an initialized bus answers how many emissions succeeded. -/
theorem Call.flush_answer
    {answer : Answer}
    (call : Call .flush trace start finish)
    (initialized : (trace start).world.bus.isInitialized)
    (back : (trace finish).stack = (trace start).stack)
    (answered : (trace finish).control = .answer answer) :
    ∃ number, answer = .number number := by
  have stays {frame last : Frame}
      (continues : frame.Continues last)
      (flushes : ∃ remaining delivered, frame = .flush remaining delivered) :
      ∃ remaining delivered, last = .flush remaining delivered := by
    rcases flushes with ⟨remaining, delivered, rfl⟩
    cases continues with
    | flush => exact ⟨_, _, rfl⟩
  rcases call.made.eq_execute with ⟨program, payload, machine, world, stack, same⟩
  rw [execute, if_pos (world ▸ initialized), world] at same
  have begins :
      (trace (start + 1)).Bears (trace start).stack
        (.flush (trace start).world.bus.deferred.length 0) := by
    rw [same, ← stack]
    exact .of_stack rfl
  rcases call.span.returned begins back with ⟨frame, reached, returns⟩
  rcases Frame.keeps_of_continues stays reached ⟨_, _, rfl⟩ with ⟨remaining, delivered, rfl⟩
  rw [answered] at returns
  cases returns with
  | flush => exact ⟨_, rfl⟩

/-- An interrupt is accepted or refused in the move in which it is asked for. -/
theorem Executes.interrupt
    {name : String}
    {value : Int32}
    {before after : Machine}
    (executes : Executes (.interrupt name value) before after) :
    after.stack = before.stack ∧ (∃ answer, after.control = .answer answer) ∧
      after.world.bus.hook = before.world.bus.hook ∧ before.announcement? = none := by
  have quiet : before.announcement? = none := by
    rw [announcement?.eq_def]
    split
    next fault below stack control =>
      cases executes with
      | command program issued => simp [issued?, stack, control, Frame.issued?] at issued
      | session program idle => simp [idle] at stack
    next => rfl
  rcases executes.eq_execute with ⟨program, payload, machine, world, stack, same⟩
  rw [same, ← stack, ← world, execute]
  split
  · exact ⟨rfl, ⟨_, rfl⟩, rfl, quiet⟩
  · exact ⟨rfl, ⟨_, rfl⟩, rfl, quiet⟩

theorem announcement?_eq_some_iff (machine : Machine) (said : FaultKind × String) :
    machine.announcement? = some said ↔
      ∃ fault below hook,
        machine.Reports below fault ∧ machine.world.bus.hook = some hook ∧
          said = (fault.kind, fault.message) := by
  rw [announcement?.eq_def]
  constructor
  · intro announces
    split at announces
    next fault below stack control =>
      rcases Option.map_eq_some_iff.mp announces with ⟨hook, installed, rfl⟩
      exact ⟨fault, below, hook, ⟨stack, control⟩, installed, rfl⟩
    next => cases announces
  · rintro ⟨fault, below, hook, ⟨stack, control⟩, installed, rfl⟩
    rw [stack, control, installed]
    rfl

end

/-- One call of the hook for each failure. -/
theorem oneReport : OneReport := by
  constructor
  case only => exact step_hookings
  case announced => exact announcement?_eq_some_iff
  case relayed => exact fun before after frame below move relays => move.relays relays
  case wrapped => exact fun trace operation start finish call => call.unreported_of_relays
  case interrupts => exact fun name value before after executes => executes.interrupt
  case failed =>
    intro trace operation start finish fault call ordinary deferred back failed
    exact call.span.reportedOnce (call.outset ordinary deferred) back failed
  case entryFailed =>
    intro base trace emission begun finish fault emits back failed
    exact emits.span.reportedOnce emits.outset back failed
  case entrySucceeded =>
    intro base trace emission begun finish answer emits back answered plain
    exact emits.span.unreported_of_success emits.outset back answered plain
  case succeeded =>
    intro trace operation start finish answer call back answered plain
    by_cases batched : ∃ batch, operation = .batchEmit batch
    · exact call.unreported_of_relays (Or.inr (Or.inr batched))
    by_cases interrupted : ∃ name value, operation = .interrupt name value
    · rcases interrupted with ⟨name, value, rfl⟩
      rcases Nat.lt_or_eq_of_le call.begins with later | rfl
      · exact absurd call.made.interrupt.1 (call.span.lasts (start + 1) (Nat.le_refl _) later)
      · exact unreported_self
    have outset := call.outset (fun batch same => batched ⟨batch, same⟩)
      (fun name value same => interrupted ⟨name, value, same⟩)
    exact call.span.unreported_of_success outset back answered plain
  case flushed =>
    intro trace start finish answer call initialized back answered
    exact call.flush_answer initialized back answered

/-- A session that performs an operation calls it. -/
theorem call_session
    {program : Program}
    {backend : Backend}
    {config : Config}
    {operations rest : List Operation}
    {operation : Operation}
    {start finish : Nat}
    (begins : start < finish)
    (idle : (session program backend config operations start).1.stack = [])
    (going : (session program backend config operations start).1.control ≠ .aborted)
    (next : (session program backend config operations start).2 = operation :: rest)
    (lasts :
      ∀ time < finish, start < time →
        (session program backend config operations time).1.stack ≠ []) :
    Call operation (fun time => (session program backend config operations time).1) start
      finish := by
  refine ⟨begins, ?_, begins, ?_, ?_⟩
  · rw [session_succ]
    generalize session program backend config operations start = state at idle going next
    rcases state with ⟨machine, waiting⟩
    dsimp only at idle going next
    subst next
    rw [Machine.advance, if_pos ⟨idle, going⟩]
    exact .session program idle going
  · intro time _ _
    rw [session_succ]
    exact move_advance program _
  · intro time after before
    rw [idle]
    exact lasts time before after

/-- A hook that emits in its first turn, which fails as well, and then takes itself away. -/
def relapsing : Program where
  routines :=
    [{ commands :=
        [{ label := "emit", operation := .emit ⟨"signal", .void⟩ },
          { label := "unhook", operation := .setHook none }] }]

/-- The emission is made before the bus is initialized. -/
def relapsingOperations : List Operation :=
  [.setHook (some 0), .emit ⟨"signal", .void⟩]

/-- The hook is told of both failures, and the call at top level has reported only its own. -/
theorem reportedOnce_relapsing :
    ReportedOnce [] (fun time => (session relapsing .heap {} relapsingOperations time).1) 4 16
        Fault.notInitialized ∧
      (session relapsing .heap {} relapsingOperations 16).1.hookings =
        [(.invalidArgument, Fault.notInitialized.message),
          (.invalidArgument, Fault.notInitialized.message)] := by
  refine ⟨?_, by decide +kernel⟩
  have call : Call (.emit ⟨"signal", .void⟩)
      (fun time => (session relapsing .heap {} relapsingOperations time).1) 3 16 :=
    call_session (by decide) (by decide +kernel) (by decide +kernel) rfl (by decide +kernel)
  exact oneReport.failed _ _ _ _ _ call (fun _ => Operation.noConfusion)
    (fun _ _ => Operation.noConfusion) (by decide +kernel) (by decide +kernel)

end Machine

end SignalDispatch
