import SignalDispatch.Proofs.Machine.Locking
import SignalDispatch.Proofs.Machine.Parallel

/-!
# The guard and the profiling do not show

Two sessions that start with other settings of the guard and of the profiling differ only in what
they answer when they are asked about these settings and about times.  `SameUnmeasured` is what all
their moments have in common, and `Machine.transparent` says so of sessions under the guard, none of
which ever has to wait.
-/

namespace SignalDispatch

/-- Whether an event is the call of a callback or of a hook, or the release of a context. -/
def Event.isNotice : Event → Bool
  | called _ _ _ _ => true
  | hooked _ _ => true
  | released _ => true
  | acted _ _ => false
  | logged _ => false

/-! ## What is left of a view without times -/

section Untimed

variable {asked : Option Operation}

theorem Fault.Resembles.eq_untimed
    {fault other : Fault}
    (same : fault.Resembles .untimed asked other) :
    fault = other := by
  cases same with
  | same => rfl
  | noSuchSlot handle => rw [Handle.seen_untimed]

/-- Answers are the same, unless they are about what is not seen. -/
theorem Answer.Resembles.eq_untimed
    {answer other : Answer}
    (same : answer.Resembles .untimed asked other) :
    answer = other ∨ asked.any Operation.measures = true := by
  cases same with
  | same => exact Or.inl rfl
  | connected handle => exact Or.inl (by rw [Handle.seen_untimed])
  | fault causes => exact Or.inl (by rw [causes.eq_untimed])
  | measured _ _ _ measures => exact Or.inr measures

theorem Event.Resembles.notice_untimed
    {event other : Event}
    (same : event.Resembles .untimed other) :
    event.isNotice = other.isNotice ∧ (event.isNotice = true → event = other) := by
  cases same with
  | called handle => exact ⟨rfl, fun _ => by rw [Handle.seen_untimed]⟩
  | acted => exact ⟨rfl, fun notice => absurd notice Bool.false_ne_true⟩
  | hooked _ causes => exact ⟨rfl, fun _ => by rw [causes.eq_untimed]⟩
  | released => exact ⟨rfl, fun _ => rfl⟩

theorem filter_notices_untimed
    {events others : List Event}
    (same : List.Forall₂ (Event.Resembles .untimed) events others) :
    events.filter Event.isNotice = others.filter Event.isNotice := by
  induction same with
  | nil => rfl
  | cons first _ ih =>
      rcases first.notice_untimed with ⟨kind, equal⟩
      rw [List.filter_cons, List.filter_cons, ← kind, ih]
      split
      next notice => rw [equal notice]
      next => rfl

end Untimed

/-- The operation that a stack waits for is the same. -/
theorem FramesResemble.awaited_eq
    {view : View}
    {asked : Option Operation}
    {frames others : List Frame}
    (same : FramesResemble view asked frames others) :
    awaited asked frames = awaited asked others := by
  cases same with
  | nil => rfl
  | cons first _ => cases first <;> rfl

namespace Machine

/-- The calls of callbacks and hooks and the releases of contexts, the latest in front. -/
def notices (machine : Machine) : List Event :=
  machine.events.filter Event.isNotice

theorem notices_told (machine : Machine) :
    machine.told.filter Event.isNotice = machine.notices := by
  rw [told, notices, List.filter_filter]
  congr
  funext event
  cases event <;> rfl

/-- Two states of sessions are at the same place, and go on with the same unless both have just been
asked about the guard, the profiling or times. -/
structure SameUnmeasured
    (operations : List Operation)
    (left right : Machine × List Operation) : Prop where
  pending : left.2 = right.2
  depth : left.1.stack.length = right.1.stack.length
  finished : left.1.finished = right.1.finished
  awaiting :
    awaited (asked operations left.2) left.1.stack =
      awaited (asked operations right.2) right.1.stack
  /-- What comes next is the same; if it is the answer to a question about what is not seen, then
  both are about to answer it. -/
  control :
    left.1.control = right.1.control ∨
      (awaited (asked operations left.2) left.1.stack).any Operation.measures = true ∧
        ∃ answer other, left.1.control = .answer answer ∧ right.1.control = .answer other
  notices : left.1.notices = right.1.notices
  memory : left.1.world.bus.memory? = right.1.world.bus.memory?

variable {asked : Option Operation} {left right : Machine}

theorem control_untimed
    {control other : Control}
    (same : control.Resembles .untimed asked other) :
    control = other ∨
      asked.any Operation.measures = true ∧
        ∃ answer answer', control = .answer answer ∧ other = .answer answer' := by
  cases same with
  | proceed => exact Or.inl rfl
  | answer answers =>
      rcases answers.eq_untimed with equal | measures
      · exact Or.inl (congrArg Control.answer equal)
      · exact Or.inr ⟨measures, _, _, rfl, rfl⟩
  | unwind => exact Or.inl rfl
  | aborted => exact Or.inl rfl

theorem Resembles.finished_eq
    {view : View}
    (same : Resembles view asked left right) :
    left.finished = right.finished := by
  have frames := same.stack
  have going := same.control
  rw [finished, finished]
  generalize left.stack = stack at frames going ⊢
  generalize right.stack = stack' at frames ⊢
  generalize left.control = control at going ⊢
  generalize right.control = control' at going ⊢
  cases frames <;> cases going <;> rfl

/-- New buses with other settings look the same without times. -/
theorem resembles_initial
    (backend : Backend)
    (config : Config)
    (threadSafe profiling threadSafe' profiling' : Bool) :
    Resembles .untimed none
      (initial backend { config with threadSafe := threadSafe, profiling := profiling })
      (initial backend { config with threadSafe := threadSafe', profiling := profiling' }) := by
  have queues := (InterruptQueue.settled_ofCapacity Limits.interruptDepth).resembles_self
  have worlds : World.Resembles .untimed
      (initial backend { config with threadSafe := threadSafe, profiling := profiling }).world
      (initial backend { config with threadSafe := threadSafe', profiling := profiling' }).world :=
    { bus :=
        { backend := rfl
          registry := rfl
          guarded := by rintro ⟨⟩
          nextHandle := rfl
          issued := Nat.one_pos
          nextSerial := rfl
          maxSlots := rfl
          profiling := by rintro ⟨⟩
          hook := rfl
          space := rfl
          deferred := rfl
          interrupts := queues }
      calls := rfl
      tickets := rfl
      kept := by rintro _ _ ⟨⟩
      same := fun _ => rfl
      batches := rfl
      readings := by rintro ⟨⟩ }
  exact ⟨⟨worlds, .nil, .nil⟩, .proceed⟩

/-- Sessions that look the same without times differ only in what is measured. -/
theorem sameUnmeasured_of_resembles
    {operations : List Operation}
    {left right : Machine × List Operation}
    (pending : left.2 = right.2)
    (same : Resembles .untimed (Machine.asked operations left.2) left.1 right.1) :
    SameUnmeasured operations left right where
  pending := pending
  depth := same.stack.length_eq
  finished := same.finished_eq
  awaiting := by
    rw [← pending]
    exact same.stack.awaited_eq
  control := control_untimed same.control
  notices := by
    rw [← notices_told, ← notices_told]
    exact filter_notices_untimed same.events
  memory := same.world.bus.memory?_eq

/-- The guard and the profiling do not show on one thread.

Two sessions of the same operations start with other settings of the guard and of the profiling, and
change these settings wherever their user code does.  Under the guard no call of either has to wait,
at whatever depth, and at every moment both are where they would be without locks: at the same
place, with the same calls of callbacks and hooks, the same releases and the same memory in use, and
with the same answers except about the guard, the profiling and times. -/
theorem transparent
    (program : Program)
    (thread : ThreadId)
    (backend : Backend)
    (config : Config)
    (threadSafe profiling threadSafe' profiling' : Bool)
    (operations : List Operation)
    (time : Nat) :
    let first : Config := { config with threadSafe := threadSafe, profiling := profiling }
    let second : Config := { config with threadSafe := threadSafe', profiling := profiling' }
    ∃ locks locks',
      guardedSession program thread backend first operations time =
          some (session program backend first operations time, locks) ∧
        guardedSession program thread backend second operations time =
          some (session program backend second operations time, locks') ∧
        SameUnmeasured operations (session program backend first operations time)
          (session program backend second operations time) := by
  intro first second
  rcases guardedSession_eq program thread backend first operations time with ⟨locks, reached, _⟩
  rcases guardedSession_eq program thread backend second operations time with
    ⟨locks', reached', _⟩
  refine ⟨locks, locks', reached, reached', ?_⟩
  have start := resembles_initial backend config threadSafe profiling threadSafe' profiling'
  have known (later : Nat) (operation : Operation) :
      ((advance program)^[later] (initial backend second, operations)).1.world.Knows .untimed
        operation := by
    rintro ⟨⟩
  rcases start.iterate (fun later operation _ => known later operation) time with
    ⟨pending, _, same⟩
  exact sameUnmeasured_of_resembles pending same

end Machine

end SignalDispatch
