import Mathlib.Data.Set.Card
import SignalDispatch.Proofs.Bus.Timekeeping
import SignalDispatch.Proofs.Machine.Separation

/-!
# Exact counts of timed emissions

Whether an emission is timed is decided when it begins, and its time is recorded when it leaves.
In between profiling may be switched, the timing forgotten, the signal unregistered and registered
again, and the whole bus cleaned up.  `SessionRun.exactCount` says that the count of a registration
is right all the same: it is the number of its own emissions that began while profiling was on and
that left, by return or by a panic, since the later of its registration and the last time that all
timing was forgotten.

The emissions in progress are a stack, so an emission is told by two moves: the one that puts it on
top, and the one after which no more are in progress than before.  `SessionRun.exit_began` finds the
first of them from the second, and `SessionRun.encard_exits` counts the second ones.
-/

namespace SignalDispatch.Machine

variable {before after : Machine} {trace : Nat → Machine} {signalRef : SignalRef} {last : Nat}

/-! ## One move -/

/-- An emission of a registration leaves in a move, and it was timed. -/
def TimedExit (before after : Machine) (signalRef : SignalRef) : Prop :=
  ∃ walk, before.walks = walk :: after.walks ∧ walk.signalRef = signalRef ∧
    walk.startedAt.isSome = true

theorem not_timedExit
    (shorter : before.walks.length ≤ after.walks.length) :
    ¬ TimedExit before after signalRef := by
  rintro ⟨walk, walks, _⟩
  rw [walks] at shorter
  exact Nat.not_succ_le_self _ shorter

theorem Executes.recorded_resetTiming
    {timing : Timing}
    (executes : Executes .resetTiming before after)
    (recorded : after.world.bus.Recorded signalRef timing) :
    timing = Timing.zero := by
  rw [executes.bus_of_apply (fun world => world.bus.resetTiming) fun _ _ _ => rfl] at recorded
  exact Bus.recorded_resetTiming recorded

/-- A move adds one to the count of a registration if a timed emission of it leaves, and otherwise
keeps it; what is new has no count. -/
theorem Move.counts
    {timing : Timing}
    (move : Move before after)
    (sane : before.world.bus.Sane)
    (kept : ¬ Executes .resetTiming before after)
    (recorded : after.world.bus.Recorded signalRef timing) :
    (∃ earlier, before.world.bus.Recorded signalRef earlier ∧
        (TimedExit before after signalRef ∧ timing.emissions = earlier.emissions + 1 ∨
          ¬ TimedExit before after signalRef ∧ timing.emissions = earlier.emissions)) ∨
      ¬ before.world.bus.Resolves signalRef ∧ timing = Timing.zero := by
  cases move.paces with
  | steady same shifts executes =>
    have other : ¬ TimedExit before after signalRef :=
      not_timedExit (Nat.le_of_eq (length_walks_eq same).symm)
    rcases shifts.recorded sane (fun asked => kept (executes _ asked)) recorded with there | new
    · exact Or.inl ⟨timing, there, Or.inr ⟨other, rfl⟩⟩
    · exact Or.inr new
  | enters walks present begun replaced =>
    have other : ¬ TimedExit before after signalRef :=
      not_timedExit (by rw [walks]; exact Nat.le_succ _)
    rcases recorded.of_beginEmission sane present begun replaced with there | new
    · exact Or.inl ⟨timing, there, Or.inr ⟨other, rfl⟩⟩
    · exact Or.inr new
  | @leaves walk elapsed walks left taken =>
    have exits :
        TimedExit before after signalRef ↔
          walk.signalRef = signalRef ∧ elapsed.isSome = true := by
      constructor
      · rintro ⟨other, walks', own, timed⟩
        obtain ⟨rfl, _⟩ := List.cons.inj (walks.symm.trans walks')
        exact ⟨own, taken.trans timed⟩
      · rintro ⟨own, timed⟩
        exact ⟨walk, walks, own, taken.symm.trans timed⟩
    rw [left] at recorded
    rcases recorded.of_leaving sane with ⟨earlier, there, rfl⟩ | new
    · refine Or.inl ⟨earlier, there, ?_⟩
      rw [exits]
      split
      next own =>
        rw [Timing.emissions_stamped]
        cases elapsed with
        | none => exact Or.inr ⟨fun timed => Bool.noConfusion timed.2, rfl⟩
        | some time => exact Or.inl ⟨⟨own, rfl⟩, rfl⟩
      next different => exact Or.inr ⟨fun own => different own.1, rfl⟩
    · exact Or.inr new

/-! ## The emissions in progress as a stack -/

/-- An emission of a registration begins with one move and leaves with another. -/
structure EmitsDuring
    (trace : Nat → Machine)
    (signalRef : SignalRef)
    (begun left : Nat) : Prop where
  order : begun < left
  /-- The first move puts it on top of those in progress. -/
  enters :
    ∃ walk, (trace (begun + 1)).walks = walk :: (trace begun).walks ∧ walk.signalRef = signalRef
  /-- It is in progress as long as more emissions are than before it began. -/
  lasts :
    ∀ time, begun < time → time ≤ left →
      (trace begun).walks.length < (trace time).walks.length
  leaves : (trace (left + 1)).walks.length = (trace begun).walks.length

/-- The moves of an emission are told by the one with which it leaves. -/
theorem EmitsDuring.unique
    {other : SignalRef}
    {begun begun' left : Nat}
    (emits : EmitsDuring trace signalRef begun left)
    (emits' : EmitsDuring trace other begun' left) :
    begun = begun' := by
  have level := emits.leaves.symm.trans emits'.leaves
  rcases Nat.lt_trichotomy begun begun' with earlier | same | later
  · exact absurd (emits.lasts begun' earlier (Nat.le_of_lt emits'.order)) (by omega)
  · exact same
  · exact absurd (emits'.lasts begun later (Nat.le_of_lt emits.order)) (by omega)

/-- Whatever is among the emissions in progress was put there by a move, and has been there since,
above those that were in progress then. -/
theorem SessionRun.timer_began
    (session : SessionRun trace last)
    {timer : SignalRef × Bool}
    {rest : List (SignalRef × Bool)} :
    ∀ time ≤ last, timer :: rest <:+ (trace time).timers →
      ∃ begun < time, (trace begun).timers = rest ∧
        (trace (begun + 1)).timers = timer :: rest ∧
          ∀ moment, begun < moment → moment ≤ time → timer :: rest <:+ (trace moment).timers := by
  intro time
  induction time with
  | zero =>
    intro _ there
    rcases session.starts with ⟨backend, config, start⟩
    rw [start] at there
    exact absurd (List.suffix_nil.mp there) (List.cons_ne_nil _ _)
  | succ time hypothesis =>
    intro bound there
    have within := Nat.le_of_succ_le bound
    have going (earlier : timer :: rest <:+ (trace time).timers) :
        ∃ begun < time + 1, (trace begun).timers = rest ∧
          (trace (begun + 1)).timers = timer :: rest ∧
            ∀ moment, begun < moment → moment ≤ time + 1 →
              timer :: rest <:+ (trace moment).timers := by
      rcases hypothesis within earlier with ⟨begun, order, below, top, since⟩
      refine ⟨begun, Nat.lt_succ_of_lt order, below, top, ?_⟩
      intro moment past upTo
      rcases Nat.le_succ_iff.mp upTo with before | rfl
      · exact since moment past before
      · exact there
    cases (session.moves time bound).paces with
    | steady same => exact going (same ▸ there)
    | @enters registry next walk walks =>
      have pushed :
          (trace (time + 1)).timers =
            (walk.signalRef, walk.startedAt.isSome) :: (trace time).timers := by
        rw [timers, walks]
        rfl
      rw [pushed] at there
      rcases List.suffix_cons_iff.mp there with whole | earlier
      · refine ⟨time, Nat.lt_succ_self _, (List.cons.inj whole).2.symm, pushed.trans whole.symm, ?_⟩
        intro moment past upTo
        obtain rfl := Nat.le_antisymm upTo past
        rw [pushed, whole]
      · exact going earlier
    | @leaves walk elapsed walks =>
      refine going (there.trans ?_)
      rw [timers, timers, walks]
      exact List.suffix_cons _ _

/-- A move after which more emissions are in progress begins one, of a registration that is there. -/
theorem Move.begins
    (move : Move before after)
    (sane : before.world.bus.Sane)
    (more : before.walks.length < after.walks.length) :
    ∃ walk, after.walks = walk :: before.walks ∧
      walk.startedAt.isSome = before.world.bus.profiling ∧
      before.world.bus.Resolves walk.signalRef := by
  cases move.paces with
  | steady same =>
    rw [length_walks_eq same] at more
    omega
  | @enters _ _ walk walks present begun _ timed =>
    refine ⟨walk, walks, timed, ?_⟩
    rcases (sane.registry present).formed.beginEmission begun with
      ⟨_, _, ⟨signal, stored, serial, _⟩, _⟩
    refine ⟨signal.content, ?_, serial⟩
    rw [Bus.signalAt_of_some present]
    exact Registry.signalAt_of_get? stored
  | leaves walks =>
    rw [walks, List.length_cons] at more
    omega

/-- A move after which fewer emissions are in progress is one with which an emission leaves. -/
theorem Move.exits
    (move : Move before after)
    (fewer : after.walks.length < before.walks.length) :
    ∃ walk, before.walks = walk :: after.walks := by
  cases move.paces with
  | steady same =>
    rw [length_walks_eq same] at fewer
    omega
  | enters walks =>
    rw [walks, List.length_cons] at fewer
    omega
  | @leaves walk _ walks => exact ⟨walk, walks⟩

/-- An emission that leaves has begun, and is timed exactly if profiling was on then. -/
theorem SessionRun.exit_began
    (session : SessionRun trace last)
    {left : Nat}
    (bound : left ≤ last)
    {walk : Walk}
    (walks : (trace left).walks = walk :: (trace (left + 1)).walks) :
    ∃ begun, EmitsDuring trace walk.signalRef begun left ∧
      walk.startedAt.isSome = (trace begun).world.bus.profiling := by
  have popped :
      (trace left).timers =
        (walk.signalRef, walk.startedAt.isSome) :: (trace (left + 1)).timers := by
    rw [timers, walks]
    rfl
  rcases session.timer_began left bound ⟨[], popped.symm⟩ with
    ⟨begun, order, below, top, since⟩
  have level : (trace (left + 1)).walks.length = (trace begun).walks.length := by
    rw [← length_timers, ← below, length_timers]
  have longer (time : Nat) (past : begun < time) (upTo : time ≤ left) :
      (trace begun).walks.length < (trace time).walks.length := by
    have lengths := (since time past upTo).length_le
    rw [List.length_cons, length_timers, length_timers] at lengths
    omega
  have within := Nat.lt_of_lt_of_le order bound
  rcases (session.moves begun within).begins (session.sane begun (Nat.le_of_lt within))
    (longer _ (Nat.lt_succ_self _) order) with ⟨entered, entering, timed, _⟩
  have same : (entered.signalRef, entered.startedAt.isSome) =
      (walk.signalRef, walk.startedAt.isSome) := by
    rw [timers, entering] at top
    exact (List.cons.inj top).1
  rw [Prod.mk.injEq] at same
  exact ⟨begun, ⟨order, ⟨entered, entering, same.1⟩, longer, level⟩, same.2.symm.trans timed⟩

/-- The moves between two times with which a timed emission of a registration left. -/
def exitsBetween
    (trace : Nat → Machine)
    (signalRef : SignalRef)
    (since time : Nat) :
    Set Nat :=
  {left | since < left ∧ left < time ∧ TimedExit (trace left) (trace (left + 1)) signalRef}

/-- The timed emissions that leave are the emissions that began while profiling was on. -/
theorem SessionRun.encard_emissions
    (session : SessionRun trace last)
    (signalRef : SignalRef)
    (since : Nat) :
    {emission : Nat × Nat | since < emission.2 ∧ emission.2 < last ∧
        EmitsDuring trace signalRef emission.1 emission.2 ∧
          (trace emission.1).world.bus.profiling = true}.encard =
      (exitsBetween trace signalRef since last).encard := by
  rw [← Set.InjOn.encard_image (f := Prod.snd)]
  · congr 1
    ext left
    constructor
    · rintro ⟨⟨begun, _⟩, ⟨past, bound, emits, profiling⟩, rfl⟩
      have fewer := emits.lasts _ emits.order (Nat.le_refl _)
      rw [← emits.leaves] at fewer
      rcases (session.moves _ bound).exits fewer with ⟨walk, walks⟩
      rcases session.exit_began (Nat.le_of_lt bound) walks with ⟨begun', emits', timed⟩
      obtain rfl := emits.unique emits'
      rcases emits.enters with ⟨entered, entering, own⟩
      rcases emits'.enters with ⟨entered', entering', same⟩
      obtain rfl := (List.cons.inj (entering.symm.trans entering')).1
      exact ⟨past, bound, walk, walks, same.symm.trans own, timed.trans profiling⟩
    · rintro ⟨past, bound, walk, walks, rfl, timed⟩
      rcases session.exit_began (Nat.le_of_lt bound) walks with ⟨begun, emits, profiling⟩
      exact ⟨(begun, left), ⟨past, bound, emits, profiling.symm.trans timed⟩, rfl⟩
  · rintro ⟨begun, left⟩ ⟨_, _, emits, _⟩ ⟨begun', left'⟩ ⟨_, _, emits', _⟩ same
    obtain rfl : left = left' := same
    exact congrArg (·, left) (emits.unique emits')

/-! ## The count -/

/-- The timing of a registration has been recorded from the move at a time on: that move made the
registration or forgot all timing, and since then neither was done again. -/
structure TimedFrom
    (trace : Nat → Machine)
    (signalRef : SignalRef)
    (since last : Nat) : Prop where
  order : since < last
  begins :
    ¬ (trace since).world.bus.Resolves signalRef ∨
      Executes .resetTiming (trace since) (trace (since + 1))
  registered :
    ∀ time, since < time → time ≤ last → (trace time).world.bus.Resolves signalRef
  uninterrupted :
    ∀ time, since < time → time < last →
      ¬ Executes .resetTiming (trace time) (trace (time + 1))

theorem exitsBetween_self (since : Nat) :
    exitsBetween trace signalRef since (since + 1) = ∅ := by
  ext left
  constructor
  · rintro ⟨after, before, _⟩
    exact absurd (Nat.le_of_lt_succ before) (Nat.not_le_of_lt after)
  · exact False.elim

theorem exitsBetween_of_exit
    {since time : Nat}
    (past : since < time)
    (exits : TimedExit (trace time) (trace (time + 1)) signalRef) :
    exitsBetween trace signalRef since (time + 1) =
      insert time (exitsBetween trace signalRef since time) := by
  ext left
  constructor
  · rintro ⟨after, before, left⟩
    rcases Nat.lt_succ_iff_lt_or_eq.mp before with earlier | rfl
    · exact Or.inr ⟨after, earlier, left⟩
    · exact Or.inl rfl
  · rintro (rfl | ⟨after, before, left⟩)
    · exact ⟨past, Nat.lt_succ_self _, exits⟩
    · exact ⟨after, Nat.lt_succ_of_lt before, left⟩

theorem exitsBetween_of_not
    {since time : Nat}
    (stays : ¬ TimedExit (trace time) (trace (time + 1)) signalRef) :
    exitsBetween trace signalRef since (time + 1) = exitsBetween trace signalRef since time := by
  ext left
  constructor
  · rintro ⟨after, before, left⟩
    rcases Nat.lt_succ_iff_lt_or_eq.mp before with earlier | rfl
    · exact ⟨after, earlier, left⟩
    · exact absurd left stays
  · rintro ⟨after, before, left⟩
    exact ⟨after, Nat.lt_succ_of_lt before, left⟩

/-- The count is zero at first and follows the timed emissions that leave. -/
theorem SessionRun.encard_exits
    (session : SessionRun trace last)
    {since : Nat}
    (timed : TimedFrom trace signalRef since last)
    (time : Nat)
    (past : since < time) :
    time ≤ last → ∀ timing, (trace time).world.bus.Recorded signalRef timing →
      (exitsBetween trace signalRef since time).encard = timing.emissions := by
  induction time, past using Nat.le_induction with
  | base =>
    intro bound timing recorded
    have zero : timing = Timing.zero := by
      by_cases executes : Executes .resetTiming (trace since) (trace (since + 1))
      · exact executes.recorded_resetTiming recorded
      · have unresolved := timed.begins.resolve_right executes
        rcases (session.moves since timed.order).counts
          (session.sane since (Nat.le_of_lt timed.order)) executes recorded with
          ⟨_, there, _⟩ | ⟨_, zero⟩
        · exact absurd there.resolves unresolved
        · exact zero
    rw [Nat.succ_eq_add_one, exitsBetween_self, Set.encard_empty, zero]
    rfl
  | succ time past hypothesis =>
    intro bound timing recorded
    have within := Nat.le_of_succ_le bound
    rcases (session.moves time bound).counts (session.sane time within)
      (timed.uninterrupted time past bound) recorded with
      ⟨earlier, there, ⟨exits, more⟩ | ⟨stays, same⟩⟩ | ⟨unresolved, _⟩
    · have fresh : time ∉ exitsBetween trace signalRef since time :=
        fun again => Nat.lt_irrefl _ again.2.1
      rw [exitsBetween_of_exit past exits, Set.encard_insert_of_notMem fresh,
        hypothesis within earlier there, more]
      rfl
    · rw [exitsBetween_of_not stays, hypothesis within earlier there, same]
    · exact absurd (timed.registered time past within) unresolved

/-- A registration that is there has been timed since some move. -/
theorem SessionRun.timedFrom
    (session : SessionRun trace last) :
    ∀ time ≤ last, (trace time).world.bus.Resolves signalRef →
      ∃ since, TimedFrom trace signalRef since time := by
  intro time
  induction time with
  | zero =>
    intro _ resolves
    rcases session.starts with ⟨backend, config, start⟩
    rw [start] at resolves
    exact absurd resolves (Bus.not_resolves_of_none rfl signalRef)
  | succ time hypothesis =>
    intro bound resolves
    have beginning
        (begins :
          ¬ (trace time).world.bus.Resolves signalRef ∨
            Executes .resetTiming (trace time) (trace (time + 1))) :
        TimedFrom trace signalRef time (time + 1) := by
      refine ⟨Nat.lt_succ_self _, begins, ?_, ?_⟩
      · intro moment past upTo
        rwa [Nat.le_antisymm upTo past]
      · intro moment past before
        exact absurd (Nat.le_of_lt_succ before) (Nat.not_le_of_lt past)
    by_cases earlier : (trace time).world.bus.Resolves signalRef
    · by_cases executes : Executes .resetTiming (trace time) (trace (time + 1))
      · exact ⟨time, beginning (Or.inr executes)⟩
      · rcases hypothesis (Nat.le_of_succ_le bound) earlier with ⟨since, timed⟩
        refine ⟨since, Nat.lt_succ_of_lt timed.order, timed.begins, ?_, ?_⟩
        · intro moment past upTo
          rcases Nat.le_succ_iff.mp upTo with before | rfl
          · exact timed.registered moment past before
          · exact resolves
        · intro moment past before
          rcases Nat.lt_succ_iff_lt_or_eq.mp before with sooner | rfl
          · exact timed.uninterrupted moment past sooner
          · exact executes
    · exact ⟨time, beginning (Or.inl earlier)⟩

theorem SessionRun.nextSerial_le
    (session : SessionRun trace last)
    {time later : Nat}
    (start : time ≤ later) :
    later ≤ last →
      (trace time).world.bus.nextSerial ≤ (trace later).world.bus.nextSerial := by
  induction later, start using Nat.le_induction with
  | base => exact fun _ => Nat.le_refl _
  | succ later start hypothesis =>
    intro bound
    have within := Nat.le_of_succ_le bound
    rcases ((session.moves later bound).coherent
      (session.run.coherent (Nat.zero_le later) within)).2 with ⟨_, retains⟩
    exact Nat.le_trans (hypothesis within) retains.counts.nextSerial

/-- A registration that is there has been there since its serial was drawn. -/
theorem SessionRun.resolves_earlier
    (session : SessionRun trace last)
    {time later : Nat}
    (known : signalRef.serial < (trace time).world.bus.nextSerial)
    (start : time ≤ later) :
    later ≤ last → (trace later).world.bus.Resolves signalRef →
      (trace time).world.bus.Resolves signalRef := by
  induction later, start using Nat.le_induction with
  | base => exact fun _ resolves => resolves
  | succ later start hypothesis =>
    intro bound resolves
    have within := Nat.le_of_succ_le bound
    rcases ((session.moves later bound).coherent
      (session.run.coherent (Nat.zero_le later) within)).2 with ⟨_, retains⟩
    have drawn := Nat.lt_of_lt_of_le known (session.nextSerial_le start within)
    rcases retains.resolves_before drawn resolves with ⟨earlier, _, there, serial, _⟩
    exact hypothesis within ⟨earlier, there, serial⟩

/-- A registration that was emitted and is still there has been there since the emission began. -/
theorem SessionRun.resolves_since
    (session : SessionRun trace last)
    {begun left : Nat}
    (emits : EmitsDuring trace signalRef begun left)
    (bound : left < last)
    (resolves : (trace last).world.bus.Resolves signalRef)
    (time : Nat)
    (past : begun ≤ time)
    (upTo : time ≤ last) :
    (trace time).world.bus.Resolves signalRef := by
  have within : begun < last := Nat.lt_trans emits.order bound
  rcases emits.enters with ⟨walk, walks, rfl⟩
  rcases Nat.eq_or_lt_of_le past with rfl | later
  · rcases (session.moves begun within).begins (session.sane begun (Nat.le_of_lt within))
      (emits.lasts _ (Nat.lt_succ_self _) emits.order) with ⟨entered, walks', _, there⟩
    obtain rfl := (List.cons.inj (walks.symm.trans walks')).1
    exact there
  · have known := (session.run.coherent (Nat.zero_le _) within).known walk
      (walks ▸ List.mem_cons_self)
    have drawn := Nat.lt_of_lt_of_le known (session.nextSerial_le later upTo)
    exact session.resolves_earlier drawn upTo (Nat.le_refl _) resolves

/-- The count that a bus tells of a registration is that of its own timed emissions. -/
structure ExactCount
    (trace : Nat → Machine)
    (last : Nat)
    (signalRef : SignalRef)
    (timing : Timing) : Prop where
  /-- The timing was recorded from some move on. -/
  timed : ∃ since, TimedFrom trace signalRef since last
  /-- Since then as many emissions left as are counted, of those that began, at any time, while
  profiling was on. -/
  emissions :
    ∀ since, TimedFrom trace signalRef since last →
      {emission : Nat × Nat | since < emission.2 ∧ emission.2 < last ∧
        EmitsDuring trace signalRef emission.1 emission.2 ∧
          (trace emission.1).world.bus.profiling = true}.encard = timing.emissions
  /-- The registration has been there ever since an emission that is counted began. -/
  own :
    ∀ begun left, EmitsDuring trace signalRef begun left → left < last →
      ∀ time, begun ≤ time → time ≤ last → (trace time).world.bus.Resolves signalRef

/-- At every time of a session the bus tells an exact count of every signal that is registered. -/
theorem SessionRun.exactCount
    (session : SessionRun trace last)
    {name : String}
    (registered : (trace last).world.bus.contains name = true) :
    ∃ signalRef timing,
      (∃ signal, (trace last).world.bus.signalAt signalRef.index = some signal ∧
          signal.serial = signalRef.serial ∧ signal.name = name) ∧
        ((trace last).world.bus.timing name).result = .ok (.timing timing) ∧
          ExactCount trace last signalRef timing := by
  have now := Nat.le_refl last
  rw [Bus.contains] at registered
  cases present : (trace last).world.bus.registry with
  | none =>
    rw [present] at registered
    cases registered
  | some registry =>
    rw [present] at registered
    rcases Option.isSome_iff_exists.mp registered with ⟨index, found⟩
    rcases Registry.registered_of_find? found with ⟨signal, stored, named⟩
    have there : (trace last).world.bus.signalAt index = some signal.content := by
      rw [Bus.signalAt_of_some present]
      exact Registry.signalAt_of_get? stored
    have recorded : (trace last).world.bus.Recorded ⟨index, signal.serial⟩ signal.timing :=
      ⟨signal.content, there, rfl, rfl⟩
    refine ⟨⟨index, signal.serial⟩, signal.timing, ⟨signal.content, there, rfl, named⟩, ?_, ?_⟩
    · rw [Bus.timing, Bus.withRegistry_of_some present, Registry.timing, Registry.lookup, found]
      dsimp only
      rw [stored]
      rfl
    constructor
    case timed => exact session.timedFrom last now recorded.resolves
    case emissions =>
      intro since timed
      rw [session.encard_emissions]
      exact session.encard_exits timed last timed.order now _ recorded
    case own =>
      intro begun left emits bound
      exact session.resolves_since emits bound recorded.resolves

/-- A timed emission whose callback emits again without profiling, forgets all timing, emits again
with profiling and panics. -/
def switching : Nat → Machine :=
  states
    { routines :=
        [{ commands :=
            [{ label := "off", operation := .setProfiling false, turn := some 1 },
              { label := "untimed", operation := .emit ⟨"signal", .void⟩, turn := some 1 },
              { label := "forget", operation := .resetTiming, turn := some 1 },
              { label := "on", operation := .setProfiling true, turn := some 1 },
              { label := "timed", operation := .emit ⟨"signal", .void⟩, turn := some 1 },
              { label := "panic", operation := .panic "stop", turn := some 1 }] }] }
    .heap
    [.init, .setProfiling true, .register "signal" none none,
      .connect "signal" 0 none none .nowhere, .emit ⟨"signal", .void⟩]

/-- Two emissions count: the inner one that was timed, and the outer one, which began before the
timing was forgotten and is left by the panic. -/
theorem exactCount_switching :
    (switching 50).world.bus.contains "signal" = true ∧ (switching 50).control = .unwind "stop" ∧
      ∃ signalRef, ExactCount switching 50 signalRef
        { emissions := 2, total := 4, mean := 2, least := 1, greatest := 3 } := by
  have session : SessionRun switching 50 := sessionRun_states _ _ _ _
  have registered : (switching 50).world.bus.contains "signal" = true := by decide +kernel
  have result : ((switching 50).world.bus.timing "signal").result = .ok (.timing
      { emissions := 2, total := 4, mean := 2, least := 1, greatest := 3 }) := by
    decide +kernel
  rcases session.exactCount registered with ⟨signalRef, timing, _, told, stated⟩
  rw [result, Except.ok.injEq, Answer.timing.injEq] at told
  subst told
  exact ⟨registered, by decide +kernel, signalRef, stated⟩

end SignalDispatch.Machine
