import SignalDispatch.Proofs.Machine.Expiry
import SignalDispatch.Proofs.Machine.Joining

/-!
# Exactly what one emission calls

`Machine.Delivery` puts together what is known of one emission, whatever its callbacks do: in which
order it calls slots, which of the slots that were there at the start it calls, which of those that
are connected in the meantime, that it calls no others, and what may end it early.  It is proved of
every emission in every run.
-/

namespace SignalDispatch.Machine

/-- Of the times before a given one at which something holds there is a last one, if there are
any. -/
theorem last_or_never (holds : Nat → Prop) (finish : Nat) :
    (∀ time < finish, ¬ holds time) ∨
      ∃ time < finish, holds time ∧ ∀ later, time < later → later < finish → ¬ holds later := by
  induction finish with
  | zero => exact Or.inl fun time early => absurd early (Nat.not_lt_zero time)
  | succ finish ih =>
      by_cases now : holds finish
      · refine Or.inr ⟨finish, Nat.lt_succ_self _, now, ?_⟩
        intro later after before
        omega
      · have still {later : Nat} (bound : later < finish + 1)
            (earlier : later < finish → ¬ holds later) : ¬ holds later := by
          rcases Nat.lt_succ_iff_lt_or_eq.mp bound with before | rfl
          · exact earlier before
          · exact now
        rcases ih with never | ⟨time, before, held, quiet⟩
        · exact Or.inl fun time bound => still bound (never time)
        · exact Or.inr ⟨time, Nat.lt_succ_of_lt before, held,
            fun later after bound => still bound (quiet later after)⟩

/-- What holds at a time and did not hold at the start began to hold in some move. -/
theorem exists_onset
    {holds : Nat → Prop}
    {finish : Nat}
    (before : ¬ holds 0)
    (after : holds finish) :
    ∃ time < finish, ¬ holds time ∧ holds (time + 1) := by
  have late : 0 < finish := by
    refine Nat.pos_of_ne_zero ?_
    rintro rfl
    exact before after
  rcases last_or_never (fun time => ¬ holds time) finish with always | ⟨time, early, absent, since⟩
  · exact absurd before (always 0 late)
  · refine ⟨time, early, absent, ?_⟩
    rcases Nat.lt_or_eq_of_le (Nat.succ_le_of_lt early) with inside | rfl
    · exact Classical.not_not.mp (since (time + 1) (Nat.lt_succ_self _) inside)
    · exact after

/-- The callback that the emission above `below` called last panicked. -/
def Panicked (below : List Frame) (trace : Nat → Machine) (last : Nat) : Prop :=
  ∃ time message handle, time < last ∧ (trace time).Delivers below handle ∧
    (∀ moment, time < moment → moment ≤ last → ∀ slot, ¬ (trace moment).Reads below slot) ∧
    (trace last).control = .unwind message

/-- The registration was unregistered by its name, or the bus was cleaned up. -/
def Expired (trace : Nat → Machine) (signalRef : SignalRef) (last : Nat) : Prop :=
  ∃ time < last,
    (trace time).world.bus.Resolves signalRef ∧
      ¬ (trace (time + 1)).world.bus.Resolves signalRef ∧
      (Executes .cleanup (trace time) (trace (time + 1)) ∨
        ∃ signal, (trace time).world.bus.signalAt signalRef.index = some signal ∧
          signal.serial = signalRef.serial ∧
          Executes (.unregister signal.name) (trace time) (trace (time + 1)))

/-- What the emission above `below` calls from its start to a time at which it still lasts. -/
structure Delivery
    (below : List Frame)
    (trace : Nat → Machine)
    (walk : Nat → Walk)
    (last : Nat) : Prop where
  /-- What is called is called by the emission itself or by one that is nested in it. -/
  calls :
    ∀ {time : Nat} {after : Machine} {handle : Handle},
      time ≤ last → Move (trace time) after →
        (Calls (trace time) after handle ↔
          (trace time).Delivers below handle ∨
            ∃ above, (trace time).Delivers (above ++ .walk (walk time) :: below) handle)
  /-- Slots are read by descending priority, those of one priority by ascending handle. -/
  ordered :
    ∀ {time later : Nat} {slot next : Slot},
      time < later → later ≤ last → (trace time).Reads below slot →
      (trace later).Reads below next → slot.handle ≠ next.handle ∧ slot.Before next
  /-- A slot that is live at the start is called once, unless it is removed before it is read or
  the emission ends early. -/
  present :
    ∀ {slot : Slot}, (trace 0).LiveIn (walk 0).signalRef slot →
      ((∃! time, time ≤ last ∧ (trace time).Delivers below slot.handle) ↔
        ¬ RemovedUnread below trace (walk 0).signalRef slot.handle 0 last ∧
          ¬ CutOff below trace walk slot.handle 0 last)
  /-- A slot that is connected later is called once if it is put behind the captured successor,
  under the same conditions, and not at all otherwise. -/
  joined :
    ∀ {read moment : Nat} {previous slot : Slot},
      moment < last → Joins below trace (walk 0).signalRef read moment previous slot →
        ((∃! time, time ≤ last ∧ (trace time).Delivers below slot.handle) ↔
          (trace (moment + 1)).BehindCaptured (walk 0).signalRef previous slot ∧
            ¬ RemovedUnread below trace (walk 0).signalRef slot.handle (moment + 1) last ∧
            ¬ CutOff below trace walk slot.handle (moment + 1) last)
  /-- A slot that is called once is not called again. -/
  once :
    ∀ {time later : Nat} {handle : Handle},
      time ≤ last → later ≤ last → (trace time).Delivers below handle →
      (trace later).Delivers below handle → time = later
  /-- No other slot is called. -/
  only :
    ∀ {time : Nat} {handle : Handle},
      time ≤ last → (trace time).Delivers below handle →
        (trace 0).HasLive (walk 0).signalRef handle ∨
          ∃ read moment previous slot,
            moment < time ∧ slot.handle = handle ∧
              Joins below trace (walk 0).signalRef read moment previous slot ∧
              (trace (moment + 1)).BehindCaptured (walk 0).signalRef previous slot
  /-- The emission ends when it has come to the end of its chain, unless a callback panicked or its
  registration is over. -/
  early :
    ∀ {after : Machine}, Move (trace last) after → (∀ later, ¬ after.Hosts below later) →
      Complete trace walk last ∨ Panicked below trace last ∨
        Expired trace (walk 0).signalRef last

/-! ## Calls -/

/-- What a move calls during an emission is called by it or by one nested in it. -/
theorem Hosts.calls_iff
    {before after : Machine}
    {below : List Frame}
    {walk : Walk}
    {handle : Handle}
    (hosts : before.Hosts below walk)
    (move : Move before after) :
    Calls before after handle ↔
      before.Delivers below handle ∨
        ∃ above, before.Delivers (above ++ .walk walk :: below) handle := by
  have called {under : List Frame} (delivers : before.Delivers under handle) :
      Calls before after handle := by
    rcases delivers with ⟨slot, reads, live, rfl⟩
    exact move.turn.calls_of_reads reads live
  constructor
  · intro calls
    rcases move.turn.calls calls with ⟨under, slot, reads, live, same⟩
    rcases hosts with ⟨above, stack⟩
    have reading := reads
    rcases reading with ⟨reader, _, _, start, _⟩
    rw [stack] at start
    cases above with
    | nil =>
        rw [List.nil_append, List.cons.injEq] at start
        rw [← start.2] at reads
        exact Or.inl ⟨slot, reads, live, same⟩
    | cons frame above =>
        rw [List.cons_append, List.cons.injEq] at start
        rw [← start.2] at reads
        exact Or.inr ⟨above, slot, reads, live, same⟩
  · rintro (own | ⟨above, nested⟩)
    · exact called own
    · exact called nested

/-! ## Early ends -/

/-- An emission ends when a panic reaches it, or when it goes on and reads nothing. -/
theorem Hosts.ends_of_move
    {before after : Machine}
    {below : List Frame}
    {walk : Walk}
    (hosts : before.Hosts below walk)
    (move : Move before after)
    (ended : ∀ later, ¬ after.Hosts below later) :
    (∃ message, before.control = .unwind message) ∨
      before.control = .proceed ∧ before.reading? walk = none := by
  rcases hosts with ⟨above, stack⟩
  have goesOn {reached : List Frame} {later : Walk}
      (same : after.stack = reached ++ .walk later :: below) :
      (∃ message, before.control = .unwind message) ∨
        before.control = .proceed ∧ before.reading? walk = none :=
    absurd ⟨reached, same⟩ (ended later)
  cases move.turn with
  | idle start => simp [start] at stack
  | starts start => simp [start] at stack
  | @acts frame reached under other start same _ =>
      cases above with
      | nil =>
          rw [start, List.nil_append, List.cons.injEq] at stack
          rw [stack.1] at other
          cases other
      | cons first above =>
          rw [start, List.cons_append, List.cons.injEq] at stack
          rw [stack.2, ← List.append_assoc] at same
          exact goesOn same
  | @goes innermost under start goes =>
      cases above with
      | cons first above =>
          rw [start, List.cons_append, List.cons.injEq] at stack
          rcases goes.stack with ⟨reached, same⟩
          rw [stack.2, ← List.append_assoc] at same
          exact goesOn same
      | nil =>
          rw [start, List.nil_append, List.cons.injEq, Frame.walk.injEq] at stack
          rcases stack with ⟨rfl, rfl⟩
          cases goes with
          | stay _ _ reached => exact goesOn reached
          | pass _ _ _ _ reached => exact goesOn (show after.stack = [] ++ _ from reached)
          | invoke _ _ _ _ _ reached => exact goesOn reached
          | leave _ _ why =>
              rcases why with finished | unwinds
              · exact Or.inr finished
              · exact Or.inl unwinds

/-- A walk that reads nothing is at the end of its chain, or its registration is over. -/
theorem cursor_of_reading?_eq_none
    {machine : Machine}
    {walk : Walk}
    (coherent : Coherent machine.world.bus machine.walks)
    (member : walk ∈ machine.walks)
    (nothing : machine.reading? walk = none) :
    walk.cursor = none ∨ ¬ machine.world.bus.Resolves walk.signalRef := by
  cases cursor : walk.cursor with
  | none => exact Or.inl rfl
  | some position =>
      refine Or.inr fun resolves => ?_
      rcases slot_of_cursor coherent member resolves cursor with
        ⟨registry, slot, present, resolved, stored⟩
      have reads := (reading?_eq_some_iff _ _ _).mpr
        ⟨position, registry, slot, cursor, present, resolved, stored, rfl⟩
      rw [nothing] at reads
      cases reads

/-- An emission whose turn it is to read. -/
def Ready (machine : Machine) (below : List Frame) : Prop :=
  ∃ walk, machine.stack = .walk walk :: below ∧ machine.control = .proceed ∧ walk.running = none

/-- An emission is about to read when it reads. -/
theorem Reads.ready {machine : Machine} {below : List Frame} {slot : Slot}
    (reads : machine.Reads below slot) :
    machine.Ready below := by
  rcases reads with ⟨walk, _, _, stack, proceeds, ready, _⟩
  exact ⟨walk, stack, proceeds, ready⟩

/-- An emission that is about to read and calls nothing is about to read again, if it lasts. -/
theorem Turn.ready
    {before after : Machine}
    {below : List Frame}
    {later : Walk}
    (turn : Turn before after)
    (ready : before.Ready below)
    (lasts : after.Hosts below later)
    (silent : ∀ handle, ¬ before.Delivers below handle) :
    after.Ready below := by
  rcases ready with ⟨walk, stack, proceeds, quiet⟩
  cases turn with
  | idle start => rw [stack] at start; cases start
  | starts start => rw [stack] at start; cases start
  | acts other start =>
      rw [stack, List.cons.injEq] at start
      rw [← start.1] at other
      cases other
  | goes start goes =>
      rw [stack, List.cons.injEq, Frame.walk.injEq] at start
      rcases start with ⟨rfl, rfl⟩
      cases goes with
      | stay _ rests =>
          rcases rests with waits | runs
          · exact absurd proceeds waits
          · exact absurd quiet runs
      | pass _ _ _ _ reached onwards => exact ⟨_, reached, onwards, rfl⟩
      | leave above _ _ reached walkless => exact absurd walkless (lasts.not_walkless reached)
      | @invoke _ reading slot _ _ reads aims =>
          rcases (reading?_eq_some_iff _ _ _).mp reads with
            ⟨position, registry, stored, cursor, present, resolved, there, rfl⟩
          dsimp only at aims
          split at aims
          · cases aims
          next live =>
            refine absurd ⟨stored, ?_, Bool.eq_false_iff.mpr live, rfl⟩ (silent stored.handle)
            exact ⟨walk, position, registry, stack, proceeds, quiet, cursor, present, resolved,
              there⟩

namespace Episode

variable
  {below : List Frame}
  {trace : Nat → Machine}
  {walk : Nat → Walk}
  {first last : Nat}

/-- As long as an emission calls nothing it is about to read. -/
theorem ready
    (episode : Episode below trace walk first last)
    (start : (trace first).Ready below)
    (silent :
      ∀ time, first ≤ time → time < last → ∀ handle, ¬ (trace time).Delivers below handle) :
    ∀ time, first ≤ time → time ≤ last → (trace time).Ready below := by
  intro time fromFirst
  induction time, fromFirst using Nat.le_induction with
  | base => exact fun _ => start
  | succ time fromFirst ih =>
      intro bound
      exact (episode.run.moves time fromFirst bound).turn.ready (ih (Nat.le_of_succ_le bound))
        (episode.hosts (time + 1) (Nat.le_succ_of_le fromFirst) bound)
        (silent time fromFirst bound)

/-- An emission that was about to read and is unwound had called a callback, and reads no more. -/
theorem panicked
    (episode : Episode below trace walk 0 last)
    (start : (trace 0).Ready below)
    {message : String}
    (unwinds : (trace last).control = .unwind message) :
    Panicked below trace last := by
  have unready : ¬ (trace last).Ready below := by
    rintro ⟨_, _, proceeds, _⟩
    rw [unwinds] at proceeds
    cases proceeds
  rcases last_or_never (fun time => ∃ handle, (trace time).Delivers below handle) last with
    never | ⟨time, before, ⟨handle, delivers⟩, quiet⟩
  · refine absurd (episode.ready start ?_ last (Nat.zero_le _) (Nat.le_refl _)) unready
    exact fun time _ bound handle delivers => never time bound ⟨handle, delivers⟩
  · refine ⟨time, message, handle, before, delivers, ?_, unwinds⟩
    intro moment after bound slot reads
    have part := episode.part (Nat.zero_le moment) bound (Nat.le_refl _)
    refine absurd (part.ready reads.ready ?_ last bound (Nat.le_refl _)) unready
    intro later low high other again
    exact quiet later (Nat.lt_of_lt_of_le after low) high ⟨other, again⟩

end Episode

namespace EmissionRun

variable {below : List Frame} {trace : Nat → Machine} {walk : Nat → Walk} {last : Nat}

theorem ready (emission : EmissionRun below trace walk last) : (trace 0).Ready below := by
  rcases emission.start_spec with ⟨stack, proceeds, ready, _⟩
  exact ⟨walk 0, stack, proceeds, ready⟩

/-- An emission that reads at all reads at its start. -/
theorem reads_first
    (emission : EmissionRun below trace walk last)
    {time : Nat}
    {slot : Slot}
    (bound : time ≤ last)
    (reads : (trace time).Reads below slot) :
    ∃ head, (trace 0).Reads below head := by
  induction time using Nat.strongRecOn generalizing slot with
  | ind time ih =>
      rcases last_or_never (fun moment => ∃ other, (trace moment).Reads below other) time with
        never | ⟨moment, before, ⟨other, earlier⟩, _⟩
      · have part := emission.episode.part (Nat.le_refl 0) (Nat.zero_le time) bound
        have still := part.cursor_eq
          (fun moment _ high other reads' => never moment high ⟨other, reads'⟩)
          time (Nat.zero_le time) (Nat.le_refl time)
        rcases emission.episode.reads_spec (Nat.zero_le time) bound reads with
          ⟨position, cursor, _⟩
        exact emission.reads_at_start (still.symm.trans cursor)
      · exact ih moment before (Nat.le_of_lt (Nat.lt_of_lt_of_le before bound)) earlier

/-- A slot that is called and was not there at the start has joined before. -/
theorem joins_of_delivers
    (emission : EmissionRun below trace walk last)
    {time : Nat}
    {handle : Handle}
    (bound : time ≤ last)
    (delivers : (trace time).Delivers below handle)
    (absent : ¬ (trace 0).HasLive (walk 0).signalRef handle) :
    ∃ read moment previous slot,
      moment < time ∧ slot.handle = handle ∧
        Joins below trace (walk 0).signalRef read moment previous slot := by
  have live := emission.episode.hasLive_of_delivers (Nat.zero_le time) bound delivers
  have onset : ∃ moment < time,
      ¬ (trace moment).HasLive (walk 0).signalRef handle ∧
        (trace (moment + 1)).HasLive (walk 0).signalRef handle :=
    exists_onset absent live
  rcases onset with ⟨moment, before, gone, slot, present, rfl⟩
  have read := delivers
  rcases read with ⟨found, reads, _⟩
  rcases emission.reads_first bound reads with ⟨head, atStart⟩
  rcases last_or_never (fun earlier => ∃ other, (trace earlier).Reads below other) (moment + 1) with
    never | ⟨read, early, ⟨previous, reads'⟩, silent⟩
  · exact absurd ⟨head, atStart⟩ (never 0 (Nat.succ_pos moment))
  · refine ⟨read, moment, previous, slot, before, rfl, reads', Nat.le_of_lt_succ early, ?_, gone,
      present⟩
    intro later after within other again
    exact silent later after (Nat.lt_succ_of_le within) ⟨other, again⟩

/-- What ends an emission. -/
theorem ends
    (emission : EmissionRun below trace walk last)
    {after : Machine}
    (move : Move (trace last) after)
    (ended : ∀ later, ¬ after.Hosts below later) :
    Complete trace walk last ∨ Panicked below trace last ∨
      Expired trace (walk 0).signalRef last := by
  have episode := emission.episode
  have hosts := episode.hosts last (Nat.zero_le _) (Nat.le_refl _)
  have coherent := episode.run.coherent (Nat.zero_le _) (Nat.le_refl last)
  have signalRef := episode.signalRef_eq last (Nat.zero_le _) (Nat.le_refl _)
  rcases hosts.ends_of_move move ended with ⟨message, unwinds⟩ | ⟨proceeds, nothing⟩
  · exact Or.inr (Or.inl (episode.panicked emission.ready unwinds))
  · rcases cursor_of_reading?_eq_none coherent hosts.mem_walks nothing with cursor | gone
    · exact Or.inl ⟨proceeds, cursor⟩
    · rw [signalRef] at gone
      rcases emission.start_spec with ⟨_, _, _, resolves, _⟩
      have onset : ∃ time < last,
          ¬ ¬ (trace time).world.bus.Resolves (walk 0).signalRef ∧
            ¬ (trace (time + 1)).world.bus.Resolves (walk 0).signalRef :=
        exists_onset (not_not_intro resolves) gone
      rcases onset with ⟨time, before, still, lost⟩
      have there := Classical.not_not.mp still
      have sane := (episode.run.coherent (Nat.zero_le time) (Nat.le_of_lt before)).sane
      exact Or.inr (Or.inr ⟨time, before, there, lost,
        (episode.run.moves time (Nat.zero_le time) before).ends sane there lost⟩)

end EmissionRun

/-- Every emission delivers exactly, whatever user code does meanwhile. -/
theorem emission_delivers
    {below : List Frame}
    {trace : Nat → Machine}
    {walk : Nat → Walk}
    {last : Nat}
    (emission : EmissionRun below trace walk last) :
    Delivery below trace walk last := by
  have episode := emission.episode
  have once (handle : Handle) :
      (∃! time, time ≤ last ∧ (trace time).Delivers below handle) ↔
        ∃ time, 0 ≤ time ∧ time ≤ last ∧ (trace time).Delivers below handle := by
    have unique := episode.existsUnique_iff handle
    simp only [Nat.zero_le, true_and] at unique ⊢
    exact unique
  constructor
  · intro time after handle bound move
    exact (episode.hosts time (Nat.zero_le time) bound).calls_iff move
  · intro time later slot next ordered bound reads reads'
    have part := episode.part (Nat.zero_le time) (Nat.le_of_lt ordered) bound
    exact part.reads_before ordered (Nat.le_refl _) reads reads'
  · intro slot live
    rcases liveIn_iff live with ⟨_, position, member, found, _⟩
    have delivered := episode.delivers_iff (Nat.zero_le last) member found
      (emission.ahead_at_start member found)
    rw [once]
    exact delivered
  · intro read moment previous slot bound joins
    rw [once]
    exact joins.delivers_iff episode (Nat.zero_le read) bound
  · intro time later handle bound bound' delivers delivers'
    rcases delivers with ⟨slot, reads, _, same⟩
    rcases delivers' with ⟨slot', reads', _, same'⟩
    exact episode.reads_unique (Nat.zero_le _) bound (Nat.zero_le _) bound' reads reads'
      (same.trans same'.symm)
  · intro time handle bound delivers
    by_cases present : (trace 0).HasLive (walk 0).signalRef handle
    · exact Or.inl present
    · rcases emission.joins_of_delivers bound delivers present with
        ⟨read, moment, previous, slot, before, rfl, joins⟩
      refine Or.inr ⟨read, moment, previous, slot, before, rfl, joins, ?_⟩
      have delivered := (joins.delivers_iff episode (Nat.zero_le read)
        (Nat.lt_of_lt_of_le before bound)).mp ⟨time, Nat.zero_le time, bound, delivers⟩
      exact delivered.1
  · intro after move ended
    exact emission.ends move ended

/-- The first routine connects the second one twice: behind everything, and in front of it. -/
def welcoming : Program where
  routines :=
    [{ commands :=
        [{ label := "behind", operation := .connect "signal" 1 none none .nowhere },
          { label := "before", operation :=
              .connect "signal" 1 (some .critical) none .nowhere }] }, {}]

/-- A signal with a slot for each routine. -/
def furnished : Machine :=
  (initial .heap {}).play welcoming 8
    [.init, .register "signal" none none, .connect "signal" 0 none none .nowhere,
      .connect "signal" 1 none none .nowhere]

/-- The steps of an emission whose first callback connects two more slots. -/
def welcome (time : Nat) : Machine :=
  (step welcoming)^[time] (furnished.play welcoming 0 [.emit ⟨"signal", .void⟩])

/-- The outermost emission of a state. -/
def outermost (machine : Machine) : Walk :=
  machine.walks.getLast?.getD default

/-- The slots that were there are called, then the one connected behind them; the one connected in
front of them is not. -/
theorem emission_delivers_welcome :
    (welcome 20).calls = [⟨3⟩, ⟨2⟩, ⟨1⟩] ∧
      Delivery [] welcome (fun time => outermost (welcome time)) 20 := by
  have reachable : Reachable (welcome 0) :=
    ⟨.heap, {}, (reaches_play welcoming 8 _ _).trans (reaches_play welcoming 0 _ _)⟩
  have frames :
      ∀ time < 21, (welcome time).stack.getLast? = some (.walk (outermost (welcome time))) := by
    decide +kernel
  have emission : EmissionRun [] welcome (fun time => outermost (welcome time)) 20 := by
    refine ⟨⟨{ world := furnished.world }, ⟨"signal", .void⟩, rfl, by decide +kernel⟩,
      .of_steps welcoming reachable 20, ?_⟩
    intro time _ bound
    exact List.getLast?_eq_some_iff.mp (frames time (Nat.lt_succ_of_le bound))
  exact ⟨by decide +kernel, emission_delivers emission⟩

end SignalDispatch.Machine
