import SignalDispatch.Proofs.Machine.Separation
import SignalDispatch.Proofs.Registry.Meters
import SignalDispatch.Proofs.Registry.Occupancy

/-!
# Exact memory statistics

The statistics of a bus are read off counters: the sizes of its arenas, the entries they have set
aside, and the peak that a connection raises.  `SessionRun.exactStats` says what the counters mean,
at every time of a session, at rest or in the middle of any number of emissions: the use is what the
signals and the chains hold, and the peak and the entries of growing storage are the most that was
used at any time since the count began.

A move raises each meter to the present use (`Move.meters`), except for the moves that initialize
the bus or begin a new count.
-/

namespace SignalDispatch

namespace Registry

variable {registry next : Registry}

/-- Meters that are not passed by the use stay where they are. -/
theorem Metered.refl (metered : registry.Metered) : registry.Raises registry :=
  (KeepsMeters.refl registry).raises metered
    (show Stocks registry registry id id from ⟨rfl, rfl, rfl, rfl⟩) Nat.le_refl Nat.le_refl

/-- The number of tombstones of a signal. -/
def buriedSlots (registry : Registry) (index : Nat) : Nat :=
  (registry.contents index).countP Slot.removed

/-- The slots in storage are the live slots and the tombstones of all signals. -/
theorem WellFormed.size_slots_eq_sum (formed : registry.WellFormed) :
    registry.slots.size =
      (registry.signals.toList.map fun entry =>
        registry.liveSlots entry.1 + registry.buriedSlots entry.1).sum := by
  rw [← formed.linkedSlots_eq, linkedSlots]
  congr 1
  refine List.map_congr_left fun entry _ => ?_
  have parts := List.length_eq_countP_add_countP Slot.removed
    (l := registry.contents entry.1)
  simp only [decide_not, Bool.decide_eq_true] at parts
  rw [parts, Nat.add_comm]
  rfl

/-- The bytes that the report counts are those of every name and description listed. -/
theorem stringBytes_memoryStats (registry : Registry) (kind : StorageKind) :
    (registry.memoryStats kind).stringBytes =
      (registry.listing.map fun info =>
        info.name.utf8ByteSize + (info.description.map String.utf8ByteSize).getD 0).sum := by
  rw [memoryStats, listing, List.map_map, ← List.foldl_map, List.sum_eq_foldl]
  rfl

end Registry

namespace Machine

variable {before after : Machine} {trace : Nat → Machine} {last : Nat}

/-! ## One move -/

/-- What a move does to the registry and its meters. -/
inductive Meters (before after : Machine) : Prop where
  | closed : after.world.bus.registry = none → Meters before after
  | opened :
      Executes .init before after →
      before.world.bus.registry = none →
      after.world.bus.registry = some before.world.bus.backend.registry →
      Meters before after
  | raised {registry next : Registry} :
      before.world.bus.registry = some registry →
      after.world.bus.registry = some next →
      registry.Raises next →
      Meters before after
  | recounted {registry : Registry} :
      Executes .resetPeak before after →
      before.world.bus.registry = some registry →
      after.world.bus.registry = some registry.resetPeak →
      Meters before after

/-- The registry, if there is one, uses no more than its meters say. -/
def Metered (machine : Machine) : Prop :=
  ∀ registry, machine.world.bus.registry = some registry → registry.Metered

theorem Meters.of_shifts
    {operation : Option Operation}
    (shifts : Bus.Shifts operation before.world.bus after.world.bus)
    (executes : ∀ asked, operation = some asked → Executes asked before after)
    (sane : before.world.bus.Sane)
    (metered : before.Metered) :
    Meters before after := by
  have fewer (released : List Slot) (count : Nat) : count - released.length ≤ count :=
    Nat.sub_le _ _
  generalize reached : after.world.bus = bus at shifts
  cases shifts with
  | keep same =>
      rw [← reached] at same
      cases present : before.world.bus.registry with
      | none => exact .closed (same.trans present)
      | some registry => exact .raised present (same.trans present) (metered _ present).refl
  | init absent => exact .opened (executes _ rfl) absent (by rw [reached]; rfl)
  | cleanup absent => exact .closed (by rw [reached]; exact absent)
  | register present registered =>
      exact .raised present (by rw [reached]; rfl)
        ((sane.registry present).formed.register_raises (metered _ present) registered)
  | unregister present removed =>
      exact .raised present (by rw [reached]; rfl)
        ((Registry.KeepsMeters.unregister removed).raises (metered _ present)
          (Registry.unregister_stocks removed) Nat.pred_le (fewer _))
  | connect present _ _ _ attached =>
      exact .raised present (by rw [reached]; rfl)
        ((sane.registry present).formed.attach_raises (metered _ present) attached)
  | retire present =>
      exact .raised present (by rw [reached]; rfl)
        ((Registry.KeepsMeters.retire _ _ _).raises (metered _ present)
          (Registry.retire_stocks _ _ _) Nat.le_refl (fewer _))
  | retireAll present =>
      exact .raised present (by rw [reached]; rfl)
        ((Registry.KeepsMeters.retireAll _ _).raises (metered _ present)
          (Registry.retireAll_stocks _ _) Nat.le_refl (fewer _))
  | resetTiming present =>
      exact .raised present (by rw [reached]; rfl)
        ((Registry.KeepsMeters.resetTiming _).raises (metered _ present)
          (show Registry.Stocks _ _ id id from ⟨rfl, rfl, rfl, rfl⟩) Nat.le_refl Nat.le_refl)
  | resetPeak present => exact .recounted (executes _ rfl) present (by rw [reached]; rfl)

theorem Move.meters
    (move : Move before after)
    (sane : before.world.bus.Sane)
    (metered : before.Metered) :
    Meters before after := by
  cases move.onBus with
  | shifts shifts executes => exact .of_shifts shifts executes sane metered
  | enters present begun replaced =>
      exact .raised present replaced ((Registry.KeepsMeters.beginEmission begun).raises
        (metered _ present) (Registry.beginEmission_stocks begun) Nat.le_refl Nat.le_refl)
  | leaves left =>
      rw [Bus.leaving] at left
      cases present : before.world.bus.registry with
      | none =>
          rw [present] at left
          exact .closed (by rw [left, present])
      | some registry =>
          rw [present] at left
          exact .raised present (by rw [left]; rfl)
            ((Registry.KeepsMeters.endEmission _ _ _).raises (metered _ present)
              (Registry.endEmission_stocks _ _ _) Nat.le_refl fun _ => Nat.sub_le _ _)

theorem Meters.metered (meters : Meters before after) (metered : before.Metered) :
    after.Metered := by
  intro registry present
  cases meters with
  | closed absent =>
      rw [absent] at present
      cases present
  | opened _ _ made =>
      rw [made, Option.some.injEq] at present
      exact present ▸ Registry.metered_empty _ _
  | raised earlier later raises =>
      rw [later, Option.some.injEq] at present
      exact present ▸ (metered _ earlier).raises raises
  | recounted _ earlier later =>
      rw [later, Option.some.injEq] at present
      exact present ▸ (metered _ earlier).resetPeak

/-- At every time of a session the use is within the meters. -/
theorem SessionRun.metered (session : SessionRun trace last) :
    ∀ time ≤ last, (trace time).Metered := by
  intro time
  induction time with
  | zero =>
      intro _ registry present
      rcases session.starts with ⟨backend, config, start⟩
      rw [start] at present
      cases present
  | succ time ih =>
      intro bound
      have earlier := Nat.le_of_succ_le bound
      exact ((session.moves time bound).meters (session.sane time earlier) (ih earlier)).metered
        (ih earlier)

/-! ## Counts that began -/

/-- The move at a time initialized the bus, which has not been cleaned up since. -/
structure InitializedBy (trace : Nat → Machine) (moment last : Nat) : Prop where
  order : moment < last
  executes : Executes .init (trace moment) (trace (moment + 1))
  absent : (trace moment).world.bus.isInitialized = false
  present :
    ∀ time, moment < time → time ≤ last → (trace time).world.bus.isInitialized = true

/-- The peak has been counted from the move at a time on: that move initialized the bus, or asked
for a new count, and none did so since. -/
structure CountedFrom (trace : Nat → Machine) (moment last : Nat) : Prop where
  order : moment < last
  begins :
    Executes .init (trace moment) (trace (moment + 1)) ∧
        (trace moment).world.bus.isInitialized = false ∨
      Executes .resetPeak (trace moment) (trace (moment + 1))
  present :
    ∀ time, moment < time → time ≤ last → (trace time).world.bus.isInitialized = true
  uninterrupted :
    ∀ time, moment < time → time < last → ¬ Executes .resetPeak (trace time) (trace (time + 1))

/-- What one of the statistics was at the times from the end of a move on. -/
def levels
    (statistic : MemoryStats → Nat)
    (trace : Nat → Machine)
    (moment last : Nat) :
    Set Nat :=
  {level | ∃ time, moment < time ∧ time ≤ last ∧
    ∃ stats, (trace time).world.bus.memory? = some stats ∧ statistic stats = level}

theorem memory?_eq_some_iff (bus : Bus) (stats : MemoryStats) :
    bus.memory? = some stats ↔
      ∃ registry, bus.registry = some registry ∧ registry.memoryStats bus.backend.kind = stats := by
  rw [Bus.memory?, Option.map_eq_some_iff]

/-- A statistic that is raised to the use by every move is the most that was used. -/
theorem isGreatest_levels
    {used mark : MemoryStats → Nat}
    {moment : Nat}
    {stats : MemoryStats}
    (order : moment < last)
    (present : ∀ time, moment < time → time ≤ last → (trace time).world.bus.isInitialized = true)
    (begins :
      ∀ stats, (trace (moment + 1)).world.bus.memory? = some stats → mark stats = used stats)
    (raised :
      ∀ time, moment < time → time < last →
        ∀ stats next, (trace time).world.bus.memory? = some stats →
          (trace (time + 1)).world.bus.memory? = some next →
            mark next = max (mark stats) (used next))
    (now : (trace last).world.bus.memory? = some stats) :
    IsGreatest (levels used trace moment last) (mark stats) := by
  have told (time : Nat) (past : moment < time) (bound : time ≤ last) :
      ∃ stats, (trace time).world.bus.memory? = some stats := by
    rcases Option.isSome_iff_exists.mp (present time past bound) with ⟨registry, found⟩
    exact ⟨_, (memory?_eq_some_iff _ _).mpr ⟨registry, found, rfl⟩⟩
  let level (statistic : MemoryStats → Nat) (time : Nat) : Nat :=
    ((trace time).world.bus.memory?.map statistic).getD 0
  have level_eq {statistic : MemoryStats → Nat} {time : Nat} {stats : MemoryStats}
      (found : (trace time).world.bus.memory? = some stats) :
      level statistic time = statistic stats := by
    simp only [level, found, Option.map_some, Option.getD_some]
  have same : levels used trace moment last = level used '' Set.Icc (moment + 1) last := by
    ext count
    constructor
    · rintro ⟨time, past, bound, stats, found, rfl⟩
      exact ⟨time, ⟨past, bound⟩, level_eq found⟩
    · rintro ⟨time, ⟨past, bound⟩, rfl⟩
      rcases told time past bound with ⟨stats, found⟩
      exact ⟨time, past, bound, stats, found, (level_eq found).symm⟩
  have greatest := @isGreatest_of_raised (level used) (level mark) (moment + 1) last ?_ order ?_
  · rwa [level_eq now, ← same] at greatest
  · rcases told (moment + 1) (Nat.lt_succ_self _) order with ⟨stats, found⟩
    rw [level_eq found, level_eq found]
    exact begins stats found
  · intro time past bound
    rcases told time past (Nat.le_of_lt bound) with ⟨stats, found⟩
    rcases told (time + 1) (Nat.lt_succ_of_lt past) bound with ⟨next, found'⟩
    rw [level_eq found, level_eq found', level_eq found']
    exact raised time past bound stats next found found'

theorem Executes.bus_of_init (executes : Executes .init before after) :
    after.world.bus = before.world.bus.init.bus :=
  executes.bus_of_apply (fun world => world.bus.init) fun _ _ _ => rfl

theorem Executes.bus_of_resetPeak (executes : Executes .resetPeak before after) :
    after.world.bus = before.world.bus.resetPeak.bus :=
  executes.bus_of_apply (fun world => world.bus.resetPeak) fun _ _ _ => rfl

/-- A bus that was not initialized has an empty registry afterwards. -/
theorem Executes.registry_of_init
    (executes : Executes .init before after)
    (absent : before.world.bus.isInitialized = false) :
    after.world.bus.registry = some before.world.bus.backend.registry := by
  rw [executes.bus_of_init, Bus.init, absent]
  rfl

/-- What is told between two moves of an initialized bus. -/
theorem SessionRun.meters
    (session : SessionRun trace last)
    {time : Nat}
    (bound : time < last)
    {stats next : MemoryStats}
    (told : (trace time).world.bus.memory? = some stats)
    (told' : (trace (time + 1)).world.bus.memory? = some next) :
    next.slotsAllocated = max stats.slotsAllocated next.slotsUsed ∧
      next.signalsAllocated = max stats.signalsAllocated next.signalsUsed ∧
      (next.peakSlotsUsed = max stats.peakSlotsUsed next.slotsUsed ∨
        Executes .resetPeak (trace time) (trace (time + 1))) := by
  have within := Nat.le_of_lt bound
  have metered := session.metered time within
  rcases (memory?_eq_some_iff _ _).mp told with ⟨registry, present, rfl⟩
  rcases (memory?_eq_some_iff _ _).mp told' with ⟨registry', present', rfl⟩
  cases (session.moves time bound).meters (session.sane time within) metered with
  | closed absent =>
      rw [absent] at present'
      cases present'
  | opened _ absent =>
      rw [absent] at present
      cases present
  | raised earlier later raises =>
      rw [earlier, Option.some.injEq] at present
      rw [later, Option.some.injEq] at present'
      subst present present'
      exact ⟨raises.slots, raises.signals, Or.inl raises.peak⟩
  | recounted executes earlier later =>
      rw [later, Option.some.injEq] at present'
      subst present'
      rw [earlier, Option.some.injEq] at present
      subst present
      have same := metered _ earlier
      exact ⟨(Nat.max_eq_left (same.slots.trans same.peak)).symm,
        (Nat.max_eq_left same.signals).symm, Or.inr executes⟩

namespace InitializedBy

variable {moment time : Nat}

theorem extend
    (initialized : InitializedBy trace moment time)
    (present : (trace (time + 1)).world.bus.isInitialized = true) :
    InitializedBy trace moment (time + 1) where
  order := Nat.lt_succ_of_lt initialized.order
  executes := initialized.executes
  absent := initialized.absent
  present := by
    intro other past bound
    rcases Nat.le_succ_iff.mp bound with earlier | rfl
    · exact initialized.present other past earlier
    · exact present

end InitializedBy

/-- A time that comes after a move and not after the next one is the next one. -/
theorem present_of_succ
    {moment : Nat}
    (present : (trace (moment + 1)).world.bus.isInitialized = true) :
    ∀ time, moment < time → time ≤ moment + 1 → (trace time).world.bus.isInitialized = true := by
  intro time past bound
  rwa [Nat.le_antisymm bound past]

/-- An initialized bus was initialized by some move, and its peak has been counted since some
move. -/
theorem SessionRun.began
    (session : SessionRun trace last) :
    ∀ time ≤ last, (trace time).world.bus.isInitialized = true →
      (∃ moment, InitializedBy trace moment time) ∧ ∃ moment, CountedFrom trace moment time := by
  intro time
  induction time with
  | zero =>
      intro _ present
      rcases session.starts with ⟨backend, config, start⟩
      rw [start] at present
      cases present
  | succ time ih =>
      intro bound present
      have within := Nat.le_of_succ_le bound
      have recounting (executes : Executes .resetPeak (trace time) (trace (time + 1))) :
          CountedFrom trace time (time + 1) :=
        ⟨Nat.lt_succ_self _, Or.inr executes, present_of_succ present, by omega⟩
      have going (earlier : (trace time).world.bus.isInitialized = true) :
          (∃ moment, InitializedBy trace moment (time + 1)) ∧
            ∃ moment, CountedFrom trace moment (time + 1) := by
        rcases ih within earlier with ⟨⟨opened, initialized⟩, begun, counted⟩
        refine ⟨⟨opened, initialized.extend present⟩, ?_⟩
        by_cases executes : Executes .resetPeak (trace time) (trace (time + 1))
        · exact ⟨time, recounting executes⟩
        · refine ⟨begun, Nat.lt_succ_of_lt counted.order, counted.begins, ?_, ?_⟩
          · intro other past bound
            rcases Nat.le_succ_iff.mp bound with before | rfl
            · exact counted.present other past before
            · exact present
          · intro other past bound
            rcases Nat.lt_succ_iff_lt_or_eq.mp bound with before | rfl
            · exact counted.uninterrupted other past before
            · exact executes
      cases (session.moves time bound).meters (session.sane time within)
          (session.metered time within) with
      | closed absent =>
          rw [Bus.isInitialized, absent] at present
          cases present
      | opened executes absent =>
          have before : (trace time).world.bus.isInitialized = false := by
            rw [Bus.isInitialized, absent]
            rfl
          exact ⟨⟨time, Nat.lt_succ_self _, executes, before, present_of_succ present⟩,
            time, Nat.lt_succ_self _, Or.inl ⟨executes, before⟩, present_of_succ present, by omega⟩
      | raised earlier => exact going (by rw [Bus.isInitialized, earlier]; rfl)
      | recounted _ earlier => exact going (by rw [Bus.isInitialized, earlier]; rfl)

/-! ## The statistics -/

/-- The statistics that a bus tells at a time say what it holds and what it has held. -/
structure ExactStats (trace : Nat → Machine) (last : Nat) (stats : MemoryStats) : Prop where
  signals : stats.signalsUsed = (trace last).world.bus.count
  /-- The slots are the live slots and the tombstones of all signals. -/
  slots :
    ∀ registry, (trace last).world.bus.registry = some registry →
      stats.slotsUsed =
        (registry.signals.toList.map fun entry =>
          registry.liveSlots entry.1 + registry.buriedSlots entry.1).sum
  /-- The peak has been counted from some move on, and is the most slots used since. -/
  counted : ∃ moment, CountedFrom trace moment last
  peak :
    ∀ moment, CountedFrom trace moment last →
      IsGreatest (levels MemoryStats.slotsUsed trace moment last) stats.peakSlotsUsed
  bounded :
    stats.slotsUsed ≤ stats.peakSlotsUsed ∧ stats.peakSlotsUsed ≤ stats.slotsAllocated ∧
      stats.signalsUsed ≤ stats.signalsAllocated
  /-- Growing storage has as many entries as were used at most since the bus was initialized. -/
  initialized : ∃ moment, InitializedBy trace moment last
  heap :
    (trace last).world.bus.backend = .heap →
      ∀ moment, InitializedBy trace moment last →
        IsGreatest (levels MemoryStats.slotsUsed trace moment last) stats.slotsAllocated ∧
          IsGreatest (levels MemoryStats.signalsUsed trace moment last) stats.signalsAllocated
  pool :
    ∀ signals slots, (trace last).world.bus.backend = .pool signals slots →
      stats.signalsAllocated = signals ∧ stats.slotsAllocated = slots
  /-- The bytes are those of the names and descriptions of the signals that are listed. -/
  bytes :
    stats.stringBytes =
      ((trace last).world.bus.listing.map fun info =>
        info.name.utf8ByteSize + (info.description.map String.utf8ByteSize).getD 0).sum

/-- The peak begins at the slots in use. -/
theorem CountedFrom.peak_eq
    {moment : Nat}
    {stats : MemoryStats}
    (counted : CountedFrom trace moment last)
    (told : (trace (moment + 1)).world.bus.memory? = some stats) :
    stats.peakSlotsUsed = stats.slotsUsed := by
  rcases (memory?_eq_some_iff _ _).mp told with ⟨registry, present, rfl⟩
  rcases counted.begins with ⟨executes, absent⟩ | executes
  · rw [executes.registry_of_init absent, Option.some.injEq] at present
    subst present
    rfl
  · rw [executes.bus_of_resetPeak, Bus.resetPeak, Option.map_eq_some_iff] at present
    rcases present with ⟨earlier, _, rfl⟩
    rfl

/-- Growing storage begins without entries. -/
theorem InitializedBy.allocated_eq
    {moment : Nat}
    {stats : MemoryStats}
    (initialized : InitializedBy trace moment last)
    (heap : (trace moment).world.bus.backend = .heap)
    (told : (trace (moment + 1)).world.bus.memory? = some stats) :
    stats.slotsAllocated = stats.slotsUsed ∧ stats.signalsAllocated = stats.signalsUsed := by
  rcases (memory?_eq_some_iff _ _).mp told with ⟨registry, present, rfl⟩
  rw [initialized.executes.registry_of_init initialized.absent, heap, Option.some.injEq] at present
  subst present
  exact ⟨rfl, rfl⟩

/-- At every time of a session an initialized bus tells its exact statistics. -/
theorem SessionRun.exactStats
    (session : SessionRun trace last)
    (initialized : (trace last).world.bus.isInitialized = true) :
    ∃ stats, (trace last).world.bus.memoryStats.result = .ok (.memory stats) ∧
      ExactStats trace last stats := by
  rcases Option.isSome_iff_exists.mp initialized with ⟨registry, present⟩
  have told : (trace last).world.bus.memory? =
      some (registry.memoryStats (trace last).world.bus.backend.kind) :=
    (memory?_eq_some_iff _ _).mpr ⟨registry, present, rfl⟩
  have began := session.began last (Nat.le_refl _) initialized
  have formed := ((session.sane last (Nat.le_refl _)).registry present).formed
  have metered := session.metered last (Nat.le_refl _) registry present
  have housed := (session.housed last (Nat.le_refl _)).1 registry present
  refine ⟨_, by rw [Bus.memoryStats, Bus.withRegistry_of_some present]; rfl, ?_⟩
  refine
    { signals := ?_, slots := ?_, counted := began.2, peak := ?_,
      bounded := ⟨metered.slots, metered.peak, metered.signals⟩, initialized := began.1,
      heap := ?_, pool := ?_, bytes := ?_ }
  · rw [Bus.count, present]
    rfl
  · intro other same
    rw [present, Option.some.injEq] at same
    exact same ▸ formed.size_slots_eq_sum
  · intro moment counted
    refine isGreatest_levels counted.order counted.present (fun stats found =>
      counted.peak_eq found) ?_ told
    intro time past bound stats next found found'
    exact (session.meters bound found found').2.2.resolve_right
      (counted.uninterrupted time past bound)
  · intro heap moment since
    have within := Nat.le_of_lt since.order
    have heap' : (trace moment).world.bus.backend = .heap := by
      rw [(session.housed moment within).2, ← (session.housed last (Nat.le_refl _)).2, heap]
    constructor
    · refine isGreatest_levels since.order since.present
        (fun stats found => (since.allocated_eq heap' found).1) ?_ told
      intro time _ bound stats next found found'
      exact (session.meters bound found found').1
    · refine isGreatest_levels since.order since.present
        (fun stats found => (since.allocated_eq heap' found).2) ?_ told
      intro time _ bound stats next found found'
      exact (session.meters bound found found').2.1
  · intro signals slots pool
    rw [pool] at housed
    exact ⟨(formed.signals_sound.pool signals housed.signals).1,
      (formed.slots_sound.pool slots housed.slots).1⟩
  · rw [Registry.stringBytes_memoryStats, Bus.listing, present]

/-- Four connections, two of which are taken back before the peak is counted anew, and an emission
whose first callback gives up its own slot and connects another. -/
def recounting : Nat → Machine :=
  states
    { routines :=
        [{ commands :=
            [{ label := "leave", operation := .disconnect "signal" 0 },
              { label := "return", operation := .connect "signal" 1 none none .nowhere }] },
          {}] }
    .heap
    [.init, .register "signal" (some "état") none, .connect "signal" 0 none none .nowhere,
      .connect "signal" 1 none none .nowhere, .connect "signal" 1 none none .nowhere,
      .connect "signal" 1 none none .nowhere, .disconnect "signal" 1, .disconnect "signal" 1,
      .resetPeak, .emit ⟨"signal", .void⟩]

/-- In the middle of the emission a tombstone and two live slots are in use, the most since the new
count; there were four before it. -/
theorem exactStats_recounting :
    (recounting 34).world.bus.isInitialized = true ∧ (recounting 34).walks.length = 1 ∧
      ExactStats recounting 34
        { kind := .heap, signalsAllocated := 1, signalsUsed := 1, slotsAllocated := 4,
          slotsUsed := 3, peakSlotsUsed := 3, stringBytes := 11 } := by
  have session : SessionRun recounting 34 := sessionRun_states _ _ _ _
  have initialized : (recounting 34).world.bus.isInitialized = true := by decide +kernel
  have result : (recounting 34).world.bus.memoryStats.result = .ok (.memory
      { kind := .heap, signalsAllocated := 1, signalsUsed := 1, slotsAllocated := 4,
        slotsUsed := 3, peakSlotsUsed := 3, stringBytes := 11 }) := by
    decide +kernel
  rcases session.exactStats initialized with ⟨stats, told, stated⟩
  rw [result, Except.ok.injEq, Answer.memory.injEq] at told
  subst told
  exact ⟨initialized, by decide +kernel, stated⟩

end Machine

end SignalDispatch
