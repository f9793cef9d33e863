import SignalDispatch.Proofs.Machine.ExactDelivery

/-!
# Late insertions

A slot that is connected while a callback runs can be called by the emission that is in progress.
The emission captured its next slot before the callback was called, so what is put in front of that
one is missed, and after the last slot everything is.  `LateInsertion.called_iff` says that a slot
put behind the captured successor is called, once, and no other one.
-/

namespace SignalDispatch.Machine

/-- A slot is connected after an emission has read `previous` and before it reads again; nothing
takes the slot away or stops the emission, which is at its end. -/
structure LateInsertion
    (below : List Frame)
    (trace : Nat → Machine)
    (walk : Nat → Walk)
    (last read moment : Nat)
    (previous slot : Slot) : Prop where
  emission : EmissionRun below trace walk last
  within : moment < last
  joins : Joins below trace (walk 0).signalRef read moment previous slot
  /-- The slot is not removed before the emission has read it. -/
  kept : ¬ RemovedUnread below trace (walk 0).signalRef slot.handle (moment + 1) last
  /-- No panic reaches the emission. -/
  calm : ¬ Panicked below trace last
  /-- The signal is not unregistered and the bus not cleaned up. -/
  lasting : ¬ Expired trace (walk 0).signalRef last
  ends : ∃ after, Move (trace last) after ∧ ∀ later, ¬ after.Hosts below later

namespace LateInsertion

variable
  {below : List Frame}
  {trace : Nat → Machine}
  {walk : Nat → Walk}
  {last read moment : Nat}
  {previous slot : Slot}

/-- The emission comes to the end of its chain. -/
theorem complete (late : LateInsertion below trace walk last read moment previous slot) :
    Complete trace walk last := by
  rcases late.ends with ⟨after, move, ended⟩
  rcases late.emission.ends move ended with complete | panicked | expired
  · exact complete
  · exact absurd panicked late.calm
  · exact absurd expired late.lasting

/-- A late insertion is called later by the same emission, once, exactly if it is put behind the
successor that was captured before the running callback was called. -/
theorem called_iff (late : LateInsertion below trace walk last read moment previous slot) :
    (∃! time, (moment < time ∧ time ≤ last) ∧ (trace time).Delivers below slot.handle) ↔
      (trace (moment + 1)).BehindCaptured (walk 0).signalRef previous slot := by
  have episode := late.emission.episode
  have unread := late.joins.unread episode late.within
  have arrives :
      (∃ time, 0 ≤ time ∧ time ≤ last ∧ (trace time).Delivers below slot.handle) ↔
        (trace (moment + 1)).BehindCaptured (walk 0).signalRef previous slot := by
    rw [late.joins.delivers_iff episode (Nat.zero_le read) late.within]
    constructor
    · exact fun delivered => delivered.1
    · exact fun behind => ⟨behind, late.kept, fun cut => cut.1 late.complete⟩
  have later {time : Nat} (delivers : (trace time).Delivers below slot.handle) :
      moment < time := by
    by_contra early
    rcases delivers with ⟨found, reads, _, same⟩
    exact unread time (Nat.zero_le time) (Nat.lt_succ_of_le (Nat.le_of_not_lt early)) found reads
      same
  rw [← arrives, ← episode.existsUnique_iff]
  constructor
  · rintro ⟨time, ⟨⟨_, bound⟩, delivers⟩, only⟩
    refine ⟨time, ⟨⟨Nat.zero_le time, bound⟩, delivers⟩, ?_⟩
    rintro other ⟨⟨_, bound'⟩, delivers'⟩
    exact only other ⟨⟨later delivers', bound'⟩, delivers'⟩
  · rintro ⟨time, ⟨⟨_, bound⟩, delivers⟩, only⟩
    refine ⟨time, ⟨⟨later delivers, bound⟩, delivers⟩, ?_⟩
    rintro other ⟨⟨_, bound'⟩, delivers'⟩
    exact only other ⟨⟨Nat.zero_le other, bound'⟩, delivers'⟩

end LateInsertion

/-! ## Two runs -/

/-- The slot that the emission above `below` reads in the next move. -/
def reads? (machine : Machine) (below : List Frame) : Option Slot :=
  match machine.stack, machine.control with
  | .walk walk :: under, .proceed =>
      if under = below ∧ walk.running = none then
        walk.cursor.bind fun position =>
          machine.world.bus.registry.bind fun registry =>
            if (registry.resolve? walk.signalRef).isSome then registry.slots.get? position
            else none
      else none
  | _, _ => none

/-- The live slots in the chain of a registration. -/
def liveSlots (machine : Machine) (signalRef : SignalRef) : List Slot :=
  match machine.world.bus.registry with
  | none => []
  | some registry =>
      if (registry.resolve? signalRef).isSome then
        (registry.slotsOf signalRef.index).filter fun slot => !slot.removed
      else []

theorem reads?_eq_some_iff (machine : Machine) (below : List Frame) (slot : Slot) :
    machine.reads? below = some slot ↔ machine.Reads below slot := by
  rw [reads?.eq_def]
  constructor
  · intro found
    split at found
    next walk under stack proceeds =>
      split at found
      next same =>
        rcases same with ⟨rfl, ready⟩
        rcases Option.bind_eq_some_iff.mp found with ⟨position, cursor, found⟩
        rcases Option.bind_eq_some_iff.mp found with ⟨registry, present, found⟩
        split at found
        next resolved =>
          exact ⟨walk, position, registry, stack, proceeds, ready, cursor, present, resolved,
            found⟩
        next => cases found
      next => cases found
    next => cases found
  · rintro ⟨walk, position, registry, stack, proceeds, ready, cursor, present, resolved, stored⟩
    rw [stack, proceeds]
    dsimp only
    rw [if_pos ⟨rfl, ready⟩, cursor, Option.bind_some, present, Option.bind_some,
      if_pos resolved, stored]

theorem mem_liveSlots_iff (machine : Machine) (signalRef : SignalRef) (slot : Slot) :
    slot ∈ machine.liveSlots signalRef ↔ machine.LiveIn signalRef slot := by
  rw [liveSlots, LiveIn]
  cases machine.world.bus.registry with
  | none => simp
  | some registry => by_cases resolved : (registry.resolve? signalRef).isSome <;> simp [resolved]

/-- The first routine connects the second one to the signal. -/
def inviting : Program where
  routines :=
    [{ commands :=
        [{ label := "connect", operation := .connect "signal" 1 none none .nowhere }] }, {}]

/-- A signal with slots for some routines. -/
def invited (callbacks : List RoutineId) : Machine :=
  (initial .heap {}).play inviting 8
    ([.init, .register "signal" none none] ++
      callbacks.map fun callback => .connect "signal" callback none none .nowhere)

/-- The steps of an emission to them. -/
def invitation (callbacks : List RoutineId) (time : Nat) : Machine :=
  (step inviting)^[time] ((invited callbacks).play inviting 0 [.emit ⟨"signal", .void⟩])

/-- The emission of these runs. -/
def invitingWalk (callbacks : List RoutineId) (time : Nat) : Walk :=
  outermost (invitation callbacks time)

/-- The slot that is read first. -/
def host (callbacks : List RoutineId) : Slot :=
  ((invitation callbacks 0).reads? []).getD default

/-- The slot that is connected last. -/
def guest (callbacks : List RoutineId) : Slot :=
  ((invitation callbacks 2).liveSlots (invitingWalk callbacks 0).signalRef).getLast?.getD default

/-- What is to be checked of a run: an emission lasts, the host is read and nothing else until the
guest is there, the guest and the signal stay, and the emission goes on and ends. -/
structure Invites (callbacks : List RoutineId) (last : Nat) : Prop where
  begun :
    ({ world := (invited callbacks).world } : Machine).beginEmission ⟨"signal", .void⟩ =
      invitation callbacks 0
  frames :
    ∀ time < last + 1,
      (invitation callbacks time).stack.getLast? = some (.walk (invitingWalk callbacks time))
  within : 1 < last
  reads : (invitation callbacks 0).reads? [] = some (host callbacks)
  silent : (invitation callbacks 1).reads? [] = none
  absent :
    (guest callbacks).handle ∉
      ((invitation callbacks 1).liveSlots (invitingWalk callbacks 0).signalRef).map Slot.handle
  present :
    guest callbacks ∈ (invitation callbacks 2).liveSlots (invitingWalk callbacks 0).signalRef
  kept :
    ∀ time < last + 1, 1 < time →
      (guest callbacks).handle ∈
        ((invitation callbacks time).liveSlots (invitingWalk callbacks 0).signalRef).map
          Slot.handle
  going : (invitation callbacks last).control = .proceed
  lasting :
    ∀ time < last + 1,
      (invitation callbacks time).liveSlots (invitingWalk callbacks 0).signalRef ≠ []
  ended : (invitation callbacks (last + 1)).walks = []

theorem hasLive_iff_mem (machine : Machine) (signalRef : SignalRef) (handle : Handle) :
    machine.HasLive signalRef handle ↔
      handle ∈ (machine.liveSlots signalRef).map Slot.handle := by
  rw [HasLive, List.mem_map]
  exact exists_congr fun slot => and_congr_left fun _ => (mem_liveSlots_iff _ _ slot).symm

theorem Invites.emissionRun {callbacks : List RoutineId} {last : Nat}
    (invites : Invites callbacks last) :
    EmissionRun [] (invitation callbacks) (invitingWalk callbacks) last := by
  have reachable : Reachable (invitation callbacks 0) :=
    ⟨.heap, {}, (reaches_play inviting 8 _ _).trans (reaches_play inviting 0 _ _)⟩
  refine ⟨⟨_, _, rfl, invites.begun⟩, .of_steps inviting reachable last, ?_⟩
  intro time _ bound
  exact List.getLast?_eq_some_iff.mp (invites.frames time (Nat.lt_succ_of_le bound))

theorem Invites.lateInsertion {callbacks : List RoutineId} {last : Nat}
    (invites : Invites callbacks last) :
    LateInsertion [] (invitation callbacks) (invitingWalk callbacks) last 0 1 (host callbacks)
      (guest callbacks) := by
  refine ⟨invites.emissionRun, invites.within, ?_, ?_, ?_, ?_, ?_⟩
  · refine ⟨(reads?_eq_some_iff _ _ _).mp invites.reads, Nat.zero_le 1, ?_, ?_, ?_⟩
    · intro time after before other reads
      obtain rfl : time = 1 := by omega
      rw [← reads?_eq_some_iff, invites.silent] at reads
      cases reads
    · rw [hasLive_iff_mem]
      exact invites.absent
    · rw [← mem_liveSlots_iff]
      exact invites.present
  · rintro ⟨time, after, before, gone, _⟩
    exact gone ((hasLive_iff_mem _ _ _).mpr (invites.kept time (Nat.lt_succ_of_le before) after))
  · rintro ⟨_, _, _, _, _, _, unwinds⟩
    rw [invites.going] at unwinds
    cases unwinds
  · rintro ⟨time, before, _, gone, _⟩
    rcases List.exists_mem_of_ne_nil _ (invites.lasting (time + 1) (Nat.succ_lt_succ before)) with
      ⟨slot, member⟩
    exact gone (liveIn_iff ((mem_liveSlots_iff _ _ _).mp member)).1
  · refine ⟨invitation callbacks (last + 1), ?_, ?_⟩
    · rw [invitation, invitation, Function.iterate_succ_apply']
      exact .step inviting _
    · intro later hosts
      have member := hosts.mem_walks
      rw [invites.ended] at member
      cases member

theorem invites_two : Invites [0, 1] 16 := by
  constructor <;> decide +kernel

theorem invites_one : Invites [0] 8 := by
  constructor <;> decide +kernel

/-- With a second slot there the guest is put behind it, and is called. -/
theorem called_behind_captured :
    ∃! time, (1 < time ∧ time ≤ 16) ∧
      (invitation [0, 1] time).Delivers [] (guest [0, 1]).handle := by
  have linked :
      ((invitation [0, 1] 2).world.bus.registry.map fun registry =>
        registry.chain (invitingWalk [0, 1] 0).signalRef.index) = some ([0] ++ 1 :: [2]) := by
    decide +kernel
  have stored :
      ((invitation [0, 1] 2).world.bus.registry.bind fun registry => registry.slots.get? 2) =
        some (guest [0, 1]) := by
    decide +kernel
  rcases Option.map_eq_some_iff.mp linked with ⟨registry, present, chain⟩
  rw [present, Option.bind_some] at stored
  refine invites_two.lateInsertion.called_iff.mpr ⟨1, by decide +kernel, ?_⟩
  exact ⟨registry, [0], [2], present, chain,
    List.mem_filterMap.mpr ⟨2, List.mem_singleton_self 2, stored⟩⟩

/-- A slot that is connected while a callback runs, and that goes behind the slot of that callback,
need not be called, even if nothing is removed and nothing panics. -/
theorem not_always_called :
    ¬ ∀ (below : List Frame) (trace : Nat → Machine) (walk : Nat → Walk)
        (last read moment : Nat) (previous slot : Slot),
        LateInsertion below trace walk last read moment previous slot →
        (walk moment).running = some previous →
        slot.priority.rank ≤ previous.priority.rank →
        (∀ time ≤ last, ∀ message, (trace time).control ≠ .unwind message) →
        ∃ time, moment < time ∧ time ≤ last ∧ (trace time).Delivers below slot.handle := by
  intro always
  have controls :
      ∀ time < 9,
        (invitation [0] time).control ∈
          [.proceed, .answer .done, .answer (.connected (guest [0]).handle)] := by
    decide +kernel
  have calm : ∀ time ≤ 8, ∀ message, (invitation [0] time).control ≠ .unwind message := by
    intro time bound message unwinds
    have control := controls time (Nat.lt_succ_of_le bound)
    rw [unwinds] at control
    simp at control
  have unread :
      ∀ time < 9, 1 < time →
        ((invitation [0] time).reads? []).map Slot.handle ≠ some (guest [0]).handle := by
    decide +kernel
  rcases always _ _ _ _ _ _ _ _ invites_one.lateInsertion (by decide +kernel) (by decide +kernel)
    calm with
      ⟨time, after, before, slot, reads, _, same⟩
  refine unread time (Nat.lt_succ_of_le before) after ?_
  rw [(reads?_eq_some_iff _ _ _).mpr reads, Option.map_some, same]

end SignalDispatch.Machine
