import SignalDispatch.Proofs.Machine.Delivery

/-!
# Slots connected during an emission

A callback may connect a slot to the signal that is being emitted.  By then the emission has read
one slot and keeps the position of the next one, its captured successor, or none at the end of the
chain.  The new slot is ahead of the emission exactly if there is a captured successor and the new
slot is put somewhere behind it.
-/

namespace SignalDispatch.Machine

/-- In the move at `moment` a slot is connected to a registration; the last slot that the emission
above `below` has read by then is `previous`. -/
structure Joins
    (below : List Frame)
    (trace : Nat → Machine)
    (signalRef : SignalRef)
    (read moment : Nat)
    (previous slot : Slot) : Prop where
  reads : (trace read).Reads below previous
  ordered : read ≤ moment
  silent :
    ∀ time, read < time → time ≤ moment → ∀ other, ¬ (trace time).Reads below other
  absent : ¬ (trace moment).HasLive signalRef slot.handle
  present : (trace (moment + 1)).LiveIn signalRef slot

/-- The slot that the emission has captured as its next one is there, and a slot is behind it. -/
def BehindCaptured (machine : Machine) (signalRef : SignalRef) (previous slot : Slot) : Prop :=
  ∃ place, previous.next = some place ∧ machine.PlacedAfter signalRef place slot

namespace Joins

variable
  {below : List Frame}
  {trace : Nat → Machine}
  {walk : Nat → Walk}
  {first last read moment : Nat}
  {previous slot : Slot}

theorem hasLive (joins : Joins below trace (walk first).signalRef read moment previous slot) :
    (trace (moment + 1)).HasLive (walk first).signalRef slot.handle :=
  ⟨slot, joins.present, rfl⟩

/-- Where a slot that joins is stored. -/
theorem stored (joins : Joins below trace (walk first).signalRef read moment previous slot) :
    ∃ position ∈ (trace (moment + 1)).world.bus.chain (walk first).signalRef.index,
      (trace (moment + 1)).world.bus.slotAt position = some slot.content :=
  have ⟨_, position, member, found, _⟩ := liveIn_iff joins.present
  ⟨position, member, found⟩

/-- A slot of the chain at an earlier time is not the one that joins. -/
theorem handle_ne
    (joins : Joins below trace (walk first).signalRef read moment previous slot)
    (episode : Episode below trace walk first last)
    (bound : moment < last)
    {time position : Nat}
    {other : Slot}
    (start : first ≤ time)
    (earlier : time ≤ moment)
    (member : position ∈ (trace time).world.bus.chain (walk first).signalRef.index)
    (found : (trace time).world.bus.slotAt position = some other) :
    other.handle ≠ slot.handle := by
  intro same
  have within := Nat.le_of_lt (Nat.lt_of_le_of_lt earlier bound)
  have signalRef := episode.signalRef_eq time start within
  have part := episode.part start (Nat.le_succ_of_le earlier) bound
  have live := joins.hasLive
  rw [← signalRef] at member
  rw [← signalRef, ← same] at live
  have already :=
    part.hasLive_until member found earlier (Nat.le_succ _) (Nat.le_refl _) live
  rw [signalRef, same] at already
  exact joins.absent already

/-- The emission has not read a slot before it joins. -/
theorem unread
    (joins : Joins below trace (walk first).signalRef read moment previous slot)
    (episode : Episode below trace walk first last)
    (bound : moment < last) :
    Unread below trace slot.handle first (moment + 1) := by
  intro time start earlier other reads
  have within := Nat.le_of_lt_succ earlier
  rcases episode.reads_spec start (Nat.le_of_lt (Nat.lt_of_le_of_lt within bound)) reads with
    ⟨position, _, _, member, found⟩
  have different := joins.handle_ne episode bound start within member found
  exact different

/-- No slot joins in the move that reads. -/
theorem read_lt
    (joins : Joins below trace (walk first).signalRef read moment previous slot)
    (episode : Episode below trace walk first last)
    (start : first ≤ read)
    (bound : moment < last) :
    read < moment := by
  refine Nat.lt_of_le_of_ne joins.ordered ?_
  rintro rfl
  cases (episode.follows start bound).2 with
  | quiet none => exact none previous joins.reads
  | read _ _ _ _ _ _ same =>
      have live := (hasLive_iff _ _ _).mp joins.hasLive
      rw [same] at live
      exact joins.absent ((hasLive_iff _ _ _).mpr live)

/-- When a slot joins, the cursor is where the slot that was read last led. -/
theorem cursor_eq
    (joins : Joins below trace (walk first).signalRef read moment previous slot)
    (episode : Episode below trace walk first last)
    (start : first ≤ read)
    (bound : moment < last) :
    (walk (read + 1)).cursor = previous.next ∧
      (walk (moment + 1)).cursor = previous.next := by
  have later := Nat.lt_of_le_of_lt joins.ordered bound
  have part := episode.part (Nat.le_succ_of_le start) (Nat.succ_le_succ joins.ordered) bound
  have still := part.cursor_eq
    (fun time low high => joins.silent time low (Nat.le_of_lt_succ high))
    (moment + 1) (Nat.succ_le_succ joins.ordered) (Nat.le_refl _)
  cases (episode.follows start later).2 with
  | quiet none => exact absurd joins.reads (none previous)
  | read reads _ _ _ _ onwards =>
      have same := reads.slot_eq joins.reads
      subst same
      exact ⟨onwards, still.trans onwards⟩

/-- A slot that joins is ahead exactly if it is put behind the captured successor. -/
theorem ahead_iff
    (joins : Joins below trace (walk first).signalRef read moment previous slot)
    (episode : Episode below trace walk first last)
    (start : first ≤ read)
    (bound : moment < last) :
    Ahead (trace (moment + 1)).world.bus (walk (moment + 1)) slot.content ↔
      (trace (moment + 1)).BehindCaptured (walk first).signalRef previous slot := by
  have later := joins.read_lt episode start bound
  have fromFirst : first ≤ read + 1 := Nat.le_succ_of_le start
  have sane := (episode.run.coherent (Nat.le_succ_of_le (Nat.le_trans start joins.ordered))
    bound).sane
  have coherent := episode.run.coherent fromFirst (Nat.le_trans later (Nat.le_of_lt bound))
  have among := (episode.hosts (read + 1) fromFirst
    (Nat.le_trans later (Nat.le_of_lt bound))).mem_walks
  have signalRef := episode.signalRef_eq (read + 1) fromFirst
    (Nat.le_trans later (Nat.le_of_lt bound))
  rcases joins.cursor_eq episode start bound with ⟨captured, cursor⟩
  -- from the move that reads on, the chain has kept its slots
  have part := episode.part fromFirst (Nat.succ_le_succ joins.ordered) bound
  have resolves := ((hasLive_iff _ _ _).mp joins.hasLive).1
  rw [← signalRef] at resolves
  rcases part.kept (moment + 1) (Nat.succ_le_succ joins.ordered) (Nat.le_refl _) resolves with
    ⟨resolved, grows, stays⟩
  have successor {place : Nat} (next : previous.next = some place) :
      place ∈ (trace (moment + 1)).world.bus.chain (walk first).signalRef.index ∧
        ∃ there, (trace (moment + 1)).world.bus.slotAt place = some there ∧
          there.handle ≠ slot.handle := by
    have member := coherent.cursors _ among resolved place (captured.trans next)
    rcases coherent.sane.slotAt_of_mem member with ⟨old, was⟩
    rcases stays place member old was with ⟨now, found, outlasts⟩
    refine ⟨signalRef ▸ grows.subset member, now, found, ?_⟩
    rw [outlasts.handle_eq]
    rw [signalRef] at member
    exact joins.handle_ne episode bound fromFirst later member was
  rw [Ahead, cursor, BehindCaptured]
  constructor
  · rintro ⟨place, next, link, found, order⟩
    rcases successor link with ⟨member, there, present, different⟩
    rw [found, Option.some.injEq] at present
    subst present
    refine ⟨place, link, (placedAfter_iff sane member found joins.present).mpr ?_⟩
    exact order.resolve_left different
  · rintro ⟨place, link, behind⟩
    rcases successor link with ⟨member, there, present, _⟩
    have before := (placedAfter_iff sane member present joins.present).mp behind
    exact ⟨place, there, link, present, Or.inr before⟩

/-- A slot that joins is called exactly if it is put behind the captured successor, is not removed
before it is read, and the emission comes to it. -/
theorem delivers_iff
    (joins : Joins below trace (walk first).signalRef read moment previous slot)
    (episode : Episode below trace walk first last)
    (start : first ≤ read)
    (bound : moment < last) :
    (∃ time, first ≤ time ∧ time ≤ last ∧ (trace time).Delivers below slot.handle) ↔
      (trace (moment + 1)).BehindCaptured (walk first).signalRef previous slot ∧
        ¬ RemovedUnread below trace (walk first).signalRef slot.handle (moment + 1) last ∧
        ¬ CutOff below trace walk slot.handle (moment + 1) last := by
  have fromFirst : first ≤ moment + 1 := Nat.le_succ_of_le (Nat.le_trans start joins.ordered)
  have part := episode.part fromFirst bound (Nat.le_refl _)
  have signalRef := episode.signalRef_eq (moment + 1) fromFirst bound
  rcases joins.stored with ⟨position, member, found⟩
  rw [← signalRef] at member
  -- nothing that the emission did before concerns the slot
  have shifted :
      (∃ time, first ≤ time ∧ time ≤ last ∧ (trace time).Delivers below slot.handle) ↔
        ∃ time, moment + 1 ≤ time ∧ time ≤ last ∧ (trace time).Delivers below slot.handle := by
    constructor
    · rintro ⟨time, low, high, delivers⟩
      refine ⟨time, ?_, high, delivers⟩
      by_contra early
      rcases delivers with ⟨read', reads, _, same⟩
      exact joins.unread episode bound time low (Nat.lt_of_not_le early) read' reads same
    · rintro ⟨time, low, high, delivers⟩
      exact ⟨time, Nat.le_trans fromFirst low, high, delivers⟩
  rw [shifted, ← joins.ahead_iff episode start bound]
  constructor
  · rintro ⟨time, low, high, delivers⟩
    have ahead := part.ahead_of_delivers member found low high delivers
    have both := (part.delivers_iff bound member found ahead).mp ⟨time, low, high, delivers⟩
    rw [signalRef] at both
    exact ⟨ahead, both⟩
  · rintro ⟨ahead, both⟩
    rw [← signalRef] at both
    exact (part.delivers_iff bound member found ahead).mpr both

end Joins

end SignalDispatch.Machine
