import SignalDispatch.Proofs.Machine.Episode

/-!
# How far an emission has come

A slot is ahead of a walk when it is at the cursor or comes after it.  This does not depend on
positions or links, only on the order of slots, so a slot stays ahead, or stays behind, whatever
user code does to the chain; only by being read does a slot fall behind.

So along an episode a slot of the chain is ahead exactly if it was ahead before and has not been
read since.  The order of reading and its completeness both follow from this.
-/

namespace SignalDispatch.Machine

/-- A slot that a walk has not come to yet. -/
def Ahead (bus : Bus) (walk : Walk) (slot : Slot) : Prop :=
  ∃ position next,
    walk.cursor = some position ∧ bus.slotAt position = some next ∧
      (next.handle = slot.handle ∨ next.Before slot)

/-- What comes after the cursor is what is ahead, the slot at the cursor apart. -/
theorem ahead_step
    {bus : Bus}
    {walk later : Walk}
    {index position other : Nat}
    {passed rest : List Nat}
    {next slot : Slot}
    (sane : bus.Sane)
    (chain : bus.chain index = passed ++ position :: rest)
    (cursor : walk.cursor = some position)
    (onwards : later.cursor = rest.head?)
    (found : bus.slotAt position = some next)
    (member : other ∈ bus.chain index)
    (stored : bus.slotAt other = some slot) :
    Ahead bus later slot ↔ Ahead bus walk slot ∧ slot.handle ≠ next.handle := by
  constructor
  · rintro ⟨place, content, reading, there, order⟩
    rw [onwards] at reading
    have inRest : place ∈ rest := List.mem_of_mem_head? (Option.mem_def.mpr reading)
    have before := sane.before_of_mem_rest chain inRest found there
    have after : next.Before slot := by
      rcases order with same | order
      · have places := sane.handles_apart there stored same
        subst places
        rw [there, Option.some.injEq] at stored
        exact stored ▸ before
      · exact before.trans order
    refine ⟨⟨position, next, cursor, found, Or.inr after⟩, ?_⟩
    intro same
    have places := sane.handles_apart stored found same
    subst places
    rw [found, Option.some.injEq] at stored
    exact Slot.Before.irrefl next (stored.symm ▸ after)
  · rintro ⟨⟨place, content, reading, there, order⟩, different⟩
    rw [cursor, Option.some.injEq] at reading
    subst reading
    rw [found, Option.some.injEq] at there
    subst there
    have after : next.Before slot := order.resolve_left fun same => different same.symm
    have linked := member
    rw [chain] at linked
    rcases List.mem_append.mp linked with behind | here
    · exact absurd after (sane.before_of_mem_passed chain behind found stored).asymm
    · rcases List.mem_cons.mp here with rfl | inRest
      · rw [stored, Option.some.injEq] at found
        exact absurd (congrArg Slot.handle found) different
      · cases rest with
        | nil => cases inRest
        | cons first rest =>
            have linked : first ∈ bus.chain index := by
              rw [chain]
              simp
            rcases sane.slotAt_of_mem linked with ⟨head, headFound⟩
            refine ⟨first, head, onwards, headFound, ?_⟩
            rcases List.mem_cons.mp inRest with rfl | inside
            · rw [stored, Option.some.injEq] at headFound
              exact Or.inl (congrArg Slot.handle headFound.symm)
            · have split : bus.chain index = (passed ++ [position]) ++ first :: rest := by
                rw [chain, List.append_assoc]
                rfl
              exact Or.inr (sane.before_of_mem_rest split inside headFound stored)

/-- The emission above `below` has not read the slot of a handle between two times. -/
def Unread
    (below : List Frame)
    (trace : Nat → Machine)
    (handle : Handle)
    (start finish : Nat) : Prop :=
  ∀ time, start ≤ time → time < finish → ∀ slot, (trace time).Reads below slot →
    slot.handle ≠ handle

namespace Episode

variable
  {below : List Frame}
  {trace : Nat → Machine}
  {walk : Nat → Walk}
  {first last : Nat}

/-- What is read is in the chain of the registration, at the cursor. -/
theorem reads_spec
    (episode : Episode below trace walk first last)
    {time : Nat}
    {slot : Slot}
    (start : first ≤ time)
    (bound : time ≤ last)
    (reads : (trace time).Reads below slot) :
    ∃ position,
      (walk time).cursor = some position ∧
        (trace time).world.bus.Resolves (walk first).signalRef ∧
        position ∈ (trace time).world.bus.chain (walk first).signalRef.index ∧
        (trace time).world.bus.slotAt position = some slot.content := by
  have hosts := episode.hosts time start bound
  have coherent := episode.run.coherent start bound
  have signalRef := episode.signalRef_eq time start bound
  rcases reads with
    ⟨reader, position, registry, stack, _, _, cursor, present, resolved, stored⟩
  have same := hosts.walk_eq_innermost stack
  subst same
  rcases next_of_cursor coherent hosts.mem_walks cursor present resolved stored with
    ⟨resolves, content, passed, rest, chain, _⟩
  rw [signalRef] at resolves chain
  refine ⟨position, cursor, resolves, ?_, content⟩
  rw [chain]
  simp

/-- During one move a slot of the chain falls behind exactly if it is read. -/
theorem ahead_move
    (episode : Episode below trace walk first last)
    {time position : Nat}
    {slot later : Slot}
    (start : first ≤ time)
    (bound : time < last)
    (resolves : (trace (time + 1)).world.bus.Resolves (walk first).signalRef)
    (member : position ∈ (trace time).world.bus.chain (walk first).signalRef.index)
    (found : (trace time).world.bus.slotAt position = some slot)
    (found' : (trace (time + 1)).world.bus.slotAt position = some later) :
    Ahead (trace (time + 1)).world.bus (walk (time + 1)) later ↔
      Ahead (trace time).world.bus (walk time) slot ∧
        Unread below trace slot.handle time (time + 1) := by
  have coherent := episode.run.coherent start (Nat.le_of_lt bound)
  have signalRef := episode.signalRef_eq time start (Nat.le_of_lt bound)
  have among := (episode.hosts time start (Nat.le_of_lt bound)).mem_walks
  rcases episode.kept_step start bound resolves with ⟨resolved, _, stays⟩
  have outlasts : later.Outlasts slot := by
    rcases stays position member slot found with ⟨other, again, outlasts⟩
    rw [found', Option.some.injEq] at again
    exact again ▸ outlasts
  cases (episode.follows start bound).2 with
  | quiet silent same =>
      have unread : Unread below trace slot.handle time (time + 1) := by
        intro moment low high other reads
        have now : moment = time := by omega
        subst now
        exact absurd reads (silent other)
      refine Iff.trans ?_ (and_iff_left unread).symm
      rw [Ahead, Ahead, same]
      constructor
      · rintro ⟨place, next, cursor, there, order⟩
        have inChain := coherent.cursors _ among (signalRef.symm ▸ resolved) place cursor
        rw [signalRef] at inChain
        rcases coherent.sane.slotAt_of_mem inChain with ⟨old, was⟩
        rcases stays place inChain old was with ⟨other, again, kept⟩
        rw [there, Option.some.injEq] at again
        subst again
        refine ⟨place, old, cursor, was, ?_⟩
        rw [← kept.handle_eq, ← outlasts.handle_eq, ← kept.before_iff outlasts]
        exact order
      · rintro ⟨place, next, cursor, there, order⟩
        have inChain := coherent.cursors _ among (signalRef.symm ▸ resolved) place cursor
        rw [signalRef] at inChain
        rcases stays place inChain next there with ⟨other, again, kept⟩
        refine ⟨place, other, cursor, again, ?_⟩
        rw [kept.handle_eq, outlasts.handle_eq, kept.before_iff outlasts]
        exact order
  | @read current place passed rest reads cursor chain content link onwards same =>
      rw [same] at found' ⊢
      rw [found, Option.some.injEq] at found'
      subst found'
      rw [signalRef] at chain
      rw [ahead_step coherent.sane chain cursor (onwards.trans link) content member found]
      refine and_congr_right fun _ => ?_
      constructor
      · intro different moment low high other reads'
        have now : moment = time := by omega
        subst now
        rw [reads'.slot_eq reads]
        exact different.symm
      · intro unread equal
        exact unread time (Nat.le_refl _) (Nat.lt_succ_self _) current reads equal.symm

/-- A slot of the chain is ahead exactly if it was ahead before and has not been read since. -/
theorem ahead_iff
    (episode : Episode below trace walk first last)
    {position : Nat}
    {slot : Slot}
    (member : position ∈ (trace first).world.bus.chain (walk first).signalRef.index)
    (found : (trace first).world.bus.slotAt position = some slot) :
    ∀ time, first ≤ time → time ≤ last →
      (trace time).world.bus.Resolves (walk first).signalRef →
        ∀ later, (trace time).world.bus.slotAt position = some later →
          (Ahead (trace time).world.bus (walk time) later ↔
            Ahead (trace first).world.bus (walk first) slot ∧
              Unread below trace slot.handle first time) := by
  intro time start
  induction time, start using Nat.le_induction with
  | base =>
      intro _ _ later found'
      rw [found, Option.some.injEq] at found'
      subst found'
      refine (and_iff_left ?_).symm
      intro moment low high
      omega
  | succ time start ih =>
      intro bound resolves later found'
      have earlier := Nat.le_of_succ_le bound
      have before := (episode.kept_step start bound resolves).1
      rcases episode.kept time start earlier before with ⟨_, grew, stayed⟩
      rcases stayed position member slot found with ⟨middle, present, outlasts⟩
      rw [episode.ahead_move start bound resolves (grew.subset member) present found',
        ih earlier before middle present, outlasts.handle_eq, and_assoc]
      refine and_congr_right fun _ => ?_
      constructor
      · rintro ⟨unread, now⟩ moment low high
        rcases Nat.lt_succ_iff_lt_or_eq.mp high with past | rfl
        · exact unread moment low past
        · exact now moment (Nat.le_refl _) (Nat.lt_succ_self _)
      · intro unread
        exact ⟨fun moment low high => unread moment low (Nat.lt_succ_of_lt high),
          fun moment low high => unread moment (Nat.le_trans start low) high⟩

/-- A slot that is read is ahead. -/
theorem ahead_of_reads
    (episode : Episode below trace walk first last)
    {time : Nat}
    {slot : Slot}
    (start : first ≤ time)
    (bound : time ≤ last)
    (reads : (trace time).Reads below slot) :
    Ahead (trace time).world.bus (walk time) slot.content := by
  rcases episode.reads_spec start bound reads with ⟨position, cursor, _, _, content⟩
  exact ⟨position, slot.content, cursor, content, Or.inl rfl⟩

/-- Slots are read in their order, higher priority first, then earlier connection, and none is
read twice. -/
theorem reads_before
    (episode : Episode below trace walk first last)
    {time : Nat}
    {slot later : Slot}
    (ordered : first < time)
    (bound : time ≤ last)
    (reads : (trace first).Reads below slot)
    (reads' : (trace time).Reads below later) :
    slot.handle ≠ later.handle ∧ slot.Before later := by
  have start := Nat.le_of_lt ordered
  rcases episode.reads_spec (Nat.le_refl _) (Nat.le_trans start bound) reads with
    ⟨position, _, _, member, found⟩
  rcases episode.reads_spec start bound reads' with ⟨place, cursor, resolves, _, there⟩
  rcases (episode.kept time start bound resolves).2.2 position member _ found with
    ⟨now, present, outlasts⟩
  have behind : ¬ Ahead (trace time).world.bus (walk time) now := by
    rw [episode.ahead_iff member found time start bound resolves now present]
    rintro ⟨_, unread⟩
    exact unread first (Nat.le_refl _) ordered slot reads rfl
  have different : now.handle ≠ later.content.handle :=
    fun same => behind ⟨place, later.content, cursor, there, Or.inl same.symm⟩
  have before : now.Before later.content :=
    (Slot.Before.total different).resolve_right fun after =>
      behind ⟨place, later.content, cursor, there, Or.inr after⟩
  rw [outlasts.before_iff (.refl later.content)] at before
  rw [outlasts.handle_eq] at different
  exact ⟨different, before⟩

end Episode

end SignalDispatch.Machine
