import SignalDispatch.Proofs.Machine.Progress
import SignalDispatch.Proofs.Machine.Representation

/-!
# What one emission delivers

`Machine.EmissionRun` is an emission from its start on, whatever its callbacks do in the meantime.
A live slot that is ahead of the emission is read and called, once, unless it is removed or the
emission ends before it comes to it; `Episode.delivers_iff` says so of any part of an emission, and
at its start every live slot is ahead.
-/

namespace SignalDispatch.Machine

/-- A live slot in the chain of a registration. -/
def LiveIn (machine : Machine) (signalRef : SignalRef) (slot : Slot) : Prop :=
  ∃ registry, machine.world.bus.registry = some registry ∧
    (registry.resolve? signalRef).isSome ∧ slot ∈ registry.slotsOf signalRef.index ∧
      slot.removed = false

/-- A registration has a live slot with a handle. -/
def HasLive (machine : Machine) (signalRef : SignalRef) (handle : Handle) : Prop :=
  ∃ slot, machine.LiveIn signalRef slot ∧ slot.handle = handle

/-- A slot is somewhere behind a position in the chain of a registration. -/
def PlacedAfter (machine : Machine) (signalRef : SignalRef) (place : Nat) (slot : Slot) : Prop :=
  ∃ registry passed rest, machine.world.bus.registry = some registry ∧
    registry.chain signalRef.index = passed ++ place :: rest ∧
      slot ∈ rest.filterMap registry.slots.get?

/-- The emission above `below` reads the live slot of a handle, and so calls it. -/
def Delivers (machine : Machine) (below : List Frame) (handle : Handle) : Prop :=
  ∃ slot, machine.Reads below slot ∧ slot.removed = false ∧ slot.handle = handle

/-! ## Live slots as the bus shows them -/

theorem liveIn_iff
    {machine : Machine}
    {signalRef : SignalRef}
    {slot : Slot}
    (live : machine.LiveIn signalRef slot) :
    machine.world.bus.Resolves signalRef ∧
      ∃ position ∈ machine.world.bus.chain signalRef.index,
        machine.world.bus.slotAt position = some slot.content ∧ slot.removed = false := by
  rcases live with ⟨registry, present, resolved, among, live⟩
  rcases List.mem_filterMap.mp among with ⟨position, member, stored⟩
  refine ⟨(Bus.resolves_iff present _).mpr resolved, position, ?_, ?_, live⟩
  · rw [Bus.chain_of_some present]
    exact member
  · exact Bus.slotAt_of_get? present stored

theorem hasLive_iff (machine : Machine) (signalRef : SignalRef) (handle : Handle) :
    machine.HasLive signalRef handle ↔
      machine.world.bus.Resolves signalRef ∧
        ∃ position ∈ machine.world.bus.chain signalRef.index, ∃ slot,
          machine.world.bus.slotAt position = some slot ∧ slot.removed = false ∧
            slot.handle = handle := by
  constructor
  · rintro ⟨slot, live, same⟩
    rcases liveIn_iff live with ⟨resolves, position, member, found, quick⟩
    exact ⟨resolves, position, member, slot.content, found, quick, same⟩
  · rintro ⟨resolves, position, member, content, found, live, same⟩
    cases present : machine.world.bus.registry with
    | none => exact absurd resolves (Bus.not_resolves_of_none present signalRef)
    | some registry =>
        rw [Bus.chain_of_some present] at member
        rw [Bus.slotAt_of_some present] at found
        rcases (Registry.contentAt_eq_some_iff _ _ _).mp found with ⟨slot, stored, rfl⟩
        refine ⟨slot, ⟨registry, present, (Bus.resolves_iff present _).mp resolves, ?_, live⟩,
          same⟩
        exact List.mem_filterMap.mpr ⟨position, member, stored⟩

/-- Behind a position in the chain are the slots that the slot there goes before. -/
theorem placedAfter_iff
    {machine : Machine}
    {signalRef : SignalRef}
    {place : Nat}
    {next slot : Slot}
    (sane : machine.world.bus.Sane)
    (member : place ∈ machine.world.bus.chain signalRef.index)
    (found : machine.world.bus.slotAt place = some next)
    (live : machine.LiveIn signalRef slot) :
    machine.PlacedAfter signalRef place slot ↔ next.Before slot := by
  rcases live with ⟨registry, present, _, among, _⟩
  rcases List.mem_filterMap.mp among with ⟨position, linked, stored⟩
  have chainEq := Bus.chain_of_some present signalRef.index
  constructor
  · rintro ⟨other, passed, rest, again, chain, behind⟩
    rw [present, Option.some.injEq] at again
    subst again
    rcases List.mem_filterMap.mp behind with ⟨later, inRest, kept⟩
    have there := Bus.slotAt_of_get? present kept
    have before := sane.before_of_mem_rest (chainEq.trans chain) inRest found there
    exact before
  · intro before
    rw [chainEq] at member
    rcases List.append_of_mem member with ⟨passed, rest, chain⟩
    refine ⟨registry, passed, rest, present, chain, ?_⟩
    rw [chain] at linked
    have content := Bus.slotAt_of_get? present stored
    rcases List.mem_append.mp linked with behind | here
    · have after := sane.before_of_mem_passed (chainEq.trans chain) behind found content
      exact absurd before after.asymm
    · rcases List.mem_cons.mp here with rfl | inRest
      · rw [content, Option.some.injEq] at found
        subst found
        exact absurd before (Slot.Before.irrefl slot)
      · exact List.mem_filterMap.mpr ⟨position, inRest, stored⟩

/-! ## Slots that are ahead -/

/-- The slot of a handle stops being live before the emission has read it. -/
def RemovedUnread
    (below : List Frame)
    (trace : Nat → Machine)
    (signalRef : SignalRef)
    (handle : Handle)
    (start last : Nat) : Prop :=
  ∃ time, start ≤ time ∧ time ≤ last ∧ ¬ (trace time).HasLive signalRef handle ∧
    Unread below trace handle start time

/-- The emission goes on and finds the end of its chain. -/
def Complete (trace : Nat → Machine) (walk : Nat → Walk) (last : Nat) : Prop :=
  (trace last).control = .proceed ∧ (walk last).cursor = none

/-- The emission does not come to the end of its chain, and not to the slot of a handle. -/
def CutOff
    (below : List Frame)
    (trace : Nat → Machine)
    (walk : Nat → Walk)
    (handle : Handle)
    (start last : Nat) : Prop :=
  ¬ Complete trace walk last ∧ Unread below trace handle start (last + 1)

namespace Episode

variable
  {below : List Frame}
  {trace : Nat → Machine}
  {walk : Nat → Walk}
  {first last : Nat}

/-- A slot that is read while it is live is a live slot of the registration. -/
theorem hasLive_of_delivers
    (episode : Episode below trace walk first last)
    {time : Nat}
    {handle : Handle}
    (start : first ≤ time)
    (bound : time ≤ last)
    (delivers : (trace time).Delivers below handle) :
    (trace time).HasLive (walk first).signalRef handle := by
  rcases delivers with ⟨slot, reads, live, same⟩
  rcases episode.reads_spec start bound reads with ⟨position, _, resolves, member, found⟩
  exact (hasLive_iff _ _ _).mpr
    ⟨resolves, position, member, slot.content, found, live, same⟩

/-- A slot that is live later was live before, if it was in the chain. -/
theorem hasLive_before
    (episode : Episode below trace walk first last)
    {time position : Nat}
    {slot : Slot}
    (start : first ≤ time)
    (bound : time ≤ last)
    (member : position ∈ (trace first).world.bus.chain (walk first).signalRef.index)
    (found : (trace first).world.bus.slotAt position = some slot)
    (live : (trace time).HasLive (walk first).signalRef slot.handle) :
    (trace first).HasLive (walk first).signalRef slot.handle ∧ slot.removed = false := by
  rcases (hasLive_iff _ _ _).mp live with ⟨resolves, place, _, later, there, quick, same⟩
  rcases episode.kept time start bound resolves with ⟨resolved, _, stays⟩
  rcases stays position member slot found with ⟨now, present, outlasts⟩
  have coherent := episode.run.coherent start bound
  have places := coherent.sane.handles_apart there present (same.trans outlasts.handle_eq.symm)
  subst places
  rw [present, Option.some.injEq] at there
  subst there
  have quickBefore := outlasts.live_of_live quick
  exact ⟨(hasLive_iff _ _ _).mpr ⟨resolved, place, member, slot, found, quickBefore, rfl⟩,
    quickBefore⟩

/-- No slot is read at two times. -/
theorem reads_unique
    (episode : Episode below trace walk first last)
    {time other : Nat}
    {slot found : Slot}
    (start : first ≤ time)
    (bound : time ≤ last)
    (start' : first ≤ other)
    (bound' : other ≤ last)
    (reads : (trace time).Reads below slot)
    (reads' : (trace other).Reads below found)
    (same : slot.handle = found.handle) :
    time = other := by
  rcases Nat.lt_trichotomy time other with earlier | equal | later
  · have part := episode.part start (Nat.le_of_lt earlier) bound'
    exact absurd same (part.reads_before earlier (Nat.le_refl _) reads reads').1
  · exact equal
  · have part := episode.part start' (Nat.le_of_lt later) bound
    exact absurd same.symm (part.reads_before later (Nat.le_refl _) reads' reads).1

/-- A slot of the chain that is live at one time was live at every time before. -/
theorem hasLive_until
    (episode : Episode below trace walk first last)
    {moment time position : Nat}
    {slot : Slot}
    (member : position ∈ (trace first).world.bus.chain (walk first).signalRef.index)
    (found : (trace first).world.bus.slotAt position = some slot)
    (start : first ≤ moment)
    (between : moment ≤ time)
    (bound : time ≤ last)
    (live : (trace time).HasLive (walk first).signalRef slot.handle) :
    (trace moment).HasLive (walk first).signalRef slot.handle := by
  have part := episode.part start between bound
  have signalRef := episode.signalRef_eq moment start (Nat.le_trans between bound)
  rw [← signalRef] at live
  have resolves := (part.kept time between (Nat.le_refl _) ((hasLive_iff _ _ _).mp live).1).1
  rw [signalRef] at resolves
  rcases episode.kept moment start (Nat.le_trans between bound) resolves with ⟨_, grows, stays⟩
  rcases stays position member slot found with ⟨now, present, outlasts⟩
  have there := grows.subset member
  rw [← outlasts.handle_eq] at live ⊢
  rw [← signalRef] at there ⊢
  exact (part.hasLive_before between (Nat.le_refl _) there present live).1

/-- A slot that is read after it was removed was removed before it was read. -/
theorem removedUnread_of_reads
    (episode : Episode below trace walk first last)
    {time : Nat}
    {slot : Slot}
    (start : first ≤ time)
    (bound : time ≤ last)
    (reads : (trace time).Reads below slot)
    (gone : slot.removed = true) :
    RemovedUnread below trace (walk first).signalRef slot.handle first last := by
  refine ⟨time, start, bound, ?_, ?_⟩
  · intro live
    rcases (hasLive_iff _ _ _).mp live with ⟨_, place, _, other, there, quick, same⟩
    rcases episode.reads_spec start bound reads with ⟨position, _, _, _, found⟩
    have places := (episode.run.coherent start bound).sane.handles_apart there found same
    subst places
    rw [there, Option.some.injEq] at found
    rw [found, Slot.content_removed, gone] at quick
    cases quick
  · intro moment low high other reads' same
    have equal := episode.reads_unique low (Nat.le_of_lt (Nat.lt_of_lt_of_le high bound)) start
      bound reads' reads same
    omega

/-- A live slot that is ahead is called, unless it is removed or the emission ends before. -/
theorem delivers_iff
    (episode : Episode below trace walk first last)
    (ordered : first ≤ last)
    {position : Nat}
    {slot : Slot}
    (member : position ∈ (trace first).world.bus.chain (walk first).signalRef.index)
    (found : (trace first).world.bus.slotAt position = some slot)
    (ahead : Ahead (trace first).world.bus (walk first) slot) :
    (∃ time, first ≤ time ∧ time ≤ last ∧ (trace time).Delivers below slot.handle) ↔
      ¬ RemovedUnread below trace (walk first).signalRef slot.handle first last ∧
        ¬ CutOff below trace walk slot.handle first last := by
  constructor
  · rintro ⟨time, start, bound, delivers⟩
    have delivered := delivers
    rcases delivered with ⟨read, reads, live, same⟩
    constructor
    · rintro ⟨gone, start', bound', dead, unread⟩
      rcases Nat.lt_or_ge time gone with before | after
      · exact unread time start before read reads same
      · have lively := episode.hasLive_of_delivers start bound delivers
        exact dead (episode.hasLive_until member found start' after bound lively)
    · rintro ⟨_, unread⟩
      exact unread time start (Nat.lt_succ_of_le bound) read reads same
  · rintro ⟨kept, goesOn⟩
    by_cases unread : Unread below trace slot.handle first (last + 1)
    · have complete : Complete trace walk last :=
        Classical.not_not.mp fun incomplete => goesOn ⟨incomplete, unread⟩
      have soFar : Unread below trace slot.handle first last :=
        fun time low high => unread time low (Nat.lt_succ_of_lt high)
      by_cases resolves : (trace last).world.bus.Resolves (walk first).signalRef
      · rcases (episode.kept last ordered (Nat.le_refl _) resolves).2.2 position member slot found
          with ⟨later, present, _⟩
        have still := (episode.ahead_iff member found last ordered (Nat.le_refl _) resolves later
          present).mpr ⟨ahead, soFar⟩
        rcases still with ⟨place, _, cursor, _⟩
        rw [complete.2] at cursor
        cases cursor
      · refine absurd ⟨last, ordered, Nat.le_refl _, ?_, soFar⟩ kept
        exact fun live => resolves ((hasLive_iff _ _ _).mp live).1
    · simp only [Unread, Classical.not_forall, Classical.not_not] at unread
      rcases unread with ⟨time, start, bound, read, reads, same⟩
      have inside := Nat.le_of_lt_succ bound
      refine ⟨time, start, inside, read, reads, ?_, same⟩
      cases marked : read.removed with
      | false => rfl
      | true =>
          have removed := episode.removedUnread_of_reads start inside reads marked
          rw [same] at removed
          exact absurd removed kept

/-- A slot of the chain that is called was ahead. -/
theorem ahead_of_delivers
    (episode : Episode below trace walk first last)
    {time position : Nat}
    {slot : Slot}
    (member : position ∈ (trace first).world.bus.chain (walk first).signalRef.index)
    (found : (trace first).world.bus.slotAt position = some slot)
    (start : first ≤ time)
    (bound : time ≤ last)
    (delivers : (trace time).Delivers below slot.handle) :
    Ahead (trace first).world.bus (walk first) slot := by
  rcases delivers with ⟨read, reads, _, same⟩
  rcases episode.reads_spec start bound reads with ⟨place, cursor, resolves, _, there⟩
  rcases (episode.kept time start bound resolves).2.2 position member slot found with
    ⟨now, present, outlasts⟩
  have places := (episode.run.coherent start bound).sane.handles_apart there present
    (same.trans outlasts.handle_eq.symm)
  subst places
  rw [there, Option.some.injEq] at present
  subst present
  exact ((episode.ahead_iff member found time start bound resolves _ there).mp
    (episode.ahead_of_reads start bound reads)).1

/-- A slot that is called is called once. -/
theorem existsUnique_iff
    (episode : Episode below trace walk first last)
    (handle : Handle) :
    (∃! time, (first ≤ time ∧ time ≤ last) ∧ (trace time).Delivers below handle) ↔
      ∃ time, first ≤ time ∧ time ≤ last ∧ (trace time).Delivers below handle := by
  constructor
  · rintro ⟨time, ⟨⟨start, bound⟩, delivers⟩, _⟩
    exact ⟨time, start, bound, delivers⟩
  · rintro ⟨time, start, bound, delivers⟩
    refine ⟨time, ⟨⟨start, bound⟩, delivers⟩, ?_⟩
    rintro other ⟨⟨start', bound'⟩, delivers'⟩
    rcases delivers with ⟨slot, reads, _, same⟩
    rcases delivers' with ⟨slot', reads', _, same'⟩
    exact episode.reads_unique start' bound' start bound reads' reads (same'.trans same.symm)

end Episode

/-! ## The start of an emission -/

/-- An emission that has just entered its signal is at the head of the chain. -/
theorem beginEmission_spec
    {machine started : Machine}
    {emission : Emission}
    {walk : Walk}
    (begun : machine.beginEmission emission = started)
    (hosts : started.Hosts machine.stack walk)
    (coherent : Coherent started.world.bus started.walks) :
    started.stack = .walk walk :: machine.stack ∧ started.control = .proceed ∧
      walk.running = none ∧ started.world.bus.Resolves walk.signalRef ∧
      walk.cursor = (started.world.bus.chain walk.signalRef.index).head? := by
  rw [beginEmission] at begun
  cases present : machine.world.bus.registry with
  | none =>
      simp only [present] at begun
      subst begun
      exact absurd rfl (hosts.walk?_ne_none rfl)
  | some registry =>
      cases entered : registry.beginEmission emission.name with
      | error fault =>
          simp only [present, entered] at begun
          subst begun
          exact absurd rfl (hosts.walk?_ne_none rfl)
      | ok result =>
          rcases result with ⟨next, signalRef, head⟩
          simp only [present, entered] at begun
          subst begun
          have same := hosts.walk_eq_innermost rfl
          subst same
          rcases Registry.beginEmission_signal entered with ⟨signal, stored, serial, head⟩
          refine ⟨rfl, rfl, rfl, ?_, ?_⟩
          · refine ⟨(Registry.entered signal).content, ?_, serial⟩
            exact Registry.signalAt_of_get? stored
          · have formed := (coherent.sane.registry rfl).formed
            have start := formed.head_eq stored
            exact head.symm.trans start

/-- An emission from its start on. -/
structure EmissionRun
    (below : List Frame)
    (trace : Nat → Machine)
    (walk : Nat → Walk)
    (last : Nat) : Prop where
  /-- The emission has just entered its signal. -/
  begun :
    ∃ (machine : Machine) (emission : Emission),
      machine.stack = below ∧ machine.beginEmission emission = trace 0
  episode : Episode below trace walk 0 last

namespace EmissionRun

variable {below : List Frame} {trace : Nat → Machine} {walk : Nat → Walk} {last : Nat}

theorem start_spec (emission : EmissionRun below trace walk last) :
    (trace 0).stack = .walk (walk 0) :: below ∧ (trace 0).control = .proceed ∧
      (walk 0).running = none ∧ (trace 0).world.bus.Resolves (walk 0).signalRef ∧
      (walk 0).cursor = ((trace 0).world.bus.chain (walk 0).signalRef.index).head? := by
  rcases emission.begun with ⟨machine, request, rfl, begun⟩
  exact beginEmission_spec begun
    (emission.episode.hosts 0 (Nat.le_refl _) (Nat.zero_le _))
    (emission.episode.run.coherent (Nat.le_refl _) (Nat.zero_le _))

/-- At the start every slot is ahead. -/
theorem ahead_at_start
    (emission : EmissionRun below trace walk last)
    {position : Nat}
    {slot : Slot}
    (member : position ∈ (trace 0).world.bus.chain (walk 0).signalRef.index)
    (found : (trace 0).world.bus.slotAt position = some slot) :
    Ahead (trace 0).world.bus (walk 0) slot := by
  have sane := (emission.episode.run.coherent (Nat.le_refl _) (Nat.zero_le _)).sane
  rcases emission.start_spec with ⟨_, _, _, _, cursor⟩
  cases chain : (trace 0).world.bus.chain (walk 0).signalRef.index with
  | nil =>
      rw [chain] at member
      cases member
  | cons first rest =>
      have linked : first ∈ (trace 0).world.bus.chain (walk 0).signalRef.index := by
        rw [chain]
        exact List.mem_cons_self
      rcases sane.slotAt_of_mem linked with ⟨head, present⟩
      rw [chain] at cursor member
      refine ⟨first, head, cursor, present, ?_⟩
      rcases List.mem_cons.mp member with rfl | inside
      · rw [found, Option.some.injEq] at present
        exact Or.inl (congrArg Slot.handle present.symm)
      · have split : (trace 0).world.bus.chain (walk 0).signalRef.index = [] ++ first :: rest :=
          chain
        exact Or.inr (sane.before_of_mem_rest split inside present found)

/-- The first move of an emission reads, unless there is nothing to read. -/
theorem reads_at_start
    (emission : EmissionRun below trace walk last)
    {position : Nat}
    (cursor : (walk 0).cursor = some position) :
    ∃ slot, (trace 0).Reads below slot := by
  have coherent := emission.episode.run.coherent (Nat.le_refl _) (Nat.zero_le _)
  have hosts := emission.episode.hosts 0 (Nat.le_refl _) (Nat.zero_le _)
  rcases emission.start_spec with ⟨stack, proceeds, ready, resolves, _⟩
  rcases slot_of_cursor coherent hosts.mem_walks resolves cursor with
    ⟨registry, slot, present, resolved, stored⟩
  exact ⟨slot, walk 0, position, registry, stack, proceeds, ready, cursor, present, resolved,
    stored⟩

end EmissionRun

end SignalDispatch.Machine
