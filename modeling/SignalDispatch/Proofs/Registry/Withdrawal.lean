import SignalDispatch.Proofs.Registry.WellFormed
import SignalDispatch.Registry.Removal

/-!
# What leaves a registry

Slots leave in two ways.  From an idle signal they are detached: they go out of the chain and out
of storage at once.  In a signal that is being emitted they are buried: they stay where they are
and are marked as tombstones, until a sweep detaches them.

`Detaches` and `Buries` say what the two ways change in the three maps of a registry, for any
set of slots of one signal; each operation that removes slots is one of them, and both keep a
registry well formed.
-/

namespace SignalDispatch

/-- A slot marked as a tombstone. -/
def Slot.buried (slot : Slot) : Slot :=
  { slot with removed := true }

namespace Registry

/-! ## Slots that go out of storage -/

/-- Relinking a chain along what is kept of it, and taking the rest out of storage. -/
theorem Chained.detach
    {registry : Registry}
    (chained : registry.Chained registry.chain)
    (sound : registry.slots.Sound)
    {index : Nat}
    {signal : Signal}
    (registered : registry.signals.get? index = some signal)
    {kept gone : List Nat}
    (sublist : kept.Sublist (registry.chain index))
    (distinct : gone.Nodup)
    (parts :
      ∀ position, position ∈ gone ↔ position ∈ registry.chain index ∧ position ∉ kept) :
    let relinked := registry.relink index kept
    ({ relinked with slots := (relinked.slots.removeAll gone).2 } : Registry).Chained
        (Function.update registry.chain index kept) ∧
      (relinked.slots.removeAll gone).2.Sound ∧
      (relinked.slots.removeAll gone).1.map Slot.content = contentsOf registry.slots gone ∧
      ∀ position,
        contentAt (relinked.slots.removeAll gone).2 position =
          if position ∈ gone then none else contentAt registry.slots position := by
  intro relinked
  have linked : relinked.Chained (Function.update registry.chain index kept) := by
    refine chained.relink registered ((chained.distinct index).sublist sublist) ?_ ?_
    · exact fun position member => chained.stored (sublist.subset member)
    · exact fun position member other elsewhere =>
        chained.apart elsewhere (sublist.subset member)
  have stored (position : Nat) (member : position ∈ gone) :
      (relinked.slots.get? position).isSome := by
    rw [← isSome_contentAt, contentAt_relink, isSome_contentAt]
    exact chained.stored ((parts position).mp member).1
  have threaded : relinked.slots.Sound := sound_thread sound kept
  rcases Arena.removeAll_spec distinct stored with ⟨values, soundAfter, view⟩
  refine ⟨?_, soundAfter threaded, ?_, ?_⟩
  · refine linked.of_slots rfl ?_
    intro other position member
    change ((relinked.slots.removeAll gone).2.get? position).map Slot.next = _
    rw [view, if_neg]
    intro inside
    rcases (parts position).mp inside with ⟨inChain, outside⟩
    by_cases same : other = index
    · rw [same, Function.update_self] at member
      exact outside member
    · rw [Function.update_of_ne same] at member
      exact same (chained.apart member inChain)
  · rw [values, List.map_filterMap]
    exact contentsOf_congr fun position _ => contentAt_relink registry index kept position
  · intro position
    rw [contentAt, view]
    split
    · rfl
    · exact contentAt_relink registry index kept position

/-- Slots of one signal go out of its chain and out of storage; the rest of the chain is kept. -/
structure Detaches
    (before after : Registry)
    (index : Nat)
    (change : Signal → Signal)
    (kept gone : List Nat) : Prop where
  sublist : kept.Sublist (before.chain index)
  parts :
    ∀ position, position ∈ gone ↔ position ∈ before.chain index ∧ position ∉ kept
  signals :
    ∀ other,
      after.signalAt other =
        if index = other then (before.signalAt other).map change else before.signalAt other
  slots :
    ∀ position,
      contentAt after.slots position =
        if position ∈ gone then none else contentAt before.slots position
  chain : after.chain = Function.update before.chain index kept

/-- A change of a signal's counters. -/
def Recounts (change : Signal → Signal) : Prop :=
  ∀ signal,
    (change signal).name = signal.name ∧ (change signal).serial = signal.serial ∧
      (change signal).emitting = signal.emitting

/-- A signal found after a recount was there before, with the same name and serial. -/
theorem Recounts.signal_before
    {change : Signal → Signal}
    (recounts : Recounts change)
    {before after : Registry}
    {index : Nat}
    (signals :
      ∀ other,
        after.signalAt other =
          if index = other then (before.signalAt other).map change else before.signalAt other)
    {other : Nat}
    {found : Signal}
    (present : after.signalAt other = some found) :
    ∃ earlier, before.signalAt other = some earlier ∧ found.name = earlier.name ∧
      found.serial = earlier.serial ∧
      found = if index = other then change earlier else earlier := by
  rw [signals] at present
  split at present
  next same =>
    rcases Option.map_eq_some_iff.mp present with ⟨earlier, registered, rfl⟩
    rcases recounts earlier with ⟨name, serial, _⟩
    exact ⟨earlier, registered, name, serial, by rw [if_pos same]⟩
  next different => exact ⟨found, present, rfl, rfl, by rw [if_neg different]⟩

/-- A recount lets no two signals have one name, or one serial. -/
theorem Recounts.apart
    {change : Signal → Signal}
    (recounts : Recounts change)
    {before after : Registry}
    (formed : before.WellFormed)
    {index : Nat}
    (signals :
      ∀ other,
        after.signalAt other =
          if index = other then (before.signalAt other).map change else before.signalAt other)
    {left right : Nat}
    {first second : Signal}
    (leftPresent : after.signalAt left = some first)
    (rightPresent : after.signalAt right = some second)
    (same : first.name = second.name ∨ first.serial = second.serial) :
    left = right := by
  rcases recounts.signal_before signals leftPresent with ⟨_, leftFound, leftName, leftSerial, _⟩
  rcases recounts.signal_before signals rightPresent with
    ⟨_, rightFound, rightName, rightSerial, _⟩
  rcases same with name | serial
  · exact formed.names_apart leftFound rightFound (leftName.symm.trans (name.trans rightName))
  · exact formed.serials_apart leftFound rightFound
      (leftSerial.symm.trans (serial.trans rightSerial))

namespace Detaches

variable {before after : Registry} {index : Nat} {change : Signal → Signal} {kept gone : List Nat}

/-- The contents kept are those along the positions kept; other signals keep theirs. -/
theorem contents_eq
    (detaches : Detaches before after index change kept gone)
    (formed : before.WellFormed)
    (other : Nat) :
    after.contents other =
      if index = other then contentsOf before.slots kept else before.contents other := by
  rw [contents, detaches.chain]
  split
  next same =>
    subst same
    rw [Function.update_self]
    refine contentsOf_congr ?_
    intro position member
    rw [detaches.slots, if_neg]
    exact fun inside => ((detaches.parts position).mp inside).2 member
  next different =>
    rw [Function.update_of_ne (Ne.symm different)]
    refine contentsOf_congr ?_
    intro position member
    rw [detaches.slots, if_neg]
    intro inside
    exact different (formed.chained.apart ((detaches.parts position).mp inside).1 member)

/-- A slot found afterwards was there before. -/
theorem slot_before
    (detaches : Detaches before after index change kept gone)
    {position : Nat}
    {slot : Slot}
    (found : contentAt after.slots position = some slot) :
    position ∉ gone ∧ contentAt before.slots position = some slot := by
  rw [detaches.slots] at found
  split at found
  · cases found
  next outside => exact ⟨outside, found⟩

end Detaches

/-- Relinking along what is kept, taking the rest out of storage and recounting detaches. -/
theorem WellFormed.detaches
    {before after : Registry}
    (formed : before.WellFormed)
    {index : Nat}
    {signal : Signal}
    (registered : before.signals.get? index = some signal)
    {change : Signal → Signal}
    {kept gone : List Nat}
    (sublist : kept.Sublist (before.chain index))
    (distinct : gone.Nodup)
    (parts :
      ∀ position, position ∈ gone ↔ position ∈ before.chain index ∧ position ∉ kept)
    (slots : after.slots = ((before.relink index kept).slots.removeAll gone).2)
    (heads :
      ∀ other,
        (after.signals.get? other).map Signal.head =
          ((before.relink index kept).signals.get? other).map Signal.head)
    (signals :
      ∀ other,
        after.signalAt other =
          if index = other then (before.signalAt other).map change else before.signalAt other) :
    Detaches before after index change kept gone ∧ after.slots.Sound ∧
      after.Chained after.chain := by
  rcases formed.chained.detach formed.slots_sound registered sublist distinct parts with
    ⟨linked, sound, _, view⟩
  have chained : after.Chained (Function.update before.chain index kept) :=
    linked.of_signals slots heads
  have chain := chained.chain_eq
  refine ⟨⟨sublist, parts, signals, ?_, chain⟩, slots ▸ sound, chain ▸ chained⟩
  intro position
  rw [slots]
  exact view position

/-- Detaching slots keeps a registry well formed if the counters are set to what is kept. -/
theorem WellFormed.detach
    {before after : Registry}
    (formed : before.WellFormed)
    {index : Nat}
    {change : Signal → Signal}
    {kept gone : List Nat}
    (detaches : Detaches before after index change kept gone)
    (recounts : Recounts change)
    (signalsSound : after.signals.Sound)
    (slotsSound : after.slots.Sound)
    (chained : after.Chained after.chain)
    (live :
      ∀ signal, before.signalAt index = some signal →
        (change signal).live =
          (contentsOf before.slots kept).countP fun slot => !slot.removed)
    (tombstones :
      ∀ signal, before.signalAt index = some signal →
        (change signal).tombstones = (contentsOf before.slots kept).countP Slot.removed) :
    after.WellFormed := by
  have contents := detaches.contents_eq formed
  refine .of_chained chained signalsSound slotsSound ?_ ?_ ?_ ?_ ?_ ?_ ?_
  · intro position present
    rcases Option.isSome_iff_exists.mp present with ⟨slot, found⟩
    rcases detaches.slot_before found with ⟨outside, earlier⟩
    rcases formed.covered (Option.isSome_of_eq_some earlier) with ⟨other, member⟩
    refine ⟨other, ?_⟩
    rw [detaches.chain]
    by_cases same : other = index
    · subst same
      rw [Function.update_self]
      by_contra dropped
      exact outside ((detaches.parts position).mpr ⟨member, dropped⟩)
    · rw [Function.update_of_ne same]
      exact member
  · intro other
    refine (congrArg _ (contents other)).mpr ?_
    split
    · exact (formed.ordered index).sublist (contentsOf_sublist detaches.sublist)
    · exact formed.ordered other
  · intro other found present
    rcases recounts.signal_before detaches.signals present with ⟨earlier, registered, _, _, changed⟩
    refine Eq.trans ?_ (congrArg _ (contents other)).symm
    rw [changed]
    split
    next same => exact live earlier (same ▸ registered)
    next => exact formed.live_eq registered
  · intro other found present
    rcases recounts.signal_before detaches.signals present with ⟨earlier, registered, _, _, changed⟩
    refine Eq.trans ?_ (congrArg _ (contents other)).symm
    rw [changed]
    split
    next same => exact tombstones earlier (same ▸ registered)
    next => exact formed.tombstones_eq registered
  · intro left right first second leftPresent rightPresent same
    exact recounts.apart formed detaches.signals leftPresent rightPresent (Or.inl same)
  · intro left right first second leftPresent rightPresent same
    exact recounts.apart formed detaches.signals leftPresent rightPresent (Or.inr same)
  · intro left right first second leftFound rightFound
    exact formed.handles_apart (detaches.slot_before leftFound).2
      (detaches.slot_before rightFound).2

/-! ## Slots that become tombstones -/

/-- Slots of one signal are marked as tombstones and stay in its chain. -/
structure Buries
    (before after : Registry)
    (index : Nat)
    (change : Signal → Signal)
    (marked : List Nat) : Prop where
  subset : marked ⊆ before.chain index
  signals :
    ∀ other,
      after.signalAt other =
        if index = other then (before.signalAt other).map change else before.signalAt other
  slots :
    ∀ position,
      contentAt after.slots position =
        if position ∈ marked then (contentAt before.slots position).map Slot.buried
        else contentAt before.slots position
  chain : after.chain = before.chain

/-- A slot found after a burial was there before, perhaps not yet as a tombstone. -/
theorem Buries.slot_before
    {before after : Registry}
    {index : Nat}
    {change : Signal → Signal}
    {marked : List Nat}
    (buries : Buries before after index change marked)
    {position : Nat}
    {slot : Slot}
    (found : contentAt after.slots position = some slot) :
    ∃ earlier, contentAt before.slots position = some earlier ∧
      slot = if position ∈ marked then earlier.buried else earlier := by
  rw [buries.slots] at found
  split at found
  next inside =>
    rcases Option.map_eq_some_iff.mp found with ⟨earlier, present, rfl⟩
    exact ⟨earlier, present, by rw [if_pos inside]⟩
  next outside => exact ⟨slot, found, by rw [if_neg outside]⟩

/-- A burial leaves what a slot is known by. -/
theorem Buries.slot_same
    {before after : Registry}
    {index : Nat}
    {change : Signal → Signal}
    {marked : List Nat}
    (buries : Buries before after index change marked)
    {position : Nat}
    {slot : Slot}
    (found : contentAt after.slots position = some slot) :
    ∃ earlier, contentAt before.slots position = some earlier ∧
      slot.handle = earlier.handle ∧ slot.priority = earlier.priority ∧
      slot.callback = earlier.callback ∧ slot.context = earlier.context ∧
      (earlier.removed = true → slot.removed = true) := by
  rcases buries.slot_before found with ⟨earlier, present, same⟩
  refine ⟨earlier, present, ?_⟩
  split at same
  · subst same
    exact ⟨rfl, rfl, rfl, rfl, fun _ => rfl⟩
  · subst same
    exact ⟨rfl, rfl, rfl, rfl, id⟩

/-- Signals other than the one of the tombstones keep their contents. -/
theorem Buries.contents_of_ne
    {before after : Registry}
    {index other : Nat}
    {change : Signal → Signal}
    {marked : List Nat}
    (buries : Buries before after index change marked)
    (formed : before.WellFormed)
    (different : index ≠ other) :
    after.contents other = before.contents other := by
  rw [contents, buries.chain]
  refine contentsOf_congr ?_
  intro position member
  rw [buries.slots, if_neg]
  exact fun inside => different (formed.chained.apart (buries.subset inside) member)

/-- When the whole chain is buried, so are all its contents. -/
theorem Buries.contents_of_all
    {before after : Registry}
    {index : Nat}
    {change : Signal → Signal}
    {marked : List Nat}
    (buries : Buries before after index change marked)
    (all : marked = before.chain index) :
    after.contents index = (before.contents index).map Slot.buried := by
  subst all
  rw [contents, buries.chain, contents, contentsOf, contentsOf, List.map_filterMap]
  refine List.filterMap_congr ?_
  intro position member
  rw [buries.slots, if_pos member]

/-- Burying slots keeps a registry well formed if the counters are set to what is live. -/
theorem WellFormed.bury
    {before after : Registry}
    (formed : before.WellFormed)
    {index : Nat}
    {change : Signal → Signal}
    {marked : List Nat}
    (buries : Buries before after index change marked)
    (recounts : Recounts change)
    (signalsSound : after.signals.Sound)
    (slotsSound : after.slots.Sound)
    (chained : after.Chained after.chain)
    (live :
      ∀ signal, before.signalAt index = some signal →
        (change signal).live = (after.contents index).countP fun slot => !slot.removed)
    (tombstones :
      ∀ signal, before.signalAt index = some signal →
        (change signal).tombstones = (after.contents index).countP Slot.removed) :
    after.WellFormed := by
  refine .of_chained chained signalsSound slotsSound ?_ ?_ ?_ ?_ ?_ ?_ ?_
  · intro position present
    rcases Option.isSome_iff_exists.mp present with ⟨slot, found⟩
    rcases buries.slot_before found with ⟨earlier, stored, _⟩
    rw [buries.chain]
    exact formed.covered (Option.isSome_of_eq_some stored)
  · intro other
    have ordered := formed.ordered other
    rw [contents, contentsOf, List.pairwise_filterMap] at ordered
    rw [buries.chain, contentsOf, List.pairwise_filterMap]
    refine ordered.imp ?_
    intro left right before first firstFound second secondFound
    rcases buries.slot_same firstFound with ⟨earlier, stored, handle, priority, _⟩
    rcases buries.slot_same secondFound with ⟨earlier', stored', handle', priority', _⟩
    rw [Slot.Before, handle, priority, handle', priority']
    exact before earlier stored earlier' stored'
  · intro other found present
    rcases recounts.signal_before buries.signals present with ⟨earlier, registered, _, _, changed⟩
    rw [changed]
    split
    next same =>
      subst same
      exact live earlier registered
    next different =>
      refine (formed.live_eq registered).trans (congrArg _ ?_)
      exact (buries.contents_of_ne formed different).symm
  · intro other found present
    rcases recounts.signal_before buries.signals present with ⟨earlier, registered, _, _, changed⟩
    rw [changed]
    split
    next same =>
      subst same
      exact tombstones earlier registered
    next different =>
      refine (formed.tombstones_eq registered).trans (congrArg _ ?_)
      exact (buries.contents_of_ne formed different).symm
  · intro left right first second leftPresent rightPresent same
    exact recounts.apart formed buries.signals leftPresent rightPresent (Or.inl same)
  · intro left right first second leftPresent rightPresent same
    exact recounts.apart formed buries.signals leftPresent rightPresent (Or.inr same)
  · intro left right first second leftFound rightFound same
    rcases buries.slot_same leftFound with ⟨_, leftStored, leftHandle, _⟩
    rcases buries.slot_same rightFound with ⟨_, rightStored, rightHandle, _⟩
    exact formed.handles_apart leftStored rightStored
      (leftHandle.symm.trans (same.trans rightHandle))

end Registry

end SignalDispatch
