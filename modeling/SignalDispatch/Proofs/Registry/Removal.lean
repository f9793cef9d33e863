import Mathlib.Data.List.Nodup
import SignalDispatch.Proofs.Registry.Admission
import SignalDispatch.Proofs.Registry.Withdrawal

/-!
# The operations that remove

Each operation that removes slots detaches or buries them, depending on whether their signal is
being emitted: one slot for a disconnection, all live slots for a disconnection of everything,
the tombstones for a sweep, the whole chain for the end of a registration.  The slots that leave
storage come back in the order of their chain.
-/

namespace SignalDispatch.Registry

variable {registry : Registry} {index : Nat} {signal : Signal}

/-! ## The whole chain -/

/-- Freeing a chain detaches all of it. -/
theorem WellFormed.freeChain
    (formed : registry.WellFormed)
    (registered : registry.signals.get? index = some signal) :
    Detaches registry (registry.freeChain index).1 index
        (fun signal => { signal with head := none, live := 0, tombstones := 0 }) []
        (registry.chain index) ∧
      (registry.freeChain index).1.WellFormed ∧
      (registry.freeChain index).2.map Slot.content = registry.contents index := by
  have distinct := formed.chained.distinct index
  have heads (other : Nat) :
      ((registry.freeChain index).1.signals.get? other).map Signal.head =
        ((registry.relink index []).signals.get? other).map Signal.head := by
    rw [Registry.freeChain, relink, Arena.get?_modify, Arena.get?_modify]
    split
    · rw [Option.map_map, Option.map_map]
      rfl
    · rfl
  have parts (position : Nat) :
      position ∈ registry.chain index ↔ position ∈ registry.chain index ∧ position ∉ [] := by
    simp
  rcases formed.detaches registered (List.nil_sublist _) distinct parts rfl heads
    (signalAt_modify
      (fun signal => { signal with head := none, live := 0, tombstones := 0 }) rfl
      fun _ => rfl) with ⟨detaches, sound, chained⟩
  refine ⟨detaches, ?_, ?_⟩
  · exact formed.detach detaches (fun _ => ⟨rfl, rfl, rfl⟩) (formed.signals_sound.modify _ _) sound
      chained (fun _ _ => rfl) fun _ _ => rfl
  · rcases Arena.removeAll_spec distinct
      (fun position member => formed.chained.stored member) with ⟨values, _⟩
    change (registry.slots.removeAll (registry.chain index)).1.map Slot.content = _
    rw [values]
    exact map_content_slotsOf registry index

/-- A signal whose chain is empty can go out of storage. -/
theorem WellFormed.vacate
    (formed : registry.WellFormed)
    (registered : registry.signals.get? index = some signal)
    (empty : registry.chain index = []) :
    let after : Registry := { registry with signals := registry.signals.vacate index }
    after.WellFormed ∧ after.chain = registry.chain ∧
      ∀ other,
        after.signalAt other = if index = other then none else registry.signalAt other := by
  intro after
  have signals (other : Nat) :
      after.signalAt other = if index = other then none else registry.signalAt other := by
    rw [signalAt, Arena.get?_vacate]
    split <;> rfl
  have earlier {other : Nat} {found : Signal} (present : after.signalAt other = some found) :
      registry.signalAt other = some found := by
    rw [signals] at present
    split at present
    · cases present
    · exact present
  have chained : after.Chained registry.chain := by
    constructor
    · intro other found present
      rw [Arena.get?_vacate] at present
      split at present
      · cases present
      · exact formed.chained.linked present
    · intro other absent
      rw [Arena.get?_vacate] at absent
      split at absent
      next same => exact same ▸ empty
      next => exact formed.chained.unregistered absent
    · exact formed.chained.distinct
    · exact formed.chained.apart
  refine ⟨?_, chained.chain_eq, signals⟩
  refine .of_chained chained ?_ formed.slots_sound formed.covered formed.ordered ?_ ?_ ?_ ?_
    formed.handles_apart
  · exact formed.signals_sound.vacate (Option.isSome_of_eq_some registered)
  · exact fun present => formed.live_eq (earlier present)
  · exact fun present => formed.tombstones_eq (earlier present)
  · exact fun left right same => formed.names_apart (earlier left) (earlier right) same
  · exact fun left right same => formed.serials_apart (earlier left) (earlier right) same

/-- A signal and its whole chain go out of storage. -/
structure Drops (before after : Registry) (index : Nat) : Prop where
  signals :
    ∀ other,
      after.signalAt other = if index = other then none else before.signalAt other
  slots :
    ∀ position,
      contentAt after.slots position =
        if position ∈ before.chain index then none else contentAt before.slots position
  chain : after.chain = Function.update before.chain index []

/-- Ending a registration drops the signal of that name. -/
theorem WellFormed.unregister
    (formed : registry.WellFormed)
    {name : String}
    {after : Registry}
    {released : List Slot}
    (done : registry.unregister name = .ok (after, released)) :
    ∃ index signal,
      registry.signalAt index = some signal ∧ signal.name = name ∧
        Drops registry after index ∧ after.WellFormed ∧
        released.map Slot.content = registry.contents index := by
  rw [Registry.unregister, lookup] at done
  cases located : registry.find? name with
  | none => simp [located] at done
  | some index =>
      simp only [located, Except.ok.injEq, Prod.mk.injEq] at done
      rcases done with ⟨rfl, rfl⟩
      rcases signalAt_of_find? located with ⟨signal, registered, named⟩
      rcases (signalAt_eq_some_iff _ _ _).mp registered with ⟨found, present, _⟩
      rcases formed.freeChain present with ⟨detaches, freed, values⟩
      have empty : (registry.freeChain index).1.chain index = [] := by
        rw [detaches.chain, Function.update_self]
      have still : ((registry.freeChain index).1.signals.get? index).isSome := by
        rw [Registry.freeChain, Arena.isSome_get?_modify, present]
        rfl
      rcases Option.isSome_iff_exists.mp still with ⟨emptied, remains⟩
      rcases freed.vacate remains empty with ⟨formedAfter, chain, signals⟩
      refine ⟨index, signal, registered, named, ⟨?_, ?_, ?_⟩, formedAfter, values⟩
      · intro other
        rw [signals]
        split
        · rfl
        next different => rw [detaches.signals, if_neg different]
      · exact detaches.slots
      · rw [chain, detaches.chain]

/-! ## Marking -/

/-- Marking slots keeps everything about them but the mark. -/
theorem foldl_bury (registry : Registry) (marked : List Nat) :
    (marked.foldl bury registry).signals = registry.signals ∧
      (registry.slots.Sound → (marked.foldl bury registry).slots.Sound) ∧
      (∀ position,
        ((marked.foldl bury registry).slots.get? position).map Slot.next =
          (registry.slots.get? position).map Slot.next) ∧
      ∀ position,
        contentAt (marked.foldl bury registry).slots position =
          if position ∈ marked then (contentAt registry.slots position).map Slot.buried
          else contentAt registry.slots position := by
  induction marked generalizing registry with
  | nil => exact ⟨rfl, id, fun _ => rfl, fun _ => rfl⟩
  | cons first rest ih =>
      rcases ih (registry.bury first) with ⟨signals, sound, links, slots⟩
      rw [List.foldl_cons]
      refine ⟨signals, fun before => sound (before.modify _ _), ?_, ?_⟩
      · intro position
        rw [links, bury, Arena.get?_modify]
        split
        · rw [Option.map_map]
          rfl
        · rfl
      · intro position
        rw [slots]
        have one :
            contentAt (registry.bury first).slots position =
              if first = position then (contentAt registry.slots position).map Slot.buried
              else contentAt registry.slots position := by
          rw [contentAt, bury, Arena.get?_modify, contentAt]
          split
          · rw [Option.map_map, Option.map_map]
            rfl
          · rfl
        rw [one]
        by_cases same : first = position
        · subst same
          simp only [if_true, List.mem_cons_self, Option.map_map]
          split <;> rfl
        · simp [same, Ne.symm same]

/-- Marking slots of one chain and recounting buries them. -/
theorem WellFormed.buries
    {before after : Registry}
    (formed : before.WellFormed)
    {change : Signal → Signal}
    {marked : List Nat}
    (subset : marked ⊆ before.chain index)
    (slots : after.slots = (marked.foldl Registry.bury before).slots)
    (signals : after.signals = before.signals.modify index change)
    (apart : ∀ signal, (change signal).content = change signal.content)
    (heads : ∀ signal, (change signal).head = signal.head) :
    Buries before after index change marked ∧ after.slots.Sound ∧
      after.Chained after.chain := by
  rcases foldl_bury before marked with ⟨_, sound, links, view⟩
  have relinked : ({ before with slots := after.slots } : Registry).Chained before.chain := by
    refine formed.chained.of_slots rfl ?_
    intro other position _
    rw [slots]
    exact links position
  have chained : after.Chained before.chain := by
    refine relinked.of_signals rfl ?_
    intro other
    rw [signals, Arena.get?_modify]
    split
    · rw [Option.map_map]
      exact Option.map_congr fun signal _ => heads signal
    · rfl
  have chain := chained.chain_eq
  refine ⟨⟨subset, signalAt_modify change signals apart, ?_, chain⟩, ?_, chain ▸ chained⟩
  · intro position
    rw [slots]
    exact view position
  · rw [slots]
    exact sound formed.slots_sound

/-! ## One slot -/

/-- Without one of its positions a list has one slot less. -/
theorem countP_contentsOf_erase
    {slots : Arena Slot}
    {positions : List Nat}
    {position : Nat}
    {slot : Slot}
    (member : position ∈ positions)
    (found : contentAt slots position = some slot)
    (test : Slot → Bool) :
    (contentsOf slots positions).countP test =
      (contentsOf slots (positions.erase position)).countP test + if test slot then 1 else 0 := by
  have rearranged := (List.perm_cons_erase member).filterMap (contentAt slots)
  rw [List.filterMap_cons_some found] at rearranged
  rw [contentsOf, rearranged.countP_eq, List.countP_cons]
  rfl

/-- Removing a live slot of an idle signal detaches it. -/
theorem WellFormed.retire_idle
    (formed : registry.WellFormed)
    (registered : registry.signals.get? index = some signal)
    (idle : signal.emitting = 0)
    {position : Nat}
    {slot : Slot}
    (member : position ∈ registry.chain index)
    (found : contentAt registry.slots position = some slot)
    (live : slot.removed = false) :
    Detaches registry (registry.retire index position).1 index
        (fun signal => { signal with live := signal.live - 1 })
        ((registry.chain index).erase position) [position] ∧
      (registry.retire index position).1.WellFormed ∧
      (registry.retire index position).2.map Slot.content = [slot] := by
  have distinct := formed.chained.distinct index
  let counted : Registry :=
    { registry with
      signals := registry.signals.modify index fun signal =>
        { signal with live := signal.live - 1 } }
  have countedChained : counted.Chained registry.chain := by
    refine formed.chained.of_signals rfl ?_
    intro other
    rw [Arena.get?_modify]
    split
    · rw [Option.map_map]
      rfl
    · rfl
  have retired :
      registry.retire index position =
        ({ counted.relink index ((registry.chain index).erase position) with
            slots :=
              ((counted.relink index ((registry.chain index).erase position)).slots.removeAll
                [position]).2 },
          ((counted.relink index ((registry.chain index).erase position)).slots.removeAll
            [position]).1) := by
    rw [retire, registered]
    simp only [idle, if_true]
    change counted.unlink index position = _
    rw [unlink, countedChained.chain_eq]
  have sublist := List.erase_sublist (a := position) (l := registry.chain index)
  have single : [position].Nodup := List.nodup_singleton _
  have parts (other : Nat) :
      other ∈ [position] ↔
        other ∈ registry.chain index ∧ other ∉ (registry.chain index).erase position := by
    rw [List.mem_singleton, distinct.mem_erase_iff]
    constructor
    · rintro rfl
      exact ⟨member, fun kept => kept.1 rfl⟩
    · rintro ⟨inside, dropped⟩
      by_contra different
      exact dropped ⟨different, inside⟩
  have heads (other : Nat) :
      ((registry.retire index position).1.signals.get? other).map Signal.head =
        ((registry.relink index ((registry.chain index).erase position)).signals.get? other).map
          Signal.head := by
    rw [retired]
    simp only [relink, counted, Arena.get?_modify]
    split
    · simp only [Option.map_map]
      rfl
    · rfl
  have signals (other : Nat) :
      (registry.retire index position).1.signalAt other =
        if index = other then
          (registry.signalAt other).map fun signal => { signal with live := signal.live - 1 }
        else registry.signalAt other := by
    rw [retired]
    refine (signalAt_relink counted index _ other).trans ?_
    exact signalAt_modify (fun signal : Signal => { signal with live := signal.live - 1 }) rfl
      (fun _ => rfl) other
  rcases formed.detaches registered sublist single parts (by rw [retired]; rfl) heads signals with
    ⟨detaches, sound, chained⟩
  rcases formed.chained.detach formed.slots_sound registered sublist single parts with
    ⟨_, _, values, _⟩
  refine ⟨detaches, ?_, ?_⟩
  · refine formed.detach detaches (fun _ => ⟨rfl, rfl, rfl⟩) ?_ sound chained ?_ ?_
    · rw [retired]
      exact (formed.signals_sound.modify _ _).modify _ _
    · intro earlier present
      have count := formed.live_eq present
      rw [contents, countP_contentsOf_erase member found, live] at count
      simp only [count]
      rfl
    · intro earlier present
      have count := formed.tombstones_eq present
      rw [contents, countP_contentsOf_erase member found, live] at count
      exact count
  · rw [retired]
    exact values.trans (contentsOf_cons found [])

/-- Removing a live slot of a signal that is being emitted buries it. -/
theorem WellFormed.retire_emitting
    (formed : registry.WellFormed)
    (registered : registry.signals.get? index = some signal)
    (busy : signal.emitting ≠ 0)
    {position : Nat}
    {slot : Slot}
    (member : position ∈ registry.chain index)
    (found : contentAt registry.slots position = some slot)
    (live : slot.removed = false) :
    Buries registry (registry.retire index position).1 index
        (fun signal =>
          { signal with live := signal.live - 1, tombstones := signal.tombstones + 1 })
        [position] ∧
      (registry.retire index position).1.WellFormed ∧
      (registry.retire index position).2 = [] := by
  have retired :
      registry.retire index position =
        ({ registry with
            signals := registry.signals.modify index fun signal =>
              { signal with live := signal.live - 1, tombstones := signal.tombstones + 1 }
            slots := registry.slots.modify position fun slot => { slot with removed := true } },
          []) := by
    rw [retire, registered]
    simp only [busy, if_false]
    rfl
  have subset : [position] ⊆ registry.chain index := by simpa using member
  have slots :
      (registry.retire index position).1.slots =
        ([position].foldl Registry.bury registry).slots := by
    rw [retired]
    rfl
  have signals :
      (registry.retire index position).1.signals =
        registry.signals.modify index fun signal =>
          { signal with live := signal.live - 1, tombstones := signal.tombstones + 1 } := by
    rw [retired]
  rcases formed.buries subset slots signals (fun _ => rfl) (fun _ => rfl) with
    ⟨buries, sound, chained⟩
  refine ⟨buries, ?_, by rw [retired]⟩
  have contentsAfter :
      (registry.retire index position).1.contents index =
        contentsOf (registry.retire index position).1.slots (registry.chain index) := by
    rw [contents, buries.chain]
  have foundAfter :
      contentAt (registry.retire index position).1.slots position = some slot.buried := by
    rw [buries.slots, if_pos (List.mem_singleton_self _), found]
    rfl
  have others :
      contentsOf (registry.retire index position).1.slots ((registry.chain index).erase position) =
        contentsOf registry.slots ((registry.chain index).erase position) := by
    refine contentsOf_congr ?_
    intro other inside
    rw [buries.slots, if_neg]
    rw [List.mem_singleton]
    exact ((formed.chained.distinct index).mem_erase_iff.mp inside).1
  refine formed.bury buries (fun _ => ⟨rfl, rfl, rfl⟩) ?_ sound chained ?_ ?_
  · rw [signals]
    exact formed.signals_sound.modify _ _
  · intro earlier present
    have count := formed.live_eq present
    rw [contents, countP_contentsOf_erase member found, live] at count
    rw [contentsAfter, countP_contentsOf_erase member foundAfter, others]
    simp only [count]
    rfl
  · intro earlier present
    have count := formed.tombstones_eq present
    rw [contents, countP_contentsOf_erase member found, live] at count
    rw [contentsAfter, countP_contentsOf_erase member foundAfter, others]
    simp only [count]
    rfl

/-- The first live slot that a test accepts: no slot before it is live and accepted. -/
theorem firstLive?_eq_some
    {accepts : Slot → Bool}
    {position : Nat}
    (first : registry.firstLive? index accepts = some position) :
    ∃ before after slot,
      registry.chain index = before ++ position :: after ∧
        registry.slots.get? position = some slot ∧
        (slot.removed = false ∧ accepts slot = true) ∧
        ∀ other ∈ before, ∀ found, registry.slots.get? other = some found →
          ¬ (found.removed = false ∧ accepts found = true) := by
  rw [firstLive?, List.find?_eq_some_iff_append] at first
  rcases first with ⟨accepted, before, after, chain, earlier⟩
  cases stored : registry.slots.get? position with
  | none => simp [stored] at accepted
  | some slot =>
      refine ⟨before, after, slot, chain, rfl, by simpa [stored] using accepted, ?_⟩
      intro other member found present both
      have refused := earlier other member
      simp [present, both.1, both.2] at refused

/-- There is no first live slot exactly when the test accepts no live slot. -/
theorem firstLive?_eq_none_iff
    (registry : Registry)
    (index : Nat)
    (accepts : Slot → Bool) :
    registry.firstLive? index accepts = none ↔
      ∀ position ∈ registry.chain index, ∀ slot, registry.slots.get? position = some slot →
        ¬ (slot.removed = false ∧ accepts slot = true) := by
  rw [firstLive?, List.find?_eq_none]
  refine forall₂_congr fun position _ => ?_
  cases registry.slots.get? position with
  | none => simp
  | some slot => simp

/-! ## All slots of a signal -/

/-- Removing all slots of an idle signal frees its chain. -/
theorem retireAll_idle
    (registered : registry.signals.get? index = some signal)
    (idle : signal.emitting = 0) :
    registry.retireAll index = (signal.live, registry.freeChain index) := by
  rw [retireAll, registered]
  exact if_pos idle

/-- Removing all slots of a signal that is being emitted buries its whole chain. -/
theorem WellFormed.retireAll_emitting
    (formed : registry.WellFormed)
    (registered : registry.signals.get? index = some signal)
    (busy : signal.emitting ≠ 0) :
    Buries registry (registry.retireAll index).2.1 index
        (fun signal =>
          { signal with live := 0, tombstones := signal.tombstones + signal.live })
        (registry.chain index) ∧
      (registry.retireAll index).2.1.WellFormed ∧
      (registry.retireAll index).1 = signal.live ∧
      (registry.retireAll index).2.2 = [] := by
  have kept := (foldl_bury registry (registry.chain index)).1
  have retired :
      registry.retireAll index =
        (signal.live,
          { (registry.chain index).foldl Registry.bury registry with
            signals := registry.signals.modify index fun signal =>
              { signal with live := 0, tombstones := signal.tombstones + signal.live } },
          []) := by
    rw [retireAll, registered]
    simp only [busy, if_false]
    rw [kept]
  have signals :
      (registry.retireAll index).2.1.signals =
        registry.signals.modify index fun signal =>
          { signal with live := 0, tombstones := signal.tombstones + signal.live } := by
    rw [retired]
  rcases formed.buries (List.Subset.refl _) (by rw [retired]) signals (fun _ => rfl)
    (fun _ => rfl) with ⟨buries, sound, chained⟩
  have marked := buries.contents_of_all rfl
  refine ⟨buries, ?_, by rw [retired], by rw [retired]⟩
  refine formed.bury buries (fun _ => ⟨rfl, rfl, rfl⟩) ?_ sound chained ?_ ?_
  · rw [signals]
    exact formed.signals_sound.modify _ _
  · intro earlier present
    rw [marked, List.countP_map]
    exact (List.countP_eq_zero.mpr fun slot _ => by simp [Slot.buried]).symm
  · intro earlier present
    have all : (registry.contents index).countP (Slot.removed ∘ Slot.buried) =
        (registry.contents index).length :=
      List.countP_eq_length.mpr fun slot _ => rfl
    have split := List.length_eq_countP_add_countP Slot.removed (l := registry.contents index)
    simp only [decide_not, Bool.decide_eq_true] at split
    rw [marked, List.countP_map, all, split, ← formed.tombstones_eq present,
      ← formed.live_eq present]

/-- Slots of a signal are removed: they leave storage if it is idle, and become tombstones while it
is being emitted. -/
inductive Retires
    (before after : Registry)
    (index : Nat)
    (kept gone : List Nat)
    (left marked : Signal → Signal) : Prop where
  | idle
      {signal : Signal}
      (registered : before.signals.get? index = some signal)
      (idle : signal.emitting = 0)
      (detaches : Detaches before after index left kept gone)
      (formed : after.WellFormed)
  | busy
      {signal : Signal}
      (registered : before.signals.get? index = some signal)
      (busy : signal.emitting ≠ 0)
      (buries : Buries before after index marked gone)
      (formed : after.WellFormed)

/-- Removing the first live slot that a test accepts removes it alone. -/
theorem WellFormed.retires
    (formed : registry.WellFormed)
    {accepts : Slot → Bool}
    {position : Nat}
    (first : registry.firstLive? index accepts = some position) :
    Retires registry (registry.retire index position).1 index
      ((registry.chain index).erase position) [position]
      (fun signal => { signal with live := signal.live - 1 })
      (fun signal =>
        { signal with live := signal.live - 1, tombstones := signal.tombstones + 1 }) := by
  rcases firstLive?_eq_some first with ⟨passed, rest, slot, chain, stored, ⟨live, _⟩, _⟩
  have member : position ∈ registry.chain index := by
    rw [chain]
    exact List.mem_append_right _ List.mem_cons_self
  have content := contentAt_of_get? stored
  rcases formed.chained.registered member with ⟨signal, registered⟩
  by_cases idle : signal.emitting = 0
  · rcases formed.retire_idle registered idle member content live with ⟨detaches, kept, _⟩
    exact .idle registered idle detaches kept
  · rcases formed.retire_emitting registered idle member content live with ⟨buries, kept, _⟩
    exact .busy registered idle buries kept

/-- Removing all slots of a signal removes its whole chain. -/
theorem WellFormed.retiresAll
    (formed : registry.WellFormed)
    {name : String}
    (located : registry.find? name = some index) :
    Retires registry (registry.retireAll index).2.1 index [] (registry.chain index)
      (fun signal => { signal with head := none, live := 0, tombstones := 0 })
      (fun signal =>
        { signal with live := 0, tombstones := signal.tombstones + signal.live }) := by
  rcases registered_of_find? located with ⟨signal, registered, _⟩
  by_cases idle : signal.emitting = 0
  · rcases formed.freeChain registered with ⟨detaches, kept, _⟩
    rw [retireAll_idle registered idle]
    exact .idle registered idle detaches kept
  · rcases formed.retireAll_emitting registered idle with ⟨buries, kept, _⟩
    exact .busy registered idle buries kept

/-! ## Tombstones -/

theorem isTombstone_eq
    {slots : Arena Slot}
    {position : Nat}
    {slot : Slot}
    (found : contentAt slots position = some slot) :
    isTombstone slots position = slot.removed := by
  rcases (contentAt_eq_some_iff _ _ _).mp found with ⟨stored, present, rfl⟩
  rw [isTombstone, present]
  rfl

/-- A signal that is being emitted, or that has no tombstones, is not swept. -/
theorem sweep_of_not
    (registered : registry.signals.get? index = some signal)
    (nothing : ¬ (signal.emitting = 0 ∧ 0 < signal.tombstones)) :
    registry.sweep index = (registry, []) := by
  rw [sweep, registered]
  exact if_neg nothing

/-- Sweeping detaches the tombstones of an idle signal. -/
theorem WellFormed.sweep
    (formed : registry.WellFormed)
    (registered : registry.signals.get? index = some signal)
    (due : signal.emitting = 0 ∧ 0 < signal.tombstones) :
    Detaches registry (registry.sweep index).1 index
        (fun signal => { signal with tombstones := 0 })
        ((registry.chain index).filter fun position => !isTombstone registry.slots position)
        ((registry.chain index).filter (isTombstone registry.slots)) ∧
      (registry.sweep index).1.WellFormed ∧
      (registry.sweep index).1.contents index =
        (registry.contents index).filter (fun slot => !slot.removed) ∧
      (registry.sweep index).2.map Slot.content =
        (registry.contents index).filter Slot.removed := by
  have swept :
      registry.sweep index =
        ({ registry.relink index ((registry.chain index).filter fun position =>
              !isTombstone registry.slots position) with
            signals :=
              (registry.relink index ((registry.chain index).filter fun position =>
                !isTombstone registry.slots position)).signals.modify index fun signal =>
                  { signal with tombstones := 0 }
            slots :=
              ((registry.relink index ((registry.chain index).filter fun position =>
                !isTombstone registry.slots position)).slots.removeAll
                  ((registry.chain index).filter (isTombstone registry.slots))).2 },
          ((registry.relink index ((registry.chain index).filter fun position =>
            !isTombstone registry.slots position)).slots.removeAll
              ((registry.chain index).filter (isTombstone registry.slots))).1) := by
    rw [Registry.sweep, registered]
    exact if_pos due
  generalize keptEq :
    ((registry.chain index).filter fun position => !isTombstone registry.slots position) = kept
    at swept ⊢
  generalize goneEq : (registry.chain index).filter (isTombstone registry.slots) = gone at swept ⊢
  have sublist : kept.Sublist (registry.chain index) := keptEq ▸ List.filter_sublist
  have distinct : gone.Nodup := goneEq ▸ (formed.chained.distinct index).filter _
  have parts (position : Nat) :
      position ∈ gone ↔ position ∈ registry.chain index ∧ position ∉ kept := by
    rw [← goneEq, ← keptEq, List.mem_filter, List.mem_filter]
    cases isTombstone registry.slots position <;> simp
  have heads (other : Nat) :
      ((registry.sweep index).1.signals.get? other).map Signal.head =
        ((registry.relink index kept).signals.get? other).map Signal.head := by
    rw [swept, Arena.get?_modify]
    split
    · rw [Option.map_map]
      rfl
    · rfl
  have signals (other : Nat) :
      (registry.sweep index).1.signalAt other =
        if index = other then
          (registry.signalAt other).map fun signal => { signal with tombstones := 0 }
        else registry.signalAt other := by
    rw [swept, ← signalAt_relink registry index kept other]
    exact signalAt_modify (fun signal : Signal => { signal with tombstones := 0 }) rfl
      (fun _ => rfl) other
  rcases formed.detaches registered sublist distinct parts (by rw [swept]) heads signals with
    ⟨detaches, sound, chained⟩
  rcases formed.chained.detach formed.slots_sound registered sublist distinct parts with
    ⟨_, _, values, _⟩
  have keptContents :
      contentsOf registry.slots kept =
        (registry.contents index).filter fun slot => !slot.removed := by
    rw [← keptEq]
    exact contentsOf_filter fun position _ slot found =>
      congrArg Bool.not (isTombstone_eq found)
  have goneContents :
      contentsOf registry.slots gone = (registry.contents index).filter Slot.removed := by
    rw [← goneEq]
    exact contentsOf_filter fun position _ slot found => isTombstone_eq found
  refine ⟨detaches, ?_, ?_, ?_⟩
  · refine formed.detach detaches (fun _ => ⟨rfl, rfl, rfl⟩) ?_ sound chained ?_ ?_
    · rw [swept]
      exact (formed.signals_sound.modify _ _).modify _ _
    · intro earlier present
      rw [keptContents, List.countP_filter]
      simpa using formed.live_eq present
    · intro earlier present
      rw [keptContents, List.countP_filter]
      exact (List.countP_eq_zero.mpr fun slot _ => by simp).symm
  · rw [detaches.contents_eq formed, if_pos rfl, keptContents]
  · rw [swept]
    exact values.trans goneContents

end SignalDispatch.Registry
