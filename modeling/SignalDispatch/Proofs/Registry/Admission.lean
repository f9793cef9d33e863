import SignalDispatch.Proofs.Registry.WellFormed
import SignalDispatch.Registry.Registration

/-!
# What enters a registry

A registration adds a signal with an empty chain at an index that had none.  A connection adds one
slot to one chain: behind every slot whose priority is at least its own, before all others.  Both
keep a registry well formed, and both change the three maps of a registry at one point only.
-/

namespace SignalDispatch

/-- A slot put into a list behind every slot whose priority is at least its own. -/
def Slot.insertedInto (slot : Slot) (slots : List Slot) : List Slot :=
  slots.filter (fun other => slot.priority.rank ≤ other.priority.rank) ++
    slot :: slots.filter fun other => !decide (slot.priority.rank ≤ other.priority.rank)

namespace Slot

theorem countP_insertedInto (slot : Slot) (slots : List Slot) (test : Slot → Bool) :
    (slot.insertedInto slots).countP test =
      slots.countP test + if test slot then 1 else 0 := by
  have parts :=
    List.countP_eq_countP_filter_add slots test
      fun other => decide (slot.priority.rank ≤ other.priority.rank)
  rw [insertedInto, List.countP_append, List.countP_cons, parts]
  omega

/-- A slot connected later than all others finds its place in an ordered list. -/
theorem pairwise_insertedInto
    {slot : Slot}
    {slots : List Slot}
    (ordered : slots.Pairwise Slot.Before)
    (latest : ∀ other ∈ slots, other.handle.number < slot.handle.number) :
    (slot.insertedInto slots).Pairwise Slot.Before := by
  rw [insertedInto, List.pairwise_append, List.pairwise_cons]
  refine ⟨ordered.filter _, ⟨?_, ordered.filter _⟩, ?_⟩
  · intro other member
    have lower := (List.mem_filter.mp member).2
    simp only [Bool.not_eq_true', decide_eq_false_iff_not, Int.not_le] at lower
    exact Or.inl lower
  · intro first firstMember second secondMember
    rcases List.mem_filter.mp firstMember with ⟨stored, higher⟩
    simp only [decide_eq_true_eq] at higher
    have before : first.Before slot := by
      rcases Int.lt_or_eq_of_le higher with above | level
      · exact Or.inl above
      · exact Or.inr ⟨level.symm, latest first stored⟩
    rcases List.mem_cons.mp secondMember with rfl | later
    · exact before
    · have lower := (List.mem_filter.mp later).2
      simp only [Bool.not_eq_true', decide_eq_false_iff_not, Int.not_le] at lower
      exact before.trans (Or.inl lower)

end Slot

/-- A test that fails for good once it fails takes what a filter takes. -/
theorem takeWhile_eq_filter
    {α : Type}
    {test : α → Bool}
    {values : List α}
    (prefixed : values.Pairwise fun left right => test right = true → test left = true) :
    values.takeWhile test = values.filter test ∧
      values.dropWhile test = values.filter fun value => !test value := by
  induction values with
  | nil => exact ⟨rfl, rfl⟩
  | cons first rest ih =>
      rw [List.pairwise_cons] at prefixed
      cases passes : test first with
      | true => simp [passes, ih prefixed.2]
      | false =>
          have fails : ∀ value ∈ rest, test value = false := by
            intro value member
            cases tested : test value with
            | false => rfl
            | true => exact (passes.symm.trans (prefixed.1 value member tested)).symm
          have kept : rest.filter (fun value => !test value) = rest :=
            List.filter_eq_self.mpr fun value member => by simp [fails value member]
          have dropped : rest.filter test = [] :=
            List.filter_eq_nil_iff.mpr fun value member => by simp [fails value member]
          simp [passes, kept, dropped]

namespace Registry

/-! ## Signals -/

/-- A registration that succeeds takes a vacant index for a name not in use. -/
theorem register_spec
    {registry after : Registry}
    (formed : registry.WellFormed)
    {name : String}
    {description : Option String}
    {priority : Priority}
    {serial : Nat}
    (registered : registry.register name description priority serial = .ok after) :
    registry.find? name = none ∧
      after.slots = registry.slots ∧ after.peakSlots = registry.peakSlots ∧
      after.signals.Sound ∧
      ∃ index,
        registry.signals.get? index = none ∧
          ∀ other,
            after.signals.get? other =
              if index = other then
                some
                  { name := name, description := description, priority := priority,
                    serial := serial }
              else registry.signals.get? other := by
  rw [register] at registered
  split at registered
  · cases registered
  next unknown =>
    simp only at registered
    split at registered
    · cases registered
    next index signals inserted =>
      cases registered
      refine ⟨by simpa using unknown, rfl, rfl, formed.signals_sound.insert inserted, index, ?_,
        formed.signals_sound.get?_insert inserted⟩
      exact (formed.signals_sound.vacancy_spec
        ((Arena.insert_eq_ok_iff _ _ _ _).mp inserted).1).1

/-- Nobody finds a name exactly when no signal has it. -/
theorem find?_eq_none_iff (registry : Registry) (name : String) :
    registry.find? name = none ↔
      ∀ index signal, registry.signalAt index = some signal → signal.name ≠ name := by
  rw [find?, Option.map_eq_none_iff, List.find?_eq_none]
  constructor
  · intro absent index signal found same
    rcases (signalAt_eq_some_iff _ _ _).mp found with ⟨stored, present, rfl⟩
    have member := (Arena.mem_toList_iff _ _ _).mpr present
    exact absurd same (by simpa using absent _ member)
  · rintro absent ⟨index, signal⟩ member
    have present := (Arena.mem_toList_iff _ _ _).mp member
    simpa using absent index _ (signalAt_of_get? present)

/-- A name is found at the index of a signal that has it. -/
theorem registered_of_find?
    {registry : Registry}
    {name : String}
    {index : Nat}
    (found : registry.find? name = some index) :
    ∃ signal, registry.signals.get? index = some signal ∧ signal.name = name := by
  rw [find?, Option.map_eq_some_iff] at found
  rcases found with ⟨⟨place, signal⟩, first, rfl⟩
  have present := (Arena.mem_toList_iff _ _ _).mp (List.mem_of_find?_eq_some first)
  exact ⟨signal, present, by simpa using List.find?_some first⟩

theorem signalAt_of_find?
    {registry : Registry}
    {name : String}
    {index : Nat}
    (found : registry.find? name = some index) :
    ∃ signal, registry.signalAt index = some signal ∧ signal.name = name := by
  rcases registered_of_find? found with ⟨signal, registered, named⟩
  exact ⟨signal.content, signalAt_of_get? registered, named⟩

/-- In a well-formed registry a name is found exactly at the index of its signal. -/
theorem WellFormed.find?_eq_some_iff
    {registry : Registry}
    (formed : registry.WellFormed)
    (name : String)
    (index : Nat) :
    registry.find? name = some index ↔
      ∃ signal, registry.signalAt index = some signal ∧ signal.name = name := by
  refine ⟨signalAt_of_find?, ?_⟩
  rintro ⟨signal, present, named⟩
  cases found : registry.find? name with
  | none => exact absurd named ((find?_eq_none_iff _ _).mp found index signal present)
  | some other =>
      rcases signalAt_of_find? found with ⟨second, secondPresent, secondNamed⟩
      rw [formed.names_apart secondPresent present (secondNamed.trans named.symm)]

/-- A new signal has an empty chain, and nothing else changes. -/
theorem register_chained
    {registry after : Registry}
    (formed : registry.WellFormed)
    {name : String}
    {description : Option String}
    {priority : Priority}
    {serial : Nat}
    (registered : registry.register name description priority serial = .ok after) :
    after.Chained registry.chain := by
  rcases register_spec formed registered with ⟨_, slots, _, _, index, vacant, signals⟩
  constructor
  · intro other signal present
    rw [signals] at present
    rw [slots]
    split at present
    next same =>
      cases present
      subst same
      rw [formed.chained.unregistered vacant]
      exact .done
    next => exact formed.chained.linked present
  · intro other absent
    rw [signals] at absent
    split at absent
    · cases absent
    next => exact formed.chained.unregistered absent
  · exact formed.chained.distinct
  · exact formed.chained.apart

theorem WellFormed.register
    {registry after : Registry}
    (formed : registry.WellFormed)
    {name : String}
    {description : Option String}
    {priority : Priority}
    {serial : Nat}
    (fresh : ∀ index signal, registry.signalAt index = some signal → signal.serial < serial)
    (registered : registry.register name description priority serial = .ok after) :
    after.WellFormed := by
  have chained := register_chained formed registered
  rcases register_spec formed registered with ⟨unknown, slots, _, sound, index, vacant, signals⟩
  have unused := (find?_eq_none_iff _ _).mp unknown
  have chain : registry.chain index = [] := formed.chained.unregistered vacant
  -- a signal found afterwards is the new one, or it was there before
  have cases {other : Nat} {signal : Signal} (present : after.signalAt other = some signal) :
      (index = other ∧ signal.name = name ∧ signal.serial = serial ∧ signal.live = 0 ∧
          signal.tombstones = 0) ∨
        registry.signalAt other = some signal := by
    rw [signalAt, signals] at present
    split at present
    next same =>
      cases present
      exact Or.inl ⟨same, rfl, rfl, rfl, rfl⟩
    next => exact Or.inr present
  have handles := @formed.handles_apart
  have covered := @formed.covered
  rw [← slots] at handles covered
  refine .of_chained chained sound (slots ▸ formed.slots_sound) covered ?_ ?_ ?_ ?_ ?_ handles
  · rw [slots]
    exact formed.ordered
  · intro other signal present
    rw [slots]
    rcases cases present with ⟨rfl, _, _, live, _⟩ | before
    · rw [live, chain]
      rfl
    · exact formed.live_eq before
  · intro other signal present
    rw [slots]
    rcases cases present with ⟨rfl, _, _, _, tombstones⟩ | before
    · rw [tombstones, chain]
      rfl
    · exact formed.tombstones_eq before
  · intro left right first second leftPresent rightPresent same
    rcases cases leftPresent with ⟨rfl, leftName, _⟩ | leftBefore
    · rcases cases rightPresent with ⟨rfl, _⟩ | rightBefore
      · rfl
      · exact absurd (same.symm.trans leftName) (unused _ _ rightBefore)
    · rcases cases rightPresent with ⟨rfl, rightName, _⟩ | rightBefore
      · exact absurd (same.trans rightName) (unused _ _ leftBefore)
      · exact formed.names_apart leftBefore rightBefore same
  · intro left right first second leftPresent rightPresent same
    rcases cases leftPresent with ⟨rfl, _, leftSerial, _⟩ | leftBefore
    · rcases cases rightPresent with ⟨rfl, _⟩ | rightBefore
      · rfl
      · have older := fresh _ _ rightBefore
        omega
    · rcases cases rightPresent with ⟨rfl, _, rightSerial, _⟩ | rightBefore
      · have older := fresh _ _ leftBefore
        omega
      · exact formed.serials_apart leftBefore rightBefore same

/-! ## Slots -/

/-- Along a chain, a slot that a priority goes behind has only such slots before it. -/
theorem WellFormed.precedes_prefix
    {registry : Registry}
    (formed : registry.WellFormed)
    (index : Nat)
    (priority : Priority) :
    (registry.chain index).Pairwise fun left right =>
      precedes registry.slots priority right = true →
        precedes registry.slots priority left = true := by
  have ordered := formed.ordered index
  rw [contents, contentsOf, List.pairwise_filterMap] at ordered
  refine ordered.imp_of_mem ?_
  intro left right leftMember rightMember before behind
  rcases formed.content_of_mem leftMember with ⟨first, firstFound, _⟩
  rcases formed.content_of_mem rightMember with ⟨second, secondFound, _⟩
  have rank := (before first firstFound second secondFound).rank_le
  rcases (contentAt_eq_some_iff _ _ _).mp firstFound with ⟨leftSlot, leftStored, rfl⟩
  rcases (contentAt_eq_some_iff _ _ _).mp secondFound with ⟨rightSlot, rightStored, rfl⟩
  simp only [precedes, leftStored, rightStored, decide_eq_true_eq] at behind ⊢
  exact Int.le_trans behind rank

/-- The chain of a signal with a new position in its place. -/
theorem WellFormed.ordered_eq
    {registry : Registry}
    (formed : registry.WellFormed)
    (index position : Nat)
    (priority : Priority) :
    Registry.ordered registry.slots priority position (registry.chain index) =
      (registry.chain index).filter (precedes registry.slots priority) ++
        position :: (registry.chain index).filter fun other =>
          !precedes registry.slots priority other := by
  rcases takeWhile_eq_filter (formed.precedes_prefix index priority) with ⟨taken, dropped⟩
  rw [Registry.ordered, taken, dropped]

theorem mem_ordered_iff
    (slots : Arena Slot)
    (priority : Priority)
    (position other : Nat)
    (positions : List Nat) :
    other ∈ Registry.ordered slots priority position positions ↔
      other = position ∨ other ∈ positions := by
  have whole :=
    List.takeWhile_append_dropWhile (p := precedes slots priority) (l := positions)
  rw [Registry.ordered, List.mem_append, List.mem_cons]
  conv_rhs => rw [← whole, List.mem_append]
  exact or_left_comm

theorem nodup_ordered
    (slots : Arena Slot)
    (priority : Priority)
    {position : Nat}
    {positions : List Nat}
    (distinct : positions.Nodup)
    (outside : position ∉ positions) :
    (Registry.ordered slots priority position positions).Nodup := by
  have whole :=
    List.takeWhile_append_dropWhile (p := precedes slots priority) (l := positions)
  rw [Registry.ordered, List.perm_middle.nodup_iff, whole, List.nodup_cons]
  exact ⟨outside, distinct⟩

theorem precedes_eq
    {slots : Arena Slot}
    {position : Nat}
    {slot : Slot}
    (found : contentAt slots position = some slot)
    (priority : Priority) :
    precedes slots priority position = decide (priority.rank ≤ slot.priority.rank) := by
  rcases (contentAt_eq_some_iff _ _ _).mp found with ⟨stored, present, rfl⟩
  rw [precedes, present]
  rfl

/-- The contents along the chain with a new position are the old ones with the new slot. -/
theorem WellFormed.contentsOf_ordered
    {registry : Registry}
    (formed : registry.WellFormed)
    (index : Nat)
    {slots : Arena Slot}
    {slot : Slot}
    {position : Nat}
    (vacant : contentAt registry.slots position = none)
    (added :
      ∀ other,
        contentAt slots other =
          if position = other then some slot.content else contentAt registry.slots other) :
    contentsOf slots
        (Registry.ordered registry.slots slot.priority position (registry.chain index)) =
      slot.content.insertedInto (registry.contents index) := by
  have elsewhere {positions : List Nat} (subset : positions ⊆ registry.chain index) :
      contentsOf slots positions = contentsOf registry.slots positions := by
    refine contentsOf_congr ?_
    intro other member
    rw [added, if_neg]
    rintro rfl
    have stored := formed.contentAt_isSome (subset member)
    rw [vacant] at stored
    cases stored
  have here : contentAt slots position = some slot.content := by rw [added, if_pos rfl]
  rw [formed.ordered_eq, contentsOf_append, contentsOf_cons here,
    elsewhere List.filter_sublist.subset, elsewhere List.filter_sublist.subset,
    contentsOf_filter fun other _ found found' => precedes_eq found' slot.priority,
    contentsOf_filter fun other _ found found' =>
      congrArg Bool.not (precedes_eq found' slot.priority)]
  rfl

/-- A connection that succeeds stores the slot at a vacant position and links it in its place. -/
theorem attach_spec
    {registry after : Registry}
    (formed : registry.WellFormed)
    {index : Nat}
    {signal : Signal}
    (registered : registry.signalAt index = some signal)
    {slot : Slot}
    (attached : registry.attach index slot = .ok after) :
    ∃ position,
      contentAt registry.slots position = none ∧
        after.signals.Sound ∧ after.slots.Sound ∧
        (∀ other,
          after.signalAt other =
            if index = other then some { signal with live := signal.live + 1 }
            else registry.signalAt other) ∧
        (∀ other,
          contentAt after.slots other =
            if position = other then some slot.content
            else contentAt registry.slots other) ∧
        after.Chained
          (Function.update registry.chain index
            (Registry.ordered registry.slots slot.priority position (registry.chain index))) := by
  rw [attach] at attached
  split at attached
  · cases attached
  next position slots inserted =>
    cases attached
    rcases (signalAt_eq_some_iff _ _ _).mp registered with ⟨found, present, rfl⟩
    have view := formed.slots_sound.get?_insert inserted
    have vacancy := ((Arena.insert_eq_ok_iff _ _ _ _).mp inserted).1
    have vacant := (formed.slots_sound.vacancy_spec vacancy).1
    have unlinked (other : Nat) : position ∉ registry.chain other := by
      intro member
      have stored := formed.chained.stored member
      rw [vacant] at stored
      cases stored
    have chained : ({ registry with slots := slots } : Registry).Chained registry.chain := by
      refine formed.chained.of_slots rfl ?_
      intro other place member
      rw [view, if_neg]
      rintro rfl
      exact unlinked other member
    refine ⟨position, by rw [contentAt, vacant]; rfl, ?_, ?_, ?_, ?_, ?_⟩
    · exact (formed.signals_sound.modify _ _).modify _ _
    · exact sound_thread (formed.slots_sound.insert inserted) _
    · intro other
      rw [signalAt_modify (fun signal : Signal => { signal with live := signal.live + 1 }) rfl
        (fun _ => rfl), signalAt_relink]
      split
      next same =>
        subst same
        change (registry.signalAt index).map _ = _
        rw [registered]
        rfl
      next => rfl
    · intro other
      refine (contentAt_relink _ index _ other).trans ?_
      rw [contentAt, view]
      split
      · rfl
      · rfl
    · have linked :
          (({ registry with slots := slots } : Registry).relink index
              (Registry.ordered registry.slots slot.priority position
                (registry.chain index))).Chained
            (Function.update registry.chain index
              (Registry.ordered registry.slots slot.priority position
                (registry.chain index))) := by
        refine chained.relink present ?_ ?_ ?_
        · exact nodup_ordered _ _ (formed.chained.distinct index) (unlinked index)
        · intro place member
          rw [view]
          split
          · rfl
          next different =>
            rcases (mem_ordered_iff _ _ _ _ _).mp member with rfl | earlier
            · exact absurd rfl different
            · exact formed.chained.stored earlier
        · intro place member other elsewhere
          rcases (mem_ordered_iff _ _ _ _ _).mp member with rfl | earlier
          · exact absurd elsewhere (unlinked other)
          · exact formed.chained.apart elsewhere earlier
      refine linked.of_signals rfl ?_
      intro other
      rw [Arena.get?_modify]
      split
      · rw [Option.map_map]
        rfl
      · rfl

/-- What a connection changes: one signal counts one more slot, one vacant position holds the slot,
and one chain has the position in its place. -/
structure Attaches
    (before after : Registry)
    (index : Nat)
    (slot : Slot)
    (position : Nat) : Prop where
  vacant : contentAt before.slots position = none
  signals :
    ∀ other,
      after.signalAt other =
        if index = other then
          (before.signalAt other).map fun signal => { signal with live := signal.live + 1 }
        else before.signalAt other
  slots :
    ∀ other,
      contentAt after.slots other =
        if position = other then some slot.content else contentAt before.slots other
  chain :
    after.chain =
      Function.update before.chain index
        (Registry.ordered before.slots slot.priority position (before.chain index))

namespace Attaches

variable {before after : Registry} {index position : Nat} {slot : Slot}

/-- The new slot is inserted into the contents of its signal, and no other signal is touched. -/
theorem contents_eq
    (attaches : Attaches before after index slot position)
    (formed : before.WellFormed)
    (other : Nat) :
    after.contents other =
      if index = other then slot.content.insertedInto (before.contents other)
      else before.contents other := by
  rw [contents, attaches.chain]
  split
  next same =>
    subst same
    rw [Function.update_self]
    exact formed.contentsOf_ordered index attaches.vacant attaches.slots
  next different =>
    rw [Function.update_of_ne (Ne.symm different)]
    refine contentsOf_congr ?_
    intro place member
    rw [attaches.slots, if_neg]
    rintro rfl
    have stored := formed.contentAt_isSome member
    rw [attaches.vacant] at stored
    cases stored

theorem mem_chain_iff
    (attaches : Attaches before after index slot position)
    (other place : Nat) :
    place ∈ after.chain other ↔
      (index = other ∧ place = position) ∨ place ∈ before.chain other := by
  rw [attaches.chain]
  by_cases same : index = other
  · subst same
    rw [Function.update_self, mem_ordered_iff]
    simp
  · rw [Function.update_of_ne (Ne.symm same)]
    simp [same]

end Attaches

/-- A connection that succeeds attaches the slot, and keeps the registry well formed if the handle
is the latest. -/
theorem WellFormed.attach
    {registry after : Registry}
    (formed : registry.WellFormed)
    {index : Nat}
    {signal : Signal}
    (registered : registry.signalAt index = some signal)
    {slot : Slot}
    (live : slot.removed = false)
    (latest :
      ∀ position other, contentAt registry.slots position = some other →
        other.handle.number < slot.handle.number)
    (attached : registry.attach index slot = .ok after) :
    after.WellFormed ∧ ∃ position, Attaches registry after index slot position := by
  rcases attach_spec formed registered attached with
    ⟨position, vacant, signalsSound, slotsSound, signals, slots, chained⟩
  have attaches : Attaches registry after index slot position := by
    refine ⟨vacant, ?_, slots, chained.chain_eq⟩
    intro other
    rw [signals]
    split
    next same => rw [← same, registered]; rfl
    next => rfl
  have contents := attaches.contents_eq formed
  have chain := attaches.chain
  rw [← chain] at chained
  refine ⟨?_, position, attaches⟩
  -- a signal found afterwards was there before, up to its number of slots
  have named {other : Nat} {found : Signal} (present : after.signalAt other = some found) :
      ∃ earlier, registry.signalAt other = some earlier ∧ found.name = earlier.name ∧
        found.serial = earlier.serial ∧ found.tombstones = earlier.tombstones ∧
        found.live = earlier.live + if index = other then 1 else 0 := by
    rw [signals] at present
    split at present
    next same =>
      cases present
      exact ⟨signal, same ▸ registered, rfl, rfl, rfl, by rw [if_pos same]⟩
    next different => exact ⟨found, present, rfl, rfl, rfl, by rw [if_neg different]; rfl⟩
  have latestIn (other : Slot) (member : other ∈ registry.contents index) :
      other.handle.number < slot.content.handle.number := by
    rcases (mem_contentsOf_iff _ _ _).mp member with ⟨place, _, found⟩
    exact latest place other found
  refine .of_chained chained signalsSound slotsSound ?_ ?_ ?_ ?_ ?_ ?_ ?_
  · intro place present
    rw [slots] at present
    split at present
    next same => exact ⟨index, (attaches.mem_chain_iff index place).mpr (Or.inl ⟨rfl, same.symm⟩)⟩
    next =>
      rcases formed.covered present with ⟨other, member⟩
      exact ⟨other, (attaches.mem_chain_iff other place).mpr (Or.inr member)⟩
  · intro other
    refine (congrArg _ (contents other)).mpr ?_
    split
    next same =>
      subst same
      exact Slot.pairwise_insertedInto (formed.ordered index) latestIn
    next => exact formed.ordered other
  · intro other found present
    rcases named present with ⟨earlier, before, _, _, _, counted⟩
    refine Eq.trans ?_ (congrArg _ (contents other)).symm
    rw [counted, formed.live_eq before]
    split
    next same => rw [Slot.countP_insertedInto, Slot.content_removed, live]; rfl
    next => rfl
  · intro other found present
    rcases named present with ⟨earlier, before, _, _, counted, _⟩
    refine Eq.trans ?_ (congrArg _ (contents other)).symm
    rw [counted, formed.tombstones_eq before]
    split
    next same => rw [Slot.countP_insertedInto, Slot.content_removed, live]; rfl
    next => rfl
  · intro left right first second leftPresent rightPresent same
    rcases named leftPresent with ⟨leftBefore, leftFound, leftName, _⟩
    rcases named rightPresent with ⟨rightBefore, rightFound, rightName, _⟩
    exact formed.names_apart leftFound rightFound (leftName.symm.trans (same.trans rightName))
  · intro left right first second leftPresent rightPresent same
    rcases named leftPresent with ⟨leftBefore, leftFound, _, leftSerial, _⟩
    rcases named rightPresent with ⟨rightBefore, rightFound, _, rightSerial, _⟩
    exact formed.serials_apart leftFound rightFound
      (leftSerial.symm.trans (same.trans rightSerial))
  · intro left right first second leftFound rightFound same
    rw [slots] at leftFound rightFound
    split at leftFound
    next leftSame =>
      cases leftFound
      split at rightFound
      next rightSame => exact leftSame.symm.trans rightSame
      next =>
        have earlier := latest right second rightFound
        rw [← same] at earlier
        exact absurd earlier (Nat.lt_irrefl _)
    next =>
      split at rightFound
      next rightSame =>
        cases rightFound
        have earlier := latest left first leftFound
        rw [same] at earlier
        exact absurd earlier (Nat.lt_irrefl _)
      next => exact formed.handles_apart leftFound rightFound same

end Registry

end SignalDispatch
