import SignalDispatch.Proofs.Registry.Links
import SignalDispatch.Registry.Basic

/-!
# Well-formed registries

Links apart, a registry is three maps: `signalAt` from indices to signals, `chain` from indices to
lists of positions, and `contentAt` from positions to slots.  A registry is well formed when its
chains are linked and cover the slot storage, every chain is strictly ordered, and the counters of
every signal are the numbers of live slots and of tombstones in its chain.

`WellFormed.of_chained` is how operations show it: along the lists that become the chains.
-/

namespace SignalDispatch

/-- A signal without its link. -/
def Signal.content (signal : Signal) : Signal :=
  { signal with head := none }

namespace Signal

variable (signal : Signal)

@[simp] theorem content_name : signal.content.name = signal.name := rfl

@[simp] theorem content_description : signal.content.description = signal.description := rfl

@[simp] theorem content_priority : signal.content.priority = signal.priority := rfl

@[simp] theorem content_live : signal.content.live = signal.live := rfl

@[simp] theorem content_tombstones : signal.content.tombstones = signal.tombstones := rfl

@[simp] theorem content_emitting : signal.content.emitting = signal.emitting := rfl

@[simp] theorem content_serial : signal.content.serial = signal.serial := rfl

end Signal

/-- One slot goes before another: higher priority first, then earlier connection. -/
def Slot.Before (left right : Slot) : Prop :=
  right.priority.rank < left.priority.rank ∨
    (left.priority.rank = right.priority.rank ∧ left.handle.number < right.handle.number)

namespace Slot.Before

variable {left middle right : Slot}

theorem irrefl (slot : Slot) : ¬ slot.Before slot := by
  intro before
  rcases before with higher | ⟨_, earlier⟩
  · exact Int.lt_irrefl _ higher
  · exact Nat.lt_irrefl _ earlier

theorem trans (first : left.Before middle) (second : middle.Before right) :
    left.Before right := by
  rcases first with higher | ⟨same, earlier⟩
  · rcases second with higher' | ⟨same', _⟩
    · exact Or.inl (Int.lt_trans higher' higher)
    · exact Or.inl (same' ▸ higher)
  · rcases second with higher' | ⟨same', earlier'⟩
    · exact Or.inl (same.symm ▸ higher')
    · exact Or.inr ⟨same.trans same', Nat.lt_trans earlier earlier'⟩

theorem asymm (before : left.Before right) : ¬ right.Before left :=
  fun after => irrefl left (before.trans after)

/-- Slots of different handles come one before the other. -/
theorem total (different : left.handle ≠ right.handle) :
    left.Before right ∨ right.Before left := by
  have numbers : left.handle.number ≠ right.handle.number :=
    fun same => different (congrArg Handle.mk same)
  unfold Slot.Before
  omega

theorem rank_le (before : left.Before right) : right.priority.rank ≤ left.priority.rank := by
  rcases before with higher | ⟨same, _⟩
  · exact Int.le_of_lt higher
  · exact Int.le_of_eq same.symm

end Slot.Before

namespace Registry

/-- The signal at an index, links apart. -/
def signalAt (registry : Registry) (index : Nat) : Option Signal :=
  (registry.signals.get? index).map Signal.content

/-- The slots along a list of positions, links apart. -/
def contentsOf (slots : Arena Slot) (positions : List Nat) : List Slot :=
  positions.filterMap (contentAt slots)

/-- The slots of the signal at an index, tombstones included, links apart. -/
def contents (registry : Registry) (index : Nat) : List Slot :=
  contentsOf registry.slots (registry.chain index)

theorem signalAt_eq_some_iff (registry : Registry) (index : Nat) (signal : Signal) :
    registry.signalAt index = some signal ↔
      ∃ found, registry.signals.get? index = some found ∧ found.content = signal := by
  simp [signalAt, Option.map_eq_some_iff]

theorem signalAt_eq_none_iff (registry : Registry) (index : Nat) :
    registry.signalAt index = none ↔ registry.signals.get? index = none := by
  simp [signalAt]

theorem contentAt_eq_some_iff (slots : Arena Slot) (position : Nat) (slot : Slot) :
    contentAt slots position = some slot ↔
      ∃ found, slots.get? position = some found ∧ found.content = slot := by
  simp [contentAt, Option.map_eq_some_iff]

theorem signalAt_of_get?
    {registry : Registry}
    {index : Nat}
    {signal : Signal}
    (stored : registry.signals.get? index = some signal) :
    registry.signalAt index = some signal.content := by
  rw [signalAt, stored]
  rfl

theorem contentAt_of_get?
    {slots : Arena Slot}
    {position : Nat}
    {slot : Slot}
    (stored : slots.get? position = some slot) :
    contentAt slots position = some slot.content := by
  rw [contentAt, stored]
  rfl

/-- The slots of a signal without their links are its contents. -/
theorem map_content_slotsOf (registry : Registry) (index : Nat) :
    (registry.slotsOf index).map Slot.content = registry.contents index := by
  rw [slotsOf, contents, contentsOf, List.map_filterMap]
  rfl

/-- Changing a signal apart from its link changes the map of signals at its index only. -/
theorem signalAt_modify
    {registry after : Registry}
    {index : Nat}
    (change : Signal → Signal)
    (signals : after.signals = registry.signals.modify index change)
    (apart : ∀ signal, (change signal).content = change signal.content)
    (other : Nat) :
    after.signalAt other =
      if index = other then (registry.signalAt other).map change
      else registry.signalAt other := by
  rw [signalAt, signals, Arena.get?_modify, signalAt]
  split
  · cases registry.signals.get? other with
    | none => rfl
    | some signal => exact congrArg some (apart signal)
  · rfl

/-- Relinking changes no signal apart from its link. -/
@[simp]
theorem signalAt_relink (registry : Registry) (index : Nat) (positions : List Nat) (other : Nat) :
    (registry.relink index positions).signalAt other = registry.signalAt other := by
  rw [signalAt, relink, Arena.get?_modify, signalAt]
  split
  · cases registry.signals.get? other with
    | none => rfl
    | some signal => rfl
  · rfl

/-- Relinking changes no slot apart from its link. -/
@[simp]
theorem contentAt_relink (registry : Registry) (index : Nat) (positions : List Nat)
    (position : Nat) :
    contentAt (registry.relink index positions).slots position =
      contentAt registry.slots position :=
  contentAt_thread registry.slots positions position

theorem contentsOf_congr
    {slots other : Arena Slot}
    {positions : List Nat}
    (same : ∀ position ∈ positions, contentAt other position = contentAt slots position) :
    contentsOf other positions = contentsOf slots positions :=
  List.filterMap_congr same

@[simp]
theorem contentsOf_append (slots : Arena Slot) (first second : List Nat) :
    contentsOf slots (first ++ second) = contentsOf slots first ++ contentsOf slots second :=
  List.filterMap_append

theorem contentsOf_cons
    {slots : Arena Slot}
    {position : Nat}
    {slot : Slot}
    (found : contentAt slots position = some slot)
    (rest : List Nat) :
    contentsOf slots (position :: rest) = slot :: contentsOf slots rest :=
  List.filterMap_cons_some found

theorem mem_contentsOf_iff (slots : Arena Slot) (positions : List Nat) (slot : Slot) :
    slot ∈ contentsOf slots positions ↔
      ∃ position ∈ positions, contentAt slots position = some slot :=
  List.mem_filterMap

/-- A sublist of positions has a sublist of the slots. -/
theorem contentsOf_sublist
    {slots : Arena Slot}
    {fewer positions : List Nat}
    (sublist : fewer.Sublist positions) :
    (contentsOf slots fewer).Sublist (contentsOf slots positions) :=
  sublist.filterMap _

/-- A test of positions that agrees with a test of slots filters both alike. -/
theorem contentsOf_filter
    {slots : Arena Slot}
    {positions : List Nat}
    {onPosition : Nat → Bool}
    {onSlot : Slot → Bool}
    (agree :
      ∀ position ∈ positions, ∀ slot, contentAt slots position = some slot →
        onPosition position = onSlot slot) :
    contentsOf slots (positions.filter onPosition) =
      (contentsOf slots positions).filter onSlot := by
  rw [contentsOf, contentsOf, List.filterMap_filter, List.filter_filterMap]
  refine List.filterMap_congr ?_
  intro position member
  cases found : contentAt slots position with
  | none => simp
  | some slot => simp [agree position member slot found, Option.filter]

/-- The chains cover the storage, are strictly ordered, and have the sizes that are counted. -/
structure WellFormed (registry : Registry) : Prop where
  signals_sound : registry.signals.Sound
  slots_sound : registry.slots.Sound
  chained : registry.Chained registry.chain
  covered :
    ∀ {position}, (contentAt registry.slots position).isSome →
      ∃ index, position ∈ registry.chain index
  ordered : ∀ index, (registry.contents index).Pairwise Slot.Before
  live_eq :
    ∀ {index signal}, registry.signalAt index = some signal →
      signal.live = (registry.contents index).countP fun slot => !slot.removed
  tombstones_eq :
    ∀ {index signal}, registry.signalAt index = some signal →
      signal.tombstones = (registry.contents index).countP Slot.removed
  names_apart :
    ∀ {left right first second},
      registry.signalAt left = some first → registry.signalAt right = some second →
        first.name = second.name → left = right
  serials_apart :
    ∀ {left right first second},
      registry.signalAt left = some first → registry.signalAt right = some second →
        first.serial = second.serial → left = right
  handles_apart :
    ∀ {left right first second},
      contentAt registry.slots left = some first →
        contentAt registry.slots right = some second →
          first.handle = second.handle → left = right

/-- A signal that is not being emitted has no tombstones. -/
def Settled (registry : Registry) : Prop :=
  ∀ {index signal}, registry.signalAt index = some signal →
    signal.emitting = 0 → signal.tombstones = 0

namespace WellFormed

variable {registry : Registry}

theorem contentAt_isSome
    (formed : registry.WellFormed)
    {index position : Nat}
    (member : position ∈ registry.chain index) :
    (contentAt registry.slots position).isSome := by
  rw [isSome_contentAt]
  exact formed.chained.stored member

/-- What the chain of a signal holds at one of its positions. -/
theorem content_of_mem
    (formed : registry.WellFormed)
    {index position : Nat}
    (member : position ∈ registry.chain index) :
    ∃ slot, contentAt registry.slots position = some slot ∧ slot ∈ registry.contents index := by
  rcases Option.isSome_iff_exists.mp (formed.contentAt_isSome member) with ⟨slot, found⟩
  exact ⟨slot, found, (mem_contentsOf_iff _ _ _).mpr ⟨position, member, found⟩⟩

/-- The head of a signal is the first position of its chain. -/
theorem head_eq
    (formed : registry.WellFormed)
    {index : Nat}
    {signal : Signal}
    (registered : registry.signals.get? index = some signal) :
    signal.head = (registry.chain index).head? :=
  (formed.chained.linked registered).head_eq

/-- The link of a slot in a chain is the position after it. -/
theorem next_eq
    (formed : registry.WellFormed)
    {index position : Nat}
    {before after : List Nat}
    (chain : registry.chain index = before ++ position :: after) :
    ∃ slot, registry.slots.get? position = some slot ∧ slot.next = after.head? := by
  have member : position ∈ registry.chain index := by simp [chain]
  rcases formed.chained.registered member with ⟨signal, registered⟩
  have linked := formed.chained.linked registered
  rw [chain] at linked
  rcases linked.suffix with ⟨slot, found, rest⟩
  exact ⟨slot, found, rest.head_eq⟩

/-- A registry that is chained along some lists is well formed if the lists are right. -/
theorem of_chained
    {order : Nat → List Nat}
    (chained : registry.Chained order)
    (signals_sound : registry.signals.Sound)
    (slots_sound : registry.slots.Sound)
    (covered :
      ∀ {position}, (contentAt registry.slots position).isSome →
        ∃ index, position ∈ order index)
    (ordered : ∀ index, (contentsOf registry.slots (order index)).Pairwise Slot.Before)
    (live_eq :
      ∀ {index signal}, registry.signalAt index = some signal →
        signal.live =
          (contentsOf registry.slots (order index)).countP fun slot => !slot.removed)
    (tombstones_eq :
      ∀ {index signal}, registry.signalAt index = some signal →
        signal.tombstones = (contentsOf registry.slots (order index)).countP Slot.removed)
    (names_apart :
      ∀ {left right first second},
        registry.signalAt left = some first → registry.signalAt right = some second →
          first.name = second.name → left = right)
    (serials_apart :
      ∀ {left right first second},
        registry.signalAt left = some first → registry.signalAt right = some second →
          first.serial = second.serial → left = right)
    (handles_apart :
      ∀ {left right first second},
        contentAt registry.slots left = some first →
          contentAt registry.slots right = some second →
            first.handle = second.handle → left = right) :
    registry.WellFormed := by
  have same := chained.chain_eq
  subst same
  exact
    { signals_sound, slots_sound, chained, covered, ordered, live_eq, tombstones_eq,
      names_apart, serials_apart, handles_apart }

end WellFormed

/-! ## The empty registry -/

theorem signalAt_empty (signals slots : StoragePolicy) (index : Nat) :
    (empty signals slots).signalAt index = none := by
  rw [signalAt, empty, Arena.get?_empty]
  rfl

theorem contentAt_empty (signals slots : StoragePolicy) (position : Nat) :
    contentAt (empty signals slots).slots position = none := by
  rw [contentAt, empty, Arena.get?_empty]
  rfl

theorem wellFormed_empty (signals slots : StoragePolicy) :
    (empty signals slots).WellFormed := by
  have chained : (empty signals slots).Chained fun _ => [] :=
    { linked := by
        intro index signal registered
        rw [empty, Arena.get?_empty] at registered
        cases registered
      unregistered := fun _ => rfl
      distinct := fun _ => List.nodup_nil
      apart := by
        intro left right position member
        cases member }
  refine .of_chained chained (Arena.sound_empty _) (Arena.sound_empty _) ?_ ?_ ?_ ?_ ?_ ?_ ?_
  · intro position present
    rw [contentAt_empty] at present
    cases present
  · intro index
    exact List.Pairwise.nil
  all_goals
    intro left right
    simp [signalAt_empty, contentAt_empty]

end Registry

end SignalDispatch
