import SignalDispatch.Proofs.Bus.Invariant

/-!
# The slots that a call frees

A call takes some slots out of storage and leaves the others where they are, apart from tombstones.
`Frees` says so of the slots by position, before and after; the contexts that the call lets go of
are those of the slots that it takes out.  There is one lemma for each call, and one for the sweep
at the end of an emission.

Contexts with a ticket are followed through `Holds`: a slot that stays keeps its ticket, and what is
taken out carries it along.
-/

namespace SignalDispatch

/-- The ticket of a slot's context. -/
def Slot.ticket? (slot : Slot) : Option Nat :=
  slot.context.bind Context.ticket?

/-- The tickets of some contexts, in order. -/
def ticketsOf (contexts : List Context) : List Nat :=
  contexts.filterMap Context.ticket?

theorem Slot.Outlasts.context_eq {later earlier : Slot} (outlasts : later.Outlasts earlier) :
    later.context = earlier.context := by
  rcases outlasts with rfl | rfl <;> rfl

theorem Slot.Outlasts.ticket?_eq {later earlier : Slot} (outlasts : later.Outlasts earlier) :
    later.ticket? = earlier.ticket? := by
  rw [Slot.ticket?, outlasts.context_eq, Slot.ticket?]

@[simp]
theorem Slot.ticket?_content (slot : Slot) : slot.content.ticket? = slot.ticket? :=
  rfl

/-- The contexts of slots do not depend on their links. -/
theorem Bus.contextsOf_map_content (slots : List Slot) :
    Bus.contextsOf (slots.map Slot.content) = Bus.contextsOf slots := by
  rw [Bus.contextsOf, Bus.contextsOf, List.filterMap_map]
  rfl

theorem ticketsOf_contextsOf (slots : List Slot) :
    ticketsOf (Bus.contextsOf slots) = slots.filterMap Slot.ticket? := by
  rw [ticketsOf, Bus.contextsOf, List.filterMap_filterMap]
  rfl

/-! ## Slots by position -/

/-- Some stored slot has the tracked context of a ticket. -/
def Holds (slots : Nat → Option Slot) (ticket : Nat) : Prop :=
  ∃ position slot, slots position = some slot ∧ slot.ticket? = some ticket

/-- No two stored slots have one ticket. -/
def TicketsApart (slots : Nat → Option Slot) : Prop :=
  ∀ {left right first second ticket},
    slots left = some first → slots right = some second →
      first.ticket? = some ticket → second.ticket? = some ticket → left = right

/-- Some slots go out of storage and the others stay; what is new has no ticket. -/
structure Frees (before after : Nat → Option Slot) (freed : List Slot) : Prop where
  stored : ∀ slot ∈ freed, ∃ position, before position = some slot ∧ after position = none
  others :
    ∀ {position slot}, before position = some slot →
      slot ∈ freed ∨ ∃ later, after position = some later ∧ later.Outlasts slot
  kept :
    ∀ {position slot}, after position = some slot →
      slot.ticket? = none ∨ ∃ earlier, before position = some earlier ∧ slot.Outlasts earlier
  distinct : freed.Pairwise fun left right => left.handle ≠ right.handle

namespace Frees

variable {before after : Nat → Option Slot} {freed : List Slot} {ticket : Nat}

/-- Nothing happens to the slots. -/
theorem refl (slots : Nat → Option Slot) : Frees slots slots [] where
  stored := by
    intro slot member
    cases member
  others := fun {_ slot} found => Or.inr ⟨slot, found, .refl slot⟩
  kept := fun {_ slot} found => Or.inr ⟨slot, found, .refl slot⟩
  distinct := .nil

theorem of_eq (same : after = before) : Frees before after [] :=
  same ▸ refl before

/-- Every slot stays, if only as a tombstone. -/
theorem of_outlasts
    (stays :
      ∀ {position slot}, before position = some slot →
        ∃ later, after position = some later ∧ later.Outlasts slot)
    (kept :
      ∀ {position slot}, after position = some slot →
        slot.ticket? = none ∨ ∃ earlier, before position = some earlier ∧ slot.Outlasts earlier) :
    Frees before after [] where
  stored := by
    intro slot member
    cases member
  others := fun found => Or.inr (stays found)
  kept := kept
  distinct := .nil

/-- A slot whose context has no ticket may be added. -/
theorem of_added
    {position : Nat}
    {slot : Slot}
    (unnamed : slot.ticket? = none)
    (vacant : before position = none)
    (placed : ∀ other, after other = if position = other then some slot else before other) :
    Frees before after [] := by
  refine .of_outlasts ?_ ?_
  · intro other found present
    refine ⟨found, ?_, .refl found⟩
    rw [placed, if_neg]
    · exact present
    · rintro rfl
      rw [vacant] at present
      cases present
  · intro other found present
    rw [placed] at present
    split at present
    · rw [Option.some.injEq] at present
      rw [← present]
      exact Or.inl unnamed
    · exact Or.inr ⟨found, present, .refl found⟩

/-- The slots at some positions go out of storage. -/
theorem of_vacated
    {gone : List Nat}
    (handles :
      ∀ {left right first second}, before left = some first → before right = some second →
        first.handle = second.handle → left = right)
    (nodup : gone.Nodup)
    (vacated : ∀ position, after position = if position ∈ gone then none else before position) :
    Frees before after (gone.filterMap before) where
  stored := by
    intro slot member
    rcases List.mem_filterMap.mp member with ⟨position, inside, found⟩
    exact ⟨position, found, (vacated position).trans (if_pos inside)⟩
  others := by
    intro position slot found
    by_cases inside : position ∈ gone
    · exact Or.inl (List.mem_filterMap.mpr ⟨position, inside, found⟩)
    · exact Or.inr ⟨slot, ((vacated position).trans (if_neg inside)).trans found, .refl slot⟩
  kept := by
    intro position slot found
    rw [vacated] at found
    split at found
    · cases found
    · exact Or.inr ⟨slot, found, .refl slot⟩
  distinct := by
    rw [List.pairwise_filterMap]
    refine nodup.imp ?_
    intro left right different first found second found' same
    exact different (handles found found' same)

/-- A ticket that was held is held still, or leaves with a slot that is freed. -/
theorem holds_iff (frees : Frees before after freed) :
    Holds before ticket ↔ Holds after ticket ∨ ticket ∈ freed.filterMap Slot.ticket? := by
  constructor
  · rintro ⟨position, slot, found, named⟩
    rcases frees.others found with member | ⟨later, there, outlasts⟩
    · exact Or.inr (List.mem_filterMap.mpr ⟨slot, member, named⟩)
    · exact Or.inl ⟨position, later, there, outlasts.ticket?_eq.trans named⟩
  · rintro (⟨position, slot, found, named⟩ | left)
    · rcases frees.kept found with unnamed | ⟨earlier, there, outlasts⟩
      · rw [unnamed] at named
        cases named
      · exact ⟨position, earlier, there, outlasts.ticket?_eq.symm.trans named⟩
    · rcases List.mem_filterMap.mp left with ⟨slot, member, named⟩
      rcases frees.stored slot member with ⟨position, found, _⟩
      exact ⟨position, slot, found, named⟩

/-- What leaves is not held afterwards. -/
theorem not_holds
    (frees : Frees before after freed)
    (apart : TicketsApart before)
    (left : ticket ∈ freed.filterMap Slot.ticket?) :
    ¬ Holds after ticket := by
  rintro ⟨position, slot, found, named⟩
  rcases List.mem_filterMap.mp left with ⟨gone, member, named'⟩
  rcases frees.stored gone member with ⟨place, stored, vacant⟩
  rcases frees.kept found with unnamed | ⟨earlier, there, outlasts⟩
  · rw [unnamed] at named
    cases named
  · have same := apart there stored (outlasts.ticket?_eq.symm.trans named) named'
    rw [same, vacant] at found
    cases found

theorem apart (frees : Frees before after freed) (apart : TicketsApart before) :
    TicketsApart after := by
  intro left right first second ticket found found' named named'
  rcases frees.kept found with unnamed | ⟨earlier, there, outlasts⟩
  · rw [unnamed] at named
    cases named
  · rcases frees.kept found' with unnamed | ⟨other, there', outlasts'⟩
    · rw [unnamed] at named'
      cases named'
    · exact apart there there' (outlasts.ticket?_eq.symm.trans named)
        (outlasts'.ticket?_eq.symm.trans named')

/-- No ticket leaves twice. -/
theorem nodup (frees : Frees before after freed) (apart : TicketsApart before) :
    (freed.filterMap Slot.ticket?).Nodup := by
  rw [List.Nodup, List.pairwise_filterMap]
  refine frees.distinct.imp_of_mem ?_
  intro left right member member' different ticket named ticket' named' same
  subst same
  rcases frees.stored left member with ⟨position, found, _⟩
  rcases frees.stored right member' with ⟨position', found', _⟩
  have places := apart found found' named named'
  rw [places, found', Option.some.injEq] at found
  exact different (congrArg Slot.handle found.symm)

end Frees

/-- Of two elements of an ordered list the one that goes before the other comes first. -/
theorem sublist_of_pairwise
    {α : Type}
    {goes : α → α → Prop}
    (asymm : ∀ {first second}, goes first second → ¬ goes second first)
    {elements : List α}
    (ordered : elements.Pairwise goes)
    {first second : α}
    (member : first ∈ elements)
    (member' : second ∈ elements)
    (before : goes first second) :
    [first, second].Sublist elements := by
  rcases List.append_of_mem member with ⟨passed, rest, rfl⟩
  rw [List.pairwise_append, List.pairwise_cons] at ordered
  rcases List.mem_append.mp member' with earlier | later
  · exact absurd before (asymm (ordered.2.2 second earlier first List.mem_cons_self))
  · rcases List.mem_cons.mp later with rfl | behind
    · exact absurd before (asymm before)
    · exact ((List.singleton_sublist.mpr behind).cons_cons first).trans
        (List.sublist_append_right _ _)

/-- The stored slots, links apart, by their positions. -/
theorem Registry.filterMap_contentAt_toList (slots : Arena Slot) :
    (slots.toList.map Prod.fst).filterMap (contentAt slots) =
      (slots.toList.map Prod.snd).map Slot.content := by
  rw [List.filterMap_map, List.map_map, ← List.filterMap_eq_map]
  refine List.filterMap_congr ?_
  intro entry member
  exact contentAt_of_get? ((Arena.mem_toList_iff _ _ _).mp member)

/-- Some slots of one chain go out of storage, in the order of the chain. -/
structure FreesInOrder (before after : Nat → Option Slot) (freed : List Slot) : Prop
    extends Frees before after freed where
  ordered : freed.Pairwise Slot.Before

/-- No slot goes out of storage. -/
theorem FreesInOrder.of_none {before after : Nat → Option Slot} (frees : Frees before after []) :
    FreesInOrder before after [] :=
  ⟨frees, .nil⟩

namespace Registry

variable {before after : Registry} {index : Nat}

/-- Slots that are detached are freed. -/
theorem Detaches.frees
    {change : Signal → Signal}
    {kept gone : List Nat}
    (detaches : Detaches before after index change kept gone)
    (formed : before.WellFormed)
    (nodup : gone.Nodup) :
    Frees (contentAt before.slots) (contentAt after.slots) (contentsOf before.slots gone) :=
  .of_vacated formed.handles_apart nodup detaches.slots

/-- Slots that are buried stay. -/
theorem Buries.frees
    {change : Signal → Signal}
    {marked : List Nat}
    (buries : Buries before after index change marked) :
    Frees (contentAt before.slots) (contentAt after.slots) [] := by
  refine .of_outlasts ?_ ?_
  · intro position slot found
    rw [buries.slots, found]
    split
    · exact ⟨slot.buried, rfl, Or.inr rfl⟩
    · exact ⟨slot, rfl, .refl slot⟩
  · intro position slot found
    rcases buries.slot_before found with ⟨earlier, present, same⟩
    refine Or.inr ⟨earlier, present, ?_⟩
    rw [same]
    split
    · exact Or.inr rfl
    · exact Or.inl rfl

section

variable {registry : Registry}

theorem WellFormed.retire_frees
    (formed : registry.WellFormed)
    {accepts : Slot → Bool}
    {position : Nat}
    (first : registry.firstLive? index accepts = some position) :
    FreesInOrder (contentAt registry.slots)
      (contentAt (registry.retire index position).1.slots)
      ((registry.retire index position).2.map Slot.content) := by
  rcases firstLive?_eq_some first with ⟨passed, rest, slot, chain, stored, ⟨live, _⟩, _⟩
  have member : position ∈ registry.chain index := by
    rw [chain]
    exact List.mem_append_right _ List.mem_cons_self
  have content := contentAt_of_get? stored
  rcases formed.chained.registered member with ⟨signal, registered⟩
  by_cases idle : signal.emitting = 0
  · rcases formed.retire_idle registered idle member content live with ⟨detaches, _, values⟩
    have frees := detaches.frees formed (List.nodup_singleton position)
    rw [contentsOf_cons content] at frees
    rw [values]
    exact ⟨frees, List.pairwise_singleton _ _⟩
  · rcases formed.retire_emitting registered idle member content live with ⟨buries, _, kept⟩
    rw [kept]
    exact .of_none buries.frees

theorem WellFormed.retireAll_frees
    (formed : registry.WellFormed)
    {name : String}
    (located : registry.find? name = some index) :
    FreesInOrder (contentAt registry.slots)
      (contentAt (registry.retireAll index).2.1.slots)
      ((registry.retireAll index).2.2.map Slot.content) := by
  rcases registered_of_find? located with ⟨signal, registered, _⟩
  by_cases idle : signal.emitting = 0
  · rcases formed.freeChain registered with ⟨detaches, _, values⟩
    rw [retireAll_idle registered idle, values]
    exact ⟨detaches.frees formed (formed.chained.distinct index), formed.ordered index⟩
  · rcases formed.retireAll_emitting registered idle with ⟨buries, _, _, kept⟩
    rw [kept]
    exact .of_none buries.frees

theorem WellFormed.unregister_frees
    (formed : registry.WellFormed)
    {name : String}
    {released : List Slot}
    (done : registry.unregister name = .ok (after, released)) :
    FreesInOrder (contentAt registry.slots) (contentAt after.slots)
      (released.map Slot.content) := by
  rcases formed.unregister done with ⟨index, signal, _, _, drops, _, values⟩
  rw [values]
  exact ⟨.of_vacated formed.handles_apart (formed.chained.distinct index) drops.slots,
    formed.ordered index⟩

/-- Leaving an emission frees the tombstones that it sweeps. -/
theorem WellFormed.endEmission_frees
    (formed : registry.WellFormed)
    (signalRef : SignalRef)
    (elapsed : Option Nat) :
    FreesInOrder (contentAt registry.slots)
      (contentAt (registry.endEmission signalRef elapsed).1.slots)
      ((registry.endEmission signalRef elapsed).2.map Slot.content) := by
  cases resolved : registry.resolve? signalRef with
  | none =>
      rw [registry.endEmission_of_resolve?_eq_none _ elapsed resolved]
      exact .of_none (.refl _)
  | some signal =>
      rcases formed.endEmission resolved elapsed with ⟨left, adjusts, formedLeft, present, ended⟩
      rw [ended, ← adjusts.slots]
      by_cases due :
          (exited elapsed signal).emitting = 0 ∧ 0 < (exited elapsed signal).tombstones
      · rcases formedLeft.sweep present due with ⟨detaches, _, _, values⟩
        have frees := detaches.frees formedLeft
          ((formedLeft.chained.distinct signalRef.index).filter (isTombstone left.slots))
        have tombstones :
            contentsOf left.slots
                ((left.chain signalRef.index).filter (isTombstone left.slots)) =
              (left.contents signalRef.index).filter Slot.removed :=
          contentsOf_filter fun position _ slot found => isTombstone_eq found
        rw [tombstones] at frees
        rw [values]
        exact ⟨frees, (formedLeft.ordered signalRef.index).filter _⟩
      · rw [sweep_of_not present due]
        exact .of_none (.refl _)

theorem slots_register
    {name : String}
    {description : Option String}
    {priority : Priority}
    {serial : Nat}
    (registered : registry.register name description priority serial = .ok after) :
    after.slots = registry.slots := by
  rw [register] at registered
  split at registered
  · cases registered
  · dsimp only at registered
    split at registered
    · cases registered
    · cases registered
      rfl

end

end Registry

namespace Bus

/-- What a call lets go of are the contexts of the slots that it frees, in the order of a chain. -/
def Relinquishes (bus : Bus) (effect : Effect) : Prop :=
  ∃ freed, effect.released = contextsOf freed ∧ FreesInOrder bus.slotAt effect.bus.slotAt freed

namespace Relinquishes

variable {bus : Bus}

/-- A call that keeps every slot. -/
theorem of_slotAt
    {effect : Effect}
    (kept : effect.released = [])
    (same : effect.bus.slotAt = bus.slotAt) :
    bus.Relinquishes effect :=
  ⟨[], kept, .of_none (.of_eq same)⟩

theorem of_registry
    {effect : Effect}
    (kept : effect.released = [])
    (same : effect.bus.registry = bus.registry) :
    bus.Relinquishes effect :=
  of_slotAt kept (slotAt_congr same)

theorem of_failing (fault : Fault) : bus.Relinquishes (bus.failing fault) :=
  of_registry rfl rfl

theorem of_withRegistry
    {call : Registry → Effect}
    (relinquishes :
      ∀ registry, bus.registry = some registry → bus.Relinquishes (call registry)) :
    bus.Relinquishes (bus.withRegistry call) := by
  cases present : bus.registry with
  | none =>
      rw [withRegistry_of_none present]
      exact of_failing _
  | some registry =>
      rw [withRegistry_of_some present]
      exact relinquishes registry present

/-- A call that replaces the registry. -/
theorem of_replaced
    {registry next : Registry}
    {released : List Slot}
    {effect : Effect}
    (present : bus.registry = some registry)
    (replaced : effect.bus.registry = some next)
    (handed : effect.released = contextsOf released)
    (frees :
      FreesInOrder (Registry.contentAt registry.slots) (Registry.contentAt next.slots)
        (released.map Slot.content)) :
    bus.Relinquishes effect := by
  refine ⟨released.map Slot.content, ?_, ?_⟩
  · rw [contextsOf_map_content]
    exact handed
  · have before : bus.slotAt = Registry.contentAt registry.slots :=
      funext (slotAt_of_some present)
    have after : effect.bus.slotAt = Registry.contentAt next.slots :=
      funext (slotAt_of_some replaced)
    rw [before, after]
    exact frees

end Relinquishes

section Calls

variable (bus : Bus)

theorem relinquishes_init : bus.Relinquishes bus.init := by
  rw [init]
  split
  · exact .of_registry rfl rfl
  next absent =>
    refine .of_slotAt rfl ?_
    funext position
    have uninitialized : bus.registry = none := by
      rw [Bool.not_eq_true, isInitialized, Option.isSome_eq_false_iff,
        Option.isNone_iff_eq_none] at absent
      exact absent
    rw [slotAt_of_none uninitialized]
    exact Registry.contentAt_empty _ _ position

theorem relinquishes_register
    (name : String)
    (description : Option String)
    (priority : Priority) :
    bus.Relinquishes (bus.register name description priority) := by
  refine .of_withRegistry fun registry present => ?_
  dsimp only
  split
  · exact .of_registry rfl rfl
  next next registered =>
    have kept : next.slots = registry.slots := by
      cases accepted : bus.backend.acceptName name with
      | error fault =>
          rw [accepted] at registered
          cases registered
      | ok text =>
          rw [accepted] at registered
          exact Registry.slots_register registered
    refine .of_slotAt rfl (funext fun position => ?_)
    rw [slotAt_of_some present]
    exact (slotAt_of_some rfl position).trans (by rw [kept])

theorem relinquishes_unregister (sane : bus.Sane) (name : String) :
    bus.Relinquishes (bus.unregister name) := by
  refine .of_withRegistry fun registry present => ?_
  cases done : registry.unregister name with
  | error fault => exact .of_failing fault
  | ok result =>
      exact .of_replaced present rfl rfl ((sane.registry present).formed.unregister_frees done)

/-- Removing the first slot that a test accepts. -/
theorem frees_removeFirst
    {registry next : Registry}
    {released : List Slot}
    {index : Nat}
    {accepts : Slot → Bool}
    (formed : registry.WellFormed)
    (removed : registry.removeFirst index accepts = some (next, released)) :
    FreesInOrder (Registry.contentAt registry.slots) (Registry.contentAt next.slots)
      (released.map Slot.content) := by
  rw [Registry.removeFirst, Option.map_eq_some_iff] at removed
  rcases removed with ⟨position, first, retired⟩
  have frees := formed.retire_frees first
  rw [retired] at frees
  exact frees

theorem relinquishes_disconnect (sane : bus.Sane) (name : String) (callback : RoutineId) :
    bus.Relinquishes (bus.disconnect name callback) := by
  refine .of_withRegistry fun registry present => ?_
  split
  · exact .of_failing _
  · split
    · exact .of_failing _
    next removed =>
      exact .of_replaced present rfl rfl
        (frees_removeFirst (sane.registry present).formed removed)

theorem relinquishes_disconnectHandle (sane : bus.Sane) (handle : Handle) :
    bus.Relinquishes (bus.disconnectHandle handle) := by
  rw [disconnectHandle]
  split
  · refine .of_withRegistry fun registry present => ?_
    split
    · exact .of_failing _
    next removed =>
      rw [Registry.removeHandle, Option.bind_eq_some_iff] at removed
      rcases removed with ⟨index, _, removed⟩
      exact .of_replaced present rfl rfl
        (frees_removeFirst (sane.registry present).formed removed)
  · exact .of_failing _

theorem relinquishes_disconnectAll (sane : bus.Sane) (name : String) :
    bus.Relinquishes (bus.disconnectAll name) := by
  refine .of_withRegistry fun registry present => ?_
  cases located : registry.lookup name with
  | error fault => exact .of_failing fault
  | ok index =>
      exact .of_replaced present rfl rfl
        ((sane.registry present).formed.retireAll_frees ((lookup_eq_ok_iff _ _ _).mp located))

theorem relinquishes_defer (emission : Emission) : bus.Relinquishes (bus.defer emission) := by
  refine .of_withRegistry fun registry present => ?_
  split
  · exact .of_failing _
  · exact .of_registry rfl rfl

theorem relinquishes_setMaxSlots (limit : Nat) :
    bus.Relinquishes (bus.setMaxSlots limit) := by
  rw [setMaxSlots]
  split
  · exact .of_failing _
  · exact .of_registry rfl rfl

theorem relinquishes_timing (name : String) : bus.Relinquishes (bus.timing name) :=
  .of_withRegistry fun _ _ => .of_registry rfl rfl

theorem relinquishes_memoryStats : bus.Relinquishes bus.memoryStats :=
  .of_withRegistry fun _ _ => .of_registry rfl rfl

theorem relinquishes_resetTiming : bus.Relinquishes bus.resetTiming := by
  refine .of_slotAt rfl (funext fun position => ?_)
  rw [resetTiming, slotAt, slotAt]
  cases bus.registry <;> rfl

theorem relinquishes_resetPeak : bus.Relinquishes bus.resetPeak := by
  refine .of_slotAt rfl (funext fun position => ?_)
  rw [resetPeak, slotAt, slotAt]
  cases bus.registry <;> rfl

/-- A cleanup frees every slot, in ascending order of position. -/
theorem relinquishes_cleanup (sane : bus.Sane) :
    ∃ freed, bus.cleanup.released = contextsOf freed ∧
      Frees bus.slotAt bus.cleanup.bus.slotAt freed ∧
      ∀ {left right first second}, left < right → bus.slotAt left = some first →
        bus.slotAt right = some second → [first, second].Sublist freed := by
  cases present : bus.registry with
  | none =>
      have same : bus.cleanup = bus.answering .done := by rw [cleanup, present]
      rw [same]
      refine ⟨[], rfl, .refl _, ?_⟩
      intro left right first second _ found
      rw [slotAt_of_none present] at found
      cases found
  | some registry =>
      have formed := (sane.registry present).formed
      have before : bus.slotAt = Registry.contentAt registry.slots :=
        funext (slotAt_of_some present)
      have stored {position : Nat} {slot : Slot}
          (found : Registry.contentAt registry.slots position = some slot) :
          position ∈ registry.slots.toList.map Prod.fst := by
        rcases (Registry.contentAt_eq_some_iff _ _ _).mp found with ⟨kept, there, _⟩
        exact List.mem_map.mpr ⟨_, (Arena.mem_toList_iff _ _ _).mpr there, rfl⟩
      have after (position : Nat) :
          bus.cleanup.bus.slotAt position =
            if position ∈ registry.slots.toList.map Prod.fst then none
            else bus.slotAt position := by
        have gone : bus.cleanup.bus.slotAt position = none := by
          rw [cleanup, present]
          exact slotAt_of_none rfl position
        rw [gone, before]
        split
        · rfl
        next absent =>
          cases found : Registry.contentAt registry.slots position with
          | none => rfl
          | some slot => exact absurd (stored found) absent
      refine ⟨(registry.slots.toList.map Prod.fst).filterMap bus.slotAt, ?_, ?_, ?_⟩
      · rw [before, Registry.filterMap_contentAt_toList, contextsOf_map_content, cleanup, present]
      · refine .of_vacated ?_ (Arena.nodup_toList_map_fst _) after
        rw [before]
        exact formed.handles_apart
      · intro left right first second ascending found found'
        have order : [left, right].Sublist (registry.slots.toList.map Prod.fst) := by
          rw [before] at found found'
          exact sublist_of_pairwise Nat.lt_asymm (Arena.pairwise_toList_map_fst _)
            (stored found) (stored found') ascending
        have sublist := order.filterMap bus.slotAt
        rw [List.filterMap_cons_some found, List.filterMap_cons_some found'] at sublist
        exact sublist

/-- A connection that is rejected gives its context back; one that is accepted stores it. -/
theorem connect_spec
    (sane : bus.Sane)
    (name : String)
    (callback : RoutineId)
    (context : Option Context)
    (priority : Option Priority) :
    (∃ fault, (bus.connect name callback context priority).result = .error fault ∧
        (bus.connect name callback context priority).released = context.toList ∧
        (bus.connect name callback context priority).bus.slotAt = bus.slotAt) ∨
      ∃ handle position slot,
        (bus.connect name callback context priority).result = .ok (.connected handle) ∧
        (bus.connect name callback context priority).released = [] ∧
        slot.context = context ∧ bus.slotAt position = none ∧
        ∀ other, (bus.connect name callback context priority).bus.slotAt other =
          if position = other then some slot else bus.slotAt other := by
  have rejected (drawn : Bus) (fault : Fault)
      (same :
        bus.connect name callback context priority =
          { bus := drawn, released := context.toList, result := .error fault })
      (slots : drawn.slotAt = bus.slotAt) :
      ∃ fault, (bus.connect name callback context priority).result = .error fault ∧
        (bus.connect name callback context priority).released = context.toList ∧
        (bus.connect name callback context priority).bus.slotAt = bus.slotAt := by
    rw [same]
    exact ⟨fault, rfl, rfl, slots⟩
  cases present : bus.registry with
  | none => exact Or.inl (rejected _ _ (by rw [connect, present]) rfl)
  | some registry =>
      cases located : registry.lookup name with
      | error fault =>
          refine Or.inl (rejected bus fault ?_ rfl)
          rw [connect, present]
          simp only [bind, Except.bind, located]
      | ok index =>
          cases granted : registry.grant index bus.maxSlots with
          | error fault =>
              refine Or.inl (rejected bus fault ?_ rfl)
              rw [connect, present]
              simp only [bind, Except.bind, located, granted]
          | ok declared =>
              let slot : Slot :=
                { handle := ⟨bus.nextHandle⟩
                  callback := callback
                  context := context
                  priority := priority.getD declared }
              cases attached : registry.attach index slot with
              | error fault =>
                  refine Or.inl (rejected { bus with nextHandle := bus.nextHandle + 1 } fault ?_
                    (slotAt_congr rfl))
                  rw [connect, present]
                  simp only [bind, Except.bind, located, granted, pure, Except.pure]
                  rw [attached]
              | ok next =>
                  have same :
                      bus.connect name callback context priority =
                        { bus :=
                            { bus with nextHandle := bus.nextHandle + 1 }.setRegistry next
                          after :=
                            [.debug
                              ("Connected slot " ++ slot.handle.text ++ " to '" ++ name ++ "'")]
                          result := .ok (.connected slot.handle) } := by
                    rw [connect, present]
                    simp only [bind, Except.bind, located, granted, pure, Except.pure]
                    rw [attached]
                  have latest := @sane.handles
                  simp only [slotAt_of_some present] at latest
                  rcases Registry.signalAt_of_find? ((lookup_eq_ok_iff _ _ _).mp located) with
                    ⟨signal, registered, _⟩
                  rcases (sane.registry present).formed.attach registered rfl
                    (fun _ _ found => latest found) attached with ⟨_, position, attaches⟩
                  rw [same]
                  refine Or.inr ⟨slot.handle, position, slot.content, rfl, rfl, rfl, ?_, ?_⟩
                  · rw [slotAt_of_some present]
                    exact attaches.vacant
                  · intro other
                    rw [slotAt_of_some present]
                    exact (slotAt_of_some rfl other).trans (attaches.slots other)

end Calls

end Bus

end SignalDispatch
