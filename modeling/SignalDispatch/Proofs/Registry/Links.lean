import Mathlib.Data.List.Perm.Subperm
import Mathlib.Logic.Function.Basic
import SignalDispatch.Proofs.Storage.Soundness
import SignalDispatch.Registry.Chain

/-!
# Links that end

`Linked slots start order` says that following the links from `start` meets exactly the indices
`order` and then ends.  `Registry.follow` has to stop somewhere, so it counts; a list that is
linked is what `follow` finds, and no longer than the storage.

`Registry.Chained` says the same of every signal at once: the chains are linked, no chain meets an
index twice, and no two chains share one.  Whoever shows a registry to be chained along some
lists has computed its chains.
-/

namespace SignalDispatch

/-- The links from a start lead along the given indices and then end. -/
inductive Linked (slots : Arena Slot) : Option Nat → List Nat → Prop where
  | done : Linked slots none []
  | link {index : Nat} {slot : Slot} {rest : List Nat} :
      slots.get? index = some slot →
      Linked slots slot.next rest →
      Linked slots (some index) (index :: rest)

namespace Linked

variable {slots other : Arena Slot} {start : Option Nat} {order : List Nat}

theorem head_eq (linked : Linked slots start order) : start = order.head? := by
  cases linked <;> rfl

theorem stored
    (linked : Linked slots start order)
    {index : Nat}
    (member : index ∈ order) :
    (slots.get? index).isSome := by
  induction linked with
  | done => cases member
  | link found _ ih =>
      rcases List.mem_cons.mp member with rfl | later
      · simp [found]
      · exact ih later

/-- Counting as many links as a linked list has is enough to find all of it. -/
theorem follow_eq
    (linked : Linked slots start order)
    {limit : Nat}
    (enough : order.length ≤ limit) :
    Registry.follow slots limit start = order := by
  induction linked generalizing limit with
  | done => cases limit <;> rfl
  | link found _ ih =>
      cases limit with
      | zero => simp at enough
      | succ limit =>
          rw [Registry.follow, found]
          simp only [List.cons.injEq, true_and]
          exact ih (by simpa using enough)

/-- A list without repetition of stored indices is no longer than the storage. -/
theorem length_le_reserved
    (linked : Linked slots start order)
    (distinct : order.Nodup) :
    order.length ≤ slots.reserved := by
  have within : order ⊆ List.range slots.reserved := by
    intro index member
    exact List.mem_range.mpr (slots.lt_reserved_of_get?_isSome (linked.stored member))
  simpa using (distinct.subperm within).length_le

/-- Links that stay as they were lead along the same indices. -/
theorem congr
    (linked : Linked slots start order)
    (same :
      ∀ index ∈ order,
        (other.get? index).map Slot.next = (slots.get? index).map Slot.next) :
    Linked other start order := by
  induction linked with
  | done => exact .done
  | @link index slot rest found _ ih =>
      have kept := same index List.mem_cons_self
      rw [found, Option.map_some, Option.map_eq_some_iff] at kept
      obtain ⟨slotAfter, foundAfter, next⟩ := kept
      have later := ih fun later member => same later (List.mem_cons_of_mem _ member)
      exact .link foundAfter (next ▸ later)

/-- The links after an index of a linked list lead along the rest of the list. -/
theorem suffix
    {before after : List Nat}
    {index : Nat}
    (linked : Linked slots start (before ++ index :: after)) :
    ∃ slot, slots.get? index = some slot ∧ Linked slots slot.next after := by
  induction before generalizing start with
  | nil =>
      cases linked with
      | link found rest => exact ⟨_, found, rest⟩
  | cons first before ih =>
      cases linked with
      | link _ rest => exact ih rest

end Linked

/-- Threading a list of stored slots links it. -/
theorem linked_thread
    (slots : Arena Slot)
    {order : List Nat}
    (distinct : order.Nodup)
    (stored : ∀ index ∈ order, (slots.get? index).isSome) :
    Linked (Registry.thread slots order) order.head? order := by
  induction order generalizing slots with
  | nil => exact .done
  | cons first rest ih =>
      rw [List.nodup_cons] at distinct
      obtain ⟨slot, found⟩ := Option.isSome_iff_exists.mp (stored first List.mem_cons_self)
      have present :
          (Registry.thread slots (first :: rest)).get? first =
            some { slot with next := rest.head? } := by
        rw [Registry.thread, Registry.get?_thread_of_not_mem _ distinct.1, Arena.get?_modify,
          if_pos rfl, found]
        rfl
      refine .link present (ih _ distinct.2 ?_)
      intro index member
      rw [Arena.isSome_get?_modify]
      exact stored index (List.mem_cons_of_mem _ member)

/-! ## What threading keeps -/

/-- A slot without its link. -/
def Slot.content (slot : Slot) : Slot :=
  { slot with next := none }

namespace Slot

variable (slot : Slot)

@[simp] theorem content_handle : slot.content.handle = slot.handle := rfl

@[simp] theorem content_callback : slot.content.callback = slot.callback := rfl

@[simp] theorem content_context : slot.content.context = slot.context := rfl

@[simp] theorem content_priority : slot.content.priority = slot.priority := rfl

@[simp] theorem content_removed : slot.content.removed = slot.removed := rfl

end Slot

namespace Registry

/-- What storage holds at a position, links apart. -/
def contentAt (slots : Arena Slot) (position : Nat) : Option Slot :=
  (slots.get? position).map Slot.content

theorem isSome_contentAt (slots : Arena Slot) (position : Nat) :
    (contentAt slots position).isSome = (slots.get? position).isSome := by
  simp [contentAt]

/-- Threading changes links only. -/
@[simp]
theorem contentAt_thread (slots : Arena Slot) (order : List Nat) (position : Nat) :
    contentAt (thread slots order) position = contentAt slots position := by
  induction order generalizing slots with
  | nil => rfl
  | cons first rest ih =>
      rw [thread, ih]
      simp only [contentAt, Arena.get?_modify]
      split
      · rw [Option.map_map]
        rfl
      · rfl

theorem sound_thread
    {slots : Arena Slot}
    (sound : slots.Sound)
    (order : List Nat) :
    (thread slots order).Sound := by
  induction order generalizing slots with
  | nil => exact sound
  | cons first rest ih => exact ih (sound.modify first _)

/-! ## All chains of a registry -/

/-- Along the given lists the chains of a registry are linked, without repetition and apart. -/
structure Chained (registry : Registry) (order : Nat → List Nat) : Prop where
  linked :
    ∀ {index signal}, registry.signals.get? index = some signal →
      Linked registry.slots signal.head (order index)
  unregistered : ∀ {index}, registry.signals.get? index = none → order index = []
  distinct : ∀ index, (order index).Nodup
  apart :
    ∀ {left right position}, position ∈ order left → position ∈ order right → left = right

namespace Chained

variable {registry : Registry} {order : Nat → List Nat}

theorem stored
    (chained : registry.Chained order)
    {index position : Nat}
    (member : position ∈ order index) :
    (registry.slots.get? position).isSome := by
  cases registered : registry.signals.get? index with
  | none =>
      rw [chained.unregistered registered] at member
      cases member
  | some signal => exact (chained.linked registered).stored member

theorem registered
    (chained : registry.Chained order)
    {index position : Nat}
    (member : position ∈ order index) :
    ∃ signal, registry.signals.get? index = some signal := by
  cases registered : registry.signals.get? index with
  | none =>
      rw [chained.unregistered registered] at member
      cases member
  | some signal => exact ⟨signal, rfl⟩

/-- A registry that is chained along some lists has them as its chains. -/
theorem chain_eq (chained : registry.Chained order) : registry.chain = order := by
  funext index
  cases registered : registry.signals.get? index with
  | none => rw [chain, registered, chained.unregistered registered]
  | some signal =>
      have linked := chained.linked registered
      rw [chain, registered]
      exact linked.follow_eq (linked.length_le_reserved (chained.distinct index))

/-- Changing signals in place keeps the chains if it keeps the heads. -/
theorem of_signals
    {after : Registry}
    (chained : registry.Chained order)
    (slots : after.slots = registry.slots)
    (heads :
      ∀ index,
        (after.signals.get? index).map Signal.head =
          (registry.signals.get? index).map Signal.head) :
    after.Chained order where
  linked := by
    intro index signal registered
    have head := heads index
    rw [registered, Option.map_some] at head
    rcases Option.map_eq_some_iff.mp head.symm with ⟨before, found, same⟩
    rw [slots, ← same]
    exact chained.linked found
  unregistered := by
    intro index empty
    have head := heads index
    rw [empty, Option.map_none] at head
    exact chained.unregistered (Option.map_eq_none_iff.mp head.symm)
  distinct := chained.distinct
  apart := chained.apart

/-- Changing slots outside the chains, or without their links, keeps the chains. -/
theorem of_slots
    {after : Registry}
    (chained : registry.Chained order)
    (signals : after.signals = registry.signals)
    (links :
      ∀ index, ∀ position ∈ order index,
        (after.slots.get? position).map Slot.next =
          (registry.slots.get? position).map Slot.next) :
    after.Chained order where
  linked := by
    intro index signal registered
    rw [signals] at registered
    exact (chained.linked registered).congr (links index)
  unregistered := by
    intro index empty
    rw [signals] at empty
    exact chained.unregistered empty
  distinct := chained.distinct
  apart := chained.apart

/-- Relinking one signal along stored slots that no other signal has changes its chain only. -/
theorem relink
    (chained : registry.Chained order)
    {index : Nat}
    {signal : Signal}
    (registered : registry.signals.get? index = some signal)
    {positions : List Nat}
    (distinct : positions.Nodup)
    (stored : ∀ position ∈ positions, (registry.slots.get? position).isSome)
    (apart : ∀ position ∈ positions, ∀ other, position ∈ order other → other = index) :
    (registry.relink index positions).Chained (Function.update order index positions) where
  linked := by
    intro other found present
    rw [Registry.relink, Arena.get?_modify] at present
    by_cases same : index = other
    · subst same
      rw [if_pos rfl, registered, Option.map_some, Option.some.injEq] at present
      subst present
      rw [Function.update_self]
      exact linked_thread registry.slots distinct stored
    · rw [if_neg same] at present
      rw [Function.update_of_ne (Ne.symm same)]
      refine (chained.linked present).congr ?_
      intro position member
      have outside : position ∉ positions :=
        fun inside => same (apart position inside other member).symm
      rw [Registry.relink, get?_thread_of_not_mem _ outside]
  unregistered := by
    intro other empty
    rw [Registry.relink, Arena.get?_modify] at empty
    by_cases same : index = other
    · subst same
      rw [if_pos rfl, registered, Option.map_some] at empty
      cases empty
    · rw [if_neg same] at empty
      rw [Function.update_of_ne (Ne.symm same)]
      exact chained.unregistered empty
  distinct := by
    intro other
    by_cases same : other = index
    · rw [same, Function.update_self]
      exact distinct
    · rw [Function.update_of_ne same]
      exact chained.distinct other
  apart := by
    intro left right position inLeft inRight
    by_cases leftSame : left = index
    · by_cases rightSame : right = index
      · rw [leftSame, rightSame]
      · rw [leftSame, Function.update_self] at inLeft
        rw [Function.update_of_ne rightSame] at inRight
        rw [leftSame, apart position inLeft right inRight]
    · rw [Function.update_of_ne leftSame] at inLeft
      by_cases rightSame : right = index
      · rw [rightSame, Function.update_self] at inRight
        rw [rightSame, apart position inRight left inLeft]
      · rw [Function.update_of_ne rightSame] at inRight
        exact chained.apart inLeft inRight

end Chained

end Registry

end SignalDispatch
