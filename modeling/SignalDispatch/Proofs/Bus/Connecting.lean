import SignalDispatch.Proofs.Bus.Containment
import SignalDispatch.Proofs.Bus.Requests
import SignalDispatch.Proofs.Registry.Occupancy
import Mathlib.Algebra.BigOperators.Group.List.Basic

/-!
# What a request to connect comes to

A request to connect is checked in a fixed order: the bus must be initialized, the name known, the
signal below its cap, and a pool must have an entry left.  `Bus.Decides` says for each check when it
is the one that fails, counting the slots in the chains themselves, and `Registry.Gains` where the
slot goes if none does.

A pool counts tombstones until they are swept.  `Bus.connectAll` makes one request after another:
as many as there are entries without a linked slot find an entry.
-/

namespace SignalDispatch

/-! ## The place of a new slot -/

/-- Of an ordered list of slots, those that a priority goes behind come first. -/
theorem Slot.split_of_ordered
    {slots : List Slot}
    (ordered : slots.Pairwise Slot.Before)
    (priority : Priority) :
    slots.filter (fun other => priority.rank ≤ other.priority.rank) ++
        slots.filter (fun other => !decide (priority.rank ≤ other.priority.rank)) =
      slots := by
  have prefixed :
      slots.Pairwise fun left right =>
        decide (priority.rank ≤ right.priority.rank) = true →
          decide (priority.rank ≤ left.priority.rank) = true := by
    refine ordered.imp ?_
    intro left right before behind
    exact decide_eq_true (Int.le_trans (of_decide_eq_true behind) before.rank_le)
  rcases takeWhile_eq_filter prefixed with ⟨taken, dropped⟩
  rw [← taken, ← dropped]
  exact List.takeWhile_append_dropWhile

namespace Registry

/-- A slot is new in the chain of a signal, in its place. -/
structure Gains (before after : Registry) (index : Nat) (slot : Slot) : Prop where
  /-- The slot goes directly behind the last one whose priority is at least its own. -/
  placed :
    ∃ passed rest,
      before.contents index = passed ++ rest ∧ after.contents index = passed ++ slot :: rest ∧
        (∀ other ∈ passed, slot.priority.rank ≤ other.priority.rank) ∧
        ∀ other ∈ rest, other.priority.rank < slot.priority.rank
  liveSlots : after.liveSlots index = before.liveSlots index + 1
  /-- Nothing but the count of live slots changes about the signal. -/
  signal :
    ∀ signal, before.signalAt index = some signal →
      after.signalAt index = some { signal with live := signal.live + 1 }
  /-- Other signals are left alone. -/
  others :
    ∀ other, other ≠ index →
      after.signalAt other = before.signalAt other ∧ after.contents other = before.contents other

/-- A slot that is attached is new in its place. -/
theorem Attaches.gains
    {before after : Registry}
    {index position : Nat}
    {slot : Slot}
    (attaches : Attaches before after index slot position)
    (formed : before.WellFormed)
    (live : slot.removed = false) :
    before.Gains after index slot.content where
  placed := by
    refine ⟨_, _, (Slot.split_of_ordered (formed.ordered index) slot.priority).symm, ?_, ?_, ?_⟩
    · rw [attaches.contents_eq formed, if_pos rfl]
      rfl
    · intro other member
      exact of_decide_eq_true (List.mem_filter.mp member).2
    · intro other member
      have lower := (List.mem_filter.mp member).2
      simp only [Bool.not_eq_true', decide_eq_false_iff_not, Int.not_le] at lower
      exact lower
  liveSlots := by
    rw [Registry.liveSlots, attaches.contents_eq formed, if_pos rfl, Slot.countP_insertedInto,
      Slot.content_removed, live]
    rfl
  signal := by
    intro signal registered
    rw [attaches.signals, if_pos rfl, registered]
    rfl
  others := by
    intro other different
    rw [attaches.signals, attaches.contents_eq formed, if_neg (Ne.symm different),
      if_neg (Ne.symm different)]
    exact ⟨rfl, rfl⟩

end Registry

namespace Bus

variable {bus : Bus} {registry next : Registry} {index : Nat} {signal : Signal} (name : String)
  (callback : RoutineId) (context : Option Context) (priority : Option Priority)

/-! ## The outcome -/

/-- What comes of a request to connect a slot to a registered signal. -/
structure Decides
    (bus : Bus)
    (registry : Registry)
    (index : Nat)
    (slot : Slot)
    (effect : Effect) :
    Prop where
  /-- The cap of the signal is checked first, without tombstones. -/
  capped :
    effect.result = .error (.resourceExhausted (.slotsPerSignal bus.maxSlots)) ↔
      bus.maxSlots ≤ registry.liveSlots index
  /-- Then the entries of a pool, with the tombstones of all signals. -/
  full :
    ∀ signals capacity, bus.backend = .pool signals capacity →
      (effect.result = .error (.resourceExhausted (.slotPool capacity)) ↔
        registry.liveSlots index < bus.maxSlots ∧ registry.linkedSlots = capacity)
  /-- Whatever passes both is accepted. -/
  accepted :
    registry.liveSlots index < bus.maxSlots →
      (∀ signals capacity, bus.backend = .pool signals capacity →
        registry.linkedSlots ≠ capacity) →
      effect.result = .ok (.connected slot.handle) ∧ effect.released = [] ∧
        ∃ next,
          effect.bus = { bus with nextHandle := bus.nextHandle + 1, registry := some next } ∧
            registry.Gains next index slot ∧
            ∀ other, ∀ old ∈ registry.contents other, old.handle ≠ slot.handle

/-- What comes of a request to connect. -/
structure ConnectsExactly
    (bus : Bus)
    (name : String)
    (callback : RoutineId)
    (context : Option Context)
    (priority : Option Priority)
    (effect : Effect) :
    Prop where
  uninitialized :
    bus.registry = none →
      effect.result = .error Fault.notInitialized ∧ Fault.notInitialized.kind = .invalidArgument
  unknown :
    ∀ registry, bus.registry = some registry →
      (∀ index signal, registry.signals.get? index = some signal → signal.name ≠ name) →
      effect.result = .error (.notFound name)
  known :
    ∀ registry index signal, bus.registry = some registry →
      registry.signals.get? index = some signal → signal.name = name →
      bus.Decides registry index (bus.slotFor callback context priority signal.priority) effect
  /-- A rejected request leaves the bus as it was, and gives its context back. -/
  rejected :
    ∀ fault, effect.result = .error fault → effect.bus = bus ∧ effect.released = context.toList

/-- Storage that grows without limit, or a pool. -/
def PlainStorage (backend : Backend) : Prop :=
  backend = .heap ∨ ∃ signals capacity, backend = .pool signals capacity

theorem PlainStorage.reliable {backend : Backend} (plain : PlainStorage backend) :
    backend.slots.Reliable := by
  rcases plain with rfl | ⟨signals, capacity, rfl⟩
  · exact StoragePolicy.reliable_growing
  · exact StoragePolicy.reliable_pool capacity

/-- Room for one more slot is refused exactly at the cap of the signal, or for want of an entry. -/
theorem grant_cases
    (plain : PlainStorage bus.backend)
    (formed : registry.WellFormed)
    (housed : registry.Housed bus.backend)
    (registered : registry.signals.get? index = some signal)
    (limit : Nat) :
    (limit ≤ registry.liveSlots index ∧
        registry.grant index limit = .error (.resourceExhausted (.slotsPerSignal limit))) ∨
      registry.liveSlots index < limit ∧
        ((∃ signals capacity,
            bus.backend = .pool signals capacity ∧ registry.linkedSlots = capacity ∧
              registry.grant index limit = .error (.resourceExhausted (.slotPool capacity))) ∨
          (∀ signals capacity, bus.backend = .pool signals capacity →
            registry.linkedSlots ≠ capacity) ∧
            registry.grant index limit = .ok signal.priority) := by
  have live := formed.live_eq (Registry.signalAt_of_get? registered)
  rw [Signal.content_live, ← Registry.liveSlots] at live
  rw [Registry.grant, registered]
  dsimp only
  rw [live]
  by_cases capped : limit ≤ registry.liveSlots index
  · exact Or.inl ⟨capped, if_pos capped⟩
  · refine Or.inr ⟨Nat.lt_of_not_le capped, ?_⟩
    rw [if_neg capped, Arena.reserve, housed.slots]
    rcases plain with heap | ⟨signals, capacity, pool⟩
    · refine Or.inr ⟨?_, by rw [heap]; rfl⟩
      intro signals capacity pool
      rw [heap] at pool
      exact absurd (congrArg Backend.kind pool) StorageKind.noConfusion
    · have pooled : registry.slots.policy = .pool capacity := by rw [housed.slots, pool]; rfl
      have bound := formed.linkedSlots_le pooled
      simp only [pool, Backend.pool]
      by_cases room : registry.slots.size < capacity
      · refine Or.inr ⟨?_, by rw [if_pos room]⟩
        intro others room' same
        cases same
        rw [formed.linkedSlots_eq]
        exact Nat.ne_of_lt room
      · refine Or.inl ⟨signals, capacity, rfl, ?_, by rw [if_neg room]; rfl⟩
        rw [formed.linkedSlots_eq] at bound ⊢
        omega

/-- A request to connect to a registered signal is decided by the counts of its chains. -/
theorem connect_decides
    (plain : PlainStorage bus.backend)
    (sane : bus.Sane)
    (housed : bus.Housed)
    (present : bus.registry = some registry)
    (registered : registry.signals.get? index = some signal)
    (named : signal.name = name) :
    bus.Decides registry index (bus.slotFor callback context priority signal.priority)
      (bus.connect name callback context priority) := by
  have formed := (sane.registry present).formed
  have found : registry.find? name = some index :=
    (formed.find?_eq_some_iff name index).mpr
      ⟨signal.content, Registry.signalAt_of_get? registered, named⟩
  have house := housed registry present
  rcases grant_cases plain formed house registered bus.maxSlots with
    ⟨capped, refused⟩ | ⟨below, ⟨signals, capacity, pool, full, refused⟩ | ⟨room, granted⟩⟩
  · rw [connect_of_refused name callback context priority present found refused]
    refine ⟨⟨fun _ => capped, fun _ => rfl⟩, ?_, fun below => absurd below (Nat.not_lt.mpr capped)⟩
    intro _ _ _
    exact ⟨(fun same => by cases same), fun below => absurd below.1 (Nat.not_lt.mpr capped)⟩
  · rw [connect_of_refused name callback context priority present found refused]
    refine ⟨⟨(fun same => by cases same), fun capped => absurd below (Nat.not_lt.mpr capped)⟩, ?_,
      fun _ room => absurd full (room signals capacity pool)⟩
    intro others room same
    rw [pool] at same
    cases same
    exact ⟨fun _ => ⟨below, full⟩, fun _ => rfl⟩
  · let slot := bus.slotFor callback context priority signal.priority
    have reliable := plain.reliable
    rw [← house.slots] at reliable
    rcases formed.attach_of_grant reliable granted slot with ⟨next, attached⟩
    rcases sane.attaches_slotFor present found attached with ⟨position, attaches⟩
    rcases connect_of_attached name callback context priority present found granted attached with
      ⟨moved, released, result⟩
    refine ⟨?_, ?_, fun _ _ => ⟨result, released, next, moved, attaches.gains formed rfl, ?_⟩⟩
    · rw [result]
      exact ⟨(fun same => by cases same), fun capped => absurd below (Nat.not_lt.mpr capped)⟩
    · intro signals capacity pool
      rw [result]
      exact ⟨(fun same => by cases same), fun full => absurd full.2 (room signals capacity pool)⟩
    · intro other old member same
      rcases (Registry.mem_contentsOf_iff _ _ _).mp member with ⟨place, _, stored⟩
      rw [← slotAt_of_some present] at stored
      have earlier := sane.handles stored
      rw [same] at earlier
      exact Nat.lt_irrefl _ earlier

/-- Every request to connect comes to exactly what the state of the bus decides. -/
theorem connectsExactly
    (plain : PlainStorage bus.backend)
    (sane : bus.Sane)
    (housed : bus.Housed) :
    bus.ConnectsExactly name callback context priority
      (bus.connect name callback context priority) where
  uninitialized := by
    intro absent
    rw [connect_of_none name callback context priority absent]
    exact ⟨rfl, rfl⟩
  unknown := by
    intro registry present unnamed
    have unknown : registry.find? name = none := by
      refine (Registry.find?_eq_none_iff registry name).mpr ?_
      intro index signal found
      rcases (Registry.signalAt_eq_some_iff _ _ _).mp found with ⟨stored, registered, rfl⟩
      exact unnamed index stored registered
    rw [connect_of_unknown name callback context priority present unknown]
    rfl
  known := by
    intro registry index signal present registered named
    exact connect_decides name callback context priority plain sane housed present registered named
  rejected := by
    intro fault failed
    rcases connect_outcome sane housed plain.reliable name callback context priority with
      ⟨other, rejected⟩ | ⟨position, slot, accepts⟩
    · rw [rejected]
      exact ⟨rfl, rfl⟩
    · rw [accepts.result] at failed
      cases failed

/-! ## One request after the other -/

/-- A request to connect. -/
structure ConnectRequest where
  name : String
  callback : RoutineId
  context : Option Context
  priority : Option Priority

/-- What comes of a request. -/
def ConnectRequest.on (request : ConnectRequest) (bus : Bus) : Effect :=
  bus.connect request.name request.callback request.context request.priority

/-- A bus after several requests. -/
def connectAll (bus : Bus) (requests : List ConnectRequest) : Bus :=
  requests.foldl (fun bus request => (request.on bus).bus) bus

/-- None of several requests is rejected for want of an entry in the pool. -/
def Accommodates (bus : Bus) (capacity : Nat) (requests : List ConnectRequest) : Prop :=
  ∀ earlier request rest, requests = earlier ++ request :: rest →
    (request.on (bus.connectAll earlier)).result ≠
      .error (.resourceExhausted (.slotPool capacity))

/-- A request links one slot at most. -/
theorem linkedSlots_connect
    (sane : bus.Sane)
    (present : bus.registry = some registry) :
    ∃ next, (bus.connect name callback context priority).bus.registry = some next ∧
      next.linkedSlots ≤ registry.linkedSlots + 1 := by
  have shifts := Shifts.of_connect bus none name callback context priority
  rcases connect_cases name callback context priority bus with
    kept | ⟨other, _, _, next, there, _, attached, stored, _⟩
  · exact ⟨registry, kept.trans present, Nat.le_succ _⟩
  · rw [present, Option.some.injEq] at there
    subst there
    refine ⟨next, stored, ?_⟩
    rw [((shifts.sane sane).1.registry stored).formed.linkedSlots_eq,
      (sane.registry present).formed.linkedSlots_eq, (Registry.attach_stocks attached).slotSize]

/-- Several requests link as many slots at most. -/
theorem connectAll_spec
    (requests : List ConnectRequest)
    (sane : bus.Sane)
    (housed : bus.Housed)
    (present : bus.registry = some registry) :
    (bus.connectAll requests).backend = bus.backend ∧ (bus.connectAll requests).Sane ∧
      (bus.connectAll requests).Housed ∧
      ∃ next, (bus.connectAll requests).registry = some next ∧
        next.linkedSlots ≤ registry.linkedSlots + requests.length := by
  induction requests generalizing bus registry with
  | nil => exact ⟨rfl, sane, housed, registry, present, Nat.le_refl _⟩
  | cons request rest ih =>
      have shifts := Shifts.of_connect bus none request.name request.callback request.context
        request.priority
      have backend := (connect_contained bus request.name request.callback request.context
        request.priority).1
      rcases linkedSlots_connect request.name request.callback request.context request.priority
        sane present with ⟨middle, stored, more⟩
      have saneAfter : (request.on bus).bus.Sane := (shifts.sane sane).1
      rcases ih saneAfter (shifts.housed backend housed) stored with
        ⟨same, saneLast, housedLast, next, there, most⟩
      refine ⟨same.trans backend, saneLast, housedLast, next, there, most.trans ?_⟩
      rw [List.length_cons]
      omega

/-- The pool is full when a request is rejected for want of an entry. -/
theorem linkedSlots_of_full
    {signals capacity : Nat}
    (pool : bus.backend = .pool signals capacity)
    (sane : bus.Sane)
    (housed : bus.Housed)
    (present : bus.registry = some registry)
    (rejected :
      (bus.connect name callback context priority).result =
        .error (.resourceExhausted (.slotPool capacity))) :
    registry.linkedSlots = capacity := by
  have plain : PlainStorage bus.backend := Or.inr ⟨signals, capacity, pool⟩
  cases found : registry.find? name with
  | none =>
      rw [connect_of_unknown name callback context priority present found] at rejected
      cases rejected
  | some index =>
      rcases Registry.registered_of_find? found with ⟨signal, registered, named⟩
      have decides :=
        connect_decides name callback context priority plain sane housed present registered named
      exact ((decides.full signals capacity pool).mp rejected).2

/-- A pool accommodates as many requests as it has entries without a linked slot. -/
theorem accommodates_of_room
    (requests : List ConnectRequest)
    {signals capacity : Nat}
    (pool : bus.backend = .pool signals capacity)
    (sane : bus.Sane)
    (housed : bus.Housed)
    (present : bus.registry = some registry)
    (room : registry.linkedSlots + requests.length ≤ capacity) :
    bus.Accommodates capacity requests := by
  rintro earlier request rest rfl rejected
  rcases connectAll_spec earlier sane housed present with
    ⟨backend, saneAfter, housedAfter, next, there, most⟩
  have full := linkedSlots_of_full request.name request.callback request.context request.priority
    (backend.trans pool) saneAfter housedAfter there rejected
  rw [List.length_append, List.length_cons] at room
  omega

end Bus

/-- No slot is linked once every slot has been removed and no emission is in progress. -/
theorem Registry.Sane.linkedSlots_eq_zero
    {registry : Registry}
    (sane : registry.Sane)
    (removed : ∀ index, registry.liveSlots index = 0)
    (idle :
      ∀ index signal, registry.signals.get? index = some signal → signal.emitting = 0) :
    registry.linkedSlots = 0 := by
  refine List.sum_eq_zero ?_
  intro length listed
  rcases List.mem_map.mp listed with ⟨⟨index, signal⟩, member, rfl⟩
  have registered := (Arena.mem_toList_iff _ _ _).mp member
  have view := Registry.signalAt_of_get? registered
  have live := sane.formed.live_eq view
  rw [← Registry.liveSlots, removed index] at live
  have swept := sane.settled view (idle index signal registered)
  rw [sane.formed.length_contents, sane.formed.length_chain view, live, swept, Nat.add_zero]

end SignalDispatch
