import SignalDispatch.Proofs.Registry.Meters
import SignalDispatch.Proofs.Registry.Splicing

/-!
# Sweeping a chain in place

`Registry.sweep` filters the chain and writes every link of what is left.  Storage that is walked
once can do with less: `Registry.sweepInPlace` reads the link after a slot, takes the slot out if it
is a tombstone, and leads the link that led to it past it.  The slot before a tombstone stays the
one before whatever follows, so runs of tombstones, at the head of the chain too, are passed by one
link.  Both come to the same registry, and what they come to is the chain without its tombstones.

`EditsInPlace` puts this beside what `Splicing` says of the other operations on a chain.
-/

namespace SignalDispatch

namespace Registry

variable {registry : Registry} {index : Nat} {signal : Signal} {order : List Nat}
  {previous target : Option Nat} {position : Nat}

/-! ## The walk -/

theorem thread_vacate
    (slots : Arena Slot)
    (outside : position ∉ order) :
    thread (slots.vacate position) order = (thread slots order).vacate position := by
  induction order generalizing slots with
  | nil => rfl
  | cons first rest hypothesis =>
    rw [List.mem_cons, not_or] at outside
    rw [thread, Arena.vacate_modify _ outside.1, hypothesis _ outside.2]
    rfl

/-- Walk along at most `limit` links and excise the tombstones, `previous` the last slot left. -/
def sweepFrom (index : Nat) : Nat → Registry → Option Nat → Option Nat → Registry × List Slot
  | 0, registry, _, _ => (registry, [])
  | _ + 1, registry, _, none => (registry, [])
  | limit + 1, registry, previous, some position =>
      match registry.slots.get? position with
      | none => (registry, [])
      | some slot =>
          if slot.removed then
            let (excised, released) := registry.excise index previous position
            let (swept, later) := sweepFrom index limit excised previous slot.next
            (swept, released ++ later)
          else sweepFrom index limit registry (some position) slot.next

/-- Take every tombstone of an idle signal out of its chain, one after the other. -/
def sweepInPlace (registry : Registry) (index : Nat) : Registry × List Slot :=
  match registry.signals.get? index with
  | none => (registry, [])
  | some signal =>
      if signal.emitting = 0 ∧ 0 < signal.tombstones then
        let (swept, released) :=
          sweepFrom index registry.slots.reserved registry none signal.head
        ({ swept with
            signals := swept.signals.modify index fun signal => { signal with tombstones := 0 } },
          released)
      else (registry, [])

/-- The positions of a list that hold no tombstone. -/
def keptOf (slots : Arena Slot) (order : List Nat) : List Nat :=
  order.filter fun position => !isTombstone slots position

/-- The positions of a list that hold a tombstone. -/
def goneOf (slots : Arena Slot) (order : List Nat) : List Nat :=
  order.filter (isTombstone slots)

theorem mem_keptOf_iff {slots : Arena Slot} {position : Nat} :
    position ∈ keptOf slots order ↔ position ∈ order ∧ isTombstone slots position = false := by
  rw [keptOf, List.mem_filter, Bool.not_eq_true']

theorem mem_goneOf_iff {slots : Arena Slot} {position : Nat} :
    position ∈ goneOf slots order ↔ position ∈ order ∧ isTombstone slots position = true :=
  List.mem_filter

/-- Lead a link along what is kept of a list, and take the rest of the list out of storage. -/
def winnow
    (registry : Registry)
    (index : Nat)
    (previous : Option Nat)
    (order : List Nat) :
    Registry × List Slot :=
  let led := registry.lead index previous (keptOf registry.slots order).head?
  let (released, slots) :=
    (thread led.slots (keptOf registry.slots order)).removeAll (goneOf registry.slots order)
  ({ led with slots := slots }, released)

theorem isTombstone_congr
    {slots other : Arena Slot}
    (same : slots.get? position = other.get? position) :
    isTombstone slots position = isTombstone other position := by
  rw [isTombstone, isTombstone, same]

/-- A slot that stays is led to already, and is the one before the rest. -/
theorem winnow_cons_of_live
    {slot : Slot}
    {rest : List Nat}
    (found : registry.slots.get? position = some slot)
    (live : slot.removed = false)
    (there : registry.linkAt index previous = some (some position)) :
    registry.winnow index previous (position :: rest) =
      registry.winnow index (some position) rest := by
  have tombstone : isTombstone registry.slots position = false := by
    rw [isTombstone, found]
    exact live
  have kept :
      keptOf registry.slots (position :: rest) = position :: keptOf registry.slots rest := by
    simp [keptOf, tombstone]
  have gone : goneOf registry.slots (position :: rest) = goneOf registry.slots rest := by
    simp [goneOf, tombstone]
  rw [winnow, winnow, kept, gone, List.head?_cons, lead_eq_self there]
  rfl

/-- A tombstone goes first, and what led to it leads along the rest. -/
theorem winnow_cons_of_removed
    {slot : Slot}
    {rest : List Nat}
    (found : registry.slots.get? position = some slot)
    (removed : slot.removed = true)
    (fresh : position ∉ rest)
    (behind : ∀ later ∈ position :: rest, previous ≠ some later) :
    registry.winnow index previous (position :: rest) =
      let excised := (registry.vacateSlot position).lead index previous slot.next
      ((excised.winnow index previous rest).1, slot :: (excised.winnow index previous rest).2) := by
  have before : previous ≠ some position := behind position List.mem_cons_self
  have tombstone : isTombstone registry.slots position = true := by
    rw [isTombstone, found]
    exact removed
  have kept : keptOf registry.slots (position :: rest) = keptOf registry.slots rest := by
    simp [keptOf, tombstone]
  have gone :
      goneOf registry.slots (position :: rest) = position :: goneOf registry.slots rest := by
    simp [goneOf, tombstone]
  have outside : position ∉ keptOf registry.slots rest :=
    fun member => fresh (List.mem_of_mem_filter member)
  dsimp only
  generalize excisedEq :
    (registry.vacateSlot position).lead index previous slot.next = excised
  have marks (later : Nat) (member : later ∈ rest) :
      isTombstone excised.slots later = isTombstone registry.slots later := by
    apply isTombstone_congr
    rw [← excisedEq, get?_slots_lead _ _ _ (behind later (List.mem_cons_of_mem _ member)),
      vacateSlot, Arena.get?_vacate, if_neg]
    rintro rfl
    exact fresh member
  have keptAfter : keptOf excised.slots rest = keptOf registry.slots rest :=
    List.filter_congr fun later member => congrArg not (marks later member)
  have goneAfter : goneOf excised.slots rest = goneOf registry.slots rest :=
    List.filter_congr marks
  generalize keptEq : keptOf registry.slots rest = keptRest at *
  have led :
      excised.lead index previous keptRest.head? =
        (registry.lead index previous keptRest.head?).vacateSlot position := by
    rw [← excisedEq, lead_lead, vacateSlot_lead _ _ _ before]
  have present :
      (thread (registry.lead index previous keptRest.head?).slots keptRest).get? position =
        some slot := by
    rw [get?_thread_of_not_mem _ outside, get?_slots_lead _ _ _ before, found]
  have threaded :
      thread (excised.lead index previous keptRest.head?).slots keptRest =
        (thread (registry.lead index previous keptRest.head?).slots keptRest).vacate position := by
    rw [led]
    exact thread_vacate _ outside
  rw [winnow, winnow, kept, gone, keptAfter, goneAfter, threaded, led, Arena.removeAll,
    Arena.remove?, present]
  rfl

/-- The walk winnows what is in front of it. -/
theorem sweepFrom_eq_winnow
    {cursor : Option Nat}
    {limit : Nat}
    (linked : Linked registry.slots cursor order)
    (behind : ∀ position ∈ order, previous ≠ some position)
    (there : registry.linkAt index previous = some cursor)
    (enough : order.length ≤ limit) :
    sweepFrom index limit registry previous cursor = registry.winnow index previous order := by
  induction order generalizing registry previous cursor limit with
  | nil =>
    cases linked
    have nothing : registry.winnow index previous [] = (registry, []) := by
      show (registry.lead index previous none, []) = _
      rw [lead_eq_self there]
    rw [nothing]
    cases limit <;> rfl
  | cons position rest hypothesis =>
    have fresh := (List.nodup_cons.mp linked.nodup).1
    cases linked with
    | @link _ slot _ found linked =>
      cases limit with
      | zero => exact absurd enough (Nat.not_succ_le_zero _)
      | succ limit =>
        have enough := Nat.le_of_succ_le_succ enough
        rw [sweepFrom, found]
        dsimp only
        split
        next removed =>
          have before : previous ≠ some position := behind position List.mem_cons_self
          rw [winnow_cons_of_removed found removed fresh behind, excise, found]
          dsimp only
          rw [hypothesis _ _ _ enough]
          · rfl
          · refine linked.congr ?_
            intro later member
            rw [get?_slots_lead _ _ _ (behind later (List.mem_cons_of_mem _ member)), vacateSlot,
              Arena.get?_vacate, if_neg]
            rintro rfl
            exact fresh member
          · exact fun later member => behind later (List.mem_cons_of_mem _ member)
          · exact linkAt_lead ((linkAt_vacateSlot _ _ before).trans there) _
        next live =>
          rw [winnow_cons_of_live found (Bool.eq_false_of_not_eq_true live) there]
          apply hypothesis linked _ (linkAt_some found) enough
          rintro later member ⟨⟩
          exact fresh member

/-! ## What winnowing leaves -/

/-- What is kept and what is gone of a list have nothing in common. -/
theorem not_mem_keptOf {slots : Arena Slot} (gone : position ∈ goneOf slots order) :
    position ∉ keptOf slots order := by
  intro kept
  exact Bool.noConfusion ((mem_keptOf_iff.mp kept).2.symm.trans (mem_goneOf_iff.mp gone).2)

/-- Winnowing a chain from its head takes out the tombstones and threads the rest. -/
structure Winnows (registry : Registry) (index : Nat) (order : List Nat) : Prop where
  released :
    (registry.winnow index none order).2 =
      (goneOf registry.slots order).filterMap registry.slots.get?
  count :
    (registry.winnow index none order).2.length = order.countP (isTombstone registry.slots)
  stored :
    ∀ position,
      (registry.winnow index none order).1.slots.get? position =
        if position ∈ goneOf registry.slots order then none
        else (thread registry.slots (keptOf registry.slots order)).get? position
  size :
    (registry.winnow index none order).1.slots.size =
      registry.slots.size - order.countP (isTombstone registry.slots)
  linked :
    Linked (registry.winnow index none order).1.slots (keptOf registry.slots order).head?
      (keptOf registry.slots order)

theorem winnows
    {start : Option Nat}
    (linked : Linked registry.slots start order)
    (index : Nat) :
    Winnows registry index order := by
  have keptNodup : (keptOf registry.slots order).Nodup := linked.nodup.filter _
  have goneNodup : (goneOf registry.slots order).Nodup := linked.nodup.filter _
  have present (position : Nat) (gone : position ∈ goneOf registry.slots order) :
      (registry.slots.get? position).isSome :=
    linked.stored (mem_goneOf_iff.mp gone).1
  have untouched (position : Nat) (gone : position ∈ goneOf registry.slots order) :
      (thread registry.slots (keptOf registry.slots order)).get? position =
        registry.slots.get? position :=
    get?_thread_of_not_mem _ (not_mem_keptOf gone)
  rcases Arena.removeAll_spec goneNodup
    (fun position gone => untouched position gone ▸ present position gone) with
    ⟨values, _, view⟩
  have released :
      (registry.winnow index none order).2 =
        (goneOf registry.slots order).filterMap registry.slots.get? :=
    values.trans (List.filterMap_congr untouched)
  have count :
      (registry.winnow index none order).2.length = order.countP (isTombstone registry.slots) := by
    rw [released, List.length_filterMap_eq_countP, List.countP_eq_length.mpr present,
      List.countP_eq_length_filter]
    rfl
  constructor
  case released => exact released
  case count => exact count
  case stored => exact view
  case size =>
    rw [← count, ← size_thread registry.slots (keptOf registry.slots order)]
    exact size_removeAll _ _
  case linked =>
    have threads := linked_thread registry.slots keptNodup fun position kept =>
      linked.stored (mem_keptOf_iff.mp kept).1
    refine threads.congr fun position kept => ?_
    exact congrArg (Option.map Slot.next)
      ((view position).trans (if_neg fun gone => not_mem_keptOf gone kept))

/-! ## The sweep -/

/-- Count no tombstones of a signal any more. -/
def settle (registry : Registry) (index : Nat) : Registry :=
  { registry with
    signals := registry.signals.modify index fun signal => { signal with tombstones := 0 } }

/-- A sweep that is due winnows the chain from its head. -/
theorem sweep_of_due
    (registered : registry.signals.get? index = some signal)
    (linked : Linked registry.slots signal.head order)
    (due : signal.emitting = 0 ∧ 0 < signal.tombstones) :
    registry.sweep index =
      ((registry.winnow index none order).1.settle index, (registry.winnow index none order).2) := by
  rw [sweep, registered]
  dsimp only
  rw [if_pos due, chain_of_linked registered linked]
  rfl

/-- Unlinking slot by slot comes to what relinking the filtered chain comes to. -/
theorem sweepInPlace_eq_sweep
    (registered : registry.signals.get? index = some signal)
    (linked : Linked registry.slots signal.head order) :
    registry.sweepInPlace index = registry.sweep index := by
  rw [sweepInPlace, registered]
  dsimp only
  split
  next due =>
    rw [sweep_of_due registered linked due, sweepFrom_eq_winnow linked]
    · rfl
    · exact fun _ _ => nofun
    · exact linkAt_none registered
    · exact linked.length_le_reserved linked.nodup
  next nothing => exact (sweep_of_not registered nothing).symm

/-- A chain without tombstones is winnowed for nothing. -/
theorem winnow_of_forall_live
    (there : registry.linkAt index previous = some order.head?)
    (linked : Linked registry.slots order.head? order)
    (live : ∀ position ∈ order, isTombstone registry.slots position = false) :
    registry.winnow index previous order = (registry, []) := by
  have kept : keptOf registry.slots order = order :=
    List.filter_eq_self.mpr fun position member => by rw [live position member]; rfl
  have gone : goneOf registry.slots order = [] :=
    List.filter_eq_nil_iff.mpr fun position member => by simp [live position member]
  rw [winnow, kept, gone, lead_eq_self there, linked.thread_eq]
  rfl

/-- A sweep with nothing to sweep is a winnowing too. -/
theorem sweep_eq_winnow
    (registered : registry.signals.get? index = some signal)
    (linked : Linked registry.slots signal.head order)
    (idle : signal.emitting = 0)
    (counted : signal.tombstones = order.countP (isTombstone registry.slots)) :
    registry.sweep index =
      ((registry.winnow index none order).1.settle index, (registry.winnow index none order).2) := by
  by_cases due : 0 < signal.tombstones
  · exact sweep_of_due registered linked ⟨idle, due⟩
  have clean : signal.tombstones = 0 := Nat.eq_zero_of_not_pos due
  have live : ∀ position ∈ order, isTombstone registry.slots position = false := by
    rw [clean, eq_comm, List.countP_eq_zero] at counted
    exact fun position member => Bool.eq_false_of_not_eq_true (counted position member)
  have head : registry.linkAt index .none = some order.head? := by
    exact linked.head_eq ▸ linkAt_none registered
  have settled : registry.settle index = registry := by
    rw [settle, registry.signals.modify_eq_self]
    intro value present
    obtain rfl := Option.some.inj (registered.symm.trans present)
    rw [← clean]
  rw [sweep_of_not registered fun due' => due due'.2,
    winnow_of_forall_live head (linked.head_eq ▸ linked) live, settled]

/-- What an order-preserving filter of a chain does to a registry. -/
structure Filters
    (before after : Registry)
    (released : List Slot)
    (index : Nat)
    (signal : Signal)
    (order : List Nat) : Prop where
  /-- The slots that are no tombstones are the chain, in the order that they had. -/
  chain : after.chain index = keptOf before.slots order
  linked : Linked after.slots (keptOf before.slots order).head? (keptOf before.slots order)
  /-- The head and the count of tombstones are all that changes in the signal. -/
  entry :
    after.signals.get? index =
      some { signal with head := (keptOf before.slots order).head?, tombstones := 0 }
  others : ∀ other, other ≠ index → after.signals.get? other = before.signals.get? other
  /-- A slot that stays keeps everything but its link. -/
  kept :
    ∀ position ∈ order, isTombstone before.slots position = false →
      contentAt after.slots position = contentAt before.slots position
  vacated :
    ∀ position ∈ order, isTombstone before.slots position = true →
      after.slots.get? position = none
  elsewhere :
    ∀ position, position ∉ order → after.slots.get? position = before.slots.get? position
  /-- A chain that shares no slot with this one is as it was. -/
  apart :
    ∀ start other, Linked before.slots start other → order.Disjoint other →
      Linked after.slots start other
  /-- The tombstones are handed over as they were stored, in the order of the chain. -/
  handed : released = (goneOf before.slots order).filterMap before.slots.get?
  /-- As many are removed as were counted. -/
  removed : released.length = signal.tombstones
  size : after.slots.size = before.slots.size - signal.tombstones
  peak : after.peakSlots = before.peakSlots

theorem filters_sweep
    (registered : registry.signals.get? index = some signal)
    (linked : Linked registry.slots signal.head order)
    (idle : signal.emitting = 0)
    (counted : signal.tombstones = order.countP (isTombstone registry.slots)) :
    Filters registry (registry.sweep index).1 (registry.sweep index).2 index signal order := by
  have winnows := registry.winnows linked index
  rw [sweep_eq_winnow registered linked idle counted]
  have signals (other : Nat) :
      ((registry.winnow index none order).1.settle index).signals.get? other =
        if index = other then
          (registry.signals.get? other).map fun signal =>
            { signal with head := (keptOf registry.slots order).head?, tombstones := 0 }
        else registry.signals.get? other := by
    rw [settle, winnow, lead, Arena.get?_modify, Arena.get?_modify]
    split
    · exact Option.map_map _ _ _
    · rfl
  have entry := signals index
  rw [if_pos rfl, registered, Option.map_some] at entry
  have elsewhere (position : Nat) (outside : position ∉ order) :
      (registry.winnow index none order).1.slots.get? position =
        registry.slots.get? position := by
    rw [winnows.stored, if_neg fun gone => outside (mem_goneOf_iff.mp gone).1]
    exact get?_thread_of_not_mem _ fun kept => outside (mem_keptOf_iff.mp kept).1
  constructor
  case chain =>
    rw [chain, entry]
    exact winnows.linked.follow_eq (winnows.linked.length_le_reserved winnows.linked.nodup)
  case linked => exact winnows.linked
  case entry => exact entry
  case others =>
    intro other different
    rw [signals, if_neg (Ne.symm different)]
  case kept =>
    intro position member live
    show ((registry.winnow index none order).1.slots.get? position).map Slot.content = _
    rw [winnows.stored, if_neg]
    · exact contentAt_thread _ _ _
    · exact fun gone => Bool.noConfusion (live.symm.trans (mem_goneOf_iff.mp gone).2)
  case vacated =>
    intro position member tombstone
    exact (winnows.stored position).trans (if_pos (mem_goneOf_iff.mpr ⟨member, tombstone⟩))
  case elsewhere => exact elsewhere
  case apart =>
    intro start other chain disjoint
    refine chain.congr fun position member => ?_
    exact congrArg (Option.map Slot.next) (elsewhere position fun inside => disjoint inside member)
  case handed => exact winnows.released
  case removed => exact winnows.count.trans counted.symm
  case size =>
    rw [counted]
    exact winnows.size
  case peak => rfl

/-- The tombstones along a list of positions are the slots there that were removed. -/
theorem countP_isTombstone (slots : Arena Slot) (order : List Nat) :
    order.countP (isTombstone slots) = (contentsOf slots order).countP Slot.removed := by
  rw [contentsOf, List.countP_filterMap]
  refine List.countP_congr fun position _ => ?_
  rw [isTombstone, contentAt]
  cases slots.get? position <;> rfl

/-- The chains of a well-formed registry end, and its signals count their tombstones, so sweeping an
idle signal filters its chain. -/
theorem WellFormed.filters_sweep
    (formed : registry.WellFormed)
    (registered : registry.signals.get? index = some signal)
    (idle : signal.emitting = 0) :
    Filters registry (registry.sweep index).1 (registry.sweep index).2 index signal
      (registry.chain index) := by
  refine Registry.filters_sweep registered (formed.chained.linked registered) idle ?_
  have counted := formed.tombstones_eq (signalAt_of_get? registered)
  rw [countP_isTombstone]
  exact counted

/-- A signal that was swept, or that a sweep left alone, has nothing to sweep. -/
theorem sweep_sweep (registry : Registry) (index : Nat) :
    (registry.sweep index).1.sweep index = ((registry.sweep index).1, []) := by
  cases registered : registry.signals.get? index with
  | none => simp [sweep, registered]
  | some signal =>
    by_cases due : signal.emitting = 0 ∧ 0 < signal.tombstones
    · have head :
          ((registry.sweep index).1.signals.get? index).map Signal.tombstones = some 0 := by
        rw [sweep, registered]
        dsimp only
        rw [if_pos due, Arena.get?_modify, if_pos rfl, relink, Arena.get?_modify, if_pos rfl,
          registered]
        rfl
      rcases Option.map_eq_some_iff.mp head with ⟨settled, present, clean⟩
      exact sweep_of_not present fun again => Nat.ne_of_gt again.2 clean
    · rw [sweep_of_not registered due, sweep_of_not registered due]

/-- What the sweep of a registered signal does, and what it leaves alone. -/
structure SweepsTombstones (registry : Registry) (index : Nat) (signal : Signal) : Prop where
  /-- Unlinking slot by slot along the chain comes to the same. -/
  inPlace :
    ∀ order, Linked registry.slots signal.head order →
      registry.sweepInPlace index = registry.sweep index
  filters :
    ∀ order, Linked registry.slots signal.head order → signal.emitting = 0 →
      signal.tombstones = order.countP (isTombstone registry.slots) →
        Filters registry (registry.sweep index).1 (registry.sweep index).2 index signal order
  /-- Neither a signal that is being emitted nor one without tombstones is swept. -/
  idles :
    signal.emitting ≠ 0 ∨ signal.tombstones = 0 →
      registry.sweep index = (registry, []) ∧ registry.sweepInPlace index = (registry, [])
  again : (registry.sweep index).1.sweep index = ((registry.sweep index).1, [])

theorem sweepsTombstones (registered : registry.signals.get? index = some signal) :
    SweepsTombstones registry index signal where
  inPlace := fun _ linked => sweepInPlace_eq_sweep registered linked
  filters := fun _ linked idle counted => filters_sweep registered linked idle counted
  idles := by
    intro nothing
    have undue : ¬ (signal.emitting = 0 ∧ 0 < signal.tombstones) := by omega
    refine ⟨sweep_of_not registered undue, ?_⟩
    rw [sweepInPlace, registered]
    exact if_neg undue
  again := sweep_sweep registry index

/-- The slot of a handle that leads to `next`, a tombstone or not. -/
def slotTo (handle : Nat) (removed : Bool) (next : Option Nat) : Slot where
  handle := ⟨handle⟩
  callback := 0
  context := none
  priority := .normal
  removed := removed
  next := next

/-- A signal whose chain `3 0 5 1 4 2` has tombstones at its head, twice in a row and at its end. -/
def riddledSignal : Signal where
  name := "riddled"
  description := none
  priority := .normal
  head := some 3
  live := 2
  tombstones := 4
  serial := 0

def riddled : Registry where
  signals := { policy := .growing, entries := [some riddledSignal], vacated := [], size := 1 }
  slots :=
    { policy := .growing
      entries :=
        [some (slotTo 1 false (some 5)), some (slotTo 2 true (some 4)), some (slotTo 3 true none),
          some (slotTo 4 true (some 0)), some (slotTo 5 false (some 2)),
          some (slotTo 6 true (some 1))]
      vacated := []
      size := 6 }

theorem sweepsTombstones_riddled :
    riddled.signals.get? 0 = some riddledSignal ∧
      SweepsTombstones riddled 0 riddledSignal ∧
      Linked riddled.slots riddledSignal.head [3, 0, 5, 1, 4, 2] ∧
      riddledSignal.tombstones = [3, 0, 5, 1, 4, 2].countP (isTombstone riddled.slots) ∧
      (riddled.sweepInPlace 0).1.chain 0 = [0, 4] :=
  ⟨rfl, sweepsTombstones rfl,
    .link rfl (.link rfl (.link rfl (.link rfl (.link rfl (.link rfl .done))))), by decide,
    by decide⟩

/-! ## Every change of a chain -/

/-- Whatever changes the chain of a signal comes to the same in place, link by link. -/
structure EditsInPlace (registry : Registry) (index : Nat) : Prop where
  attach : ∀ slot, registry.attachInPlace index slot = registry.attach index slot
  /-- A slot is unlinked through the one before it. -/
  unlink :
    ∀ passed position rest, registry.chain index = passed ++ position :: rest →
      registry.excise index passed.getLast? position = registry.unlink index position
  removeFirst :
    ∀ accepts, registry.removeFirstInPlace index accepts = registry.removeFirst index accepts
  freeChain : registry.freeChainInPlace index = registry.freeChain index
  sweep : registry.sweepInPlace index = registry.sweep index

/-- The chains of a well-formed registry end, so all of them can be changed in place. -/
theorem WellFormed.editsInPlace
    (formed : registry.WellFormed)
    (registered : registry.signals.get? index = some signal) :
    EditsInPlace registry index := by
  have linked := formed.chained.linked registered
  constructor
  · exact attachInPlace_eq_attach formed.slots_sound registered linked
  · intro passed position rest split
    exact (unlink_eq_excise registered (split ▸ linked)).symm
  · exact removeFirstInPlace_eq_removeFirst registered linked
  · exact freeChainInPlace_eq_freeChain registered linked
  · exact sweepInPlace_eq_sweep registered linked

end Registry

end SignalDispatch
