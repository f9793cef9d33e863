import SignalDispatch.Proofs.Interrupt.Traffic
import Mathlib.Data.List.Forall2
import Mathlib.Data.List.Perm.Subperm

/-!
# The books of an interrupt queue

Along every history the ledger agrees with the queue and with the drains under way:
`Ledger.Tallies` says so of the tickets, `Ledger.Attributes` of the drains that items are put down
to, and `Ledger.Resolves` of the callbacks.  `Balances.proceeds` is that every primitive step keeps
the three of them.
-/

namespace SignalDispatch

/-- An item with its name as an entry keeps it. -/
def InterruptItem.kept (item : InterruptItem) : InterruptItem :=
  { item with name := InterruptEntry.truncated item.name }

namespace Ledger

/-! ## Tickets -/

/-- The tickets of a ledger agree with what waits in a queue. -/
structure Tallies (ledger : Ledger) (queue : InterruptQueue) : Prop where
  settled : queue.Settled
  /-- Every ticket was handed out or waits, and none of them twice. -/
  tickets :
    (ledger.deliveries.map Delivery.ticket ++ queue.waiting.map ledger.lodged).Perm
      (List.range ledger.accepted.length)
  waits :
    ∀ index item, queue.item? index = some item →
      ∃ pushed, ledger.accepted[ledger.lodged index]? = some pushed ∧ item = pushed.kept
  delivered :
    ∀ delivery ∈ ledger.deliveries,
      ∃ pushed, ledger.accepted[delivery.ticket]? = some pushed ∧ delivery.item = pushed.kept
  within : ∀ delivery ∈ ledger.deliveries, delivery.item.index < queue.capacity

variable {ledger : Ledger} {queue : InterruptQueue}

theorem tallies_start (capacity : Nat) : Tallies {} (.ofCapacity capacity) := by
  have nothing : (InterruptQueue.ofCapacity capacity).waiting = [] := by
    rw [← List.length_eq_zero_iff, InterruptQueue.length_waiting]
    exact InterruptQueue.pending_ofCapacity capacity
  refine
    { settled := InterruptQueue.settled_ofCapacity capacity, tickets := by simp [nothing],
      waits := ?_, delivered := nofun, within := nofun }
  intro index item waits
  have member : index ∈ (InterruptQueue.ofCapacity capacity).waiting := by
    simp [InterruptQueue.mem_waiting, waits]
  simp [nothing] at member

namespace Tallies

/-- The tally is about tickets alone. -/
theorem congr
    {other : Ledger}
    (tallies : ledger.Tallies queue)
    (accepted : other.accepted = ledger.accepted)
    (lodged : other.lodged = ledger.lodged)
    (deliveries : other.deliveries = ledger.deliveries) :
    other.Tallies queue := by
  rcases tallies with ⟨settled, tickets, waits, delivered, within⟩
  constructor
  · exact settled
  · rwa [accepted, lodged, deliveries]
  · rwa [accepted, lodged]
  · rwa [accepted, deliveries]
  · rwa [deliveries]

/-- A ticket stays good when there are more. -/
theorem accepted_mono
    {item pushed : InterruptItem}
    {ticket : Nat}
    (found : ledger.accepted[ticket]? = some pushed) :
    (ledger.record (.accepted item)).accepted[ticket]? = some pushed := by
  have bound := (List.getElem?_eq_some_iff.mp found).1
  simpa only [record, List.getElem?_append_left bound] using found

/-- An accepted push adds a ticket that waits. -/
theorem accepts
    {item : InterruptItem}
    {pushed : InterruptQueue}
    (tallies : ledger.Tallies queue)
    (lodges : queue.Lodges item.kept pushed) :
    (ledger.record (.accepted item)).Tallies pushed := by
  have apart (index : Nat) (waits : (queue.item? index).isSome) : index ≠ item.index := by
    rintro rfl
    rw [show queue.item? item.index = none from lodges.vacant] at waits
    cases waits
  have fresh : (ledger.record (.accepted item)).lodged item.index = ledger.accepted.length :=
    Function.update_self ..
  have same (index : Nat) (other : index ≠ item.index) :
      (ledger.record (.accepted item)).lodged index = ledger.lodged index :=
    Function.update_of_ne other ..
  refine
    { settled := lodges.settled, tickets := ?_, waits := ?_, delivered := ?_, within := ?_ }
  · have earlier :
        queue.waiting.map (ledger.record (.accepted item)).lodged =
          queue.waiting.map ledger.lodged := by
      apply List.map_congr_left
      intro index member
      exact same index (apart index (InterruptQueue.mem_waiting.mp member))
    have more := lodges.waiting.map (ledger.record (.accepted item)).lodged
    rw [List.map_cons, earlier, show item.kept.index = item.index from rfl, fresh] at more
    have enlarged : (ledger.record (.accepted item)).accepted.length = ledger.accepted.length + 1 :=
      List.length_append
    rw [enlarged, List.range_succ]
    exact ((more.append_left _).trans List.perm_middle).trans
      ((tallies.tickets.cons _).trans (List.perm_append_singleton _ _).symm)
  · intro index waiting waits
    by_cases here : index = item.index
    · subst here
      rw [show pushed.item? item.index = some item.kept from lodges.filled,
        Option.some.injEq] at waits
      exact ⟨item, by simp [record], waits.symm⟩
    · rw [lodges.others index here] at waits
      rcases tallies.waits index waiting waits with ⟨earlier, found, kept⟩
      exact ⟨earlier, same index here ▸ accepted_mono found, kept⟩
  · intro delivery member
    rcases tallies.delivered delivery member with ⟨earlier, found, kept⟩
    exact ⟨earlier, accepted_mono found, kept⟩
  · intro delivery member
    rw [lodges.capacity]
    exact tallies.within delivery member

/-- An item that is handed out takes the ticket along that waited in its entry. -/
theorem hands
    {other : Ledger}
    {item : InterruptItem}
    {rest : InterruptQueue}
    {position drain : Nat}
    (tallies : ledger.Tallies queue)
    (yields : queue.Yields position item rest)
    (accepted : other.accepted = ledger.accepted)
    (lodged : other.lodged = ledger.lodged)
    (deliveries :
      other.deliveries = ledger.deliveries ++ [⟨ledger.lodged item.index, drain, item⟩]) :
    other.Tallies rest := by
  have taken {delivery : Delivery} (member : delivery ∈ other.deliveries) :
      delivery ∈ ledger.deliveries ∨ delivery = ⟨ledger.lodged item.index, drain, item⟩ := by
    simpa [deliveries] using member
  refine
    { settled := yields.settled tallies.settled, tickets := ?_, waits := ?_, delivered := ?_,
      within := ?_ }
  · have fewer := (yields.waiting.map ledger.lodged).symm
    rw [accepted, lodged, deliveries, List.map_append, List.append_assoc]
    exact (fewer.append_left _).trans tallies.tickets
  · intro index waiting waits
    rw [accepted, lodged]
    by_cases here : index = item.index
    · rw [here, yields.emptied] at waits
      cases waits
    · rw [yields.others index here] at waits
      exact tallies.waits index waiting waits
  · intro delivery member
    rw [accepted]
    rcases taken member with earlier | rfl
    · exact tallies.delivered delivery earlier
    · exact tallies.waits item.index item yields.waits
  · intro delivery member
    rw [yields.capacity]
    rcases taken member with earlier | rfl
    · exact tallies.within delivery earlier
    · exact InterruptQueue.lt_capacity_of_item? yields.waits

end Tallies

/-! ## Drains -/

/-- What a drain under way has handed out, by its number in the ledger. -/
structure Tracks (ledger : Ledger) (loop : DrainLoop) (run : Nat × Option Nat) : Prop where
  delivering : loop.delivering = run.2.isSome
  /-- It has passed what it has handed out. -/
  passed :
    ∀ delivery ∈ ledger.deliveries, delivery.drain = run.1 → delivery.item.index < loop.position
  count : ledger.handedBy run.1 = loop.drained + if loop.delivering then 1 else 0

/-- Items are put down to the drains that have handed them out. -/
structure Attributes (ledger : Ledger) (loops : List DrainLoop) : Prop where
  tracked : List.Forall₂ ledger.Tracks loops ledger.running
  /-- A drain began later than those around it. -/
  nested : ledger.running.Pairwise fun inner outer => outer.1 < inner.1
  numbered : ∀ run ∈ ledger.running, run.1 < ledger.begun
  known : ∀ delivery ∈ ledger.deliveries, delivery.drain < ledger.begun
  /-- One drain goes through the entries in ascending order. -/
  ascending :
    ledger.deliveries.Pairwise fun earlier later =>
      earlier.drain = later.drain → earlier.item.index < later.item.index
  /-- A drain that has returned is over, and has reported what it handed out. -/
  reported :
    ∀ done ∈ ledger.finished,
      done.1 < ledger.begun ∧ (∀ run ∈ ledger.running, run.1 ≠ done.1) ∧
        done.2 = ledger.handedBy done.1

variable {other : Ledger} {loop : DrainLoop} {loops outer : List DrainLoop} {drain : Nat}
  {ticket : Option Nat} {around : List (Nat × Option Nat)}

theorem attributes_start : Attributes {} [] where
  tracked := .nil
  nested := .nil
  numbered := nofun
  known := nofun
  ascending := .nil
  reported := nofun

theorem Tracks.congr
    {run : Nat × Option Nat}
    (tracks : ledger.Tracks loop run)
    (deliveries : other.deliveries = ledger.deliveries) :
    other.Tracks loop run := by
  rcases tracks with ⟨delivering, passed, count⟩
  constructor
  · exact delivering
  · rwa [deliveries]
  · rwa [handedBy, deliveries]

/-- What another drain hands out does not matter to a drain. -/
theorem Tracks.of_append
    {run : Nat × Option Nat}
    {delivery : Delivery}
    (tracks : ledger.Tracks loop run)
    (deliveries : other.deliveries = ledger.deliveries ++ [delivery])
    (apart : delivery.drain ≠ run.1) :
    other.Tracks loop run := by
  constructor
  · exact tracks.delivering
  · intro handed member same
    rw [deliveries, List.mem_append, List.mem_singleton] at member
    rcases member with earlier | rfl
    · exact tracks.passed handed earlier same
    · exact absurd same apart
  · rw [← tracks.count]
    simp [handedBy, deliveries, apart]

theorem tracked_of_append
    {delivery : Delivery}
    (tracked : List.Forall₂ ledger.Tracks loops around)
    (deliveries : other.deliveries = ledger.deliveries ++ [delivery])
    (apart : ∀ run ∈ around, delivery.drain ≠ run.1) :
    List.Forall₂ other.Tracks loops around := by
  induction tracked with
  | nil => exact .nil
  | cons first _ ih =>
      exact .cons (first.of_append deliveries (apart _ List.mem_cons_self))
        (ih fun run inside => apart run (List.mem_cons_of_mem _ inside))

namespace Attributes

/-- The innermost drain, and the drains around it. -/
theorem innermost (attributes : ledger.Attributes (loop :: outer)) :
    ∃ drain ticket around,
      ledger.running = (drain, ticket) :: around ∧ ledger.Tracks loop (drain, ticket) ∧
        List.Forall₂ ledger.Tracks outer around := by
  have tracked := attributes.tracked
  generalize ledger.running = running at tracked ⊢
  cases tracked with
  | @cons _ run _ around first others => exact ⟨run.1, run.2, around, rfl, first, others⟩

/-- A push is nothing to the drains. -/
theorem congr
    (attributes : ledger.Attributes loops)
    (running : other.running = ledger.running)
    (begun : other.begun = ledger.begun)
    (deliveries : other.deliveries = ledger.deliveries)
    (finished : other.finished = ledger.finished) :
    other.Attributes loops := by
  rcases attributes with ⟨tracked, nested, numbered, known, ascending, reported⟩
  constructor
  · rw [running]
    exact tracked.imp fun loop run tracks => tracks.congr deliveries
  · rwa [running]
  · rwa [running, begun]
  · rwa [deliveries, begun]
  · rwa [deliveries]
  · simpa only [running, begun, finished, handedBy, deliveries] using reported

/-- A new drain has handed out nothing. -/
theorem begins (attributes : ledger.Attributes loops) :
    (ledger.record .began).Attributes ({} :: loops) := by
  have unknown (delivery : Delivery) (member : delivery ∈ ledger.deliveries) :
      delivery.drain ≠ ledger.begun :=
    Nat.ne_of_lt (attributes.known delivery member)
  have nothing : ledger.handedBy ledger.begun = 0 := by
    apply List.countP_eq_zero.mpr
    simpa using unknown
  refine
    { tracked := .cons ?_ (attributes.tracked.imp fun loop run tracks => tracks.congr rfl),
      nested := List.pairwise_cons.mpr ⟨attributes.numbered, attributes.nested⟩, numbered := ?_,
      known := ?_, ascending := attributes.ascending, reported := ?_ }
  · exact ⟨rfl, fun delivery member same => absurd same (unknown delivery member), nothing⟩
  · intro run member
    rcases List.mem_cons.mp member with rfl | earlier
    · exact Nat.lt_succ_self _
    · exact Nat.lt_succ_of_lt (attributes.numbered run earlier)
  · intro delivery member
    exact Nat.lt_succ_of_lt (attributes.known delivery member)
  · intro done member
    rcases attributes.reported done member with ⟨bound, ended, count⟩
    refine ⟨Nat.lt_succ_of_lt bound, ?_, count⟩
    intro run running
    rcases List.mem_cons.mp running with rfl | earlier
    · exact Nat.ne_of_gt bound
    · exact ended run earlier

/-- The innermost drain is left; if it returns, it reports what it has handed out. -/
theorem leaves
    (attributes : ledger.Attributes (loop :: outer))
    (running : ledger.running = (drain, ticket) :: other.running)
    (begun : other.begun = ledger.begun)
    (deliveries : other.deliveries = ledger.deliveries)
    (finished :
      ∀ done ∈ other.finished,
        done ∈ ledger.finished ∨ done = (drain, ledger.handedBy drain)) :
    other.Attributes outer := by
  rcases attributes with ⟨tracked, nested, numbered, known, ascending, reported⟩
  rw [running] at tracked nested numbered reported
  rw [List.pairwise_cons] at nested
  constructor
  · cases tracked with
    | cons _ others => exact others.imp fun loop run tracks => tracks.congr deliveries
  · exact nested.2
  · intro run member
    rw [begun]
    exact numbered run (List.mem_cons_of_mem _ member)
  · rwa [deliveries, begun]
  · rwa [deliveries]
  · intro done member
    rw [begun, show other.handedBy done.1 = ledger.handedBy done.1 by simp [handedBy, deliveries]]
    rcases finished done member with earlier | rfl
    · rcases reported done earlier with ⟨bound, ended, count⟩
      exact ⟨bound, fun run inside => ended run (List.mem_cons_of_mem _ inside), count⟩
    · exact ⟨numbered _ List.mem_cons_self, fun run inside => Nat.ne_of_lt (nested.1 run inside),
        rfl⟩

/-- The callback of the innermost drain returns. -/
theorem returns
    {position drained : Nat}
    (attributes : ledger.Attributes (⟨position, drained, true⟩ :: outer))
    (running : ledger.running = (drain, ticket) :: around)
    (still : other.running = (drain, none) :: around)
    (begun : other.begun = ledger.begun)
    (deliveries : other.deliveries = ledger.deliveries)
    (finished : other.finished = ledger.finished) :
    other.Attributes (⟨position, drained + 1, false⟩ :: outer) := by
  rcases attributes with ⟨tracked, nested, numbered, known, ascending, reported⟩
  rw [running] at tracked nested numbered reported
  have same (done : Nat) : other.handedBy done = ledger.handedBy done := by
    simp [handedBy, deliveries]
  constructor
  · rw [still]
    cases tracked with
    | cons first others =>
        refine .cons ⟨rfl, deliveries ▸ first.passed, ?_⟩
          (others.imp fun loop run tracks => tracks.congr deliveries)
        rw [same]
        exact first.count
  · rw [still]
    simpa using nested
  · simpa [still, begun] using numbered
  · rwa [deliveries, begun]
  · rwa [deliveries]
  · simpa [still, begun, finished, same] using reported

/-- The innermost drain hands out an item that it has not passed yet. -/
theorem hands
    {position drained lodged : Nat}
    {item : InterruptItem}
    (attributes : ledger.Attributes (⟨position, drained, false⟩ :: outer))
    (passed : position ≤ item.index)
    (running : ledger.running = (drain, ticket) :: around)
    (still : other.running = (drain, some lodged) :: around)
    (begun : other.begun = ledger.begun)
    (deliveries : other.deliveries = ledger.deliveries ++ [⟨lodged, drain, item⟩])
    (finished : other.finished = ledger.finished) :
    other.Attributes (⟨item.index + 1, drained, true⟩ :: outer) := by
  rcases attributes with ⟨tracked, nested, numbered, known, ascending, reported⟩
  rw [running] at tracked nested numbered reported
  rw [List.pairwise_cons] at nested
  have taken {delivery : Delivery} (member : delivery ∈ other.deliveries) :
      delivery ∈ ledger.deliveries ∨ delivery = ⟨lodged, drain, item⟩ := by
    simpa [deliveries] using member
  rcases List.forall₂_cons.mp tracked with ⟨first, others⟩
  constructor
  · rw [still]
    refine .cons ⟨rfl, ?_, ?_⟩ ?_
    · intro delivery member same
      rcases taken member with earlier | rfl
      · have before := first.passed delivery earlier same
        exact Nat.lt_succ_of_lt (Nat.lt_of_lt_of_le before passed)
      · exact Nat.lt_succ_self _
    · have count := first.count
      simp only [handedBy, deliveries] at count ⊢
      simpa using count
    · exact tracked_of_append others deliveries fun run inside =>
        Nat.ne_of_gt (nested.1 run inside)
  · rw [still]
    exact List.pairwise_cons.mpr nested
  · simpa [still, begun] using numbered
  · intro delivery member
    rw [begun]
    rcases taken member with earlier | rfl
    · exact known delivery earlier
    · exact numbered _ List.mem_cons_self
  · rw [deliveries, List.pairwise_append]
    refine ⟨ascending, List.pairwise_singleton _ _, ?_⟩
    intro delivery earlier last member same
    rw [List.mem_singleton] at member
    subst member
    exact Nat.lt_of_lt_of_le (first.passed delivery earlier same) passed
  · intro done member
    rw [finished] at member
    rcases reported done member with ⟨bound, ended, count⟩
    have apart : drain ≠ done.1 := ended _ List.mem_cons_self
    refine ⟨begun ▸ bound, ?_, ?_⟩
    · simpa [still] using ended
    · simpa [handedBy, deliveries, apart] using count

end Attributes

/-! ## Callbacks -/

/-- Every item that was handed out is being delivered, or its callback has returned or panicked. -/
def Resolves (ledger : Ledger) : Prop :=
  (ledger.deliveries.map Delivery.ticket).Perm
    (ledger.returned ++ ledger.lost ++ ledger.running.filterMap Prod.snd)

theorem filterMap_snd_cons (drain : Nat) (ticket : Option Nat) (around : List (Nat × Option Nat)) :
    ((drain, ticket) :: around).filterMap Prod.snd =
      ticket.toList ++ around.filterMap Prod.snd := by
  cases ticket <;> simp

namespace Resolves

theorem congr
    (resolves : ledger.Resolves)
    (running : other.running.filterMap Prod.snd = ledger.running.filterMap Prod.snd)
    (deliveries : other.deliveries = ledger.deliveries)
    (returned : other.returned = ledger.returned)
    (lost : other.lost = ledger.lost) :
    other.Resolves := by
  rwa [Resolves, running, deliveries, returned, lost]

theorem hands
    {delivery : Delivery}
    (resolves : ledger.Resolves)
    (running : ledger.running = (drain, none) :: around)
    (still : other.running = (drain, some delivery.ticket) :: around)
    (deliveries : other.deliveries = ledger.deliveries ++ [delivery])
    (returned : other.returned = ledger.returned)
    (lost : other.lost = ledger.lost) :
    other.Resolves := by
  rw [Resolves, running, filterMap_snd_cons] at resolves
  rw [Resolves, still, filterMap_snd_cons, deliveries, returned, lost, List.map_append]
  exact ((List.perm_append_singleton _ _).trans (resolves.cons _)).trans List.perm_middle.symm

theorem returns
    (resolves : ledger.Resolves)
    (running : ledger.running = (drain, ticket) :: around)
    (still : other.running = (drain, none) :: around)
    (deliveries : other.deliveries = ledger.deliveries)
    (returned : other.returned = ledger.returned ++ ticket.toList)
    (lost : other.lost = ledger.lost) :
    other.Resolves := by
  rw [Resolves, running, filterMap_snd_cons] at resolves
  rw [Resolves, still, filterMap_snd_cons, deliveries, returned, lost]
  refine resolves.trans ?_
  simp only [List.append_assoc, Option.toList_none, List.nil_append]
  exact (List.perm_append_comm_assoc _ _ _).append_left _

theorem panics
    (resolves : ledger.Resolves)
    (running : ledger.running = (drain, ticket) :: other.running)
    (deliveries : other.deliveries = ledger.deliveries)
    (returned : other.returned = ledger.returned)
    (lost : other.lost = ledger.lost ++ ticket.toList) :
    other.Resolves := by
  rw [Resolves, running, filterMap_snd_cons] at resolves
  rw [Resolves, deliveries, returned, lost]
  simpa only [List.append_assoc] using resolves

end Resolves

/-! ## Steps -/

/-- The ledger agrees with a queue and the drains under way. -/
structure Balances (ledger : Ledger) (traffic : Traffic) : Prop where
  tallies : ledger.Tallies traffic.queue
  attributes : ledger.Attributes traffic.loops
  resolves : ledger.Resolves

theorem balances_start (capacity : Nat) : Balances {} (.ofCapacity capacity) :=
  ⟨tallies_start capacity, attributes_start, .refl _⟩

end Ledger

/-- A push that is accepted fills the entry in which nothing waited before. -/
theorem InterruptQueue.Settled.lodges_kept
    {queue pushed : InterruptQueue}
    {item : InterruptItem}
    (settled : queue.Settled)
    (accepted : queue.push item.name item.value = .ok pushed)
    (vacant : queue.item? item.index = none)
    (filled : (pushed.item? item.index).isSome) :
    queue.Lodges item.kept pushed := by
  rcases settled.lodges accepted with ⟨index, lodges⟩
  have here : index = item.index := by
    by_contra apart
    rw [lodges.others item.index (Ne.symm apart), vacant] at filled
    cases filled
  rwa [here] at lodges

namespace Ledger

variable {ledger : Ledger} {before after : Traffic} {event : QueueEvent}

/-- The books balance after every primitive step. -/
theorem Balances.proceeds
    (balances : ledger.Balances before)
    (proceeds : Proceeds before event after) :
    (ledger.record event).Balances after := by
  rcases balances with ⟨tallies, attributes, resolves⟩
  cases proceeds with
  | accepts _ accepted vacant filled =>
      exact ⟨tallies.accepts (tallies.settled.lodges_kept accepted vacant filled),
        attributes.congr rfl rfl rfl rfl, resolves⟩
  | refuses => exact ⟨tallies, attributes, resolves⟩
  | begins => exact ⟨tallies.congr rfl rfl rfl, attributes.begins, resolves⟩
  | @hands queue rest position drained outer item taken =>
      rcases attributes.innermost with ⟨drain, ticket, around, running, tracks, _⟩
      have yields := InterruptQueue.yields_of_take? taken
      have idle : ticket = none := by simpa using tracks.delivering.symm
      subst idle
      simp only [record, running]
      exact ⟨tallies.hands yields rfl rfl rfl,
        attributes.hands yields.passed running rfl rfl rfl rfl,
        resolves.hands running rfl rfl rfl rfl⟩
  | returns =>
      rcases attributes.innermost with ⟨drain, ticket, around, running, _⟩
      simp only [record, running]
      exact ⟨tallies.congr rfl rfl rfl, attributes.returns running rfl rfl rfl rfl,
        resolves.returns running rfl rfl rfl rfl⟩
  | finishes =>
      rcases attributes.innermost with ⟨drain, ticket, around, running, tracks, _⟩
      have idle : ticket = none := by simpa using tracks.delivering.symm
      subst idle
      have count := tracks.count
      simp only [record, running]
      refine ⟨tallies.congr rfl rfl rfl, attributes.leaves running rfl rfl ?_,
        resolves.congr (by simp [running]) rfl rfl rfl⟩
      intro done member
      rcases List.mem_append.mp member with earlier | new
      · exact Or.inl earlier
      · rw [List.mem_singleton.mp new, count]
        exact Or.inr rfl
  | panics =>
      rcases attributes.innermost with ⟨drain, ticket, around, running, _⟩
      simp only [record, running]
      exact ⟨tallies.congr rfl rfl rfl,
        attributes.leaves running rfl rfl fun done member => Or.inl member,
        resolves.panics running rfl rfl rfl⟩

/-- A panic loses one item, and nothing else does. -/
theorem Balances.length_lost
    (balances : ledger.Balances before)
    (proceeds : Proceeds before event after) :
    (ledger.record event).lost.length =
      ledger.lost.length + if event = .panicked then 1 else 0 := by
  cases proceeds with
  | panics =>
      rcases balances.attributes.innermost with ⟨drain, ticket, around, running, tracks, _⟩
      rcases Option.isSome_iff_exists.mp tracks.delivering.symm with ⟨delivered, calling⟩
      simp_all [record]
  | accepts | refuses | begins => simp [record]
  | hands | returns | finishes =>
      simp only [record]
      split <;> simp

/-- A drain hands out at most as many items as there are entries. -/
theorem Balances.handedBy_le (balances : ledger.Balances before) (drain : Nat) :
    ledger.handedBy drain ≤ before.queue.capacity := by
  let handed := ledger.deliveries.filter fun delivery => delivery.drain = drain
  have ascending : (handed.map fun delivery => delivery.item.index).Nodup := by
    refine List.pairwise_map.mpr ((balances.attributes.ascending.filter _).imp_of_mem ?_)
    intro earlier later member member' sooner
    have same : earlier.drain = later.drain := by
      rw [of_decide_eq_true (List.mem_filter.mp member).2,
        of_decide_eq_true (List.mem_filter.mp member').2]
    exact Nat.ne_of_lt (sooner same)
  have within :
      (handed.map fun delivery => delivery.item.index) ⊆ List.range before.queue.capacity := by
    intro index member
    rcases List.mem_map.mp member with ⟨delivery, inside, rfl⟩
    exact List.mem_range.mpr (balances.tallies.within delivery (List.mem_of_mem_filter inside))
  have bound := (List.subperm_of_subset ascending within).length_le
  rw [List.length_map, List.length_range] at bound
  rw [handedBy, List.countP_eq_length_filter]
  exact bound

end Ledger

end SignalDispatch
