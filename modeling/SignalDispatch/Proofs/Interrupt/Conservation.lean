import SignalDispatch.Proofs.Interrupt.Bookkeeping

/-!
# The interrupt queue neither loses nor duplicates

`Conserved` is what holds after every history of a queue: what was accepted has been handed out once
or waits, a drain goes through the entries once, and a panic costs the item whose callback it
leaves.
-/

namespace SignalDispatch

/-- The item of a push that was accepted. -/
def QueueEvent.pushed? : QueueEvent → Option InterruptItem
  | .accepted item => some item
  | _ => none

/-- The item that was handed out. -/
def QueueEvent.handed? : QueueEvent → Option InterruptItem
  | .handed item => some item
  | _ => none

/-- Nothing was lost or handed out twice, and every drain comes to an end. -/
structure Conserved (capacity : Nat) (events : List QueueEvent) (reached : Traffic) : Prop where
  accepted : (Ledger.ofEvents events).accepted = events.filterMap QueueEvent.pushed?
  handed :
    (Ledger.ofEvents events).deliveries.map Delivery.item = events.filterMap QueueEvent.handed?
  size : reached.queue.capacity = capacity
  /-- Every entry is free or pending. -/
  settled : reached.queue.Settled
  /-- A push is accepted as long as not every entry is pending. -/
  push_ok_iff :
    ∀ name value, name ≠ "" →
      ((∃ pushed, reached.queue.push name value = .ok pushed) ↔ reached.queue.pending < capacity)
  /-- Every accepted push was handed out or waits, never both and never twice. -/
  once :
    ((Ledger.ofEvents events).deliveries.map Delivery.ticket ++
        reached.queue.waiting.map (Ledger.ofEvents events).lodged).Perm
      (List.range (Ledger.ofEvents events).accepted.length)
  pending :
    reached.queue.pending + (events.filterMap QueueEvent.handed?).length =
      (events.filterMap QueueEvent.pushed?).length
  /-- What was handed out is what was pushed under its ticket. -/
  delivered :
    ∀ delivery ∈ (Ledger.ofEvents events).deliveries,
      (Ledger.ofEvents events).accepted[delivery.ticket]?.map InterruptItem.kept =
        some delivery.item
  /-- What waits is what was pushed under its ticket. -/
  waits :
    ∀ index item, reached.queue.item? index = some item →
      (Ledger.ofEvents events).accepted[(Ledger.ofEvents events).lodged index]?.map
          InterruptItem.kept =
        some item
  /-- A drain hands out an item that was pushed meanwhile only from an entry behind those that it
  had handed out before, the one that it was delivering included. -/
  meanwhile :
    ∀ early item late, events = early ++ .accepted item :: late →
      ∀ earlier ∈ (Ledger.ofEvents early).deliveries,
        ∀ delivery ∈ (Ledger.ofEvents events).deliveries,
          delivery.drain = earlier.drain →
            delivery.ticket = (Ledger.ofEvents early).accepted.length →
              earlier.item.index < item.index
  /-- A drain reports what it has handed out. -/
  reported :
    ∀ done ∈ (Ledger.ofEvents events).finished, done.2 = (Ledger.ofEvents events).handedBy done.1
  bounded : ∀ drain, (Ledger.ofEvents events).handedBy drain ≤ capacity
  /-- The callback of every item that was handed out has returned or panicked, or is running. -/
  resolved :
    ((Ledger.ofEvents events).deliveries.map Delivery.ticket).Perm
      ((Ledger.ofEvents events).returned ++ (Ledger.ofEvents events).lost ++
        (Ledger.ofEvents events).running.filterMap Prod.snd)
  /-- A panic loses one item. -/
  lost : (Ledger.ofEvents events).lost.length = events.count .panicked

namespace History

variable {capacity : Nat} {events : List QueueEvent} {reached : Traffic}

theorem balances (history : History (.ofCapacity capacity) events reached) :
    (Ledger.ofEvents events).Balances reached := by
  induction history with
  | refl => exact Ledger.balances_start capacity
  | next _ proceeds ih =>
      rw [Ledger.ofEvents_append_singleton]
      exact ih.proceeds proceeds

theorem length_lost (history : History (.ofCapacity capacity) events reached) :
    (Ledger.ofEvents events).lost.length = events.count .panicked := by
  induction history with
  | refl => rfl
  | @next events event _ _ history proceeds ih =>
      rw [Ledger.ofEvents_append_singleton, history.balances.length_lost proceeds, ih,
        List.count_append, List.count_singleton]
      simp

/-- The ledger has the items of the events. -/
theorem items_eq (history : History (.ofCapacity capacity) events reached) :
    (Ledger.ofEvents events).accepted = events.filterMap QueueEvent.pushed? ∧
      (Ledger.ofEvents events).deliveries.map Delivery.item =
        events.filterMap QueueEvent.handed? := by
  induction history with
  | refl => exact ⟨rfl, rfl⟩
  | @next events event before after history proceeds ih =>
      rcases ih with ⟨accepted, handed⟩
      rw [Ledger.ofEvents_append_singleton, List.filterMap_append, List.filterMap_append]
      cases proceeds with
      | accepts | refuses | begins =>
          simp [Ledger.record, QueueEvent.pushed?, QueueEvent.handed?, accepted, handed]
      | hands | returns | finishes | panics =>
          rcases history.balances.attributes.innermost with ⟨_, _, _, running, _⟩
          simp [Ledger.record, running, QueueEvent.pushed?, QueueEvent.handed?, accepted, handed]

/-- A ticket is handed out after its push. -/
theorem ticket_lt
    (history : History (.ofCapacity capacity) events reached)
    {delivery : Delivery}
    (member : delivery ∈ (Ledger.ofEvents events).deliveries) :
    delivery.ticket < (Ledger.ofEvents events).accepted.length := by
  apply List.mem_range.mp
  apply history.balances.tallies.tickets.subset
  exact List.mem_append_left _ (List.mem_map_of_mem member)

/-- What is pushed during a drain is handed out by it only from behind. -/
theorem index_lt_of_meanwhile
    {early late : List QueueEvent}
    {item : InterruptItem}
    {earlier delivery : Delivery}
    (history : History (.ofCapacity capacity) (early ++ .accepted item :: late) reached)
    (before : earlier ∈ (Ledger.ofEvents early).deliveries)
    (member : delivery ∈ (Ledger.ofEvents (early ++ .accepted item :: late)).deliveries)
    (drain : delivery.drain = earlier.drain)
    (ticket : delivery.ticket = (Ledger.ofEvents early).accepted.length) :
    earlier.item.index < item.index := by
  rcases history.of_append with ⟨midway, past⟩
  have balances := history.balances
  have whole : early ++ .accepted item :: late = early ++ [.accepted item] ++ late := by simp
  -- the ticket is the one of this push
  have pushed : (Ledger.ofEvents (early ++ .accepted item :: late)).accepted[delivery.ticket]? =
      some item := by
    have entered := (Ledger.prefix_ofEvents (early ++ [.accepted item]) late).1
    rw [← whole, Ledger.ofEvents_append_singleton] at entered
    rcases entered with ⟨more, same⟩
    rw [← same, ticket]
    simp [Ledger.record]
  rcases balances.tallies.delivered delivery member with ⟨other, found, kept⟩
  rw [pushed, Option.some.injEq] at found
  have here : delivery.item.index = item.index := by
    rw [kept, ← found]
    rfl
  rcases (Ledger.prefix_ofEvents early (.accepted item :: late)).2 with ⟨new, split⟩
  rw [← split] at member
  have ascending := balances.attributes.ascending
  rw [← split, List.pairwise_append] at ascending
  rcases List.mem_append.mp member with old | new
  · have sooner := past.ticket_lt old
    omega
  · rw [← here]
    exact ascending.2.2 earlier before delivery new drain.symm

/-- The interrupt queue neither loses nor duplicates. -/
theorem conserved (history : History (.ofCapacity capacity) events reached) :
    Conserved capacity events reached := by
  have balances := history.balances
  have size : reached.queue.capacity = capacity :=
    history.capacity_eq.trans (InterruptQueue.capacity_ofCapacity capacity)
  rcases history.items_eq with ⟨accepted, handed⟩
  refine
    { accepted := accepted, handed := handed, size := size, settled := balances.tallies.settled,
      push_ok_iff := ?_, once := balances.tallies.tickets, pending := ?_, delivered := ?_,
      waits := ?_, meanwhile := ?_, reported := ?_, bounded := ?_, resolved := balances.resolves,
      lost := history.length_lost }
  · intro name value named
    rw [← size]
    exact balances.tallies.settled.push_ok_iff named
  · have lengths := balances.tallies.tickets.length_eq
    rw [List.length_append, List.length_map, List.length_map, List.length_range,
      InterruptQueue.length_waiting] at lengths
    rw [← accepted, ← handed, List.length_map]
    omega
  · intro delivery member
    rcases balances.tallies.delivered delivery member with ⟨pushed, found, kept⟩
    simp [found, kept]
  · intro index item waits
    rcases balances.tallies.waits index item waits with ⟨pushed, found, kept⟩
    simp [found, kept]
  · rintro early item late rfl earlier before delivery member drain ticket
    exact history.index_lt_of_meanwhile before member drain ticket
  · intro done member
    exact (balances.attributes.reported done member).2.2
  · intro drain
    rw [← size]
    exact balances.handedBy_le drain

end History

end SignalDispatch
