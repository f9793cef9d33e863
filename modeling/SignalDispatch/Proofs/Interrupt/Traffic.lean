import SignalDispatch.Proofs.Interrupt.Entries
import Mathlib.Logic.Function.Basic

/-!
# The traffic of an interrupt queue

User code pushes, drains and, from inside the callback of a drain, does so again or panics.
`Proceeds` gives the primitive steps of this, one event each, for a queue of any capacity and drains
nested to any depth; a `History` is any number of them.

A `Ledger` is read off the events alone.  Every accepted push gets a ticket, its position among all
accepted pushes, and every drain a number.  An item that is handed out carries the ticket that was
lodged last in the entry that it comes from, and is put down to the innermost drain.
-/

namespace SignalDispatch

/-- A primitive step in the use of an interrupt queue. -/
inductive QueueEvent where
  /-- A push was accepted; the item has the entry that it went to and the name as it was given. -/
  | accepted (item : InterruptItem)
  | refused (name : String) (value : Int32) (fault : Fault)
  | began
  /-- The innermost drain calls its callback with an item. -/
  | handed (item : InterruptItem)
  /-- The callback of the innermost drain returns. -/
  | returned
  /-- The innermost drain returns with a count. -/
  | finished (count : Nat)
  /-- A panic leaves the callback of the innermost drain and that drain itself. -/
  | panicked
  deriving DecidableEq, Repr

/-- A drain that has begun and has not been left. -/
structure DrainLoop where
  /-- The first entry that it has not passed. -/
  position : Nat := 0
  /-- How many times its callback has returned. -/
  drained : Nat := 0
  /-- Whether its callback is running. -/
  delivering : Bool := false
  deriving DecidableEq, Repr

/-- A queue and the drains under way, the innermost first. -/
structure Traffic where
  queue : InterruptQueue
  loops : List DrainLoop
  deriving DecidableEq, Repr

/-- It is the turn of user code: at top level, or in the callback of the innermost drain. -/
def OutsideLoops (loops : List DrainLoop) : Prop :=
  ∀ loop ∈ loops.head?, loop.delivering

/-- One primitive step. -/
inductive Proceeds : Traffic → QueueEvent → Traffic → Prop where
  | accepts
      {queue pushed : InterruptQueue}
      {loops : List DrainLoop}
      {item : InterruptItem} :
      OutsideLoops loops →
      queue.push item.name item.value = .ok pushed →
      queue.item? item.index = none →
      (pushed.item? item.index).isSome →
      Proceeds ⟨queue, loops⟩ (.accepted item) ⟨pushed, loops⟩
  | refuses
      {queue : InterruptQueue}
      {loops : List DrainLoop}
      {name : String}
      {value : Int32}
      {fault : Fault} :
      OutsideLoops loops →
      queue.push name value = .error fault →
      Proceeds ⟨queue, loops⟩ (.refused name value fault) ⟨queue, loops⟩
  | begins {queue : InterruptQueue} {loops : List DrainLoop} :
      OutsideLoops loops →
      Proceeds ⟨queue, loops⟩ .began ⟨queue, {} :: loops⟩
  | hands
      {queue rest : InterruptQueue}
      {position drained : Nat}
      {outer : List DrainLoop}
      {item : InterruptItem} :
      queue.take? position = some (item, rest) →
      Proceeds ⟨queue, ⟨position, drained, false⟩ :: outer⟩ (.handed item)
        ⟨rest, ⟨item.index + 1, drained, true⟩ :: outer⟩
  | returns {queue : InterruptQueue} {position drained : Nat} {outer : List DrainLoop} :
      Proceeds ⟨queue, ⟨position, drained, true⟩ :: outer⟩ .returned
        ⟨queue, ⟨position, drained + 1, false⟩ :: outer⟩
  | finishes {queue : InterruptQueue} {position drained : Nat} {outer : List DrainLoop} :
      queue.take? position = none →
      Proceeds ⟨queue, ⟨position, drained, false⟩ :: outer⟩ (.finished drained) ⟨queue, outer⟩
  | panics {queue : InterruptQueue} {position drained : Nat} {outer : List DrainLoop} :
      Proceeds ⟨queue, ⟨position, drained, true⟩ :: outer⟩ .panicked ⟨queue, outer⟩

/-- A new queue. -/
def Traffic.ofCapacity (capacity : Nat) : Traffic where
  queue := .ofCapacity capacity
  loops := []

/-- The events that lead from one state to another. -/
inductive History (start : Traffic) : List QueueEvent → Traffic → Prop where
  | refl : History start [] start
  | next {events : List QueueEvent} {event : QueueEvent} {before after : Traffic} :
      History start events before →
      Proceeds before event after →
      History start (events ++ [event]) after

namespace History

variable {start midway reached : Traffic} {early late : List QueueEvent}

theorem trans
    (first : History start early midway)
    (second : History midway late reached) :
    History start (early ++ late) reached := by
  induction second with
  | refl => simpa using first
  | next _ proceeds ih =>
      rw [← List.append_assoc]
      exact ih.next proceeds

theorem of_proceeds {event : QueueEvent} (proceeds : Proceeds start event reached) :
    History start [event] reached :=
  History.refl.next proceeds

/-- What came first in a history is a history. -/
theorem of_append (history : History start (early ++ late) reached) :
    ∃ midway, History start early midway := by
  induction late using List.reverseRecOn generalizing reached with
  | nil => exact ⟨reached, by simpa using history⟩
  | append_singleton late event ih =>
      rw [← List.append_assoc] at history
      generalize whole : early ++ late ++ [event] = events at history
      cases history with
      | refl => simp at whole
      | next earlier proceeds =>
          have same := List.append_inj' whole rfl
          exact ih (same.1 ▸ earlier)

/-- Between primitive steps no entry is claimed. -/
theorem settled (history : History start early reached) (settled : start.queue.Settled) :
    reached.queue.Settled := by
  induction history with
  | refl => exact settled
  | next _ proceeds ih =>
      cases proceeds with
      | accepts _ accepted =>
          rcases ih.lodges accepted with ⟨_, lodges⟩
          exact lodges.settled
      | hands taken => exact (InterruptQueue.yields_of_take? taken).settled ih
      | refuses | begins | returns | finishes | panics => exact ih

theorem capacity_eq (history : History start early reached) :
    reached.queue.capacity = start.queue.capacity := by
  induction history with
  | refl => rfl
  | next _ proceeds ih =>
      cases proceeds with
      | accepts _ accepted => exact (InterruptQueue.capacity_of_push accepted).trans ih
      | hands taken => exact (InterruptQueue.capacity_of_take? taken).trans ih
      | refuses | begins | returns | finishes | panics => exact ih

end History

/-- An item that was handed out. -/
structure Delivery where
  /-- The accepted push that it goes back to. -/
  ticket : Nat
  /-- The drain that handed it out. -/
  drain : Nat
  item : InterruptItem
  deriving DecidableEq, Repr

/-- What the events of a queue come to. -/
structure Ledger where
  /-- What was pushed under each ticket. -/
  accepted : List InterruptItem := []
  /-- The ticket that was lodged last in each entry. -/
  lodged : Nat → Nat := fun _ => 0
  /-- How many drains have begun. -/
  begun : Nat := 0
  /-- The drains under way, the innermost first, with the ticket that each is delivering. -/
  running : List (Nat × Option Nat) := []
  deliveries : List Delivery := []
  /-- The tickets whose callback has returned. -/
  returned : List Nat := []
  /-- The tickets whose callback has panicked. -/
  lost : List Nat := []
  /-- The drains that have returned, with the count that each reported. -/
  finished : List (Nat × Nat) := []

namespace Ledger

/-- Enter an event. -/
def record (ledger : Ledger) : QueueEvent → Ledger
  | .accepted item =>
      { ledger with
        accepted := ledger.accepted ++ [item]
        lodged := Function.update ledger.lodged item.index ledger.accepted.length }
  | .refused _ _ _ => ledger
  | .began =>
      { ledger with
        begun := ledger.begun + 1
        running := (ledger.begun, none) :: ledger.running }
  | .handed item =>
      match ledger.running with
      | [] => ledger
      | (drain, _) :: outer =>
          let ticket := ledger.lodged item.index
          { ledger with
            deliveries := ledger.deliveries ++ [⟨ticket, drain, item⟩]
            running := (drain, some ticket) :: outer }
  | .returned =>
      match ledger.running with
      | [] => ledger
      | (drain, ticket) :: outer =>
          { ledger with
            returned := ledger.returned ++ ticket.toList
            running := (drain, none) :: outer }
  | .finished count =>
      match ledger.running with
      | [] => ledger
      | (drain, _) :: outer =>
          { ledger with
            finished := ledger.finished ++ [(drain, count)]
            running := outer }
  | .panicked =>
      match ledger.running with
      | [] => ledger
      | (_, ticket) :: outer =>
          { ledger with
            lost := ledger.lost ++ ticket.toList
            running := outer }

/-- The ledger of some events. -/
def ofEvents (events : List QueueEvent) : Ledger :=
  events.foldl record {}

@[simp]
theorem ofEvents_append_singleton (events : List QueueEvent) (event : QueueEvent) :
    ofEvents (events ++ [event]) = (ofEvents events).record event := by
  simp [ofEvents]

/-- How many items a drain has handed out. -/
def handedBy (ledger : Ledger) (drain : Nat) : Nat :=
  ledger.deliveries.countP fun delivery => delivery.drain = drain

/-- What was entered stays. -/
theorem prefix_record (ledger : Ledger) (event : QueueEvent) :
    ledger.accepted <+: (ledger.record event).accepted ∧
      ledger.deliveries <+: (ledger.record event).deliveries := by
  cases event with
  | accepted item => exact ⟨List.prefix_append _ _, List.prefix_rfl⟩
  | refused | began => exact ⟨List.prefix_rfl, List.prefix_rfl⟩
  | handed item =>
      simp only [record]
      split
      · exact ⟨List.prefix_rfl, List.prefix_rfl⟩
      · exact ⟨List.prefix_rfl, List.prefix_append _ _⟩
  | returned | finished | panicked =>
      simp only [record]
      split <;> exact ⟨List.prefix_rfl, List.prefix_rfl⟩

theorem prefix_ofEvents (early late : List QueueEvent) :
    (ofEvents early).accepted <+: (ofEvents (early ++ late)).accepted ∧
      (ofEvents early).deliveries <+: (ofEvents (early ++ late)).deliveries := by
  induction late using List.reverseRecOn with
  | nil => simp
  | append_singleton late event ih =>
      rw [← List.append_assoc, ofEvents_append_singleton]
      have recorded := prefix_record (ofEvents (early ++ late)) event
      exact ⟨ih.1.trans recorded.1, ih.2.trans recorded.2⟩

end Ledger

end SignalDispatch
