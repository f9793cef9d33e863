import SignalDispatch.Fault
import SignalDispatch.Limits
import SignalDispatch.Text.Utf8

/-!
# The interrupt queue

A fixed number of entries for integer emissions made where nothing may block or allocate.  A
pending entry holds a value and the bytes of a name, cut at the last character that fits.  `push`
claims the first free entry, writes to it and publishes it; draining claims pending entries in
ascending order of index, freeing each before it is handed out, so that an entry filled again
behind the drain waits for the next one.
-/

namespace SignalDispatch

/-- What an entry is to those that look for one. -/
inductive EntryState where
  | free
  /-- Claimed by a push that has not published it yet. -/
  | writing
  | pending
  /-- Claimed by a drain that has not copied it yet. -/
  | reading
  deriving DecidableEq, Repr, Inhabited

/-- One entry of an interrupt queue. -/
structure InterruptEntry where
  state : EntryState := .free
  /-- The bytes of the name, and behind them whatever an earlier name left. -/
  buffer : List UInt8 := List.replicate Limits.interruptNameBytes 0
  /-- How many bytes of the buffer are the name. -/
  used : UInt8 := 0
  value : Int32 := 0
  deriving DecidableEq, Repr, Inhabited

namespace InterruptEntry

/-- The name in an entry; empty if the buffer holds none. -/
def name (entry : InterruptEntry) : String :=
  (Utf8.decode? (entry.buffer.take entry.used.toNat)).getD ""

/-- Write a name and a value into an entry. -/
def write (entry : InterruptEntry) (name : String) (value : Int32) : InterruptEntry :=
  let bytes := Utf8.bytes name
  let kept := Utf8.keptLength bytes Limits.interruptNameBytes
  { entry with
    buffer := bytes.take kept ++ entry.buffer.drop kept
    used := UInt8.ofNat kept
    value := value }

end InterruptEntry

/-- A pending emission as it is handed out. -/
structure InterruptItem where
  /-- The index of the entry it was taken from. -/
  index : Nat
  name : String
  value : Int32
  deriving DecidableEq, Repr, Inhabited

/-- A fixed number of entries. -/
structure InterruptQueue where
  entries : List InterruptEntry
  deriving DecidableEq, Repr, Inhabited

namespace InterruptQueue

/-- A queue of free entries. -/
def ofCapacity (capacity : Nat) : InterruptQueue where
  entries := List.replicate capacity {}

/-- The number of entries. -/
def capacity (queue : InterruptQueue) : Nat :=
  queue.entries.length

/-- The number of pending entries. -/
def pending (queue : InterruptQueue) : Nat :=
  queue.entries.countP fun entry => entry.state = .pending

/-- Change the entry at an index. -/
def modify
    (queue : InterruptQueue)
    (index : Nat)
    (change : InterruptEntry → InterruptEntry) :
    InterruptQueue where
  entries := queue.entries.modify index change

/-- Claim the first entry at or after a position that is in a state, by exchanging that state for
another.  The index of the entry comes with the queue. -/
def claim? (queue : InterruptQueue) (position : Nat) (expected claimed : EntryState) :
    Option (Nat × InterruptQueue) :=
  match (queue.entries.drop position).findIdx? fun entry => entry.state = expected with
  | none => none
  | some offset =>
      let index := position + offset
      some (index, queue.modify index fun entry => { entry with state := claimed })

/-- Put an emission into the first free entry. -/
def push (queue : InterruptQueue) (name : String) (value : Int32) :
    Except Fault InterruptQueue :=
  if name.isEmpty then .error Fault.emptyName
  else
    match queue.claim? 0 .free .writing with
    | none => .error (.resourceExhausted (.interruptQueue queue.capacity))
    | some (index, claimed) =>
        .ok (claimed.modify index fun entry =>
          { entry.write name value with state := .pending })

/-- Take the pending emission of least index at or after a position; its entry is free again, and
what it held stays in its buffer. -/
def take? (queue : InterruptQueue) (position : Nat) : Option (InterruptItem × InterruptQueue) :=
  match queue.claim? position .pending .reading with
  | none => none
  | some (index, claimed) =>
      claimed.entries[index]?.map fun entry =>
        ({ index := index, name := entry.name, value := entry.value },
          claimed.modify index fun entry => { entry with state := .free })

/-- Take every pending emission at or after a position, at most `limit` of them. -/
def takeFrom (queue : InterruptQueue) : Nat → Nat → List InterruptItem × InterruptQueue
  | 0, _ => ([], queue)
  | limit + 1, position =>
      match queue.take? position with
      | none => ([], queue)
      | some (item, rest) =>
          let (items, rest) := rest.takeFrom limit (item.index + 1)
          (item :: items, rest)

/-- Take every pending emission. -/
def drain (queue : InterruptQueue) : List InterruptItem × InterruptQueue :=
  queue.takeFrom queue.capacity 0

@[simp]
theorem pending_ofCapacity (capacity : Nat) : (ofCapacity capacity).pending = 0 := by
  simp [pending, ofCapacity, List.countP_replicate]

@[simp]
theorem capacity_ofCapacity (capacity : Nat) : (ofCapacity capacity).capacity = capacity := by
  simp [InterruptQueue.capacity, ofCapacity]

@[simp]
theorem capacity_modify
    (queue : InterruptQueue)
    (index : Nat)
    (change : InterruptEntry → InterruptEntry) :
    (queue.modify index change).capacity = queue.capacity := by
  simp [InterruptQueue.capacity, modify]

/-- Claiming an entry does not change the number of entries. -/
theorem capacity_of_claim?
    {queue claimed : InterruptQueue}
    {position index : Nat}
    {expected state : EntryState}
    (found : queue.claim? position expected state = some (index, claimed)) :
    claimed.capacity = queue.capacity := by
  unfold claim? at found
  split at found
  · cases found
  · cases found
    exact capacity_modify _ _ _

/-- An entry is claimed at a position that has not been passed yet. -/
theorem le_index_of_claim?
    {queue claimed : InterruptQueue}
    {position index : Nat}
    {expected state : EntryState}
    (found : queue.claim? position expected state = some (index, claimed)) :
    position ≤ index := by
  unfold claim? at found
  split at found
  · cases found
  · cases found
    exact Nat.le_add_right _ _

/-- Filling an entry does not change the number of entries. -/
theorem capacity_of_push
    {queue pushed : InterruptQueue}
    {name : String}
    {value : Int32}
    (accepted : queue.push name value = .ok pushed) :
    pushed.capacity = queue.capacity := by
  unfold push at accepted
  split at accepted
  · cases accepted
  · split at accepted
    · cases accepted
    next claimed found =>
      cases accepted
      simp [capacity_of_claim? found]

/-- Freeing an entry does not change the number of entries. -/
theorem capacity_of_take?
    {queue rest : InterruptQueue}
    {position : Nat}
    {item : InterruptItem}
    (taken : queue.take? position = some (item, rest)) :
    rest.capacity = queue.capacity := by
  unfold take? at taken
  split at taken
  · cases taken
  next claimed found =>
    simp only [Option.map_eq_some_iff, Prod.mk.injEq] at taken
    obtain ⟨entry, _, _, rfl⟩ := taken
    simp [capacity_of_claim? found]

/-- An item is handed out from a position that has not been passed yet. -/
theorem le_index_of_take?
    {queue rest : InterruptQueue}
    {position : Nat}
    {item : InterruptItem}
    (taken : queue.take? position = some (item, rest)) :
    position ≤ item.index := by
  unfold take? at taken
  split at taken
  · cases taken
  next claimed found =>
    simp only [Option.map_eq_some_iff, Prod.mk.injEq] at taken
    obtain ⟨entry, _, rfl, _⟩ := taken
    exact le_index_of_claim? found

end InterruptQueue

end SignalDispatch
