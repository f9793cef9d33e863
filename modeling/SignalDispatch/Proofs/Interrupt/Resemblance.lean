import SignalDispatch.Proofs.Interrupt.Entries

/-!
# Interrupt queues in which the same waits

Behind the name that waits in an entry there is whatever earlier names left, and an entry in which
nothing waits keeps the last one.  None of it can be told from what is pushed and taken: queues in
which the same waits accept the same, hand out the same, and the same waits in them afterwards.
-/

namespace SignalDispatch.InterruptQueue

/-- The same waits in both queues, and none of their entries is claimed. -/
structure Resembles (left right : InterruptQueue) : Prop where
  capacity : left.capacity = right.capacity
  items : ∀ index, left.item? index = right.item? index
  settled : left.Settled
  settled' : right.Settled

theorem Settled.resembles_self {queue : InterruptQueue} (settled : queue.Settled) :
    queue.Resembles queue :=
  ⟨rfl, fun _ => rfl, settled, settled⟩

/-- Taking everything from a position on leaves what waits before it. -/
theorem item?_takeFrom
    {queue : InterruptQueue}
    {limit position : Nat}
    (enough : queue.capacity ≤ position + limit)
    (index : Nat) :
    (queue.takeFrom limit position).2.item? index =
      if index < position then queue.item? index else none := by
  induction limit generalizing queue position with
  | zero =>
      rw [takeFrom]
      dsimp only
      split
      · rfl
      next behind => exact item?_eq_none_of_le (by omega)
  | succ limit ih =>
      rw [takeFrom]
      cases taken : queue.take? position with
      | none =>
          have nothing := (take?_eq_none_iff queue position).mp taken
          dsimp only
          split
          · rfl
          next behind => exact nothing index (Nat.le_of_not_lt behind)
      | some found =>
          rcases found with ⟨item, rest⟩
          have yields := yields_of_take? taken
          have passed := yields.passed
          have others := yields.others index
          have first := yields.first index
          have remaining := @ih rest (item.index + 1) (by rw [yields.capacity]; omega)
          dsimp only
          rw [remaining]
          by_cases here : index = item.index
          · rw [here, yields.emptied, ite_self, if_neg (by omega)]
          · rw [others here]
            split <;> split
            · rfl
            · exact first (by omega) (by omega)
            · omega
            · rfl

theorem Settled.takeFrom
    {queue : InterruptQueue}
    (settled : queue.Settled)
    (limit position : Nat) :
    (queue.takeFrom limit position).2.Settled := by
  induction limit generalizing queue position with
  | zero => exact settled
  | succ limit ih =>
      rw [InterruptQueue.takeFrom]
      cases taken : queue.take? position with
      | none => exact settled
      | some found => exact ih ((yields_of_take? taken).settled settled) _

theorem capacity_takeFrom (queue : InterruptQueue) (limit position : Nat) :
    (queue.takeFrom limit position).2.capacity = queue.capacity := by
  induction limit generalizing queue position with
  | zero => rfl
  | succ limit ih =>
      rw [takeFrom]
      cases taken : queue.take? position with
      | none => rfl
      | some found => exact (ih found.2 _).trans (capacity_of_take? taken)

/-- A queue that was drained is like a new one. -/
theorem Settled.drain_resembles {queue : InterruptQueue} (settled : queue.Settled) :
    queue.drain.2.Resembles (ofCapacity queue.capacity) where
  capacity := by rw [drain, capacity_takeFrom, capacity_ofCapacity]
  items index := by
    have vacant : (ofCapacity queue.capacity).item? index = none := by
      apply item?_eq_none
      intro entry stored
      have member := List.mem_of_getElem? stored
      rw [(List.mem_replicate.mp member).2]
      exact EntryState.noConfusion
    rw [drain, item?_takeFrom (Nat.le_add_left _ _), if_neg (Nat.not_lt_zero _), vacant]
  settled := settled.takeFrom _ _
  settled' := settled_ofCapacity _

theorem fault_of_push
    {queue : InterruptQueue}
    {name : String}
    {value : Int32}
    {fault : Fault}
    (named : name ≠ "")
    (refused : queue.push name value = .error fault) :
    fault = .resourceExhausted (.interruptQueue queue.capacity) := by
  unfold push at refused
  split at refused
  next unnamed => exact absurd (String.isEmpty_iff.mp unnamed) named
  split at refused
  · cases refused
    rfl
  · cases refused

namespace Resembles

variable {left right : InterruptQueue}

theorem waiting_eq (same : left.Resembles right) : left.waiting = right.waiting := by
  simp only [waiting, same.capacity, same.items]

theorem pending_eq (same : left.Resembles right) : left.pending = right.pending := by
  rw [← length_waiting, ← length_waiting, same.waiting_eq]

/-- The first entry in which nothing waits is the same. -/
theorem index_of_lodges
    {item item' : InterruptItem}
    {pushed pushed' : InterruptQueue}
    (same : left.Resembles right)
    (lodges : left.Lodges item pushed)
    (lodges' : right.Lodges item' pushed') :
    item.index = item'.index := by
  rcases Nat.lt_trichotomy item.index item'.index with sooner | equal | later
  · have taken := lodges'.first item.index sooner
    rw [← same.items, lodges.vacant] at taken
    cases taken
  · exact equal
  · have taken := lodges.first item'.index later
    rw [same.items, lodges'.vacant] at taken
    cases taken

/-- Both queues accept an emission, or both refuse it for the same reason. -/
theorem push
    (same : left.Resembles right)
    (name : String)
    (value : Int32) :
    (∃ fault, left.push name value = .error fault ∧ right.push name value = .error fault) ∨
      ∃ pushed pushed',
        left.push name value = .ok pushed ∧ right.push name value = .ok pushed' ∧
          pushed.Resembles pushed' := by
  by_cases unnamed : name = ""
  · subst unnamed
    exact Or.inl ⟨Fault.emptyName, rfl, rfl⟩
  · have accepts : (∃ pushed, left.push name value = .ok pushed) ↔
        ∃ pushed, right.push name value = .ok pushed := by
      rw [same.settled.push_ok_iff unnamed, same.settled'.push_ok_iff unnamed, same.pending_eq,
        same.capacity]
    cases result : left.push name value with
    | error fault =>
        cases result' : right.push name value with
        | error fault' =>
            have full := fault_of_push unnamed result
            have full' := fault_of_push unnamed result'
            rw [same.capacity, ← full'] at full
            exact Or.inl ⟨fault, rfl, congrArg Except.error full.symm⟩
        | ok pushed' =>
            rcases accepts.mpr ⟨pushed', result'⟩ with ⟨pushed, accepted⟩
            rw [result] at accepted
            cases accepted
    | ok pushed =>
        rcases accepts.mp ⟨pushed, result⟩ with ⟨pushed', result'⟩
        rcases same.settled.lodges result with ⟨index, lodges⟩
        rcases same.settled'.lodges result' with ⟨index', lodges'⟩
        have place : index = index' := same.index_of_lodges lodges lodges'
        subst place
        refine Or.inr ⟨pushed, pushed', rfl, result', ?_, ?_, lodges.settled, lodges'.settled⟩
        · rw [lodges.capacity, lodges'.capacity, same.capacity]
        · intro other
          by_cases here : other = index
          · rw [here, lodges.filled, lodges'.filled]
          · rw [lodges.others other here, lodges'.others other here, same.items]

/-- The first item that waits is the same. -/
theorem item_of_yields
    {position : Nat}
    {item item' : InterruptItem}
    {rest rest' : InterruptQueue}
    (same : left.Resembles right)
    (yields : left.Yields position item rest)
    (yields' : right.Yields position item' rest') :
    item = item' := by
  have index : item.index = item'.index := by
    rcases Nat.lt_trichotomy item.index item'.index with sooner | equal | later
    · have nothing := yields'.first item.index yields.passed sooner
      rw [← same.items, yields.waits] at nothing
      cases nothing
    · exact equal
    · have nothing := yields.first item'.index yields'.passed later
      rw [same.items, yields'.waits] at nothing
      cases nothing
  have waits := yields.waits
  rw [same.items, index, yields'.waits] at waits
  exact (Option.some.inj waits).symm

/-- Both queues hand out the same, or nothing. -/
theorem take?
    (same : left.Resembles right)
    (position : Nat) :
    (left.take? position = none ∧ right.take? position = none) ∨
      ∃ item rest rest',
        left.take? position = some (item, rest) ∧ right.take? position = some (item, rest') ∧
          rest.Resembles rest' := by
  have hands : left.take? position = none ↔ right.take? position = none := by
    rw [take?_eq_none_iff, take?_eq_none_iff]
    simp only [same.items]
  cases taken : left.take? position with
  | none => exact Or.inl ⟨rfl, hands.mp taken⟩
  | some found =>
      cases taken' : right.take? position with
      | none => rw [hands.mpr taken'] at taken; cases taken
      | some found' =>
          have yields := yields_of_take? taken
          have yields' := yields_of_take? taken'
          have item := same.item_of_yields yields yields'
          refine Or.inr ⟨found.1, found.2, found'.2, rfl, ?_, ?_, ?_, yields.settled same.settled,
            yields'.settled same.settled'⟩
          · rw [item]
          · rw [yields.capacity, yields'.capacity, same.capacity]
          · intro other
            by_cases here : other = found.1.index
            · rw [here, yields.emptied, item, yields'.emptied]
            · rw [yields.others other here, yields'.others other (item ▸ here), same.items]

/-- Taking everything hands out the same. -/
theorem takeFrom
    (same : left.Resembles right)
    (limit position : Nat) :
    (left.takeFrom limit position).1 = (right.takeFrom limit position).1 ∧
      (left.takeFrom limit position).2.Resembles (right.takeFrom limit position).2 := by
  induction limit generalizing left right position with
  | zero => exact ⟨rfl, same⟩
  | succ limit ih =>
      rw [InterruptQueue.takeFrom, InterruptQueue.takeFrom]
      rcases same.take? position with
        ⟨nothing, nothing'⟩ | ⟨item, rest, rest', taken, taken', further⟩
      · rw [nothing, nothing']
        exact ⟨rfl, same⟩
      · rw [taken, taken']
        have others := ih further (item.index + 1)
        exact ⟨congrArg (item :: ·) others.1, others.2⟩

theorem drain (same : left.Resembles right) : left.drain.2.Resembles right.drain.2 := by
  rw [InterruptQueue.drain, InterruptQueue.drain, same.capacity]
  exact (same.takeFrom _ 0).2

end Resembles

end SignalDispatch.InterruptQueue
