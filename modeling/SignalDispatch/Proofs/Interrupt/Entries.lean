import SignalDispatch.Interrupt
import Mathlib.Data.List.Basic
import Mathlib.Data.List.Induction

/-!
# What waits in an interrupt queue

An interrupt queue is known by what waits in each of its entries.  Pushing puts an item into the
first entry in which nothing waits, if there is one, and taking removes the first item that waits at
or after a position; between two such steps no entry is claimed.
-/

namespace SignalDispatch

namespace Utf8

theorem keptLength_le_length (sequence : List UInt8) (limit : Nat) :
    keptLength sequence limit ≤ sequence.length := by
  unfold keptLength
  split
  · exact Nat.le_refl _
  next long =>
    have cut := cutAtOrBefore_le sequence limit
    omega

end Utf8

namespace InterruptEntry

/-- A name as an entry keeps it. -/
def truncated (name : String) : String :=
  let bytes := Utf8.bytes name
  (Utf8.decode? (bytes.take (Utf8.keptLength bytes Limits.interruptNameBytes))).getD ""

/-- Whatever an entry held before, the bytes of its name are those that were kept of the name
written last. -/
theorem take_write (entry : InterruptEntry) (name : String) (value : Int32) :
    (entry.write name value).buffer.take (entry.write name value).used.toNat =
      (Utf8.bytes name).take
        (Utf8.keptLength (Utf8.bytes name) Limits.interruptNameBytes) := by
  let bytes := Utf8.bytes name
  let kept := Utf8.keptLength bytes Limits.interruptNameBytes
  have fits : kept ≤ 32 := Utf8.keptLength_le bytes Limits.interruptNameBytes
  have used : (UInt8.ofNat kept).toNat = kept := by
    apply UInt8.toNat_ofNat_of_lt
    exact Nat.lt_of_le_of_lt fits (by decide)
  have long : (bytes.take kept).length = kept :=
    List.length_take_of_le (Utf8.keptLength_le_length _ _)
  show (bytes.take kept ++ entry.buffer.drop kept).take (UInt8.ofNat kept).toNat = bytes.take kept
  rw [used, List.take_left' long]

/-- Whatever an entry held before, it holds what was written to it last. -/
@[simp]
theorem name_write (entry : InterruptEntry) (name : String) (value : Int32) :
    (entry.write name value).name = truncated name := by
  rw [InterruptEntry.name, take_write]
  rfl

end InterruptEntry

namespace InterruptQueue

/-- No entry is claimed: each of them is free or pending. -/
def Settled (queue : InterruptQueue) : Prop :=
  ∀ entry ∈ queue.entries, entry.state = .free ∨ entry.state = .pending

/-- What waits in an entry. -/
def item? (queue : InterruptQueue) (index : Nat) : Option InterruptItem :=
  (queue.entries[index]?.filter fun entry => entry.state = .pending).map fun entry =>
    { index := index, name := entry.name, value := entry.value }

/-- The entries in which something waits. -/
def waiting (queue : InterruptQueue) : List Nat :=
  (List.range queue.capacity).filter fun index => (queue.item? index).isSome

variable {queue claimed : InterruptQueue} {position index : Nat}
  {expected state : EntryState}

/-! ## Entries -/

theorem item?_eq_none_of_le (beyond : queue.capacity ≤ index) : queue.item? index = none := by
  have absent : queue.entries[index]? = none := List.getElem?_eq_none beyond
  simp [item?, absent]

theorem lt_capacity_of_item? {item : InterruptItem} (waits : queue.item? index = some item) :
    index < queue.capacity := by
  by_contra beyond
  rw [item?_eq_none_of_le (Nat.le_of_not_lt beyond)] at waits
  cases waits

@[simp]
theorem mem_waiting : index ∈ queue.waiting ↔ (queue.item? index).isSome := by
  simp only [waiting, List.mem_filter, List.mem_range, and_iff_right_iff_imp]
  intro waits
  rcases Option.isSome_iff_exists.mp waits with ⟨item, found⟩
  exact lt_capacity_of_item? found

theorem nodup_waiting (queue : InterruptQueue) : queue.waiting.Nodup :=
  List.nodup_range.filter _

/-- The number of pending entries is the number of those in which something waits. -/
theorem length_waiting (queue : InterruptQueue) : queue.waiting.length = queue.pending := by
  rcases queue with ⟨entries⟩
  induction entries using List.reverseRecOn with
  | nil => rfl
  | append_singleton entries last ih =>
      have earlier :
          (List.range entries.length).filter
              (fun index => (item? ⟨entries ++ [last]⟩ index).isSome) =
            waiting ⟨entries⟩ := by
        apply List.filter_congr
        intro index member
        simp [item?, List.getElem?_append_left (List.mem_range.mp member)]
      have whole : waiting ⟨entries ++ [last]⟩ =
          waiting ⟨entries⟩ ++
            [entries.length].filter fun index => (item? ⟨entries ++ [last]⟩ index).isSome := by
        rw [← earlier, ← List.filter_append, ← List.range_succ]
        simp [waiting, capacity]
      rw [whole, List.length_append, ih]
      by_cases waits : last.state = .pending <;> simp [pending, item?, waits]

/-! ## Claims -/

theorem getElem?_drop_sub {entries : List InterruptEntry} (passed : position ≤ index) :
    (entries.drop position)[index - position]? = entries[index]? := by
  rw [List.getElem?_drop, Nat.add_sub_cancel' passed]

/-- Nothing is claimed where no entry is in the expected state. -/
theorem claim?_eq_none
    (nothing : queue.claim? position expected state = none)
    {entry : InterruptEntry}
    (passed : position ≤ index)
    (stored : queue.entries[index]? = some entry) :
    entry.state ≠ expected := by
  unfold claim? at nothing
  split at nothing
  next nowhere =>
    have member : entry ∈ queue.entries.drop position := by
      apply List.mem_of_getElem? (i := index - position)
      exact (getElem?_drop_sub passed).trans stored
    simpa using List.findIdx?_eq_none_iff.mp nowhere entry member
  · cases nothing

/-- What is claimed is the first entry in the expected state. -/
theorem claim?_eq_some
    (found : queue.claim? position expected state = some (index, claimed)) :
    (∃ entry, queue.entries[index]? = some entry ∧ entry.state = expected) ∧
      (∀ earlier entry, position ≤ earlier → earlier < index →
        queue.entries[earlier]? = some entry → entry.state ≠ expected) ∧
      claimed = queue.modify index fun entry => { entry with state := state } := by
  unfold claim? at found
  split at found
  · cases found
  next offset somewhere =>
    rw [List.findIdx?_eq_some_iff_getElem] at somewhere
    rcases somewhere with ⟨bound, here, first⟩
    cases found
    refine ⟨⟨_, List.getElem?_drop ▸ List.getElem?_eq_getElem bound, by simpa using here⟩, ?_, rfl⟩
    intro earlier entry passed sooner stored
    have skipped := first (earlier - position) (by omega)
    rcases List.getElem?_eq_some_iff.mp ((getElem?_drop_sub passed).trans stored) with ⟨_, same⟩
    simpa [same] using skipped

/-! ## Pushing and taking -/

/-- An item is put into the first entry in which nothing waits. -/
structure Lodges (queue : InterruptQueue) (item : InterruptItem) (pushed : InterruptQueue) :
    Prop where
  vacant : queue.item? item.index = none
  within : item.index < queue.capacity
  first : ∀ earlier < item.index, (queue.item? earlier).isSome
  capacity : pushed.capacity = queue.capacity
  filled : pushed.item? item.index = some item
  others : ∀ other, other ≠ item.index → pushed.item? other = queue.item? other
  settled : pushed.Settled

/-- The first item that waits at or after a position is taken. -/
structure Yields
    (queue : InterruptQueue)
    (position : Nat)
    (item : InterruptItem)
    (rest : InterruptQueue) :
    Prop where
  passed : position ≤ item.index
  waits : queue.item? item.index = some item
  first : ∀ earlier, position ≤ earlier → earlier < item.index → queue.item? earlier = none
  capacity : rest.capacity = queue.capacity
  emptied : rest.item? item.index = none
  others : ∀ other, other ≠ item.index → rest.item? other = queue.item? other
  settled : queue.Settled → rest.Settled

/-- What waits in an entry is up to that entry. -/
theorem item?_modify_of_ne
    {change : InterruptEntry → InterruptEntry}
    {other : Nat}
    (apart : other ≠ index) :
    (queue.modify index change).item? other = queue.item? other := by
  simp [item?, modify, apart.symm]

theorem item?_modify
    {change : InterruptEntry → InterruptEntry}
    {entry : InterruptEntry}
    (stored : queue.entries[index]? = some entry) :
    (queue.modify index change).item? index =
      if (change entry).state = .pending then
        some { index := index, name := (change entry).name, value := (change entry).value }
      else none := by
  by_cases waits : (change entry).state = .pending <;> simp [item?, modify, stored, waits]

/-- A queue stays settled if the entry that is changed does. -/
theorem Settled.modify
    {change : InterruptEntry → InterruptEntry}
    (settled : queue.Settled)
    (changed : ∀ entry, (change entry).state = .free ∨ (change entry).state = .pending) :
    (queue.modify index change).Settled := by
  intro entry member
  rcases List.getElem?_of_mem member with ⟨other, stored⟩
  simp only [InterruptQueue.modify, List.getElem?_modify, Option.map_eq_map,
    Option.map_eq_some_iff] at stored
  rcases stored with ⟨before, stored, same⟩
  split at same
  · exact same ▸ changed before
  · exact same ▸ settled before (List.mem_of_getElem? stored)

theorem item?_of_state
    {entry : InterruptEntry}
    (stored : queue.entries[index]? = some entry)
    (waits : entry.state = .pending) :
    queue.item? index = some { index := index, name := entry.name, value := entry.value } := by
  simp [item?, stored, waits]

/-- What waits bears the index of its entry. -/
theorem index_of_item? {item : InterruptItem} (waits : queue.item? index = some item) :
    item.index = index := by
  rcases Option.map_eq_some_iff.mp waits with ⟨_, _, rfl⟩
  rfl

theorem item?_eq_none
    (none_pending : ∀ entry, queue.entries[index]? = some entry → entry.state ≠ .pending) :
    queue.item? index = none := by
  cases stored : queue.entries[index]? with
  | none => simp [item?, stored]
  | some entry => simp [item?, stored, none_pending entry stored]

/-- In a settled queue something waits in every entry that is not free. -/
theorem Settled.isSome_item?
    (settled : queue.Settled)
    (within : index < queue.capacity)
    (taken : ∀ entry, queue.entries[index]? = some entry → entry.state ≠ .free) :
    (queue.item? index).isSome := by
  have stored : queue.entries[index]? = some queue.entries[index] := List.getElem?_eq_getElem within
  have waits := (settled _ (List.mem_of_getElem? stored)).resolve_left (taken _ stored)
  rw [item?_of_state stored waits]
  rfl

variable {name : String} {value : Int32} {pushed : InterruptQueue}

/-- A push that is accepted fills the first entry in which nothing waits. -/
theorem Settled.lodges
    (settled : queue.Settled)
    (accepted : queue.push name value = .ok pushed) :
    ∃ index,
      queue.Lodges
        { index := index, name := InterruptEntry.truncated name, value := value } pushed := by
  have size := capacity_of_push accepted
  unfold push at accepted
  split at accepted
  · cases accepted
  split at accepted
  · cases accepted
  next index claimed found =>
    rcases claim?_eq_some found with ⟨⟨entry, stored, free⟩, first, rfl⟩
    have within : index < queue.capacity := (List.getElem?_eq_some_iff.mp stored).1
    -- claiming and publishing are one change of the entry
    let fill (entry : InterruptEntry) : InterruptEntry :=
      { entry.write name value with state := .pending }
    have whole : pushed = queue.modify index fill := by
      cases accepted
      simp only [InterruptQueue.modify, List.modify_modify_eq]
      rfl
    subst whole
    refine ⟨index,
      { vacant := ?_, within := within, first := ?_, capacity := size, filled := ?_,
        others := fun other apart => item?_modify_of_ne apart,
        settled := settled.modify fun _ => Or.inr rfl }⟩
    · apply item?_eq_none
      intro other same
      rw [stored, Option.some.injEq] at same
      simp [← same, free]
    · intro earlier sooner
      apply settled.isSome_item? (Nat.lt_trans sooner within)
      intro other
      exact first earlier other (Nat.zero_le _) sooner
    · rw [item?_modify stored]
      have kept : (fill entry).name = InterruptEntry.truncated name :=
        InterruptEntry.name_write entry name value
      rw [kept]
      rfl

/-- A push that is refused has found no name, or something waiting in every entry. -/
theorem Settled.isSome_of_push_error
    {fault : Fault}
    (settled : queue.Settled)
    (named : name ≠ "")
    (refused : queue.push name value = .error fault)
    (within : index < queue.capacity) :
    (queue.item? index).isSome := by
  unfold push at refused
  split at refused
  next empty => exact absurd (String.isEmpty_iff.mp empty) named
  split at refused
  next nowhere =>
    apply settled.isSome_item? within
    intro entry stored
    exact claim?_eq_none nowhere (Nat.zero_le _) stored
  · cases refused

/-- What is taken is the first item that waits. -/
theorem yields_of_take?
    {item : InterruptItem}
    {rest : InterruptQueue}
    (taken : queue.take? position = some (item, rest)) :
    queue.Yields position item rest := by
  have size := capacity_of_take? taken
  have passed := le_index_of_take? taken
  unfold take? at taken
  split at taken
  · cases taken
  next index claimed found =>
    rcases claim?_eq_some found with ⟨⟨entry, stored, waits⟩, first, rfl⟩
    have whole :
        item = { index := index, name := entry.name, value := entry.value } ∧
          rest = queue.modify index fun entry => { entry with state := .free } := by
      simp only [InterruptQueue.modify, List.getElem?_modify_eq, stored, Option.map_eq_map,
        Option.map_some, Option.some.injEq, Prod.mk.injEq, List.modify_modify_eq] at taken
      exact ⟨taken.1.symm, taken.2.symm⟩
    rcases whole with ⟨rfl, rfl⟩
    refine
      { passed := passed, waits := item?_of_state stored waits, first := ?_, capacity := size,
        emptied := ?_, others := fun other apart => item?_modify_of_ne apart,
        settled := fun settled => settled.modify fun _ => Or.inl rfl }
    · intro earlier after sooner
      apply item?_eq_none
      intro other
      exact first earlier other after sooner
    · rw [item?_modify stored]
      simp

/-- Nothing can be taken where nothing waits. -/
theorem take?_eq_none_iff (queue : InterruptQueue) (position : Nat) :
    queue.take? position = none ↔ ∀ index, position ≤ index → queue.item? index = none := by
  constructor
  · intro nothing index passed
    apply item?_eq_none
    intro entry stored
    unfold take? at nothing
    split at nothing
    next nowhere => exact claim?_eq_none nowhere passed stored
    next found =>
      -- what is claimed is one of the entries
      rcases claim?_eq_some found with ⟨⟨claimed, there, _⟩, _, rfl⟩
      simp [modify, there] at nothing
  · intro nothing
    cases taken : queue.take? position with
    | none => rfl
    | some found =>
        have yields := yields_of_take? taken
        have waits := nothing found.1.index yields.passed
        rw [yields.waits] at waits
        cases waits

/-- What waits before an index is not taken in place of what waits there. -/
theorem Yields.index_le
    {item waiting : InterruptItem}
    {rest : InterruptQueue}
    (yields : queue.Yields position item rest)
    (passed : position ≤ index)
    (waits : queue.item? index = some waiting) :
    item.index ≤ index := by
  by_contra beyond
  have nothing := yields.first index passed (Nat.lt_of_not_le beyond)
  rw [waits] at nothing
  cases nothing

/-- Two items are the same if they wait at one index. -/
theorem Yields.eq_of_index
    {item waiting : InterruptItem}
    {rest : InterruptQueue}
    (yields : queue.Yields position item rest)
    (waits : queue.item? index = some waiting)
    (here : item.index = index) :
    item = waiting := by
  apply Option.some.inj
  rw [← yields.waits, here, waits]

/-- Something is taken from every position that is not behind what waits. -/
theorem exists_yields
    {waiting : InterruptItem}
    (waits : queue.item? index = some waiting)
    (passed : position ≤ index) :
    ∃ item rest, queue.take? position = some (item, rest) ∧ queue.Yields position item rest := by
  cases taken : queue.take? position with
  | none =>
      have nothing := (queue.take?_eq_none_iff position).mp taken index passed
      rw [waits] at nothing
      cases nothing
  | some found => exact ⟨found.1, found.2, rfl, yields_of_take? taken⟩

/-- What waits is taken from every position from which it is the first that waits. -/
theorem exists_take?
    {waiting : InterruptItem}
    (waits : queue.item? index = some waiting)
    (passed : position ≤ index)
    (first : ∀ earlier, position ≤ earlier → earlier < index → queue.item? earlier = none) :
    ∃ rest, queue.take? position = some (waiting, rest) := by
  rcases exists_yields waits passed with ⟨item, rest, taken, yields⟩
  have here : item.index = index := by
    refine Nat.le_antisymm (yields.index_le passed waits) (Nat.le_of_not_lt fun sooner => ?_)
    have nothing := first item.index yields.passed sooner
    rw [yields.waits] at nothing
    cases nothing
  exact ⟨rest, yields.eq_of_index waits here ▸ taken⟩

/-- Taking one after another comes to everything that waits at or after the position. -/
theorem mem_takeFrom
    {waiting : InterruptItem}
    {limit : Nat}
    (waits : queue.item? index = some waiting)
    (passed : position ≤ index)
    (enough : queue.capacity ≤ position + limit) :
    waiting ∈ (queue.takeFrom limit position).1 := by
  induction limit generalizing queue position with
  | zero =>
      have within := lt_capacity_of_item? waits
      omega
  | succ limit ih =>
      rcases exists_yields waits passed with ⟨item, rest, taken, yields⟩
      have before := yields.index_le passed waits
      rw [takeFrom, taken]
      rcases Nat.lt_or_eq_of_le before with sooner | here
      · have still : rest.item? index = some waiting := by
          rw [yields.others index (Nat.ne_of_gt sooner), waits]
        have start := yields.passed
        have later : rest.capacity ≤ item.index + 1 + limit := by
          rw [yields.capacity]
          omega
        exact List.mem_cons_of_mem _ (ih still sooner later)
      · rw [yields.eq_of_index waits here]
        exact List.mem_cons_self

/-! ## Counting -/

theorem pending_le_capacity (queue : InterruptQueue) : queue.pending ≤ queue.capacity := by
  rw [← length_waiting]
  simpa [waiting] using List.length_filter_le (fun index => (queue.item? index).isSome)
    (List.range queue.capacity)

/-- An index at which alone two queues differ is all that their waiting entries differ in. -/
theorem waiting_perm_cons
    {fewer more : InterruptQueue}
    (vacant : fewer.item? index = none)
    (filled : (more.item? index).isSome)
    (others : ∀ other, other ≠ index → more.item? other = fewer.item? other) :
    more.waiting.Perm (index :: fewer.waiting) := by
  have fresh : index ∉ fewer.waiting := by simp [vacant]
  have distinct : (index :: fewer.waiting).Nodup := List.nodup_cons.mpr ⟨fresh, fewer.nodup_waiting⟩
  rw [List.perm_ext_iff_of_nodup more.nodup_waiting distinct]
  intro other
  by_cases same : other = index
  · simp [same, filled]
  · simp [same, others other same]

theorem Lodges.waiting {item : InterruptItem} (lodges : queue.Lodges item pushed) :
    pushed.waiting.Perm (item.index :: queue.waiting) :=
  waiting_perm_cons lodges.vacant (by simp [lodges.filled]) lodges.others

theorem Yields.waiting
    {item : InterruptItem}
    {rest : InterruptQueue}
    (yields : queue.Yields position item rest) :
    queue.waiting.Perm (item.index :: rest.waiting) :=
  waiting_perm_cons yields.emptied (by simp [yields.waits]) fun other apart =>
    (yields.others other apart).symm

/-- A push of a name is accepted as long as fewer entries are pending than there are. -/
theorem Settled.push_ok_iff (settled : queue.Settled) (named : name ≠ "") :
    (∃ pushed, queue.push name value = .ok pushed) ↔ queue.pending < queue.capacity := by
  constructor
  · rintro ⟨pushed, accepted⟩
    rcases settled.lodges accepted with ⟨index, lodges⟩
    have more := lodges.waiting.length_eq
    rw [List.length_cons, length_waiting, length_waiting] at more
    have bound := pushed.pending_le_capacity
    rw [lodges.capacity] at bound
    omega
  · intro room
    cases result : queue.push name value with
    | ok pushed => exact ⟨pushed, rfl⟩
    | error fault =>
        have full : queue.waiting = List.range queue.capacity :=
          List.filter_eq_self.mpr fun index member =>
            settled.isSome_of_push_error named result (List.mem_range.mp member)
        have size := congrArg List.length full
        rw [length_waiting, List.length_range] at size
        omega

theorem settled_ofCapacity (capacity : Nat) : (ofCapacity capacity).Settled := by
  intro entry member
  rw [(List.mem_replicate.mp member).2]
  exact Or.inl rfl

end InterruptQueue

end SignalDispatch
