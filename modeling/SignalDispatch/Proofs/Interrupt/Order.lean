import SignalDispatch.Proofs.Interrupt.Conservation
import SignalDispatch.Proofs.Interrupt.Sessions

/-!
# The order of an interrupt queue

Nothing in an interrupt queue records when an item was pushed.  The order is in the places: as long
as nothing is pushed while a drain is under way, and every drain goes through to the end of the
entries, what waits between drains fills the first entries in the order in which it was pushed, and
a drain, or drains inside its callbacks, take the first of what waits each time.

`InOrder` is what the primitive steps preserve: the items that were handed out, followed by those
that wait in the order of their entries, are the accepted ones in the order of their pushes.
`History.inOrder` has it of every history in which nothing is accepted during a drain and no
callback of a drain panics, and `QueueRequest.answerAll_undisturbed` says which requests to a queue
are answered by such a history.
-/

namespace SignalDispatch

namespace InterruptQueue

variable {queue pushed rest : InterruptQueue} {item : InterruptItem} {position : Nat}

/-- What waits, in the order of the entries. -/
def items (queue : InterruptQueue) : List InterruptItem :=
  (List.range queue.capacity).filterMap queue.item?

/-- What waits fills the first entries. -/
def Packed (queue : InterruptQueue) : Prop :=
  ∀ index, (queue.item? index).isSome ↔ index < queue.pending

theorem items_eq_nil (nothing : ∀ index, queue.item? index = none) : queue.items = [] :=
  List.filterMap_eq_nil_iff.mpr fun index _ => nothing index

theorem packed_of_nothing (nothing : ∀ index, queue.item? index = none) : queue.Packed := by
  have empty : queue.waiting = [] :=
    List.filter_eq_nil_iff.mpr fun index _ => by simp [nothing index]
  intro index
  rw [nothing index, ← length_waiting, empty]
  simp

/-- Where nothing waits before a position and nothing can be taken from it on, nothing waits. -/
theorem nothing_of_passed
    (passed : ∀ index < position, queue.item? index = none)
    (done : queue.take? position = none)
    (index : Nat) :
    queue.item? index = none := by
  by_cases early : index < position
  · exact passed index early
  · exact (queue.take?_eq_none_iff position).mp done index (Nat.le_of_not_lt early)

/-- The entries of a queue are those before an index, the one there, and those behind it. -/
theorem items_eq_append {index : Nat} (within : index < queue.capacity) :
    queue.items =
      (List.range index).filterMap queue.item? ++
        ((queue.item? index).toList ++
          (List.range' (index + 1) (queue.capacity - (index + 1))).filterMap queue.item?) := by
  have indices :
      List.range queue.capacity =
        List.range index ++
          ([index] ++ List.range' (index + 1) (queue.capacity - (index + 1))) := by
    have behind := List.range'_append_1 (s := 0) (m := index) (n := queue.capacity - index)
    rw [Nat.zero_add, Nat.add_sub_cancel' (Nat.le_of_lt within)] at behind
    rw [List.range_eq_range', List.range_eq_range', ← behind]
    obtain ⟨count, more⟩ : ∃ count, queue.capacity - index = count + 1 :=
      ⟨queue.capacity - index - 1, by omega⟩
    rw [more, List.range'_succ, show queue.capacity - (index + 1) = count by omega]
    rfl
  rw [items, indices, List.filterMap_append, List.filterMap_append]
  cases here : queue.item? index <;> simp [here]

/-- What waits before an entry and behind it is up to the other entries. -/
theorem filterMap_congr_of_others
    {other : InterruptQueue}
    {index : Nat}
    {indices : List Nat}
    (others : ∀ place, place ≠ index → other.item? place = queue.item? place)
    (outside : index ∉ indices) :
    indices.filterMap other.item? = indices.filterMap queue.item? :=
  List.filterMap_congr fun place member => others place fun same => outside (same ▸ member)

theorem not_mem_behind (index count : Nat) : index ∉ List.range' (index + 1) count := fun member =>
  Nat.lt_irrefl index (List.mem_range'_1.mp member).1

/-- If nothing waits before the position, nothing waits before what is taken. -/
theorem Yields.nothing_before
    (yields : queue.Yields position item rest)
    (passed : ∀ index < position, queue.item? index = none)
    {index : Nat}
    (early : index < item.index) :
    queue.item? index = none := by
  by_cases sooner : index < position
  · exact passed index sooner
  · exact yields.first index (Nat.le_of_not_lt sooner) early

/-- Nothing comes to wait where nothing waited. -/
theorem Yields.item?_eq_none
    (yields : queue.Yields position item rest)
    {index : Nat}
    (nothing : queue.item? index = none) :
    rest.item? index = none := by
  by_cases here : index = item.index
  · exact here ▸ yields.emptied
  · exact (yields.others index here).trans nothing

/-- What is taken while nothing waits before the position is the first of what waits. -/
theorem Yields.items
    (yields : queue.Yields position item rest)
    (passed : ∀ index < position, queue.item? index = none) :
    queue.items = item :: rest.items := by
  have within := lt_capacity_of_item? yields.waits
  have before : (List.range item.index).filterMap queue.item? = [] :=
    List.filterMap_eq_nil_iff.mpr fun index member =>
      yields.nothing_before passed (List.mem_range.mp member)
  rw [items_eq_append within, items_eq_append (yields.capacity ▸ within), yields.capacity,
    filterMap_congr_of_others yields.others List.not_mem_range_self,
    filterMap_congr_of_others yields.others (not_mem_behind _ _), before, yields.waits,
    yields.emptied]
  rfl

/-- What is pushed into a packed queue is the last of what waits, and keeps it packed. -/
theorem Lodges.items
    (lodges : queue.Lodges item pushed)
    (packed : queue.Packed) :
    pushed.items = queue.items ++ [item] ∧ pushed.Packed := by
  have here : item.index = queue.pending := by
    refine Nat.le_antisymm (Nat.le_of_not_lt fun beyond => ?_) (Nat.le_of_not_lt fun within => ?_)
    · exact Nat.lt_irrefl _ ((packed _).mp (lodges.first _ beyond))
    · have waits := (packed _).mpr within
      rw [lodges.vacant] at waits
      cases waits
  have more : pushed.pending = queue.pending + 1 := by
    have lengths := lodges.waiting.length_eq
    rwa [List.length_cons, length_waiting, length_waiting] at lengths
  constructor
  · have nothing :
        (List.range' (item.index + 1) (queue.capacity - (item.index + 1))).filterMap
          queue.item? = [] := by
      rw [List.filterMap_eq_nil_iff]
      intro index member
      have behind := (List.mem_range'_1.mp member).1
      rw [← Option.not_isSome_iff_eq_none, packed index]
      omega
    rw [items_eq_append lodges.within, items_eq_append (lodges.capacity ▸ lodges.within),
      lodges.capacity, filterMap_congr_of_others lodges.others List.not_mem_range_self,
      filterMap_congr_of_others lodges.others (not_mem_behind _ _), nothing, lodges.filled,
      lodges.vacant]
    simp
  · intro index
    by_cases same : index = item.index
    · subst same
      rw [lodges.filled, more, here]
      simp
    · rw [lodges.others index same, packed index, more]
      omega

end InterruptQueue

/-! ## Histories -/

/-- No push is accepted while a drain is under way, and no callback of a drain panics. -/
structure Undisturbed (events : List QueueEvent) : Prop where
  quiet : ∀ early item, early ++ [.accepted item] <+: events → (Ledger.ofEvents early).running = []
  calm : .panicked ∉ events

/-- What was handed out, and then what waits, is what was accepted, in the order of the pushes. -/
structure InOrder (events : List QueueEvent) (reached : Traffic) : Prop where
  fifo :
    events.filterMap QueueEvent.handed? ++ reached.queue.items =
      (events.filterMap QueueEvent.pushed?).map InterruptItem.kept
  /-- A drain under way, be it around others, leaves nothing behind. -/
  passed : ∀ loop ∈ reached.loops, ∀ index < loop.position, reached.queue.item? index = none
  /-- Between drains what waits fills the first entries. -/
  packed : reached.loops = [] → reached.queue.Packed

theorem inOrder_start (capacity : Nat) : InOrder [] (.ofCapacity capacity) := by
  have nothing (index : Nat) : (InterruptQueue.ofCapacity capacity).item? index = none := by
    apply InterruptQueue.item?_eq_none
    intro entry stored waits
    have free := List.eq_of_mem_replicate (List.mem_of_getElem? stored)
    rw [free] at waits
    cases waits
  exact
    { fifo := InterruptQueue.items_eq_nil nothing, passed := nofun,
      packed := fun _ => InterruptQueue.packed_of_nothing nothing }

section

variable {events : List QueueEvent} {event : QueueEvent} {before after : Traffic}

/-- A step in which nothing is accepted or handed out. -/
theorem fifo_of_silent
    {items : List InterruptItem}
    (silent : event.handed? = none ∧ event.pushed? = none)
    (fifo :
      events.filterMap QueueEvent.handed? ++ items =
        (events.filterMap QueueEvent.pushed?).map InterruptItem.kept) :
    (events ++ [event]).filterMap QueueEvent.handed? ++ items =
      ((events ++ [event]).filterMap QueueEvent.pushed?).map InterruptItem.kept := by
  simpa [List.filterMap_append, List.filterMap_cons, silent] using fifo

theorem undisturbed_nil : Undisturbed [] :=
  ⟨fun early item first => by simp at first, List.not_mem_nil⟩

theorem Undisturbed.of_append
    (undisturbed : Undisturbed (events ++ [event])) :
    Undisturbed events :=
  ⟨fun early item first => undisturbed.quiet early item (first.trans (List.prefix_append _ _)),
    fun panicked => undisturbed.calm (List.mem_append_left _ panicked)⟩

/-- What comes next is a push on its own, outside of drains, or nothing is pushed. -/
theorem Undisturbed.append
    {more : List QueueEvent}
    (undisturbed : Undisturbed events)
    (quiet :
      ∀ item, .accepted item ∈ more →
        more = [.accepted item] ∧ (Ledger.ofEvents events).running = [])
    (calm : .panicked ∉ more) :
    Undisturbed (events ++ more) := by
  constructor
  · rintro early item ⟨late, whole⟩
    rcases List.append_eq_append_iff.mp whole with ⟨rest, same, _⟩ | ⟨rest, same, rfl⟩
    · exact undisturbed.quiet early item ⟨rest, same.symm⟩
    · induction rest using List.reverseRecOn with
      | nil =>
          rw [List.append_nil] at same
          exact undisturbed.quiet early item ⟨[], by simpa using same⟩
      | append_singleton rest last _ =>
          rw [← List.append_assoc] at same
          rcases List.append_inj' same rfl with ⟨rfl, pushed⟩
          cases pushed
          rcases quiet item (by simp) with ⟨alone, outermost⟩
          have nothing : rest = [] := by
            have lengths := congrArg List.length alone
            simp only [List.length_append, List.length_singleton] at lengths
            exact List.eq_nil_of_length_eq_zero (by omega)
          rwa [nothing, List.append_nil]
  · intro panicked
    exact (List.mem_append.mp panicked).elim undisturbed.calm calm

/-- A primitive step keeps the order. -/
theorem InOrder.proceeds
    (order : InOrder events before)
    (balances : (Ledger.ofEvents events).Balances before)
    (undisturbed : Undisturbed (events ++ [event]))
    (proceeds : Proceeds before event after) :
    InOrder (events ++ [event]) after := by
  rcases order with ⟨fifo, passed, packed⟩
  cases proceeds with
  | @accepts queue pushed loops item _ accepted vacant filled =>
      have outermost : loops = [] := by
        have tracked := balances.attributes.tracked
        rw [undisturbed.quiet events item List.prefix_rfl] at tracked
        exact List.forall₂_nil_right_iff.mp tracked
      have lodges := balances.tallies.settled.lodges_kept accepted vacant filled
      rcases lodges.items (packed outermost) with ⟨last, packed'⟩
      refine ⟨?_, ?_, fun _ => packed'⟩
      · rw [last, List.filterMap_append, List.filterMap_append, List.map_append, ← fifo]
        simp [QueueEvent.pushed?, QueueEvent.handed?]
      · intro loop member
        simp [outermost] at member
  | refuses => exact ⟨fifo_of_silent ⟨rfl, rfl⟩ fifo, passed, packed⟩
  | begins =>
      refine ⟨fifo_of_silent ⟨rfl, rfl⟩ fifo, ?_, fun empty => absurd empty (List.cons_ne_nil _ _)⟩
      intro loop member index early
      rcases List.mem_cons.mp member with rfl | earlier
      · cases early
      · exact passed loop earlier index early
  | @hands queue rest position drained outer item taken =>
      have yields := InterruptQueue.yields_of_take? taken
      have behind := passed _ List.mem_cons_self
      refine ⟨?_, ?_, fun empty => absurd empty (List.cons_ne_nil _ _)⟩
      · rw [yields.items behind] at fifo
        simpa [List.filterMap_append, List.filterMap_cons, QueueEvent.pushed?, QueueEvent.handed?]
          using fifo
      · intro loop member index early
        rcases List.mem_cons.mp member with rfl | around
        · rcases Nat.lt_succ_iff_lt_or_eq.mp early with sooner | rfl
          · exact yields.item?_eq_none (yields.nothing_before behind sooner)
          · exact yields.emptied
        · exact yields.item?_eq_none (passed loop (List.mem_cons_of_mem _ around) index early)
  | returns =>
      refine ⟨fifo_of_silent ⟨rfl, rfl⟩ fifo, ?_, fun empty => absurd empty (List.cons_ne_nil _ _)⟩
      intro loop member index early
      rcases List.mem_cons.mp member with rfl | around
      · exact passed _ List.mem_cons_self index early
      · exact passed loop (List.mem_cons_of_mem _ around) index early
  | finishes done =>
      have nothing := InterruptQueue.nothing_of_passed (passed _ List.mem_cons_self) done
      refine ⟨fifo_of_silent ⟨rfl, rfl⟩ fifo, ?_, fun _ => ?_⟩
      · exact fun loop _ index _ => nothing index
      · exact InterruptQueue.packed_of_nothing nothing
  | panics => exact absurd (List.mem_append_right _ (List.mem_singleton_self _)) undisturbed.calm

end

/-- The order of an undisturbed history. -/
theorem History.inOrder
    {capacity : Nat}
    {events : List QueueEvent}
    {reached : Traffic}
    (history : History (.ofCapacity capacity) events reached)
    (undisturbed : Undisturbed events) :
    InOrder events reached := by
  induction history with
  | refl => exact inOrder_start capacity
  | next history proceeds ih =>
      exact (ih undisturbed.of_append).proceeds history.balances undisturbed proceeds

/-! ## Requests -/

namespace QueueRequest

mutual

/-- Something is pushed, be it inside of a drain. -/
def pushes : QueueRequest → Bool
  | .push _ _ => true
  | .drain during => pushesDuring during
  | .pending | .capacity | .unreadable _ => false

/-- A callback pushes something at one of the items that it is handed. -/
def pushesDuring : List (List QueueRequest) → Bool
  | [] => false
  | requests :: rest => pushesAny requests || pushesDuring rest

/-- One of some requests pushes something. -/
def pushesAny : List QueueRequest → Bool
  | [] => false
  | request :: rest => request.pushes || pushesAny rest

end

/-- A callback that is not told what to do asks for nothing. -/
theorem pushesDuring_eq (during : List (List QueueRequest)) :
    pushesDuring during = (pushesAny (during.headD []) || pushesDuring during.tail) := by
  cases during with
  | nil => simp [pushesAny, pushesDuring]
  | cons requests rest => rw [pushesDuring, List.headD_cons, List.tail_cons]

/-- Whatever is pushed is pushed outside of drains. -/
def reserved : QueueRequest → Bool
  | .drain during => !pushesDuring during
  | _ => true

end QueueRequest

mutual

/-- No callback panics, and only where a request pushes something something is pushed. -/
theorem Told.pushes
    {request : QueueRequest}
    {answer : QueueAnswer}
    {events : List QueueEvent}
    (told : Told request answer events) :
    .panicked ∉ events ∧ ∀ item, .accepted item ∈ events → request.pushes = true := by
  cases told with
  | drained during => simpa [QueueRequest.pushes] using during.pushes
  | pushed | refused | pending | capacity | unreadable => simp [QueueRequest.pushes]

theorem ToldDuring.pushes
    {during : List (List QueueRequest)}
    {items : List (InterruptItem × List QueueAnswer)}
    {events : List QueueEvent}
    (told : ToldDuring during items events) :
    .panicked ∉ events ∧
      ∀ item, .accepted item ∈ events → QueueRequest.pushesDuring during = true := by
  cases told with
  | nil => simp
  | cons inside others =>
      have first := inside.pushes
      have rest := others.pushes
      refine ⟨by simp [first.1, rest.1], fun item member => ?_⟩
      simp only [List.mem_cons, reduceCtorEq, List.mem_append, false_or] at member
      rw [QueueRequest.pushesDuring_eq, Bool.or_eq_true]
      exact member.imp (first.2 item) (rest.2 item)

theorem ToldAll.pushes
    {requests : List QueueRequest}
    {answers : List QueueAnswer}
    {events : List QueueEvent}
    (told : ToldAll requests answers events) :
    .panicked ∉ events ∧
      ∀ item, .accepted item ∈ events → QueueRequest.pushesAny requests = true := by
  cases told with
  | nil => simp
  | cons answered others =>
      have first := answered.pushes
      have rest := others.pushes
      refine ⟨by simp [first.1, rest.1], fun item member => ?_⟩
      rw [QueueRequest.pushesAny, Bool.or_eq_true]
      exact (List.mem_append.mp member).imp (first.2 item) (rest.2 item)

end

/-- A push outside of drains is a primitive step of its own. -/
theorem Told.alone
    {request : QueueRequest}
    {answer : QueueAnswer}
    {events : List QueueEvent}
    {item : InterruptItem}
    (told : Told request answer events)
    (reserved : request.reserved = true)
    (member : .accepted item ∈ events) :
    events = [.accepted item] := by
  have pushes := told.pushes.2 item member
  cases told with
  | pushed =>
      rw [List.mem_singleton] at member
      rw [member]
  | drained => simp_all [QueueRequest.reserved, QueueRequest.pushes]
  | refused | pending | capacity | unreadable => simp at member

/-- Requests none of which pushes something inside of a drain are answered undisturbed. -/
theorem QueueRequest.answerAll_undisturbed
    (requests : List QueueRequest)
    {capacity : Nat}
    {queue : InterruptQueue}
    {past : List QueueEvent}
    (reserved : ∀ request ∈ requests, request.reserved = true)
    (earlier : History (.ofCapacity capacity) past ⟨queue, []⟩)
    (undisturbed : Undisturbed past) :
    ∃ events,
      ToldAll requests (QueueRequest.answerAll requests queue).1 events ∧
        History (.ofCapacity capacity) (past ++ events)
          ⟨(QueueRequest.answerAll requests queue).2, []⟩ ∧
        Undisturbed (past ++ events) := by
  induction requests generalizing queue past with
  | nil => exact ⟨[], .nil, by simpa [QueueRequest.answerAll] using earlier, by simpa⟩
  | cons request requests ih =>
      have settled := earlier.settled (InterruptQueue.settled_ofCapacity capacity)
      rcases @QueueRequest.answer_history request queue [] settled nofun with
        ⟨first, told, history⟩
      have outermost : (Ledger.ofEvents past).running = [] :=
        List.forall₂_nil_left_iff.mp earlier.balances.attributes.tracked
      have undisturbed' : Undisturbed (past ++ first) :=
        undisturbed.append
          (fun item member =>
            ⟨told.alone (reserved request List.mem_cons_self) member, outermost⟩)
          told.pushes.1
      rcases ih (fun other member => reserved other (List.mem_cons_of_mem _ member))
        (earlier.trans history) undisturbed' with ⟨events, told', history', undisturbed''⟩
      refine ⟨first ++ events, .cons told told', ?_, ?_⟩
      · rw [← List.append_assoc]
        exact history'
      · rwa [← List.append_assoc]

end SignalDispatch
