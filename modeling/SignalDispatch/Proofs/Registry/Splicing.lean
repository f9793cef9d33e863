import SignalDispatch.Proofs.Registry.Removal

/-!
# Splicing a chain in place

`Registry.attach` and `Registry.unlink` rebuild a chain: they write every link of the list that it is
to become.  Storage that is walked once can do with less.  A walk from the head remembers the slot
that it passed last; where it stops, the link of that slot, or the head where no slot was passed, is
led to the new slot or past the one that goes, and no other link is touched.  On a chain that ends
both come to the same registry.
-/

namespace SignalDispatch

/-! ## Changes of storage that do not meet -/

namespace Arena

variable {α : Type} (arena : Arena α)

theorem modify_eq_self
    {index : Nat}
    {change : α → α}
    (kept : ∀ value, arena.get? index = some value → change value = value) :
    arena.modify index change = arena := by
  cases arena with
  | mk policy entries vacated size =>
    simp only [modify, mk.injEq, and_true, true_and]
    apply List.ext_getElem?
    intro position
    rw [List.getElem?_modify]
    rcases present : entries[position]? with _ | _ | value
    · rfl
    · simp
    · by_cases here : index = position
      · subst here
        simp [kept value (by simp [get?, present])]
      · simp [here]

theorem modify_modify (index : Nat) (first second : α → α) :
    (arena.modify index first).modify index second = arena.modify index (second ∘ first) := by
  simp only [modify, List.modify_modify_eq, Option.map_comp_map]

theorem vacate_modify
    {index other : Nat}
    (apart : index ≠ other)
    (change : α → α) :
    (arena.vacate index).modify other change = (arena.modify other change).vacate index := by
  simp only [modify, vacate, mk.injEq, and_true, true_and]
  apply List.ext_getElem?
  intro position
  simp only [List.getElem?_modify, List.getElem?_set, List.length_modify]
  by_cases here : index = position
  · subst here
    simp [Ne.symm apart]
  · simp [here]

theorem modify_comm
    {index other : Nat}
    (apart : index ≠ other)
    (first second : α → α) :
    (arena.modify index first).modify other second =
      (arena.modify other second).modify index first := by
  simp only [modify, mk.injEq, and_true, true_and]
  apply List.ext_getElem?
  intro position
  simp only [List.getElem?_modify]
  by_cases here : index = position
  · subst here
    simp [Ne.symm apart]
  · simp [here]

end Arena

/-! ## Chains that end -/

namespace Linked

variable {slots : Arena Slot} {start : Option Nat} {order : List Nat}

/-- The links behind the first slots of a chain lead along the rest of it. -/
theorem behind
    {passed rest : List Nat}
    (linked : Linked slots start (passed ++ rest)) :
    Linked slots rest.head? rest := by
  induction passed generalizing start with
  | nil => exact linked.head_eq ▸ linked
  | cons first passed hypothesis =>
    cases linked with
    | link _ linked => exact hypothesis linked

/-- Links lead one way only. -/
theorem unique
    {other : List Nat}
    (linked : Linked slots start order)
    (linked' : Linked slots start other) :
    order = other := by
  induction linked generalizing other with
  | done => exact (List.head?_eq_none_iff.mp linked'.head_eq.symm).symm
  | link found _ hypothesis =>
    cases linked' with
    | link found' rest =>
      obtain rfl := Option.some.inj (found.symm.trans found')
      rw [hypothesis rest]

/-- Links that end meet no index twice: from there on they would go round for ever. -/
theorem nodup (linked : Linked slots start order) : order.Nodup := by
  induction linked with
  | done => exact List.nodup_nil
  | @link index slot rest found linked hypothesis =>
    rw [List.nodup_cons]
    refine ⟨?_, hypothesis⟩
    intro again
    rcases List.append_of_mem again with ⟨before, after, rfl⟩
    rcases linked.suffix with ⟨slot', found', shorter⟩
    obtain rfl := Option.some.inj (found.symm.trans found')
    have same := congrArg List.length (linked.unique shorter)
    rw [List.length_append, List.length_cons] at same
    omega

/-- Threading a chain in the order that it has writes what is there. -/
theorem thread_eq (linked : Linked slots start order) : Registry.thread slots order = slots := by
  induction linked with
  | done => rfl
  | @link index slot rest found linked hypothesis =>
    rw [Registry.thread, slots.modify_eq_self]
    · exact hypothesis
    · intro value present
      obtain rfl := Option.some.inj (found.symm.trans present)
      rw [← linked.head_eq]

end Linked

namespace Registry

variable {registry : Registry} {index : Nat} {signal : Signal} {order : List Nat}

/-! ## One link -/

/-- Lead a link somewhere: that of a slot or, with no slot before, the head of a signal. -/
def lead (registry : Registry) (index : Nat) (previous target : Option Nat) : Registry :=
  match previous with
  | none =>
      { registry with
        signals := registry.signals.modify index fun signal => { signal with head := target } }
  | some position =>
      { registry with
        slots := registry.slots.modify position fun slot => { slot with next := target } }

/-- Where a link leads, if there is one. -/
def linkAt (registry : Registry) (index : Nat) (previous : Option Nat) : Option (Option Nat) :=
  match previous with
  | none => (registry.signals.get? index).map Signal.head
  | some position => (registry.slots.get? position).map Slot.next

/-- Vacate the entry of a slot, whatever leads to it. -/
def vacateSlot (registry : Registry) (position : Nat) : Registry :=
  { registry with slots := registry.slots.vacate position }

variable {previous target : Option Nat} {position : Nat}

theorem lead_eq_self (there : registry.linkAt index previous = some target) :
    registry.lead index previous target = registry := by
  cases previous with
  | none =>
    rcases Option.map_eq_some_iff.mp there with ⟨signal, registered, head⟩
    rw [lead, registry.signals.modify_eq_self]
    intro value present
    obtain rfl := Option.some.inj (registered.symm.trans present)
    rw [← head]
  | some before =>
    rcases Option.map_eq_some_iff.mp there with ⟨slot, found, next⟩
    rw [lead, registry.slots.modify_eq_self]
    intro value present
    obtain rfl := Option.some.inj (found.symm.trans present)
    rw [← next]

theorem lead_lead (registry : Registry) (index : Nat) (previous first second : Option Nat) :
    (registry.lead index previous first).lead index previous second =
      registry.lead index previous second := by
  cases previous with
  | none => exact congrArg (fun signals => { registry with signals }) (Arena.modify_modify ..)
  | some before => exact congrArg (fun slots => { registry with slots }) (Arena.modify_modify ..)

theorem linkAt_lead
    {before : Option Nat}
    (there : registry.linkAt index previous = some before)
    (target : Option Nat) :
    (registry.lead index previous target).linkAt index previous = some target := by
  cases previous with
  | none =>
    rcases Option.map_eq_some_iff.mp there with ⟨signal, registered, _⟩
    simp [lead, linkAt, Arena.get?_modify, registered]
  | some before =>
    rcases Option.map_eq_some_iff.mp there with ⟨slot, found, _⟩
    simp [lead, linkAt, Arena.get?_modify, found]

/-- A link changes at the place it leads from only. -/
theorem get?_slots_lead
    (registry : Registry)
    (index : Nat)
    (target : Option Nat)
    (outside : previous ≠ some position) :
    (registry.lead index previous target).slots.get? position = registry.slots.get? position := by
  cases previous with
  | none => rfl
  | some before =>
    rw [lead, Arena.get?_modify, if_neg]
    exact fun same => outside (congrArg some same)

theorem vacateSlot_lead
    (registry : Registry)
    (index : Nat)
    (target : Option Nat)
    (outside : previous ≠ some position) :
    (registry.vacateSlot position).lead index previous target =
      (registry.lead index previous target).vacateSlot position := by
  cases previous with
  | none => rfl
  | some before =>
    refine congrArg (fun slots => { registry with slots }) (Arena.vacate_modify _ ?_ _)
    exact fun same => outside (congrArg some same.symm)

theorem linkAt_vacateSlot
    (registry : Registry)
    (index : Nat)
    (outside : previous ≠ some position) :
    (registry.vacateSlot position).linkAt index previous = registry.linkAt index previous := by
  cases previous with
  | none => rfl
  | some before =>
    rw [linkAt, vacateSlot, Arena.get?_vacate, if_neg]
    · rfl
    · exact fun same => outside (congrArg some same.symm)

/-- Links that lead from two places are led in either order. -/
theorem lead_comm
    (registry : Registry)
    (index : Nat)
    {other : Option Nat}
    (apart : previous ≠ other)
    (first second : Option Nat) :
    (registry.lead index previous first).lead index other second =
      (registry.lead index other second).lead index previous first := by
  cases previous with
  | none =>
    cases other with
    | none => exact absurd rfl apart
    | some position => rfl
  | some before =>
    cases other with
    | none => rfl
    | some position =>
      refine congrArg (fun slots => { registry with slots }) (Arena.modify_comm _ ?_ _ _)
      exact fun same => apart (congrArg some same)

/-- The head of a signal is where its chain is led from. -/
theorem linkAt_none (registered : registry.signals.get? index = some signal) :
    registry.linkAt index none = some signal.head := by
  rw [linkAt, registered]
  rfl

theorem linkAt_some {slot : Slot} (found : registry.slots.get? position = some slot) :
    registry.linkAt index (some position) = some slot.next := by
  rw [linkAt, found]
  rfl

/-! ## Writing a chain link by link -/

/-- Lead a link along a list of slots. -/
def weave
    (registry : Registry)
    (index : Nat)
    (previous : Option Nat)
    (order : List Nat) :
    Registry :=
  let led := registry.lead index previous order.head?
  { led with slots := thread led.slots order }

theorem relink_eq_weave (registry : Registry) (index : Nat) (order : List Nat) :
    registry.relink index order = registry.weave index none order :=
  rfl

theorem weave_cons
    (registry : Registry)
    (index : Nat)
    (previous : Option Nat)
    (position : Nat)
    (rest : List Nat) :
    registry.weave index previous (position :: rest) =
      (registry.lead index previous (some position)).weave index (some position) rest :=
  rfl

/-- The slots that a list starts with are passed by as long as they are linked that way. -/
theorem weave_append
    {cursor : Option Nat}
    {passed rest : List Nat}
    (linked : Linked registry.slots cursor (passed ++ rest))
    (there : registry.linkAt index previous = some cursor)
    (order : List Nat) :
    registry.weave index previous (passed ++ order) =
      registry.weave index (passed.getLast?.or previous) order := by
  induction passed generalizing previous cursor with
  | nil => rfl
  | cons first passed hypothesis =>
    cases linked with
    | @link _ slot _ found linked =>
      rw [List.cons_append, weave_cons, lead_eq_self there, hypothesis linked (linkAt_some found),
        List.getLast?_cons]
      cases passed.getLast? <;> rfl

/-- What is linked behind a link needs that link only. -/
theorem weave_eq_lead
    (linked : Linked registry.slots target order)
    (behind : ∀ position ∈ order, previous ≠ some position) :
    registry.weave index previous order = registry.lead index previous target := by
  have still : Linked (registry.lead index previous target).slots target order :=
    linked.congr fun position member =>
      congrArg (Option.map Slot.next) (get?_slots_lead _ _ _ (behind position member))
  rw [weave, ← linked.head_eq, still.thread_eq]

/-- The slot before a place in a chain does not come again behind it. -/
theorem getLast?_ne_some
    {passed rest : List Nat}
    (distinct : (passed ++ rest).Nodup) :
    ∀ position ∈ rest, passed.getLast? ≠ some position := by
  intro position member last
  exact (List.nodup_append.mp distinct).2.2 position (List.mem_of_getLast? last) position member rfl

/-- A chain that ends is the list that it is linked along. -/
theorem chain_of_linked
    (registered : registry.signals.get? index = some signal)
    (linked : Linked registry.slots signal.head order) :
    registry.chain index = order := by
  rw [Registry.chain, registered]
  exact linked.follow_eq (linked.length_le_reserved linked.nodup)

/-- A chain with a new slot in one place is the chain with two links led: that of the new slot to
what is behind it, and the one that led there to the new slot. -/
theorem relink_insert
    {passed rest : List Nat}
    (registered : registry.signals.get? index = some signal)
    (linked : Linked registry.slots signal.head (passed ++ rest))
    (fresh : position ∉ passed ++ rest) :
    registry.relink index (passed ++ position :: rest) =
      (registry.lead index (some position) rest.head?).lead index passed.getLast?
        (some position) := by
  have last : passed.getLast? ≠ some position := by
    intro last
    exact fresh (List.mem_append_left _ (List.mem_of_getLast? last))
  have apart : ∀ other ∈ rest, some position ≠ some other := by
    rintro other member ⟨⟩
    exact fresh (List.mem_append_right _ member)
  have onwards :
      Linked (registry.lead index passed.getLast? (some position)).slots rest.head? rest := by
    refine linked.behind.congr fun other member => congrArg (Option.map Slot.next) ?_
    exact get?_slots_lead _ _ _ (getLast?_ne_some linked.nodup other member)
  rw [relink_eq_weave, weave_append linked (linkAt_none registered), Option.or_none, weave_cons,
    weave_eq_lead onwards apart, lead_comm _ _ last]

/-- A chain without the slot in one place is the chain with one link led past that slot. -/
theorem relink_remove
    {passed rest : List Nat}
    (registered : registry.signals.get? index = some signal)
    (linked : Linked registry.slots signal.head (passed ++ position :: rest)) :
    registry.relink index (passed ++ rest) =
      registry.lead index passed.getLast? rest.head? := by
  have split : passed ++ position :: rest = (passed ++ [position]) ++ rest :=
    List.append_cons _ _ _
  have behind (other : Nat) (member : other ∈ rest) : passed.getLast? ≠ some other :=
    getLast?_ne_some linked.nodup other (List.mem_cons_of_mem _ member)
  rw [relink_eq_weave, weave_append linked (linkAt_none registered), Option.or_none,
    weave_eq_lead (split ▸ linked).behind behind]

/-! ## Walking up to a place -/

/-- Walk along at most `limit` links while a test holds of the slots, `previous` the last slot
passed; the place where the walk stops comes with the slot before it. -/
def walkPast (slots : Arena Slot) (passes : Slot → Bool) :
    Nat → Option Nat → Option Nat → Option Nat × Option Nat
  | 0, previous, cursor => (previous, cursor)
  | _ + 1, previous, none => (previous, none)
  | limit + 1, previous, some position =>
      match slots.get? position with
      | none => (previous, some position)
      | some slot =>
          if passes slot then walkPast slots passes limit (some position) slot.next
          else (previous, some position)

/-- A walk stops at the first slot of which the test does not hold. -/
theorem walkPast_eq
    {slots : Arena Slot}
    {passes : Slot → Bool}
    {cursor : Option Nat}
    {passed rest : List Nat}
    {limit : Nat}
    (linked : Linked slots cursor (passed ++ rest))
    (passing : ∀ position ∈ passed, ∀ slot, slots.get? position = some slot → passes slot = true)
    (stopping :
      ∀ position ∈ rest.head?, ∀ slot, slots.get? position = some slot → passes slot = false)
    (enough : (passed ++ rest).length ≤ limit) :
    walkPast slots passes limit previous cursor = (passed.getLast?.or previous, rest.head?) := by
  induction passed generalizing previous cursor limit with
  | nil =>
    rw [List.nil_append] at linked
    rw [← linked.head_eq]
    cases linked with
    | done => cases limit <;> rfl
    | @link position slot _ found _ =>
      cases limit with
      | zero => exact absurd enough (Nat.not_succ_le_zero _)
      | succ limit =>
        rw [walkPast, found]
        dsimp only
        rw [stopping position rfl slot found]
        rfl
  | cons first passed hypothesis =>
    cases linked with
    | @link _ slot _ found linked =>
      cases limit with
      | zero => exact absurd enough (Nat.not_succ_le_zero _)
      | succ limit =>
        rw [walkPast, found]
        dsimp only
        rw [if_pos (passing first List.mem_cons_self slot found),
          hypothesis linked (fun position member => passing position (List.mem_cons_of_mem _ member))
            (Nat.le_of_succ_le_succ enough),
          List.getLast?_cons]
        cases passed.getLast? <;> rfl

/-! ## A slot that comes -/

/-- Link a stored slot into the chain of a signal, behind the last slot whose priority is at least
its own. -/
def linkOrdered (registry : Registry) (index position : Nat) : Registry :=
  match registry.slots.get? position, registry.signals.get? index with
  | some slot, some signal =>
      let (previous, cursor) :=
        walkPast registry.slots (fun other => slot.priority.rank ≤ other.priority.rank)
          registry.slots.reserved none signal.head
      (registry.lead index (some position) cursor).lead index previous (some position)
  | _, _ => registry

/-- Store a slot and link it into the chain of a signal by a walk. -/
def attachInPlace (registry : Registry) (index : Nat) (slot : Slot) : Except Fault Registry :=
  match registry.slots.insert slot with
  | .error fault => .error (slotStorageFault fault)
  | .ok (position, slots) =>
      let linked := { registry with slots := slots }.linkOrdered index position
      .ok
        { linked with
          signals :=
            linked.signals.modify index fun signal => { signal with live := signal.live + 1 }
          peakSlots := max registry.peakSlots linked.slots.size }

/-- The walk that links a slot passes the slots of at least its priority. -/
theorem walkPast_ordered
    {slots : Arena Slot}
    {head : Option Nat}
    (linked : Linked slots head order)
    (priority : Priority) :
    walkPast slots (fun other => priority.rank ≤ other.priority.rank) slots.reserved none head =
      ((order.takeWhile (precedes slots priority)).getLast?,
        (order.dropWhile (precedes slots priority)).head?) := by
  have whole := List.takeWhile_append_dropWhile (p := precedes slots priority) (l := order)
  rw [← whole] at linked
  rw [walkPast_eq linked _ _ (linked.length_le_reserved linked.nodup), Option.or_none]
  · intro other member slot found
    have quick := List.all_eq_true.mp List.all_takeWhile other member
    rwa [precedes, found] at quick
  · intro other first slot found
    have slow := List.head?_dropWhile_not (precedes slots priority) order
    rw [Option.mem_def.mp first] at slow
    simpa [precedes, found] using slow

/-- Two links are led for a slot that is new to a chain. -/
theorem linkOrdered_eq_relink
    {slot : Slot}
    (registered : registry.signals.get? index = some signal)
    (linked : Linked registry.slots signal.head order)
    (stored : registry.slots.get? position = some slot)
    (fresh : position ∉ order) :
    registry.linkOrdered index position =
      registry.relink index (ordered registry.slots slot.priority position order) := by
  have whole := List.takeWhile_append_dropWhile (p := precedes registry.slots slot.priority)
    (l := order)
  have walked := walkPast_ordered linked slot.priority
  rw [linkOrdered, stored, registered]
  dsimp only
  rw [walked]
  dsimp only
  rw [← whole] at linked fresh
  exact (relink_insert registered linked fresh).symm

theorem ordered_cons
    (slots : Arena Slot)
    (priority : Priority)
    (position first : Nat)
    (rest : List Nat) :
    ordered slots priority position (first :: rest) =
      if precedes slots priority first then first :: ordered slots priority position rest
      else position :: first :: rest := by
  rw [ordered, List.takeWhile_cons, List.dropWhile_cons]
  split <;> rfl

/-- Where a slot goes depends on the slots of the chain only. -/
theorem ordered_congr
    {slots other : Arena Slot}
    (same : ∀ place ∈ order, slots.get? place = other.get? place)
    (priority : Priority)
    (position : Nat) :
    ordered slots priority position order = ordered other priority position order := by
  induction order with
  | nil => rfl
  | cons first rest hypothesis =>
    have alike : precedes slots priority first = precedes other priority first := by
      rw [precedes, precedes, same first List.mem_cons_self]
    rw [ordered_cons, ordered_cons, alike,
      hypothesis fun place member => same place (List.mem_cons_of_mem _ member)]

/-- Linking a slot by a walk comes to what relinking the chain with it comes to. -/
theorem attachInPlace_eq_attach
    (sound : registry.slots.Sound)
    (registered : registry.signals.get? index = some signal)
    (linked : Linked registry.slots signal.head order)
    (slot : Slot) :
    registry.attachInPlace index slot = registry.attach index slot := by
  rw [attachInPlace, attach]
  cases inserted : registry.slots.insert slot with
  | error fault => rfl
  | ok placed =>
    rcases placed with ⟨position, slots⟩
    have view := sound.get?_insert inserted
    have vacancy := ((Arena.insert_eq_ok_iff _ _ _ _).mp inserted).1
    have vacant := (sound.vacancy_spec vacancy).1
    have fresh : position ∉ order := by
      intro member
      have stored := linked.stored member
      rw [vacant] at stored
      cases stored
    have same (other : Nat) (member : other ∈ order) :
        slots.get? other = registry.slots.get? other := by
      rw [view, if_neg]
      rintro rfl
      exact fresh member
    have chained : Linked slots signal.head order :=
      linked.congr fun other member => congrArg (Option.map Slot.next) (same other member)
    have stored : slots.get? position = some slot := by
      rw [view, if_pos rfl]
    have present : ({ registry with slots := slots } : Registry).signals.get? index = some signal :=
      registered
    have woven := linkOrdered_eq_relink present chained stored fresh
    rw [ordered_congr same] at woven
    dsimp only
    rw [woven, chain_of_linked registered linked]
    have size : (thread slots (ordered registry.slots slot.priority position order)).size =
        slots.size :=
      size_thread _ _
    rw [relink, size]

/-! ## A slot that goes -/

/-- Take the slot at a position out of storage, and lead the link that led to it past it. -/
def excise
    (registry : Registry)
    (index : Nat)
    (previous : Option Nat)
    (position : Nat) :
    Registry × List Slot :=
  match registry.slots.get? position with
  | none => (registry, [])
  | some slot => ((registry.vacateSlot position).lead index previous slot.next, [slot])

/-- One link is led past a slot that leaves its chain. -/
theorem unlink_eq_excise
    {passed rest : List Nat}
    (registered : registry.signals.get? index = some signal)
    (linked : Linked registry.slots signal.head (passed ++ position :: rest)) :
    registry.unlink index position = registry.excise index passed.getLast? position := by
  have last : passed.getLast? ≠ some position :=
    getLast?_ne_some linked.nodup position List.mem_cons_self
  have outside : position ∉ passed := by
    intro member
    exact (List.nodup_append.mp linked.nodup).2.2 position member position List.mem_cons_self rfl
  rcases linked.suffix with ⟨slot, found, onwards⟩
  have erased : (passed ++ position :: rest).erase position = passed ++ rest := by
    rw [List.erase_append_right _ outside, List.erase_cons_head]
  have present :
      (registry.lead index passed.getLast? rest.head?).slots.get? position = some slot :=
    (get?_slots_lead _ _ _ last).trans found
  rw [unlink, chain_of_linked registered linked, erased, relink_remove registered linked, excise,
    found]
  dsimp only
  rw [onwards.head_eq, vacateSlot_lead _ _ _ last, Arena.removeAll, Arena.remove?, present]
  rfl

/-- Remove one live slot of which the slot before it is known. -/
def retireInPlace
    (registry : Registry)
    (index : Nat)
    (previous : Option Nat)
    (position : Nat) :
    Registry × List Slot :=
  match registry.signals.get? index with
  | none => (registry, [])
  | some signal =>
      if signal.emitting = 0 then
        let counted :=
          { registry with
            signals := registry.signals.modify index fun signal =>
              { signal with live := signal.live - 1 } }
        counted.excise index previous position
      else registry.retire index position

/-- Remove the first live slot of a signal that a test accepts, found by a walk. -/
def removeFirstInPlace
    (registry : Registry)
    (index : Nat)
    (accepts : Slot → Bool) :
    Option (Registry × List Slot) :=
  (registry.signals.get? index).bind fun signal =>
    let (previous, cursor) :=
      walkPast registry.slots (fun slot => slot.removed || !accepts slot) registry.slots.reserved
        none signal.head
    cursor.bind fun position =>
      (registry.slots.get? position).map fun _ => registry.retireInPlace index previous position

theorem retireInPlace_eq_retire
    {passed rest : List Nat}
    (registered : registry.signals.get? index = some signal)
    (linked : Linked registry.slots signal.head (passed ++ position :: rest)) :
    registry.retireInPlace index passed.getLast? position = registry.retire index position := by
  rw [retireInPlace, registered]
  dsimp only
  split
  next idle =>
    rw [retire, registered]
    dsimp only
    rw [if_pos idle]
    let counted : Registry :=
      { registry with
        signals := registry.signals.modify index fun signal =>
          { signal with live := signal.live - 1 } }
    have present :
        counted.signals.get? index = some { signal with live := signal.live - 1 } := by
      rw [Arena.get?_modify, if_pos rfl, registered]
      rfl
    have chained : Linked counted.slots signal.head (passed ++ position :: rest) := linked
    exact (unlink_eq_excise present chained).symm
  next => rfl

/-- Removing a slot by a walk comes to what relinking the chain without it comes to. -/
theorem removeFirstInPlace_eq_removeFirst
    (registered : registry.signals.get? index = some signal)
    (linked : Linked registry.slots signal.head order)
    (accepts : Slot → Bool) :
    registry.removeFirstInPlace index accepts = registry.removeFirst index accepts := by
  have enough := linked.length_le_reserved linked.nodup
  have chain := chain_of_linked registered linked
  rw [removeFirstInPlace, registered, Option.bind_some, removeFirst]
  cases first : registry.firstLive? index accepts with
  | none =>
    have refused := (firstLive?_eq_none_iff _ _ _).mp first
    rw [chain] at refused
    have walked :
        walkPast registry.slots (fun slot => slot.removed || !accepts slot)
            registry.slots.reserved none signal.head =
          (order.getLast?, none) := by
      rw [← List.append_nil order] at linked enough
      rw [walkPast_eq linked _ nofun enough, Option.or_none]
      · rfl
      · intro position member slot found
        have passing := refused position member slot found
        grind
    rw [walked]
    rfl
  | some position =>
    rcases firstLive?_eq_some first with ⟨passed, rest, slot, split, stored, accepted, refused⟩
    rw [chain] at split
    subst split
    have walked :
        walkPast registry.slots (fun slot => slot.removed || !accepts slot)
            registry.slots.reserved none signal.head =
          (passed.getLast?, some position) := by
      rw [walkPast_eq linked _ _ enough, Option.or_none]
      · rfl
      · intro other member slot found
        have passing := refused other member slot found
        grind
      · rintro _ ⟨⟩ other found
        rw [stored, Option.some.injEq] at found
        subst found
        simp [accepted]
    rw [walked]
    dsimp only
    rw [Option.bind_some, stored, Option.map_some, Option.map_some,
      retireInPlace_eq_retire registered linked]

/-! ## All slots -/

/-- Take slots out of storage along at most `limit` links. -/
def freeFrom : Nat → Arena Slot → Option Nat → List Slot × Arena Slot
  | 0, slots, _ => ([], slots)
  | limit + 1, slots, cursor =>
      match cursor.bind slots.remove? with
      | none => ([], slots)
      | some (slot, slots) =>
          let (released, slots) := freeFrom limit slots slot.next
          (slot :: released, slots)

/-- Take the whole chain of a signal out of storage by a walk. -/
def freeChainInPlace (registry : Registry) (index : Nat) : Registry × List Slot :=
  match registry.signals.get? index with
  | none => (registry, [])
  | some signal =>
      let (released, slots) := freeFrom registry.slots.reserved registry.slots signal.head
      ({ registry with
          signals := registry.signals.modify index fun signal =>
            { signal with head := none, live := 0, tombstones := 0 }
          slots := slots },
        released)

theorem freeFrom_eq_removeAll
    {slots : Arena Slot}
    {cursor : Option Nat}
    {limit : Nat}
    (linked : Linked slots cursor order)
    (enough : order.length ≤ limit) :
    freeFrom limit slots cursor = slots.removeAll order := by
  induction order generalizing slots cursor limit with
  | nil =>
    cases linked
    cases limit <;> rfl
  | cons position rest hypothesis =>
    have fresh := (List.nodup_cons.mp linked.nodup).1
    cases linked with
    | @link _ slot _ found linked =>
      cases limit with
      | zero => exact absurd enough (Nat.not_succ_le_zero _)
      | succ limit =>
        have removed : slots.remove? position = some (slot, slots.vacate position) :=
          (Arena.remove?_eq_some_iff _ _ _ _).mpr ⟨found, rfl⟩
        have onwards : Linked (slots.vacate position) slot.next rest := by
          refine linked.congr fun other member => ?_
          rw [Arena.get?_vacate, if_neg]
          rintro rfl
          exact fresh member
        rw [freeFrom, Option.bind_some, removed, Arena.removeAll, removed]
        dsimp only
        rw [hypothesis onwards (Nat.le_of_succ_le_succ enough)]

/-- Freeing a chain by a walk comes to what taking its list of slots out comes to. -/
theorem freeChainInPlace_eq_freeChain
    (registered : registry.signals.get? index = some signal)
    (linked : Linked registry.slots signal.head order) :
    registry.freeChainInPlace index = registry.freeChain index := by
  rw [freeChainInPlace, registered, freeChain, chain_of_linked registered linked]
  dsimp only
  rw [freeFrom_eq_removeAll linked (linked.length_le_reserved linked.nodup)]

end Registry

end SignalDispatch
