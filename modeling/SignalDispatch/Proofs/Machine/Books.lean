import SignalDispatch.Proofs.Machine.Hands
import Mathlib.Data.List.Perm.Subperm

/-!
# Tickets in order

`Machine.Books` is what holds of the tickets of one state, given those released so far: the issued
ones that are not released are exactly the owned ones, and the context of a stored slot waits to be
let go of only right after its callback.  `Books.hands` says that a move keeps the books.

`Machine.InLine` is what becomes of two contexts whose slots are freed by one move while neither is
in its callback: the first one is released before the second gets its turn.
-/

namespace SignalDispatch.Machine

/-- The context of a ticket belongs to a slot in a chain, tombstones included. -/
def Linked (machine : Machine) (ticket : Nat) : Prop :=
  ∃ registry index slot, machine.world.bus.registry = some registry ∧
    slot ∈ registry.slotsOf index ∧ slot.ticket? = some ticket

/-- Some emission is in the callback of the slot with the context of a ticket. -/
def Executing (machine : Machine) (ticket : Nat) : Prop :=
  ∃ walk ∈ machine.walks, ∃ slot, walk.running = some slot ∧ slot.ticket? = some ticket

/-! ## Owners that can be seen -/

/-- A stored slot is in a chain. -/
theorem linked_iff
    {machine : Machine}
    (sane : machine.world.bus.Sane)
    (ticket : Nat) :
    machine.Linked ticket ↔ Holds machine.slotAt ticket := by
  constructor
  · rintro ⟨registry, index, slot, present, member, named⟩
    rcases List.mem_filterMap.mp member with ⟨position, _, stored⟩
    refine ⟨position, slot.content, ?_, named⟩
    exact Bus.slotAt_of_get? present stored
  · rintro ⟨position, content, found, named⟩
    rw [slotAt] at found
    cases present : machine.world.bus.registry with
    | none =>
        rw [Bus.slotAt_of_none present] at found
        cases found
    | some registry =>
        rw [Bus.slotAt_of_some present] at found
        rcases (Registry.contentAt_eq_some_iff _ _ _).mp found with ⟨slot, stored, rfl⟩
        have isSome : (Registry.contentAt registry.slots position).isSome := by
          rw [found]
          rfl
        rcases (sane.registry present).formed.covered isSome with ⟨index, member⟩
        exact ⟨registry, index, slot, present,
          List.mem_filterMap.mpr ⟨position, member, stored⟩, named⟩

theorem executing_iff (machine : Machine) (ticket : Nat) :
    machine.Executing ticket ↔ ticket ∈ machine.executing := by
  rw [Executing, walks, executing, List.mem_flatMap]
  constructor
  · rintro ⟨walk, member, slot, running, named⟩
    rcases List.mem_filterMap.mp member with ⟨frame, inside, emission⟩
    rw [walk?_eq_some emission] at inside
    refine ⟨.walk walk, inside, ?_⟩
    rw [Frame.executing, running, Option.bind_some, named]
    exact List.mem_singleton_self ticket
  · rintro ⟨frame, inside, member⟩
    cases frame with
    | walk walk =>
        rcases Option.bind_eq_some_iff.mp (Option.mem_toList.mp member) with
          ⟨slot, running, named⟩
        exact ⟨walk, List.mem_filterMap.mpr ⟨_, inside, rfl⟩, slot, running, named⟩
    | routine | release | conclude | reject | flush | drain | batch | catching => cases member

/-! ## One state -/

/-- The tickets of a state are in order, given those released so far. -/
structure Books (released : Nat → Prop) (machine : Machine) : Prop where
  apart : TicketsApart machine.slotAt
  issued : ∀ {ticket}, machine.Owned ticket → ticket < machine.world.tickets
  past : ∀ {ticket}, released ticket → ticket < machine.world.tickets
  accounted :
    ∀ {ticket}, ticket < machine.world.tickets → (released ticket ↔ ¬ machine.Owned ticket)
  /-- While a slot is linked, its context waits only right after the end of its callback. -/
  linked :
    ∀ {ticket}, Holds machine.slotAt ticket →
      ticket ∉ machine.queued.tail ∧ (machine.queued.head? = some ticket → machine.LetsGo)

/-- The books of a session that has not started. -/
theorem books_initial (backend : Backend) (config : Config) :
    Books (fun _ => False) (initial backend config) := by
  have unheld {ticket : Nat} : ¬ Holds (initial backend config).slotAt ticket := by
    rintro ⟨position, slot, found, _⟩
    cases found
  refine ⟨?_, ?_, False.elim, ?_, ?_⟩
  · intro left right first second ticket found
    cases found
  · rintro ticket (held | member | member)
    · exact absurd held unheld
    · cases member
    · cases member
  · intro ticket bound
    exact absurd bound (Nat.not_lt_zero _)
  · intro ticket held
    exact absurd held unheld

/-- What does not wait is not in the way of a slot. -/
theorem linked_of_not_queued {machine : Machine} {ticket : Nat} (absent : ticket ∉ machine.queued) :
    ticket ∉ machine.queued.tail ∧ (machine.queued.head? = some ticket → machine.LetsGo) :=
  ⟨fun member => absent (List.mem_of_mem_tail member),
    fun front => absurd (List.mem_of_mem_head? (Option.mem_def.mpr front)) absent⟩

/-- Only a context that is about to be let go of is released. -/
theorem Releases.letsGo {before after : Machine} {ticket : Nat}
    (releases : Releases before after ticket) :
    before.LetsGo ∧ before.control = .proceed ∧ before.queued.head? = some ticket := by
  rcases releases with ⟨label, farewell, rest, panic, below, stack, proceeds, _⟩
  refine ⟨⟨_, _, _, _, _, _, stack⟩, proceeds, ?_⟩
  rw [queued_of_stack stack]
  rfl

section Books

variable {released : Nat → Prop} {before after : Machine} {ticket : Nat}

/-- A context that belongs to a slot does not wait, unless one is about to be let go of. -/
theorem Books.not_queued
    (books : Books released before)
    (settled : ¬ before.LetsGo)
    (held : Holds before.slotAt ticket) :
    ticket ∉ before.queued := by
  rcases books.linked held with ⟨later, front⟩
  intro member
  cases waiting : before.queued with
  | nil =>
      rw [waiting] at member
      cases member
  | cons first rest =>
      rw [waiting] at member later front
      rcases List.mem_cons.mp member with rfl | behind
      · exact settled (front rfl)
      · exact later behind

/-- A move stores no context but a new one. -/
theorem Hands.holds_before
    (hands : Hands before after)
    (held : Holds after.slotAt ticket) :
    Holds before.slotAt ticket ∨
      ticket = before.world.tickets ∧ after.world.tickets = before.world.tickets + 1 := by
  cases hands with
  | free _ frees => exact Or.inl (frees.holds_iff.mpr (Or.inl held))
  | @accept position slot _ named _ placed _ _ tickets =>
      rcases held with ⟨place, found, there, named'⟩
      rw [placed] at there
      split at there
      · rw [Option.some.injEq] at there
        subst there
        rw [named, Option.some.injEq] at named'
        exact Or.inr ⟨named'.symm, tickets⟩
      · exact Or.inl ⟨place, found, there, named'⟩
  | reject _ slots | call _ _ slots | leave _ _ slots | wait _ _ _ slots | drop _ slots =>
      rw [slots] at held
      exact Or.inl held

theorem Hands.tickets_le (hands : Hands before after) :
    before.world.tickets ≤ after.world.tickets := by
  cases hands with
  | free _ _ _ _ tickets | call _ _ _ _ _ tickets | leave _ _ _ _ _ tickets
  | wait _ _ _ _ _ _ tickets | drop _ _ _ tickets => exact Nat.le_of_eq tickets.symm
  | accept _ _ _ _ _ _ tickets | reject _ _ _ _ tickets =>
      exact Nat.le_of_lt (Nat.lt_of_lt_of_eq (Nat.lt_succ_self _) tickets.symm)

/-- A slot that is placed holds its own ticket besides those that were held. -/
theorem holds_iff_of_placed
    {slots later : Nat → Option Slot}
    {position : Nat}
    {slot : Slot}
    (vacant : slots position = none)
    (placed : ∀ other, later other = if position = other then some slot else slots other)
    (ticket : Nat) :
    Holds later ticket ↔ slot.ticket? = some ticket ∨ Holds slots ticket := by
  constructor
  · rintro ⟨place, found, there, named⟩
    rw [placed] at there
    split at there
    · rw [Option.some.injEq] at there
      rw [there]
      exact Or.inl named
    · exact Or.inr ⟨place, found, there, named⟩
  · rintro (named | ⟨place, found, there, named⟩)
    · exact ⟨position, slot, by rw [placed, if_pos rfl], named⟩
    · refine ⟨place, found, ?_, named⟩
      rw [placed, if_neg]
      · exact there
      · rintro rfl
        rw [vacant] at there
        cases there

/-- A slot that is placed with a ticket of its own leaves the tickets apart. -/
theorem ticketsApart_of_placed
    {slots later : Nat → Option Slot}
    {position : Nat}
    {slot : Slot}
    (apart : TicketsApart slots)
    (unheld : ∀ ticket, slot.ticket? = some ticket → ¬ Holds slots ticket)
    (placed : ∀ other, later other = if position = other then some slot else slots other) :
    TicketsApart later := by
  have own {place : Nat} {found : Slot} (there : later place = some found) :
      position = place ∧ slot = found ∨ slots place = some found := by
    rw [placed] at there
    split at there
    next same => exact Or.inl ⟨same, Option.some.inj there⟩
    next => exact Or.inr there
  intro left right first second ticket found found' name name'
  rcases own found with ⟨here, rfl⟩ | earlier
  · rcases own found' with ⟨here', _⟩ | earlier'
    · exact here.symm.trans here'
    · exact absurd ⟨right, second, earlier', name'⟩ (unheld ticket name)
  · rcases own found' with ⟨_, rfl⟩ | earlier'
    · exact absurd ⟨left, first, earlier, name⟩ (unheld ticket name')
    · exact apart earlier earlier' name name'

/-- What a move releases has no owner left. -/
theorem Hands.not_owned_of_releases
    (hands : Hands before after)
    (releases : Releases before after ticket) :
    ¬ after.Owned ticket := by
  rcases releases.letsGo with ⟨letsGo, proceeds, _⟩
  cases hands with
  | free settled | accept settled | reject settled | call settled | leave settled =>
      exact absurd letsGo settled
  | wait _ passing => exact absurd proceeds passing
  | drop _ _ _ _ only =>
      rcases (only ticket).mp releases with ⟨rfl, unowned⟩
      exact unowned

/-- The tickets that were owned and the new ones are owned, or released. -/
theorem Hands.owned_or_releases_iff
    (hands : Hands before after)
    (ticket : Nat) :
    after.Owned ticket ∨ Releases before after ticket ↔
      before.Owned ticket ∨ before.world.tickets ≤ ticket ∧ ticket < after.world.tickets := by
  have quiet (settled : ¬ before.LetsGo) : ¬ Releases before after ticket :=
    fun releases => settled releases.letsGo.1
  have fresh (same : after.world.tickets = before.world.tickets) :
      ¬ (before.world.tickets ≤ ticket ∧ ticket < after.world.tickets) := by
    omega
  have one (more : after.world.tickets = before.world.tickets + 1) :
      before.world.tickets ≤ ticket ∧ ticket < after.world.tickets ↔
        before.world.tickets = ticket := by
    omega
  cases hands with
  | free settled frees queued executing tickets order =>
      rw [or_iff_left (quiet settled), or_iff_left (fresh tickets), Owned, Owned, frees.holds_iff,
        executing, queued, List.mem_append]
      grind
  | accept settled named vacant placed queued executing tickets =>
      rw [or_iff_left (quiet settled), one tickets, Owned, Owned,
        holds_iff_of_placed vacant placed, named, executing, queued, Option.some.injEq]
      grind
  | reject settled slots queued executing tickets =>
      rw [or_iff_left (quiet settled), one tickets, Owned, Owned, slots, executing, queued,
        List.mem_cons]
      grind
  | @call called settled held slots queued executing tickets =>
      rw [or_iff_left (quiet settled), or_iff_left (fresh tickets), Owned, Owned, slots, executing,
        queued, List.mem_cons]
      have known (same : ticket = called) : Holds before.slotAt ticket := same ▸ held
      grind
  | leave settled next slots queued executing tickets =>
      rw [or_iff_left (quiet settled), or_iff_left (fresh tickets), Owned, Owned, slots, executing,
        queued, List.mem_cons, List.mem_cons]
      grind
  | wait letsGo passing next slots queued executing tickets =>
      have silent : ¬ Releases before after ticket := fun releases => passing releases.letsGo.2.1
      rw [or_iff_left silent, or_iff_left (fresh tickets), Owned, Owned, slots, executing, queued]
  | @drop first queued slots executing tickets only =>
      have owned : before.Owned ticket ↔ after.Owned ticket ∨ ticket = first := by
        rw [Owned, Owned, slots, executing, queued, List.mem_cons]
        grind
      rw [or_iff_left (fresh tickets), owned, only]
      grind

/-- A move leaves the tickets of the stored slots apart. -/
theorem Books.ticketsApart
    (books : Books released before)
    (hands : Hands before after) :
    TicketsApart after.slotAt := by
  cases hands with
  | free _ frees => exact frees.apart books.apart
  | accept _ named _ placed =>
      refine ticketsApart_of_placed books.apart ?_ placed
      intro ticket name held
      rw [named, Option.some.injEq] at name
      exact Nat.lt_irrefl _ (name ▸ books.issued (Or.inl held))
  | reject _ slots | call _ _ slots | leave _ _ slots | wait _ _ _ slots | drop _ slots =>
      exact slots ▸ books.apart

/-- After a move too the context of a stored slot waits only right after the end of its callback. -/
theorem Books.linked_after
    (books : Books released before)
    (hands : Hands before after)
    (held : Holds after.slotAt ticket) :
    ticket ∉ after.queued.tail ∧ (after.queued.head? = some ticket → after.LetsGo) := by
  cases hands with
  | free settled frees queued =>
      refine linked_of_not_queued ?_
      rw [queued, List.mem_append]
      rintro (member | member)
      · exact frees.not_holds books.apart member held
      · exact books.not_queued settled (frees.holds_iff.mpr (Or.inl held)) member
  | accept settled named vacant placed queued =>
      refine linked_of_not_queued ?_
      rw [queued]
      rcases (holds_iff_of_placed vacant placed ticket).mp held with name | earlier
      · rw [named, Option.some.injEq] at name
        exact fun member => Nat.lt_irrefl _ (name ▸ books.issued (Or.inr (Or.inr member)))
      · exact books.not_queued settled earlier
  | reject settled slots queued =>
      rw [slots] at held
      refine linked_of_not_queued ?_
      rw [queued, List.mem_cons]
      rintro (rfl | member)
      · exact Nat.lt_irrefl _ (books.issued (Or.inl held))
      · exact books.not_queued settled held member
  | call settled _ slots queued =>
      rw [slots] at held
      exact linked_of_not_queued (queued ▸ books.not_queued settled held)
  | leave settled next slots queued =>
      rw [slots] at held
      rw [queued]
      exact ⟨books.not_queued settled held, fun _ => next⟩
  | wait _ _ next slots queued =>
      rw [slots] at held
      rw [queued]
      exact ⟨(books.linked held).1, fun _ => next⟩
  | drop queued slots =>
      rw [slots] at held
      have absent := (books.linked held).1
      rw [queued, List.tail_cons] at absent
      exact linked_of_not_queued absent

/-- A move keeps the books. -/
theorem Books.hands
    (books : Books released before)
    (hands : Hands before after) :
    Books (fun ticket => released ticket ∨ Releases before after ticket) after := by
  have known (ticket : Nat) := hands.owned_or_releases_iff ticket
  have issued {ticket : Nat} (left : after.Owned ticket ∨ Releases before after ticket) :
      ticket < after.world.tickets := by
    rcases (known ticket).mp left with earlier | ⟨_, new⟩
    · exact Nat.lt_of_lt_of_le (books.issued earlier) hands.tickets_le
    · exact new
  refine
    ⟨books.ticketsApart hands, fun owner => issued (Or.inl owner), ?_, ?_, books.linked_after hands⟩
  · rintro ticket (gone | releases)
    · exact Nat.lt_of_lt_of_le (books.past gone) hands.tickets_le
    · exact issued (Or.inr releases)
  · intro ticket bound
    constructor
    · rintro (gone | releases) owner
      · have old := books.past gone
        rcases (known ticket).mp (Or.inl owner) with earlier | ⟨new, _⟩
        · exact (books.accounted old).mp gone earlier
        · exact absurd old (Nat.not_lt.mpr new)
      · exact hands.not_owned_of_releases releases owner
    · intro unowned
      by_cases releases : Releases before after ticket
      · exact Or.inr releases
      · have neither := not_or.mpr ⟨unowned, releases⟩
        rw [known, not_or] at neither
        have old : ticket < before.world.tickets :=
          Nat.lt_of_not_le fun new => neither.2 ⟨new, bound⟩
        exact Or.inl ((books.accounted old).mpr neither.1)

end Books

/-! ## Order of release -/

/-- Whether a ticket is one of two. -/
def either (first second ticket : Nat) : Bool :=
  ticket == first || ticket == second

theorem either_iff (first second ticket : Nat) :
    either first second ticket = true ↔ ticket = first ∨ ticket = second := by
  rw [either, Bool.or_eq_true, beq_iff_eq, beq_iff_eq]

/-- A list without duplicates that has two members in some order has no others among the two. -/
theorem filter_either_of_sublist
    {first second : Nat}
    {tickets : List Nat}
    (nodup : tickets.Nodup)
    (order : [first, second].Sublist tickets) :
    tickets.filter (either first second) = [first, second] := by
  have pair := order.filter (either first second)
  have all : [first, second].filter (either first second) = [first, second] := by
    rw [List.filter_eq_self]
    intro ticket member
    rw [either_iff]
    exact List.mem_pair.mp member
  have among : tickets.filter (either first second) ⊆ [first, second] := by
    intro ticket member
    exact List.mem_pair.mpr ((either_iff _ _ _).mp (List.mem_filter.mp member).2)
  rw [all] at pair
  exact (pair.eq_of_length_le (List.subperm_of_subset (nodup.filter _) among).length_le).symm

/-- Two contexts wait only to be let go of, one before the other. -/
structure InLine (machine : Machine) (first second : Nat) : Prop where
  waiting : machine.queued.filter (either first second) = [first, second]
  different : first ≠ second
  unowned :
    ∀ ticket, ticket = first ∨ ticket = second →
      ¬ Holds machine.slotAt ticket ∧ ticket ∉ machine.executing ∧
        ticket < machine.world.tickets

section InLine

variable {before after : Machine} {first second : Nat}

/-- The second of the two waits. -/
theorem InLine.mem_queued (inLine : InLine before first second) : second ∈ before.queued := by
  have member : second ∈ before.queued.filter (either first second) := by
    rw [inLine.waiting]
    exact List.mem_pair.mpr (Or.inr rfl)
  exact (List.mem_filter.mp member).1

/-- The two go on waiting, or the first one is released. -/
theorem InLine.hands
    (inLine : InLine before first second)
    (hands : Hands before after) :
    InLine after first second ∨ Releases before after first := by
  rcases inLine with ⟨waiting, different, unowned⟩
  have keep
      (waiting : after.queued.filter (either first second) = [first, second])
      (executing : ∀ ticket, ticket = first ∨ ticket = second → ticket ∉ after.executing) :
      InLine after first second ∨ Releases before after first := by
    refine Or.inl ⟨waiting, different, ?_⟩
    intro ticket same
    rcases unowned ticket same with ⟨unheld, _, issued⟩
    refine ⟨?_, executing ticket same, Nat.lt_of_lt_of_le issued hands.tickets_le⟩
    intro held
    rcases hands.holds_before held with earlier | ⟨new, _⟩
    · exact unheld earlier
    · exact absurd issued (Nat.not_lt.mpr (Nat.le_of_eq new.symm))
  have idle
      (executing : after.executing = before.executing)
      (ticket : Nat)
      (same : ticket = first ∨ ticket = second) :
      ticket ∉ after.executing := by
    rw [executing]
    exact (unowned ticket same).2.1
  cases hands with
  | @free freed settled frees queued executing tickets order =>
      refine keep ?_ (idle executing)
      have others :
          (freed.filterMap Slot.ticket?).filter (either first second) = [] := by
        rw [List.filter_eq_nil_iff]
        intro ticket member same
        exact (unowned ticket ((either_iff _ _ _).mp same)).1
          (frees.holds_iff.mpr (Or.inr member))
      rw [queued, List.filter_append, others, waiting]
      rfl
  | accept settled named vacant placed queued executing tickets =>
      exact keep (queued ▸ waiting) (idle executing)
  | reject settled slots queued executing tickets =>
      refine keep ?_ (idle executing)
      rw [queued, List.filter_cons_of_neg, waiting]
      intro same
      exact Nat.lt_irrefl _ (unowned _ ((either_iff _ _ _).mp same)).2.2
  | @call called settled held slots queued executing tickets =>
      refine keep (queued ▸ waiting) ?_
      intro ticket same
      rw [executing, List.mem_cons]
      rintro (rfl | member)
      · exact (unowned ticket same).1 held
      · exact (unowned ticket same).2.1 member
  | @leave left settled next slots queued executing tickets =>
      rw [executing] at unowned
      refine keep ?_ ?_
      · rw [queued, List.filter_cons_of_neg, waiting]
        intro same
        exact (unowned left ((either_iff _ _ _).mp same)).2.1 List.mem_cons_self
      · intro ticket same member
        exact (unowned ticket same).2.1 (List.mem_cons_of_mem _ member)
  | wait letsGo passing next slots queued executing tickets =>
      exact keep (queued ▸ waiting) (idle executing)
  | @drop dropped queued slots executing tickets releases =>
      rw [queued] at waiting
      cases same : either first second dropped with
      | true =>
          rw [List.filter_cons_of_pos same, List.cons.injEq] at waiting
          rcases waiting with ⟨rfl, rest⟩
          refine Or.inr ((releases dropped).mpr ⟨rfl, ?_⟩)
          rintro (held | member | member)
          · rw [slots] at held
            exact (unowned dropped (Or.inl rfl)).1 held
          · exact idle executing dropped (Or.inl rfl) member
          · have inside := List.mem_filter.mpr ⟨member, same⟩
            rw [rest, List.mem_singleton] at inside
            exact different inside
      | false =>
          rw [List.filter_cons_of_neg (ne_true_of_eq_false same)] at waiting
          exact keep waiting (idle executing)

end InLine

end SignalDispatch.Machine
