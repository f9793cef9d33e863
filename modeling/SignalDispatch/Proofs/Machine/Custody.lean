import SignalDispatch.Proofs.Machine.Books
import SignalDispatch.Proofs.Machine.Episode

/-!
# Custody of tracked contexts

Along every run from the start of a session each tracked context is released at most once, and it is
released exactly if nothing owns it any more.  `SessionRun.books` keeps the books along the run;
`Custody` collects what follows from them, and `SessionRun.custody` shows it of every run: when a
context is released, and in which order.
-/

namespace SignalDispatch.Machine

/-- A connection with a tracked context is asked for, with what it comes to. -/
def Issues (result : Except Fault Answer) (before after : Machine) : Prop :=
  ∃ name callback priority label farewell keep,
    Executes (.connect name callback priority (some (.tracked label farewell)) keep) before after ∧
      (before.world.bus.connect name callback
        (some (.tracked before.world.tickets label farewell)) priority).result = result

/-- The context of a ticket has been released. -/
def Released (trace : Nat → Machine) (time ticket : Nat) : Prop :=
  ∃ moment < time, Releases (trace moment) (trace (moment + 1)) ticket

/-- The context of the first ticket is released before that of the second. -/
def ReleasedInOrder (trace : Nat → Machine) (last first second : Nat) : Prop :=
  ∀ time < last, Releases (trace time) (trace (time + 1)) second → Released trace time first

/-- What has been released after one more move. -/
theorem released_succ (trace : Nat → Machine) (time : Nat) :
    Released trace (time + 1) =
      fun ticket => Released trace time ticket ∨
        Releases (trace time) (trace (time + 1)) ticket := by
  funext ticket
  refine propext ⟨?_, ?_⟩
  · rintro ⟨moment, before, releases⟩
    rcases Nat.lt_or_eq_of_le (Nat.le_of_lt_succ before) with earlier | rfl
    · exact Or.inl ⟨moment, earlier, releases⟩
    · exact Or.inr releases
  · rintro (⟨moment, before, releases⟩ | releases)
    · exact ⟨moment, Nat.lt_succ_of_lt before, releases⟩
    · exact ⟨time, Nat.lt_succ_self _, releases⟩

/-- An operation is started in the world and on the stack that the move finds. -/
theorem Executes.eq_execute
    {operation : Operation}
    {before after : Machine}
    (executes : Executes operation before after) :
    ∃ program payload started, started.world = before.world ∧ started.stack = before.stack ∧
      after = execute program started payload operation := by
  cases executes with
  | command program issued =>
      rcases step_of_issued_eq program issued with ⟨payload, same⟩
      exact ⟨program, payload, before, rfl, rfl, same⟩
  | session program idle going =>
      exact ⟨program, .void, { world := before.world }, rfl, idle.symm, rfl⟩

/-- A released context had no owner but the frame that let go of it. -/
theorem Hands.of_releases
    {before after : Machine}
    {ticket : Nat}
    (hands : Hands before after)
    (releases : Releases before after ticket) :
    ¬ after.Owned ticket ∧ after.slotAt = before.slotAt ∧
      after.executing = before.executing := by
  rcases releases.letsGo with ⟨letsGo, proceeds, _⟩
  cases hands with
  | free settled | accept settled | reject settled | call settled | leave settled =>
      exact absurd letsGo settled
  | wait _ passing => exact absurd proceeds passing
  | drop _ slots executing _ only =>
      rcases (only ticket).mp releases with ⟨rfl, lost⟩
      exact ⟨lost, slots, executing⟩

/-- What slots lose when two of them are freed waits in their order. -/
theorem Books.inLine
    {released : Nat → Prop}
    {before after : Machine}
    {freed : List Slot}
    {first second : Slot}
    {ticket other : Nat}
    (books : Books released before)
    (settled : ¬ before.LetsGo)
    (frees : Frees before.slotAt after.slotAt freed)
    (queued : after.queued = freed.filterMap Slot.ticket? ++ before.queued)
    (executing : after.executing = before.executing)
    (tickets : after.world.tickets = before.world.tickets)
    (order : [first, second].Sublist freed)
    (named : first.ticket? = some ticket)
    (named' : second.ticket? = some other)
    (idle : ticket ∉ before.executing)
    (idle' : other ∉ before.executing) :
    InLine after ticket other := by
  have pair := order.filterMap Slot.ticket?
  rw [List.filterMap_cons_some named, List.filterMap_cons_some named', List.filterMap_nil] at pair
  have nodup := frees.nodup books.apart
  have among (one : Nat) (same : one = ticket ∨ one = other) :
      one ∈ freed.filterMap Slot.ticket? :=
    pair.subset (List.mem_pair.mpr same)
  have held (one : Nat) (same : one = ticket ∨ one = other) : Holds before.slotAt one :=
    frees.holds_iff.mpr (Or.inr (among one same))
  refine ⟨?_, ?_, ?_⟩
  · have others : before.queued.filter (either ticket other) = [] := by
      rw [List.filter_eq_nil_iff]
      intro one member same
      exact books.not_queued settled (held one ((either_iff _ _ _).mp same)) member
    rw [queued, List.filter_append, filter_either_of_sublist nodup pair, others]
    rfl
  · have apart := nodup.sublist pair
    rw [List.nodup_cons, List.mem_singleton] at apart
    exact apart.1
  · intro one same
    rw [executing, tickets]
    refine ⟨frees.not_holds books.apart (among one same), ?_, books.issued (Or.inl (held one same))⟩
    rcases same with rfl | rfl
    · exact idle
    · exact idle'

/-- A run from the start of a session. -/
structure SessionRun (trace : Nat → Machine) (last : Nat) : Prop where
  starts : ∃ backend config, trace 0 = initial backend config
  moves : ∀ time < last, Move (trace time) (trace (time + 1))

namespace SessionRun

variable {trace : Nat → Machine} {last : Nat} {ticket : Nat}

theorem run (session : SessionRun trace last) : Run trace 0 last := by
  refine ⟨?_, fun time _ bound => session.moves time bound⟩
  rcases session.starts with ⟨backend, config, start⟩
  rw [start]
  exact ⟨backend, config, .refl⟩

theorem sane (run : SessionRun trace last) :
    ∀ time ≤ last, (trace time).world.bus.Sane :=
  fun time bound => (run.run.coherent (Nat.zero_le time) bound).sane

theorem hands (run : SessionRun trace last) {time : Nat} (bound : time < last) :
    Hands (trace time) (trace (time + 1)) :=
  (run.moves time bound).hands (run.sane time (Nat.le_of_lt bound))

/-- The books are kept along the whole run. -/
theorem books (run : SessionRun trace last) :
    ∀ time ≤ last, Books (Released trace time) (trace time) := by
  intro time
  induction time with
  | zero =>
      intro _
      have nothing : Released trace 0 = fun _ => False := by
        funext ticket
        refine propext ⟨?_, False.elim⟩
        rintro ⟨moment, before, _⟩
        exact Nat.not_lt_zero _ before
      rcases run.starts with ⟨backend, config, start⟩
      rw [nothing, start]
      exact books_initial backend config
  | succ time ih =>
      intro bound
      rw [released_succ]
      exact (ih (Nat.le_of_succ_le bound)).hands (run.hands bound)

theorem tickets_le (run : SessionRun trace last) {time : Nat} (later : Nat)
    (start : time ≤ later) :
    later ≤ last → (trace time).world.tickets ≤ (trace later).world.tickets := by
  induction later, start using Nat.le_induction with
  | base => exact fun _ => Nat.le_refl _
  | succ later start ih =>
      intro bound
      exact Nat.le_trans (ih (Nat.le_of_succ_le bound)) (run.hands bound).tickets_le

/-- A context that was issued and is not stored is never stored again. -/
theorem unheld
    (run : SessionRun trace last)
    {time : Nat}
    (issued : ticket < (trace time).world.tickets)
    (free : ¬ Holds (trace time).slotAt ticket) :
    ∀ later, time ≤ later → later ≤ last → ¬ Holds (trace later).slotAt ticket := by
  intro later start
  induction later, start using Nat.le_induction with
  | base => exact fun _ => free
  | succ later start ih =>
      intro bound held
      rcases (run.hands bound).holds_before held with earlier | ⟨new, _⟩
      · exact ih (Nat.le_of_succ_le bound) earlier
      · have known := Nat.lt_of_lt_of_le issued
          (run.tickets_le later start (Nat.le_of_succ_le bound))
        exact absurd known (Nat.not_lt.mpr (Nat.le_of_eq new.symm))

/-- A context that loses its last owner is released meanwhile. -/
theorem released_between
    (run : SessionRun trace last)
    {start finish : Nat}
    (ordered : start ≤ finish)
    (bound : finish ≤ last)
    (owned : (trace start).Owned ticket)
    (lost : ¬ (trace finish).Owned ticket) :
    ∃ moment, start ≤ moment ∧ moment < finish ∧
      Releases (trace moment) (trace (moment + 1)) ticket := by
  have books := run.books start (Nat.le_trans ordered bound)
  have issued := books.issued owned
  have known := Nat.lt_of_lt_of_le issued (run.tickets_le finish ordered bound)
  rcases ((run.books finish bound).accounted known).mpr lost with ⟨moment, before, releases⟩
  refine ⟨moment, ?_, before, releases⟩
  by_contra early
  exact (books.accounted issued).mp ⟨moment, Nat.lt_of_not_le early, releases⟩ owned

/-- Two contexts in line are released in their order. -/
theorem releasedInOrder
    (run : SessionRun trace last)
    {time first second : Nat}
    (bound : time ≤ last)
    (inLine : InLine (trace time) first second) :
    ReleasedInOrder trace last first second := by
  have unreleased : ¬ Released trace time second :=
    fun gone => ((run.books time bound).accounted
      (inLine.unowned second (Or.inr rfl)).2.2).mp gone (Or.inr (Or.inr inLine.mem_queued))
  have waits (later : Nat) (start : time ≤ later) :
      later ≤ last → InLine (trace later) first second ∨ Released trace later first := by
    induction later, start using Nat.le_induction with
    | base => exact fun _ => Or.inl inLine
    | succ later start ih =>
        intro within
        rw [released_succ]
        rcases ih (Nat.le_of_succ_le within) with waiting | gone
        · rcases waiting.hands (run.hands within) with waiting | releases
          · exact Or.inl waiting
          · exact Or.inr (Or.inr releases)
        · exact Or.inr (Or.inl gone)
  intro later within releases
  rcases Nat.lt_or_ge later time with early | late
  · exact absurd ⟨later, early, releases⟩ unreleased
  · rcases waits later late (Nat.le_of_lt within) with waiting | gone
    · exfalso
      have front := releases.letsGo.2.2
      have pair := waiting.waiting
      rcases List.head?_eq_some_iff.mp front with ⟨rest, queued⟩
      rw [queued, List.filter_cons_of_pos ((either_iff _ _ _).mpr (Or.inr rfl)),
        List.cons.injEq] at pair
      exact waiting.different pair.1.symm
    · exact gone

/-- A call that finds a context in storage and leaves it without owner has released it by the time
it returns. -/
theorem released_before_return
    (run : SessionRun trace last)
    {start finish : Nat}
    (ordered : start ≤ finish)
    (bound : finish ≤ last)
    (returned : (trace finish).stack = (trace start).stack)
    (settled : ¬ (trace start).LetsGo)
    (held : Holds (trace start).slotAt ticket)
    (lost : ¬ Holds (trace finish).slotAt ticket)
    (idle : ticket ∉ (trace start).executing) :
    ∃ moment, start ≤ moment ∧ moment < finish ∧
      Releases (trace moment) (trace (moment + 1)) ticket := by
  have books := run.books start (Nat.le_trans ordered bound)
  refine run.released_between ordered bound (Or.inl held) ?_
  rintro (found | member | member)
  · exact lost found
  · rw [executing, returned] at member
    exact idle member
  · rw [queued, returned] at member
    exact books.not_queued settled held member

/-- What a rejected connection and an accepted one do with the new context. -/
theorem issues_spec
    (run : SessionRun trace last)
    {start : Nat}
    (bound : start < last)
    {result : Except Fault Answer}
    (issues : Issues result (trace start) (trace (start + 1))) :
    (∃ fault, result = .error fault ∧
        (trace (start + 1)).slotAt = (trace start).slotAt ∧
        (trace start).world.tickets ∈ (trace (start + 1)).queued) ∨
      ∃ answer, result = .ok answer ∧
        Holds (trace (start + 1)).slotAt (trace start).world.tickets := by
  rcases issues with ⟨name, callback, priority, label, farewell, keep, executes, rfl⟩
  rcases executes.eq_execute with ⟨program, payload, started, world, stack, reached⟩
  rw [execute] at reached
  rcases connect_fields started name callback priority (some (.tracked label farewell)) keep with
    ⟨slots, queued, _, _⟩
  have sane := run.sane start (Nat.le_of_lt bound)
  rw [world, ← reached] at slots
  rw [world, ← reached] at queued
  rcases Bus.connect_spec _ sane name callback
      (some (.tracked (trace start).world.tickets label farewell)) priority with
    ⟨fault, failed, released, kept⟩ | ⟨handle, position, slot, accepted, _, context, _, placed⟩
  · refine Or.inl ⟨fault, failed, slots.trans kept, ?_⟩
    rw [queued]
    refine List.mem_append_left _ ?_
    rw [issuedContext, Option.map_some, released]
    exact List.mem_cons_self
  · refine Or.inr ⟨.connected handle, accepted, position, slot, ?_, ?_⟩
    · rw [slots]
      exact (placed position).trans (if_pos rfl)
    · rw [Slot.ticket?, context]
      rfl

/-- A cleanup leaves no slot behind. -/
theorem slotAt_of_cleanup
    {before after : Machine}
    (executes : Executes .cleanup before after)
    (position : Nat) :
    after.slotAt position = none := by
  rcases executes.eq_execute with ⟨program, payload, started, _, _, rfl⟩
  rw [execute, (apply_fields started _).1, Bus.cleanup]
  cases present : started.world.bus.registry with
  | none => exact Bus.slotAt_of_none present position
  | some registry => exact Bus.slotAt_of_none rfl position

/-- Of two slots that a move frees from one chain the first one's context is released first. -/
theorem releasedInOrder_of_freed
    (run : SessionRun trace last)
    {time left right : Nat}
    {first second : Slot}
    {ticket other : Nat}
    (bound : time < last)
    (found : (trace time).slotAt left = some first)
    (found' : (trace time).slotAt right = some second)
    (before : first.Before second)
    (named : first.ticket? = some ticket)
    (named' : second.ticket? = some other)
    (lost : ¬ Holds (trace (time + 1)).slotAt ticket)
    (lost' : ¬ Holds (trace (time + 1)).slotAt other)
    (idle : ticket ∉ (trace time).executing)
    (idle' : other ∉ (trace time).executing)
    (ordinary : ¬ Executes .cleanup (trace time) (trace (time + 1))) :
    ReleasedInOrder trace last ticket other := by
  have books := run.books time (Nat.le_of_lt bound)
  have stays (same : (trace (time + 1)).slotAt = (trace time).slotAt) : False := by
    rw [same] at lost
    exact lost ⟨left, first, found, named⟩
  have hands := run.hands bound
  cases hands with
  | @free freed settled frees queued executing tickets order =>
      have ordered := order.resolve_left ordinary
      have member : first ∈ freed := by
        rcases frees.others found with inside | ⟨later, there, outlasts⟩
        · exact inside
        · exact absurd ⟨left, later, there, outlasts.ticket?_eq.trans named⟩ lost
      have member' : second ∈ freed := by
        rcases frees.others found' with inside | ⟨later, there, outlasts⟩
        · exact inside
        · exact absurd ⟨right, later, there, outlasts.ticket?_eq.trans named'⟩ lost'
      have inLine := books.inLine settled frees queued executing tickets
        (sublist_of_pairwise Slot.Before.asymm ordered member member' before) named named' idle
        idle'
      exact run.releasedInOrder bound inLine
  | accept settled _ vacant placed =>
      exact absurd ((holds_iff_of_placed vacant placed ticket).mpr
        (Or.inr ⟨left, first, found, named⟩)) lost
  | reject _ slots | call _ _ slots | leave _ _ slots | wait _ _ _ slots | drop _ slots =>
      exact (stays slots).elim

end SessionRun

/-! ## Custody -/

/-- When contexts are released along a run, and in which order. -/
structure Custody (trace : Nat → Machine) (last : Nat) : Prop where
  /-- No context is released twice. -/
  once :
    ∀ {ticket time later}, time < last → later < last →
      Releases (trace time) (trace (time + 1)) ticket →
        Releases (trace later) (trace (later + 1)) ticket → time = later
  /-- A context is released when its slot is in no chain, tombstones included, and no emission is in
  the callback of the slot; the call that removed the slot is done with the registry. -/
  timely :
    ∀ {ticket time}, time < last → Releases (trace time) (trace (time + 1)) ticket →
      ¬ (trace time).Linked ticket ∧ ¬ (trace time).Executing ticket ∧
        (trace time).world.bus.Sane ∧
        ∀ earlier ≤ time, (trace earlier).Linked ticket →
          ∃ removal, earlier ≤ removal ∧ removal < time ∧ (trace removal).Linked ticket ∧
            ∀ later, removal < later → later ≤ last → ¬ (trace later).Linked ticket
  /-- Exactly what nobody owns any more has been released. -/
  accounted :
    ∀ {ticket time}, time ≤ last →
      (Released trace time ticket ↔
        ticket < (trace time).world.tickets ∧ ¬ (trace time).Linked ticket ∧
          ¬ (trace time).Executing ticket ∧ ticket ∉ (trace time).queued)
  /-- When nothing is left to be done, each context is either released or with its slot. -/
  settled :
    ∀ {ticket time}, time ≤ last → (trace time).stack = [] →
      ticket < (trace time).world.tickets →
        (Released trace time ticket ↔ ¬ (trace time).Linked ticket)
  /-- An accepted connection links its context. -/
  accepted :
    ∀ {start answer}, start < last → Issues (.ok answer) (trace start) (trace (start + 1)) →
      (trace (start + 1)).Linked (trace start).world.tickets
  /-- The context of a rejected connection is released before that call returns. -/
  rejected :
    ∀ {start finish fault}, start < finish → finish ≤ last →
      Issues (.error fault) (trace start) (trace (start + 1)) →
        (trace finish).stack = (trace start).stack →
          ∃ moment, start < moment ∧ moment < finish ∧
            Releases (trace moment) (trace (moment + 1)) (trace start).world.tickets
  /-- The context of a slot that a call removes, and that is not executing, is released before that
  call returns. -/
  returned :
    ∀ {operation start finish ticket}, start < finish → finish ≤ last →
      Executes operation (trace start) (trace (start + 1)) →
        (trace finish).stack = (trace start).stack →
          (trace start).Linked ticket → ¬ (trace finish).Linked ticket →
            ¬ (trace start).Executing ticket →
              ∃ moment, start ≤ moment ∧ moment < finish ∧
                Releases (trace moment) (trace (moment + 1)) ticket
  /-- After a cleanup of a session everything that was connected before it has been released. -/
  cleaned :
    ∀ {start finish ticket}, start < finish → finish ≤ last →
      Executes .cleanup (trace start) (trace (start + 1)) →
        (trace start).stack = [] → (trace finish).stack = [] →
          ticket < (trace start).world.tickets → Released trace finish ticket
  /-- Contexts that leave one chain in one move leave in its order: higher priority first, then
  earlier connection. -/
  ordered :
    ∀ {time registry index first second ticket other}, time < last →
      (trace time).world.bus.registry = some registry →
        [first, second].Sublist (registry.slotsOf index) →
          first.ticket? = some ticket → second.ticket? = some other →
            ¬ (trace (time + 1)).Linked ticket → ¬ (trace (time + 1)).Linked other →
              ¬ (trace time).Executing ticket → ¬ (trace time).Executing other →
                ¬ Executes .cleanup (trace time) (trace (time + 1)) →
                  first.Before second ∧ ReleasedInOrder trace last ticket other
  /-- Contexts that a cleanup frees leave in ascending order of their positions. -/
  ascending :
    ∀ {time registry left right first second ticket other}, time < last →
      Executes .cleanup (trace time) (trace (time + 1)) →
        (trace time).world.bus.registry = some registry →
          registry.slots.get? left = some first → registry.slots.get? right = some second →
            left < right → first.ticket? = some ticket → second.ticket? = some other →
              ¬ (trace time).Executing ticket → ¬ (trace time).Executing other →
                ReleasedInOrder trace last ticket other

namespace SessionRun

variable {trace : Nat → Machine} {last : Nat}

/-- A context is released once. -/
theorem not_released_of_releases
    (run : SessionRun trace last)
    {ticket time : Nat}
    (bound : time < last)
    (releases : Releases (trace time) (trace (time + 1)) ticket) :
    ¬ Released trace time ticket := by
  have books := run.books time (Nat.le_of_lt bound)
  have owned : (trace time).Owned ticket :=
    Or.inr (Or.inr (List.mem_of_mem_head? (Option.mem_def.mpr releases.letsGo.2.2)))
  exact fun gone => (books.accounted (books.issued owned)).mp gone owned

/-- The last move before which a context was still stored. -/
theorem removal_of_lost
    (run : SessionRun trace last)
    {ticket earlier : Nat}
    (held : Holds (trace earlier).slotAt ticket)
    (time : Nat)
    (start : earlier ≤ time) :
    time ≤ last → ¬ Holds (trace time).slotAt ticket →
      ∃ removal, earlier ≤ removal ∧ removal < time ∧ Holds (trace removal).slotAt ticket ∧
        ∀ later, removal < later → later ≤ last → ¬ Holds (trace later).slotAt ticket := by
  induction time, start using Nat.le_induction with
  | base => exact fun _ lost => absurd held lost
  | succ time start ih =>
      intro bound lost
      by_cases still : Holds (trace time).slotAt ticket
      · have books := run.books time (Nat.le_of_succ_le bound)
        have issued := Nat.lt_of_lt_of_le (books.issued (Or.inl still))
          (run.tickets_le (time + 1) (Nat.le_succ time) bound)
        exact ⟨time, start, Nat.lt_succ_self time, still, run.unheld issued lost⟩
      · rcases ih (Nat.le_of_succ_le bound) still with ⟨removal, first, before, there, gone⟩
        exact ⟨removal, first, Nat.lt_succ_of_lt before, there, gone⟩

/-- Contexts that a cleanup frees are released in the order of their positions. -/
theorem releasedInOrder_of_cleanup
    (run : SessionRun trace last)
    {time left right : Nat}
    {first second : Slot}
    {ticket other : Nat}
    (bound : time < last)
    (executes : Executes .cleanup (trace time) (trace (time + 1)))
    (found : (trace time).slotAt left = some first)
    (found' : (trace time).slotAt right = some second)
    (ascending : left < right)
    (named : first.ticket? = some ticket)
    (named' : second.ticket? = some other)
    (idle : ticket ∉ (trace time).executing)
    (idle' : other ∉ (trace time).executing) :
    ReleasedInOrder trace last ticket other := by
  have sane := run.sane time (Nat.le_of_lt bound)
  rcases executes.eq_execute with ⟨program, payload, started, world, stack, reached⟩
  rw [execute] at reached
  rcases apply_fields started started.world.bus.cleanup with ⟨slots, queues, executing, tickets⟩
  rw [← reached] at slots queues executing tickets
  rw [world] at slots queues tickets
  have sameQueued : started.queued = (trace time).queued := by
    rw [Machine.queued, stack, Machine.queued]
  have sameExecuting : started.executing = (trace time).executing := by
    rw [Machine.executing, stack, Machine.executing]
  rcases Bus.relinquishes_cleanup _ sane with ⟨freed, released, frees, order⟩
  rw [released, ticketsOf_contextsOf, sameQueued] at queues
  have freesAll : Frees (trace time).slotAt (trace (time + 1)).slotAt freed := by
    rw [slots]
    exact frees
  exact run.releasedInOrder bound
    ((run.books time (Nat.le_of_lt bound)).inLine executes.settled freesAll queues
      (executing.trans sameExecuting) tickets (order ascending found found') named named' idle
      idle')

/-- The context of a rejected connection is released before that call returns. -/
theorem released_of_rejected
    (run : SessionRun trace last)
    {start finish : Nat}
    {fault : Fault}
    (before : start < finish)
    (bound : finish ≤ last)
    (issues : Issues (.error fault) (trace start) (trace (start + 1)))
    (returned : (trace finish).stack = (trace start).stack) :
    ∃ moment, start < moment ∧ moment < finish ∧
      Releases (trace moment) (trace (moment + 1)) (trace start).world.tickets := by
  have within := Nat.lt_of_lt_of_le before bound
  have unissued : ¬ (trace start).Owned (trace start).world.tickets := fun owned =>
    Nat.lt_irrefl _ ((run.books start (Nat.le_of_lt within)).issued owned)
  rcases run.issues_spec within issues with ⟨_, _, slots, waits⟩ | ⟨_, accepted, _⟩
  · have owned : (trace (start + 1)).Owned (trace start).world.tickets := Or.inr (Or.inr waits)
    have unheld : ¬ Holds (trace (start + 1)).slotAt (trace start).world.tickets := by
      rw [slots]
      exact fun held => unissued (Or.inl held)
    have gone := run.unheld ((run.books (start + 1) within).issued owned) unheld finish before bound
    refine run.released_between before bound owned ?_
    rintro (held | member | member)
    · exact gone held
    · rw [executing, returned] at member
      exact unissued (Or.inr (Or.inl member))
    · rw [queued, returned] at member
      exact unissued (Or.inr (Or.inr member))
  · cases accepted

/-- After a cleanup of a session everything that was connected before it has been released. -/
theorem released_of_cleaned
    (run : SessionRun trace last)
    {start finish ticket : Nat}
    (before : start < finish)
    (bound : finish ≤ last)
    (executes : Executes .cleanup (trace start) (trace (start + 1)))
    (done : (trace finish).stack = [])
    (issued : ticket < (trace start).world.tickets) :
    Released trace finish ticket := by
  have within := Nat.lt_of_lt_of_le before bound
  have known := Nat.lt_of_lt_of_le issued (run.hands within).tickets_le
  have unheld : ¬ Holds (trace (start + 1)).slotAt ticket := by
    rintro ⟨position, slot, found, _⟩
    rw [slotAt_of_cleanup executes] at found
    cases found
  have gone := run.unheld known unheld finish before bound
  refine ((run.books finish bound).accounted
    (Nat.lt_of_lt_of_le known (run.tickets_le finish before bound))).mpr ?_
  rw [Owned, executing, queued, done]
  rintro (held | member | member)
  · exact gone held
  · cases member
  · cases member

/-- The two slots of a pair in a chain are stored, the one in front going before the other. -/
theorem before_of_slotsOf
    {registry : Registry}
    (formed : registry.WellFormed)
    {index : Nat}
    {first second : Slot}
    (order : [first, second].Sublist (registry.slotsOf index)) :
    first.Before second ∧
      (∃ left, Registry.contentAt registry.slots left = some first.content) ∧
      ∃ right, Registry.contentAt registry.slots right = some second.content := by
  have stored {slot : Slot} (member : slot ∈ registry.slotsOf index) :
      ∃ position, Registry.contentAt registry.slots position = some slot.content := by
    rcases List.mem_filterMap.mp member with ⟨position, _, found⟩
    exact ⟨position, Registry.contentAt_of_get? found⟩
  have contents := order.map Slot.content
  rw [Registry.map_content_slotsOf] at contents
  have pair := (formed.ordered index).sublist contents
  rw [List.map_cons, List.map_cons, List.map_nil, List.pairwise_pair] at pair
  exact ⟨pair, stored (order.subset List.mem_cons_self),
    stored (order.subset (List.mem_pair.mpr (Or.inr rfl)))⟩

/-- Custody of contexts holds along every run from the start of a session. -/
theorem custody (run : SessionRun trace last) : Custody trace last := by
  have linked {time : Nat} (bound : time ≤ last) (ticket : Nat) :
      (trace time).Linked ticket ↔ Holds (trace time).slotAt ticket :=
    linked_iff (run.sane time bound) ticket
  have accounted {time : Nat} (bound : time ≤ last) (ticket : Nat) :
      Released trace time ticket ↔
        ticket < (trace time).world.tickets ∧ ¬ (trace time).Linked ticket ∧
          ¬ (trace time).Executing ticket ∧ ticket ∉ (trace time).queued := by
    have books := run.books time bound
    rw [linked bound, executing_iff]
    constructor
    · intro gone
      have issued := books.past gone
      have unowned := (books.accounted issued).mp gone
      rw [Owned, not_or, not_or] at unowned
      exact ⟨issued, unowned⟩
    · rintro ⟨issued, unowned⟩
      rw [books.accounted issued, Owned, not_or, not_or]
      exact unowned
  refine
    { once := ?_, timely := ?_, accounted := fun bound => accounted bound _, settled := ?_,
      accepted := ?_, rejected := ?_, returned := ?_, cleaned := ?_, ordered := ?_,
      ascending := ?_ }
  · intro ticket time later bound bound' releases releases'
    rcases Nat.lt_trichotomy time later with early | same | late
    · exact absurd ⟨time, early, releases⟩ (run.not_released_of_releases bound' releases')
    · exact same
    · exact absurd ⟨later, late, releases'⟩ (run.not_released_of_releases bound releases)
  · intro ticket time bound releases
    have within := Nat.le_of_lt bound
    rcases (run.hands bound).of_releases releases with ⟨lost, slots, executing⟩
    rw [Owned, slots, executing, not_or, not_or] at lost
    rw [linked within, executing_iff]
    refine ⟨lost.1, lost.2.1, run.sane time within, ?_⟩
    intro earlier start held
    rw [linked (Nat.le_trans start within)] at held
    rcases run.removal_of_lost held time start within lost.1 with
      ⟨removal, first, before, there, gone⟩
    refine ⟨removal, first, before, ?_, ?_⟩
    · rw [linked (Nat.le_trans (Nat.le_of_lt before) within)]
      exact there
    · intro later after inside
      rw [linked inside]
      exact gone later after inside
  · intro ticket time bound idle issued
    rw [accounted bound, executing_iff, executing, queued, idle]
    exact ⟨fun known => known.2.1, fun unlinked => ⟨issued, unlinked, List.not_mem_nil,
      List.not_mem_nil⟩⟩
  · intro start answer bound issues
    rcases run.issues_spec bound issues with ⟨fault, failed, _⟩ | ⟨_, _, held⟩
    · cases failed
    · rw [linked bound]
      exact held
  · intro start finish fault before bound issues returned
    exact run.released_of_rejected before bound issues returned
  · intro operation start finish ticket before bound executes returned held lost idle
    rw [linked (Nat.le_trans (Nat.le_of_lt before) bound)] at held
    rw [linked bound] at lost
    rw [executing_iff] at idle
    exact run.released_before_return (Nat.le_of_lt before) bound returned executes.settled held
      lost idle
  · intro start finish ticket before bound executes _ done issued
    exact run.released_of_cleaned before bound executes done issued
  · intro time registry index first second ticket other bound present order named named' lost lost'
      idle idle' ordinary
    have within := Nat.le_of_lt bound
    rcases before_of_slotsOf ((run.sane time within).registry present).formed order with
      ⟨goes, ⟨left, found⟩, right, found'⟩
    rw [← Bus.slotAt_of_some present] at found found'
    rw [linked bound] at lost lost'
    rw [executing_iff] at idle idle'
    exact ⟨goes, run.releasedInOrder_of_freed bound found found' goes named named' lost lost' idle
      idle' ordinary⟩
  · intro time registry left right first second ticket other bound executes present stored stored'
      ascending named named' idle idle'
    rw [executing_iff] at idle idle'
    have found : (trace time).slotAt left = some first.content :=
      Bus.slotAt_of_get? present stored
    have found' : (trace time).slotAt right = some second.content :=
      Bus.slotAt_of_get? present stored'
    exact run.releasedInOrder_of_cleanup bound executes found found' ascending named named' idle
      idle'

end SessionRun

/-- One move of a session that has operations still to perform. -/
def advance (program : Program) : Machine × List Operation → Machine × List Operation
  | (machine, operation :: rest) =>
      if machine.stack = [] ∧ machine.control ≠ .aborted then
        (machine.perform program operation, rest)
      else (machine.step program, operation :: rest)
  | (machine, []) => (machine.step program, [])

/-- The states that a new session comes to when it performs some operations. -/
def states
    (program : Program)
    (backend : Backend)
    (operations : List Operation)
    (time : Nat) :
    Machine :=
  ((advance program)^[time] (initial backend {}, operations)).1

theorem move_advance (program : Program) (state : Machine × List Operation) :
    Move state.1 (advance program state).1 := by
  rcases state with ⟨machine, _ | ⟨operation, rest⟩⟩
  · exact .step program machine
  · rw [advance]
    split
    next ready => exact .perform program operation ready.1 ready.2
    next => exact .step program machine

/-- Every session is such a run. -/
theorem sessionRun_states
    (program : Program)
    (backend : Backend)
    (operations : List Operation)
    (last : Nat) :
    SessionRun (states program backend operations) last := by
  refine ⟨⟨backend, {}, rfl⟩, ?_⟩
  intro time _
  rw [states, states, Function.iterate_succ_apply']
  exact move_advance program _

/-- Two slots on one signal, of which the one in front disconnects itself, then a cleanup. -/
def parting : Nat → Machine :=
  states
    { routines := [{ commands := [{ label := "leave", operation := .disconnect "signal" 0 }] }] }
    (.pool 1 2)
    [.init, .register "signal" none none,
      .connect "signal" 0 none (some (.tracked "first" 1)) .nowhere,
      .connect "signal" 1 none (some (.tracked "second" 1)) .nowhere,
      .emit ⟨"signal", .void⟩, .cleanup]

/-- At its end both contexts have been released. -/
theorem custody_parting :
    SessionRun parting 38 ∧ Custody parting 38 ∧ Released parting 38 0 ∧ Released parting 38 1 := by
  have run : SessionRun parting 38 := sessionRun_states _ _ _ _
  have custody := run.custody
  have idle : (parting 38).stack = [] := by decide +kernel
  have tickets : (parting 38).world.tickets = 2 := by decide +kernel
  have absent : (parting 38).world.bus.registry = none := by decide +kernel
  have unlinked (ticket : Nat) : ¬ (parting 38).Linked ticket := by
    rintro ⟨registry, _, _, present, _⟩
    rw [absent] at present
    cases present
  have released (ticket : Nat) (issued : ticket < 2) : Released parting 38 ticket :=
    (custody.settled (Nat.le_refl _) idle (tickets ▸ issued)).mpr (unlinked ticket)
  exact ⟨run, custody, released 0 Nat.zero_lt_two, released 1 Nat.one_lt_two⟩

end SignalDispatch.Machine
