import SignalDispatch.Proofs.Bus.Disconnection
import SignalDispatch.Proofs.Machine.Sparing
import SignalDispatch.Proofs.Machine.StaleCalls
import Mathlib.Order.Interval.Finset.Nat
import Mathlib.Data.Nat.Count

/-!
# Handles along a run

On storage that keeps its reservations a handle is drawn exactly by a connection that is made, so
the connections of a run are numbered without gaps, whatever fails, is unregistered or is cleaned up
in between.  `SessionRun.inPlace` traces every live slot back to the connection that stored it, and
with it `HandlesHold` says what disconnecting by handle does in every state: it finds the slot of
that handle as long as it is live, takes away that slot alone, and finds nothing ever after.
-/

namespace SignalDispatch.Machine

/-- A connection is made in a move, and this is its handle. -/
def Connects (handle : Handle) (before after : Machine) : Prop :=
  ∃ name callback priority request keep,
    Executes (.connect name callback priority request keep) before after ∧
      (before.world.bus.connect name callback (issuedContext request before.world.tickets)
        priority).result = .ok (.connected handle)

/-- A connection is made in a move, and this is the slot that it stores at a position. -/
def Places (position : Nat) (slot : Slot) (before after : Machine) : Prop :=
  ∃ name callback priority request keep effect,
    Executes (.connect name callback priority request keep) before after ∧
      effect =
        before.world.bus.connect name callback (issuedContext request before.world.tickets)
          priority ∧
      before.world.bus.Accepts name callback (issuedContext request before.world.tickets) priority
        effect position slot ∧
      after.world.bus = effect.bus

/-- The slot of a connection has been at its position, live, ever since the connection was made. -/
def InPlace (trace : Nat → Machine) (time position : Nat) (slot : Slot) : Prop :=
  ∃ moment < time,
    Places position slot (trace moment) (trace (moment + 1)) ∧
      ∀ later, moment < later → later ≤ time → (trace later).slotAt position = some slot

open Classical in
/-- The number of connections made before a time. -/
noncomputable def connections (trace : Nat → Machine) (time : Nat) : Nat :=
  Nat.count (fun moment => ∃ handle, Connects handle (trace moment) (trace (moment + 1))) time

/-! ## One move -/

/-- A connection that is started is the call on the bus. -/
theorem Executes.connect_bus
    {name : String}
    {callback : RoutineId}
    {priority : Option Priority}
    {request : Option ContextRequest}
    {keep : KeepRequest}
    {before after : Machine}
    (executes : Executes (.connect name callback priority request keep) before after) :
    after.world.bus =
      (before.world.bus.connect name callback (issuedContext request before.world.tickets)
        priority).bus := by
  rcases executes.eq_execute with ⟨program, payload, started, world, _, reached⟩
  rcases connect_eq_apply started name callback priority request keep with ⟨_, _, same, _⟩
  rw [reached, execute, same, world_apply, world]

section Move

variable {before after : Machine} {position : Nat} {slot : Slot} {handle : Handle}

theorem Places.handle_eq (places : Places position slot before after) :
    slot.handle = ⟨before.world.bus.nextHandle⟩ := by
  rcases places with ⟨_, _, _, _, _, _, _, _, accepts, _⟩
  rcases accepts.slot_eq with ⟨_, _, _, _, _, _, rfl⟩
  rfl

theorem Places.live (places : Places position slot before after) : slot.removed = false := by
  rcases places with ⟨_, _, _, _, _, _, _, _, accepts, _⟩
  rcases accepts.slot_eq with ⟨_, _, _, _, _, _, rfl⟩
  rfl

theorem Places.nextHandle_eq (places : Places position slot before after) :
    after.world.bus.nextHandle = before.world.bus.nextHandle + 1 := by
  rcases places with ⟨_, _, _, _, _, _, _, _, accepts, bus⟩
  rw [bus]
  exact accepts.nextHandle

theorem Places.stored (places : Places position slot before after) :
    after.slotAt position = some slot := by
  rcases places with ⟨_, _, _, _, _, _, _, _, accepts, bus⟩
  rw [slotAt, bus, accepts.stored, if_pos rfl]

/-- A connection that is made places a slot. -/
theorem Connects.places
    (connects : Connects handle before after)
    (sane : before.world.bus.Sane)
    (housed : before.world.bus.Housed)
    (reliable : before.world.bus.backend.slots.Reliable) :
    ∃ position slot, Places position slot before after ∧ slot.handle = handle := by
  rcases connects with ⟨name, callback, priority, request, keep, executes, result⟩
  rcases Bus.connect_outcome sane housed reliable name callback
      (issuedContext request before.world.tickets) priority with
    ⟨fault, rejected⟩ | ⟨position, slot, accepts⟩
  · rw [rejected] at result
    cases result
  · have places : Places position slot before after :=
      ⟨name, callback, priority, request, keep, _, executes, rfl, accepts, executes.connect_bus⟩
    refine ⟨position, slot, places, ?_⟩
    rw [accepts.result] at result
    cases result
    exact places.handle_eq

/-- A move that makes no connection draws no handle. -/
theorem Move.nextHandle_eq
    (move : Move before after)
    (sane : before.world.bus.Sane)
    (housed : before.world.bus.Housed)
    (reliable : before.world.bus.backend.slots.Reliable)
    (unconnected : ¬ ∃ handle, Connects handle before after) :
    after.world.bus.nextHandle = before.world.bus.nextHandle := by
  cases move.deals with
  | @executes operation executes undertakes =>
      generalize reached : after.world.bus = bus at undertakes ⊢
      cases undertakes with
      | spares spares => exact spares.nextHandle
      | cleanup => exact before.world.bus.cleanup_contained.2.2.1
      | interrupt => rfl
      | @connect name callback priority request keep =>
          rcases Bus.connect_outcome sane housed reliable name callback
              (issuedContext request before.world.tickets) priority with
            ⟨fault, rejected⟩ | ⟨position, slot, accepts⟩
          · rw [rejected]
          · exact absurd ⟨_, name, callback, priority, request, keep, executes, accepts.result⟩
              unconnected
  | spares spares => exact spares.nextHandle
  | takes _ _ _ spares => exact spares.nextHandle

end Move

/-! ## Runs -/

namespace SessionRun

variable {trace : Nat → Machine} {last : Nat}

/-- All along a run the registry is housed on the backend that the session started with. -/
theorem housed (session : SessionRun trace last) :
    ∀ time ≤ last, (trace time).world.bus.Housed ∧
      (trace time).world.bus.backend = (trace 0).world.bus.backend := by
  intro time
  induction time with
  | zero =>
      rcases session.starts with ⟨backend, config, start⟩
      rw [start]
      exact fun _ => ⟨Bus.housed_of_none rfl, rfl⟩
  | succ time ih =>
      intro bound
      rcases ih (Nat.le_of_succ_le bound) with ⟨housed, backend⟩
      have move := session.moves time bound
      exact ⟨move.housed housed, move.deals.backend.trans backend⟩

variable (session : SessionRun trace last)
  (reliable : (trace 0).world.bus.backend.slots.Reliable)

include session reliable

theorem reliable_at {time : Nat} (bound : time ≤ last) :
    (trace time).world.bus.backend.slots.Reliable := by
  rw [(session.housed time bound).2]
  exact reliable

/-- The next handle counts the connections that were made. -/
theorem nextHandle_eq :
    ∀ time ≤ last, (trace time).world.bus.nextHandle = connections trace time + 1 := by
  intro time
  induction time with
  | zero =>
      rcases session.starts with ⟨backend, config, start⟩
      rw [start, connections, Nat.count_zero]
      exact fun _ => rfl
  | succ time ih =>
      intro bound
      have within := Nat.le_of_succ_le bound
      have sane := session.sane time within
      have housed := (session.housed time within).1
      have reliable := session.reliable_at reliable within
      rw [connections, Nat.count_succ, ← connections]
      by_cases made : ∃ handle, Connects handle (trace time) (trace (time + 1))
      · rcases made with ⟨handle, connects⟩
        rcases connects.places sane housed reliable with ⟨position, slot, places, _⟩
        rw [places.nextHandle_eq, ih within, if_pos ⟨handle, connects⟩]
      · rw [(session.moves time bound).nextHandle_eq sane housed reliable made, ih within,
          if_neg made]

/-- A live slot is in place since the connection that stored it. -/
theorem inPlace :
    ∀ time ≤ last, ∀ position slot, (trace time).slotAt position = some slot →
      slot.removed = false → InPlace trace time position slot := by
  intro time
  induction time with
  | zero =>
      intro _ position slot found
      rcases session.starts with ⟨backend, config, start⟩
      rw [start, slotAt, Bus.slotAt_of_none rfl] at found
      cases found
  | succ time ih =>
      intro bound position slot found live
      have within := Nat.le_of_succ_le bound
      have sane := session.sane time within
      have saneAfter := session.sane (time + 1) bound
      have move := session.moves time bound
      rcases (move.coherent (session.run.coherent (Nat.zero_le time) within)).2 with
        ⟨depth, retains⟩
      rcases retains.slots found with ⟨earlier, there, rfl | rfl⟩ | ⟨_, fresh, _⟩
      · -- it was there before
        rcases ih within position _ there live with ⟨moment, past, places, stays⟩
        refine ⟨moment, Nat.lt_succ_of_lt past, places, ?_⟩
        intro later after upTo
        rcases Nat.lt_or_eq_of_le upTo with sooner | rfl
        · exact stays later after (Nat.le_of_lt_succ sooner)
        · exact found
      · cases live
      · -- its handle is new, so the move made the connection
        have drawn := saneAfter.handles found
        have housed := (session.housed time within).1
        have reliable := session.reliable_at reliable within
        by_cases made : ∃ handle, Connects handle (trace time) (trace (time + 1))
        · rcases made with ⟨handle, connects⟩
          rcases connects.places sane housed reliable with ⟨other, placed, places, _⟩
          have same : placed.handle = slot.handle := by
            rw [places.nextHandle_eq] at drawn
            have number : (trace time).world.bus.nextHandle = slot.handle.number := by omega
            rw [places.handle_eq, number]
          have here := saneAfter.handles_apart places.stored found same
          subst here
          have equal := places.stored.symm.trans found
          rw [Option.some.injEq] at equal
          subst equal
          refine ⟨time, Nat.lt_succ_self time, places, ?_⟩
          intro later after upTo
          rw [Nat.le_antisymm upTo after]
          exact found
        · rw [move.nextHandle_eq sane housed reliable made] at drawn
          omega

end SessionRun

/-- What handles are good for along a run. -/
structure HandlesHold (trace : Nat → Machine) (last : Nat) : Prop where
  /-- The n-th connection that is made has handle n. -/
  numbered :
    ∀ {time handle}, time < last → Connects handle (trace time) (trace (time + 1)) →
      handle.number = connections trace time + 1
  /-- Disconnecting succeeds exactly by the handle of a connection whose slot is still live. -/
  found_iff :
    ∀ {time} handle, time ≤ last →
      (((trace time).world.bus.disconnectHandle handle).result = .ok .done ↔
        ∃ position slot, slot.handle = handle ∧ InPlace trace time position slot)
  /-- It removes that slot and nothing else. -/
  removes :
    ∀ {time position slot}, time ≤ last → InPlace trace time position slot →
      (trace time).world.bus.Removes
        ((trace time).world.bus.disconnectHandle slot.handle).bus position slot
  /-- A handle that once names no live slot of the connection it was issued for never does again. -/
  dead :
    ∀ {issued time later handle}, issued < time → time ≤ later → later ≤ last →
      Connects handle (trace issued) (trace (issued + 1)) →
        ((trace time).world.bus.disconnectHandle handle).result ≠ .ok .done →
          ((trace later).world.bus.disconnectHandle handle).result ≠ .ok .done
  /-- No two successful disconnections of a run have the same handle. -/
  once :
    ∀ {time later source source'}, time < last → later < last →
      Executes (.disconnectHandle source) (trace time) (trace (time + 1)) →
        Executes (.disconnectHandle source') (trace later) (trace (later + 1)) →
          (trace time).world.handleOf source = (trace later).world.handleOf source' →
            ((trace time).world.bus.disconnectHandle
                ((trace time).world.handleOf source)).result = .ok .done →
              ((trace later).world.bus.disconnectHandle
                  ((trace later).world.handleOf source')).result = .ok .done →
                time = later
  /-- Every other nonzero handle is not found on an initialized bus, which stays as it is. -/
  not_found :
    ∀ {time handle}, time ≤ last → (trace time).world.bus.isInitialized →
      handle.number ≠ 0 →
        ((trace time).world.bus.disconnectHandle handle).result ≠ .ok .done →
          ∃ fault, fault.kind = .notFound ∧
            (trace time).world.bus.disconnectHandle handle = (trace time).world.bus.failing fault
  /-- Handle 0 is an invalid argument in every state. -/
  invalid :
    ∀ time, ∃ fault, fault.kind = .invalidArgument ∧
      (trace time).world.bus.disconnectHandle ⟨0⟩ = (trace time).world.bus.failing fault

namespace SessionRun

variable {trace : Nat → Machine} {last : Nat}

/-- A slot in place is live. -/
theorem live_of_inPlace {time position : Nat} {slot : Slot}
    (inPlace : InPlace trace time position slot) :
    (trace time).world.bus.Live slot.handle position slot := by
  rcases inPlace with ⟨moment, past, places, stays⟩
  exact ⟨stays time past (Nat.le_refl _), rfl, places.live⟩

variable (session : SessionRun trace last)
  (reliable : (trace 0).world.bus.backend.slots.Reliable)

include session reliable

/-- Disconnecting by the handle of a slot in place removes that slot, and nothing else succeeds. -/
theorem disconnectHandle_outcome {time : Nat} (bound : time ≤ last) (handle : Handle) :
    (∃ position slot, slot.handle = handle ∧ InPlace trace time position slot ∧
        ((trace time).world.bus.disconnectHandle handle).result = .ok .done ∧
        (trace time).world.bus.Removes ((trace time).world.bus.disconnectHandle handle).bus
          position slot) ∨
      (∀ position slot, slot.handle = handle → ¬ InPlace trace time position slot) ∧
        ∃ fault,
          (trace time).world.bus.disconnectHandle handle = (trace time).world.bus.failing fault ∧
            ((trace time).world.bus.isInitialized → handle.number ≠ 0 → fault.kind = .notFound) ∧
            (handle.number = 0 → fault.kind = .invalidArgument) := by
  by_cases zero : handle.number = 0
  · have same : handle = ⟨0⟩ := by rw [← zero]
    subst same
    refine Or.inr ⟨?_, _, Bus.disconnectHandle_zero _, fun _ issued => absurd rfl issued,
      fun _ => rfl⟩
    rintro position slot same ⟨moment, past, places, _⟩
    have within := Nat.le_of_lt (Nat.lt_of_lt_of_le past bound)
    rw [places.handle_eq, session.nextHandle_eq reliable moment within] at same
    cases same
  · have valid : handle.isValid := by simpa [Handle.isValid] using zero
    cases present : (trace time).world.bus.registry with
    | none =>
        refine Or.inr ⟨?_, _, Bus.disconnectHandle_of_none present valid, ?_,
          fun unissued => absurd unissued zero⟩
        · intro position slot _ inPlace
          have found := (live_of_inPlace inPlace).stored
          rw [Bus.slotAt_of_none present] at found
          cases found
        · intro initialized
          rw [Bus.isInitialized, present] at initialized
          cases initialized
    | some registry =>
        rcases (session.sane time bound).disconnectHandle_outcome present valid with
          ⟨position, slot, live, done, removes⟩ | ⟨nobody, missing⟩
        · exact Or.inl ⟨position, slot, live.handle_eq,
            session.inPlace reliable time bound position slot live.stored live.live, done, removes⟩
        · refine Or.inr ⟨?_, _, missing, fun _ _ => rfl, fun unissued => absurd unissued zero⟩
          rintro position slot rfl inPlace
          exact nobody position slot (live_of_inPlace inPlace)

theorem found_iff {time : Nat} (bound : time ≤ last) (handle : Handle) :
    ((trace time).world.bus.disconnectHandle handle).result = .ok .done ↔
      ∃ position slot, slot.handle = handle ∧ InPlace trace time position slot := by
  rcases session.disconnectHandle_outcome reliable bound handle with
    ⟨position, slot, same, inPlace, done, _⟩ | ⟨nobody, fault, failing, _⟩
  · exact ⟨fun _ => ⟨position, slot, same, inPlace⟩, fun _ => done⟩
  · constructor
    · intro done
      rw [failing] at done
      cases done
    · rintro ⟨position, slot, same, inPlace⟩
      exact absurd inPlace (nobody position slot same)

/-- A handle that was issued and is not found is retired. -/
theorem retired_of_not_found
    {issued time : Nat}
    {handle : Handle}
    (past : issued < time)
    (bound : time ≤ last)
    (connects : Connects handle (trace issued) (trace (issued + 1)))
    (missing : ((trace time).world.bus.disconnectHandle handle).result ≠ .ok .done) :
    (trace time).world.bus.Retired handle := by
  classical
  have within := Nat.le_of_lt (Nat.lt_of_lt_of_le past bound)
  constructor
  · rcases connects.places (session.sane issued within) (session.housed issued within).1
      (session.reliable_at reliable within) with ⟨position, slot, places, rfl⟩
    have counted : connections trace issued < connections trace time :=
      Nat.count_strict_mono ⟨_, connects⟩ past
    rw [places.handle_eq, session.nextHandle_eq reliable issued within,
      session.nextHandle_eq reliable time bound]
    exact Nat.succ_lt_succ counted
  · intro position slot found same
    by_contra live
    have inPlace := session.inPlace reliable time bound position slot found
      (Bool.eq_false_iff.mpr live)
    exact missing ((session.found_iff reliable bound handle).mpr ⟨position, slot, same, inPlace⟩)

/-- Nothing is found by a retired handle. -/
theorem not_found_of_retired
    {time : Nat}
    {handle : Handle}
    (bound : time ≤ last)
    (retired : (trace time).world.bus.Retired handle) :
    ((trace time).world.bus.disconnectHandle handle).result ≠ .ok .done := by
  intro done
  rcases (session.found_iff reliable bound handle).mp done with ⟨position, slot, rfl, inPlace⟩
  have live := live_of_inPlace inPlace
  have gone := retired.dead live.stored rfl
  rw [live.live] at gone
  cases gone

/-- After a successful disconnection nothing is found by the handle. -/
theorem not_found_after
    {time later : Nat}
    {source : HandleSource}
    (executes : Executes (.disconnectHandle source) (trace time) (trace (time + 1)))
    (done :
      ((trace time).world.bus.disconnectHandle ((trace time).world.handleOf source)).result =
        .ok .done)
    (after : time < later)
    (bound : later ≤ last) :
    ((trace later).world.bus.disconnectHandle ((trace time).world.handleOf source)).result ≠
      .ok .done := by
  have within := Nat.le_of_lt (Nat.lt_of_lt_of_le after bound)
  have retired := executes.retired (session.sane time within) (.disconnectHandle done)
  have rest := session.run.part (Nat.zero_le (time + 1)) after bound
  exact session.not_found_of_retired reliable bound
    (rest.retired retired later after (Nat.le_refl _))

/-- Handles hold along every run on storage that keeps its reservations. -/
theorem handlesHold : HandlesHold trace last := by
  refine
    { numbered := ?_, found_iff := fun handle bound => session.found_iff reliable bound handle,
      removes := ?_, dead := ?_, once := ?_, not_found := ?_,
      invalid := fun time => ⟨_, rfl, Bus.disconnectHandle_zero _⟩ }
  · intro time handle bound connects
    have within := Nat.le_of_lt bound
    rcases connects.places (session.sane time within) (session.housed time within).1
      (session.reliable_at reliable within) with ⟨position, slot, places, rfl⟩
    rw [places.handle_eq]
    exact session.nextHandle_eq reliable time within
  · intro time position slot bound inPlace
    have live := live_of_inPlace inPlace
    rcases session.disconnectHandle_outcome reliable bound slot.handle with
      ⟨other, found, same, there, _, removes⟩ | ⟨nobody, _⟩
    · have stored := (live_of_inPlace there).stored
      have here := (session.sane time bound).handles_apart stored live.stored same
      subst here
      rw [live.stored, Option.some.injEq] at stored
      subst stored
      exact removes
    · exact absurd inPlace (nobody position slot rfl)
  · intro issued time later handle past ordered bound connects missing
    have within := Nat.le_trans ordered bound
    have retired := session.retired_of_not_found reliable past within connects missing
    have rest := session.run.part (Nat.zero_le time) ordered bound
    exact session.not_found_of_retired reliable bound
      (rest.retired retired later ordered (Nat.le_refl _))
  · intro time later source source' bound bound' executes executes' same done done'
    rcases Nat.lt_trichotomy time later with sooner | equal | after
    · rw [← same] at done'
      exact absurd done'
        (session.not_found_after reliable executes done sooner (Nat.le_of_lt bound'))
    · exact equal
    · rw [same] at done
      exact absurd done
        (session.not_found_after reliable executes' done' after (Nat.le_of_lt bound))
  · intro time handle bound initialized issued missing
    rcases session.disconnectHandle_outcome reliable bound handle with
      ⟨_, _, _, _, done, _⟩ | ⟨_, fault, failing, kind, _⟩
    · exact absurd done missing
    · exact ⟨fault, kind initialized issued, failing⟩

end SessionRun

/-- Connections before and after a cleanup, some of which fail: the name is unknown, or the pool is
full. -/
def reconnecting : Nat → Machine :=
  states {} (.pool 1 1)
    [.init, .register "signal" none none, .connect "signal" 0 none none (.under "first"),
      .connect "other" 0 none none .nowhere, .connect "signal" 1 none none .nowhere, .cleanup,
      .init, .register "signal" none none, .connect "signal" 0 none none (.under "second")]

/-- The second connection has handle 2, and handle 1 stays dead. -/
theorem handlesHold_reconnecting :
    HandlesHold reconnecting 40 ∧ (reconnecting 40).world.kept = [("second", ⟨2⟩), ("first", ⟨1⟩)] ∧
      ((reconnecting 40).world.bus.disconnectHandle ⟨1⟩).result ≠ .ok .done := by
  have session : SessionRun reconnecting 40 := sessionRun_states _ _ _ _
  exact ⟨session.handlesHold (StoragePolicy.reliable_pool 1), by decide +kernel, by decide +kernel⟩

end SignalDispatch.Machine
