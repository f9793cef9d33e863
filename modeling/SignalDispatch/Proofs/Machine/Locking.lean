import SignalDispatch.Proofs.Machine.Backends

/-!
# Calls under the guard

While the guard of a bus is on, a call waits until no other thread is inside, and then holds a token
until it is over.  The lock behind the guard is re-entrant, every turning on makes a new one, and a
call keeps the lock that it has entered even if the guard is turned off meanwhile.

`Machine.advanceGuarded` is a move of a session that takes the tokens too; it is blocked where a
call would have to wait.  A session that is alone is never blocked, so that its moves are the moves
of the session (`guardedSession_eq`), and it leaves every lock that it entered
(`guardedSession_free`).
-/

namespace SignalDispatch

/-- The number of a thread. -/
abbrev ThreadId := Nat

/-! ## Re-entrant locks -/

/-- A lock: the thread that is inside, and how often it has entered.

The guard is built on the re-entrant mutex of a lock library.  What is said of it here is what that
library documents: the thread that holds the mutex may take it again, any other waits, and it is
free again when it has been left as often as it was entered. -/
structure ReentrantLock where
  holder : Option ThreadId := none
  entries : Nat := 0
  deriving DecidableEq, Repr, Inhabited

namespace ReentrantLock

/-- Enter once more; none if the thread has to wait for another one. -/
def enter? (lock : ReentrantLock) (thread : ThreadId) : Option ReentrantLock :=
  match lock.holder with
  | none => some { holder := some thread, entries := 1 }
  | some inside =>
      if inside = thread then some { lock with entries := lock.entries + 1 } else none

/-- Leave once; the last one out frees the lock. -/
def leave (lock : ReentrantLock) : ReentrantLock :=
  if lock.entries ≤ 1 then {} else { lock with entries := lock.entries - 1 }

/-- The lock that a thread has entered so many times. -/
def entered (thread : ThreadId) (entries : Nat) : ReentrantLock :=
  if entries = 0 then {} else { holder := some thread, entries := entries }

/-- A thread waits exactly for the others. -/
theorem enter?_eq_none_iff (lock : ReentrantLock) (thread : ThreadId) :
    lock.enter? thread = none ↔ ∃ inside, lock.holder = some inside ∧ inside ≠ thread := by
  rcases lock with ⟨holder, entries⟩
  cases holder with
  | none => simp [enter?]
  | some inside => simp [enter?]

theorem enter?_entered (thread : ThreadId) (entries : Nat) :
    (entered thread entries).enter? thread = some (entered thread (entries + 1)) := by
  cases entries with
  | zero => rfl
  | succ entries => simp [entered, enter?]

theorem leave_entered (thread : ThreadId) (entries : Nat) :
    (entered thread (entries + 1)).leave = entered thread entries := by
  cases entries with
  | zero => rfl
  | succ entries => simp [entered, leave]

end ReentrantLock

/-! ## Tokens -/

/-- What a call holds while it is inside a lock. -/
structure Token where
  /-- The lock that was entered. -/
  lock : Nat
  /-- The number of frames below the call. -/
  floor : Nat
  /-- Whether the call leaves before its fault is reported. -/
  reports : Bool
  deriving DecidableEq, Repr, Inhabited

/-- Whether the call of a token is over: the frames of the call are gone, or what is left of it is
the report of its fault. -/
def Token.ended (stack : List Frame) (token : Token) : Bool :=
  stack.length ≤ token.floor ||
    match stack with
    | .reject _ :: below => token.reports && below.length == token.floor
    | _ => false

/-- The locks of one bus, as far as one thread knows them. -/
structure Locks where
  /-- Every lock that was made. -/
  made : List ReentrantLock := []
  /-- The lock behind the guard, while it is on. -/
  current : Option Nat := none
  /-- The tokens that are held, the newest in front. -/
  tokens : List Token := []
  deriving DecidableEq, Repr, Inhabited

namespace Locks

/-- Turning the guard on makes a new lock, turning it off forgets the lock for later calls. -/
def follow (locks : Locks) (enabled : Bool) : Locks :=
  match enabled, locks.current with
  | true, none => { locks with made := locks.made ++ [{}], current := some locks.made.length }
  | false, some _ => { locks with current := none }
  | _, _ => locks

/-- A call takes a token, if the guard is on; none if it has to wait. -/
def enter? (locks : Locks) (thread : ThreadId) (floor : Nat) (reports : Bool) : Option Locks :=
  match locks.current with
  | none => some locks
  | some index =>
      (locks.made[index]?.bind fun lock => lock.enter? thread).map fun lock =>
        { locks with
          made := locks.made.set index lock
          tokens := { lock := index, floor := floor, reports := reports } :: locks.tokens }

/-- Calls that are over give back their tokens, the newest first. -/
def giveBack (ended : Token → Bool) (made : List ReentrantLock) :
    List Token → List ReentrantLock × List Token
  | [] => (made, [])
  | token :: rest =>
      if ended token then giveBack ended (made.modify token.lock ReentrantLock.leave) rest
      else (made, token :: rest)

/-- The locks after a move that led to a stack. -/
def leave (locks : Locks) (stack : List Frame) : Locks :=
  let (made, tokens) := giveBack (Token.ended stack) locks.made locks.tokens
  { locks with made := made, tokens := tokens }

/-- Nobody but one thread is inside a lock, once for each of its tokens. -/
structure HeldBy (thread : ThreadId) (locks : Locks) : Prop where
  current : ∀ index, locks.current = some index → index < locks.made.length
  entered :
    ∀ index lock, locks.made[index]? = some lock →
      lock = ReentrantLock.entered thread (locks.tokens.countP fun token => token.lock = index)
  known : ∀ token ∈ locks.tokens, token.lock < locks.made.length

end Locks

/-! ## Guarded moves -/

/-- Whether an operation takes a token, and if so, whether it leaves before a fault is reported. -/
def Operation.guarding? (payload : Payload) : Operation → Option Bool
  | init => some false
  | cleanup => some false
  | contains _ => some false
  | count => some false
  | listing => some false
  | flush => some false
  | resetTiming => some false
  | resetPeak => some false
  | register _ _ _ => some true
  | unregister _ => some true
  | connect _ _ _ _ _ => some true
  | disconnect _ _ => some true
  | disconnectHandle _ => some true
  | disconnectAll _ => some true
  | emit _ => some true
  | emitIn _ _ => some true
  | forward _ => some true
  | emitDown (.name _) => if 0 < payload.intOr 0 then some true else none
  | defer _ => some true
  | forwardDeferred _ => some true
  | timing _ => some true
  | memoryStats => some true
  | _ => none

namespace Machine

/-- Whether the next step starts a call that takes a token.  Draining interrupts and emitting a
batch take one for each emission, flushing does not. -/
def guarding? (machine : Machine) : Option Bool :=
  match machine.control, machine.stack with
  | .proceed, .routine (command :: rest) payload turn :: _ =>
      (Frame.routine (command :: rest) payload turn).issued?.bind (Operation.guarding? payload)
  | .proceed, .drain position _ :: _ =>
      (machine.world.bus.interrupts.take? position).map fun _ => true
  | .proceed, .batch (_ :: _) _ :: _ => some true
  | _, _ => none

/-- Whether the next move of a session starts a call that takes a token. -/
def guardingNext? : Machine × List Operation → Option Bool
  | (machine, operation :: _) =>
      if machine.stack = [] ∧ machine.control ≠ .aborted then operation.guarding? .void
      else machine.guarding?
  | (machine, []) => machine.guarding?

/-- The locks once the next move has what it needs; none if a call has to wait. -/
def enterNext? (thread : ThreadId) (state : (Machine × List Operation) × Locks) : Option Locks :=
  match guardingNext? state.1 with
  | none => some state.2
  | some reports => state.2.enter? thread state.1.1.stack.length reports

/-- One move of a session under the guard; none if a call has to wait. -/
def advanceGuarded
    (program : Program)
    (thread : ThreadId)
    (state : (Machine × List Operation) × Locks) :
    Option ((Machine × List Operation) × Locks) :=
  (enterNext? thread state).map fun locks =>
    let next := advance program state.1
    (next, (locks.follow next.1.world.bus.guard.enabled).leave next.1.stack)

/-- The states of a session under the guard; none once a call has to wait. -/
def guardedSession
    (program : Program)
    (thread : ThreadId)
    (backend : Backend)
    (config : Config)
    (operations : List Operation) :
    Nat → Option ((Machine × List Operation) × Locks)
  | 0 => some ((initial backend config, operations), ({} : Locks).follow config.threadSafe)
  | time + 1 =>
      (guardedSession program thread backend config operations time).bind
        (advanceGuarded program thread)

end Machine

/-! ## One thread -/

namespace Locks.HeldBy

variable {thread : ThreadId} {locks : Locks}

/-- Nobody is inside a lock that was just made. -/
theorem make
    {made : List ReentrantLock}
    {current : Option Nat}
    {tokens : List Token}
    (held : (Locks.mk made current tokens).HeldBy thread) :
    (Locks.mk (made ++ [({} : ReentrantLock)]) (some made.length) tokens).HeldBy thread := by
  rcases held with ⟨_, entered, known⟩
  dsimp only at entered known
  refine ⟨?_, ?_, ?_⟩ <;> dsimp only
  · intro index there
    cases there
    rw [List.length_append]
    exact Nat.lt_succ_self made.length
  · intro index lock there
    rcases Nat.lt_or_ge index made.length with old | new
    · rw [List.getElem?_append_left old] at there
      exact entered index lock there
    · have unused : tokens.countP (fun token => token.lock = index) = 0 := by
        rw [List.countP_eq_zero]
        intro token member
        have earlier := known token member
        rw [decide_eq_true_eq]
        omega
      rw [List.getElem?_append_right new] at there
      rw [unused]
      exact List.mem_singleton.mp (List.mem_of_getElem? there)
  · intro token member
    rw [List.length_append]
    exact Nat.lt_succ_of_lt (known token member)

/-- Turning the guard on or off changes nothing for the calls that are inside. -/
theorem follow (held : locks.HeldBy thread) (enabled : Bool) :
    (locks.follow enabled).HeldBy thread ∧ (locks.follow enabled).current.isSome = enabled := by
  rcases locks with ⟨made, current, tokens⟩
  cases enabled with
  | false =>
      cases current with
      | none => exact ⟨held, rfl⟩
      | some index => exact ⟨⟨by rintro _ ⟨⟩, held.entered, held.known⟩, rfl⟩
  | true =>
      cases current with
      | none => exact ⟨held.make, rfl⟩
      | some index => exact ⟨held, rfl⟩

/-- A thread that is alone never waits. -/
theorem enter? (held : locks.HeldBy thread) (floor : Nat) (reports : Bool) :
    ∃ next,
      locks.enter? thread floor reports = some next ∧ next.HeldBy thread := by
  rcases locks with ⟨made, current, tokens⟩
  cases current with
  | none => exact ⟨_, rfl, held⟩
  | some index =>
      rcases held with ⟨inside, entered, known⟩
      dsimp only at inside entered known
      have there : index < made.length := inside index rfl
      have found : made[index]? = some made[index] := List.getElem?_eq_getElem there
      have again :=
        ReentrantLock.enter?_entered thread (tokens.countP fun token => token.lock = index)
      rw [← entered index made[index] found] at again
      let next : Locks :=
        { made :=
            made.set index
              (ReentrantLock.entered thread ((tokens.countP fun token => token.lock = index) + 1))
          current := some index
          tokens := { lock := index, floor := floor, reports := reports } :: tokens }
      refine ⟨next, ?_, ?_⟩
      · rw [Locks.enter?]
        dsimp only
        rw [found, Option.bind_some, again]
        rfl
      · refine ⟨?_, ?_, ?_⟩ <;> dsimp only [next]
        · intro other here
          rw [List.length_set]
          exact inside other here
        · intro other lock here
          rw [List.countP_cons]
          by_cases same : index = other
          · subst same
            rw [List.getElem?_set_self there] at here
            rw [if_pos (decide_eq_true rfl)]
            exact (Option.some.inj here).symm
          · rw [List.getElem?_set_ne same] at here
            rw [if_neg (by simpa using same), Nat.add_zero]
            exact entered other lock here
        · intro token member
          rw [List.length_set]
          rcases List.mem_cons.mp member with rfl | member
          · exact there
          · exact known token member

/-- A call that leaves has entered once less. -/
theorem giveBack
    {made : List ReentrantLock}
    {current : Option Nat}
    {tokens : List Token}
    (held : (Locks.mk made current tokens).HeldBy thread)
    (ended : Token → Bool) :
    (Locks.mk (Locks.giveBack ended made tokens).1 current
      (Locks.giveBack ended made tokens).2).HeldBy thread := by
  induction tokens generalizing made with
  | nil => exact held
  | cons token rest ih =>
      rw [Locks.giveBack]
      split
      next gone =>
        rcases held with ⟨inside, entered, known⟩
        dsimp only at inside entered known
        refine ih ⟨?_, ?_, ?_⟩ <;> dsimp only
        · intro index here
          rw [List.length_modify]
          exact inside index here
        · intro index lock here
          rw [List.getElem?_modify] at here
          rcases Option.map_eq_some_iff.mp here with ⟨before, there, rfl⟩
          have inside := entered index before there
          rw [List.countP_cons] at inside
          split
          next same =>
            rw [if_pos (decide_eq_true same)] at inside
            rw [inside, ReentrantLock.leave_entered]
          next apart =>
            rwa [if_neg (by simpa using apart), Nat.add_zero] at inside
        · intro other member
          rw [List.length_modify]
          exact known other (List.mem_cons_of_mem token member)
      next stays => exact held

theorem leave (held : locks.HeldBy thread) (stack : List Frame) :
    (locks.leave stack).HeldBy thread :=
  held.giveBack (Token.ended stack)

/-- Without tokens every lock is free. -/
theorem free (held : locks.HeldBy thread) (returned : locks.tokens = []) :
    ∀ lock ∈ locks.made, lock = {} := by
  intro lock member
  rcases List.mem_iff_getElem?.mp member with ⟨index, there⟩
  have entered := held.entered index lock there
  rwa [returned] at entered

end Locks.HeldBy

/-- Every call is over where nothing is left to be done. -/
theorem Locks.leave_nil (locks : Locks) : (locks.leave []).tokens = [] := by
  have ended (token : Token) : token.ended [] = true := rfl
  rcases locks with ⟨made, current, tokens⟩
  rw [Locks.leave]
  dsimp only
  induction tokens generalizing made with
  | nil => rfl
  | cons token rest ih =>
      rw [Locks.giveBack, if_pos (ended token)]
      exact ih _

namespace Machine

variable {program : Program} {thread : ThreadId} {state : (Machine × List Operation) × Locks}

/-- The locks fit the machine: nobody else is inside, there is a lock while the guard is on, and
between operations no token is held. -/
structure LocksFit (thread : ThreadId) (machine : Machine) (locks : Locks) : Prop where
  held : locks.HeldBy thread
  enabled : locks.current.isSome = machine.world.bus.guard.enabled
  returned : machine.stack = [] → locks.tokens = []

/-- A guarded move of a thread that is alone is the move of the session. -/
theorem advanceGuarded_eq (fit : LocksFit thread state.1.1 state.2) :
    ∃ locks,
      advanceGuarded program thread state = some (advance program state.1, locks) ∧
        LocksFit thread (advance program state.1).1 locks := by
  have enters : ∃ locks, enterNext? thread state = some locks ∧ locks.HeldBy thread := by
    rw [enterNext?]
    cases guardingNext? state.1 with
    | none => exact ⟨state.2, rfl, fit.held⟩
    | some reports => exact fit.held.enter? state.1.1.stack.length reports
  rcases enters with ⟨locks, entered, held⟩
  generalize moved : advance program state.1 = next
  have followed := held.follow next.1.world.bus.guard.enabled
  refine ⟨(locks.follow next.1.world.bus.guard.enabled).leave next.1.stack, ?_, ?_⟩
  · rw [advanceGuarded, entered, ← moved]
    rfl
  · refine ⟨followed.1.leave next.1.stack, followed.2, ?_⟩
    intro idle
    rw [idle]
    exact Locks.leave_nil _

/-- A session that is alone under the guard is never blocked: at every moment it is where it would
be without locks. -/
theorem guardedSession_eq
    (program : Program)
    (thread : ThreadId)
    (backend : Backend)
    (config : Config)
    (operations : List Operation)
    (time : Nat) :
    ∃ locks,
      guardedSession program thread backend config operations time =
          some (session program backend config operations time, locks) ∧
        LocksFit thread (session program backend config operations time).1 locks := by
  induction time with
  | zero =>
      have nobody : ({} : Locks).HeldBy thread :=
        ⟨by rintro _ ⟨⟩, by rintro _ _ ⟨⟩, List.forall_mem_nil _⟩
      have followed := nobody.follow config.threadSafe
      refine ⟨_, rfl, ⟨followed.1, followed.2, fun _ => ?_⟩⟩
      cases config.threadSafe <;> rfl
  | succ time ih =>
      rcases ih with ⟨locks, reached, fit⟩
      rw [session_succ, guardedSession, reached, Option.bind_some]
      exact advanceGuarded_eq fit

/-- A callback that turns the guard off and on again and then emits another signal. -/
def toggling : Program where
  routines :=
    [{ commands :=
        [{ label := "off", operation := .setThreadSafe false },
          { label := "on", operation := .setThreadSafe true },
          { label := "nested", operation := .emit ⟨"inner", .void⟩ }] }]

/-- In the nested emission the session is inside the first lock and the second one. -/
example :
    (guardedSession toggling 0 .heap { threadSafe := true }
        [.init, .register "outer" none none, .register "inner" none none,
          .connect "outer" 0 none none .nowhere, .emit ⟨"outer", .void⟩] 24).map
      (fun reached => reached.2.tokens.map Token.lock) = some [1, 0] := by
  decide +kernel

/-- Between operations all locks are free, whatever was done to the guard by the calls inside. -/
theorem guardedSession_free
    {backend : Backend}
    {config : Config}
    {operations : List Operation}
    {time : Nat}
    (reached : guardedSession program thread backend config operations time = some state)
    (idle : state.1.1.stack = []) :
    ∀ lock ∈ state.2.made, lock = {} := by
  rcases guardedSession_eq program thread backend config operations time with
    ⟨locks, alone, fit⟩
  rw [reached] at alone
  rw [Option.some.inj alone] at idle ⊢
  exact fit.held.free (fit.returned idle)

end Machine

end SignalDispatch
