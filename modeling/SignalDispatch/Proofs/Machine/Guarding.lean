import Mathlib.Algebra.BigOperators.Group.Finset.Piecewise
import Mathlib.Algebra.Order.Ring.Nat
import SignalDispatch.Proofs.Machine.Locking

/-!
# The guard counts what is entered

`Guard` is what one thread knows of the lock behind it: whether there is one, and how many tokens it
holds.  `Locks` has the locks themselves, those included that are still held though the guard has
been turned off since.  Seen as a guard, locks are entered, left and turned on and off as a guard is,
and so is every session under the guard from its start: its tokens are the entries into all locks.
-/

namespace SignalDispatch

/-- What one thread does with a guard. -/
inductive Guard.Turns : Guard → Guard → Prop where
  | enters {before after : Guard} : before.enter? = some after → Guard.Turns before after
  | leaves {before after : Guard} : before.leave? = some after → Guard.Turns before after
  | sets (guarded : Guard) (enabled : Bool) : Guard.Turns guarded (guarded.setEnabled enabled)

namespace Locks

variable {locks next : Locks} {thread : ThreadId}

/-- The guard that a thread sees in its locks. -/
def guard (locks : Locks) : Guard where
  enabled := locks.current.isSome
  held := locks.tokens.length

/-- Making a lock and forgetting it is turning the guard on and off. -/
theorem guard_follow (locks : Locks) (enabled : Bool) :
    (locks.follow enabled).guard = locks.guard.setEnabled enabled := by
  rcases locks with ⟨made, current, tokens⟩
  cases enabled <;> cases current <;> rfl

/-- A call takes a token from the guard, or goes on without one where the guard is off. -/
theorem guard_enter?
    {floor : Nat}
    {reports : Bool}
    (entered : locks.enter? thread floor reports = some next) :
    locks.guard.enter? = some next.guard ∨ locks.guard.enter? = none ∧ next = locks := by
  rcases locks with ⟨made, current, tokens⟩
  cases current with
  | none =>
      cases entered
      exact Or.inr ⟨rfl, rfl⟩
  | some index =>
      rcases Option.map_eq_some_iff.mp entered with ⟨lock, _, rfl⟩
      exact Or.inl rfl

/-- Tokens are given back to the guard one after another. -/
theorem turns_giveBack
    (ended : Token → Bool)
    (made : List ReentrantLock)
    (current : Option Nat)
    (tokens : List Token) :
    Relation.ReflTransGen Guard.Turns (Locks.mk made current tokens).guard
      (Locks.mk (giveBack ended made tokens).1 current (giveBack ended made tokens).2).guard := by
  induction tokens generalizing made with
  | nil => exact .refl
  | cons token rest ih =>
      rw [giveBack]
      split
      · exact .head (.leaves rfl) (ih _)
      · exact .refl

/-- Each of some tokens is for one of the locks. -/
theorem sum_countP_lock
    {tokens : List Token}
    {count : Nat}
    (known : ∀ token ∈ tokens, token.lock < count) :
    ((List.range count).map fun index =>
      tokens.countP fun token => token.lock = index).sum = tokens.length := by
  induction tokens with
  | nil => simp
  | cons token rest ih =>
      have later := ih fun other member => known other (List.mem_cons_of_mem _ member)
      have once :
          ((List.range count).map fun index => if token.lock = index then 1 else 0).sum = 1 := by
        show ∑ index ∈ Finset.range count, (if token.lock = index then 1 else 0) = 1
        rw [Finset.sum_ite_eq, if_pos (Finset.mem_range.mpr (known token List.mem_cons_self))]
      simp only [List.countP_cons, decide_eq_true_eq, List.sum_map_add, later, once,
        List.length_cons]

/-- The tokens of a thread that is alone are its entries into all locks. -/
theorem HeldBy.sum_entries (held : locks.HeldBy thread) :
    (locks.made.map ReentrantLock.entries).sum = locks.guard.held := by
  have entries :
      locks.made.map ReentrantLock.entries =
        (List.range locks.made.length).map fun index =>
          locks.tokens.countP fun token => token.lock = index := by
    apply List.ext_getElem
    · simp
    · intro index within _
      have here : index < locks.made.length := by simpa using within
      rw [List.getElem_map, held.entered index _ (List.getElem?_eq_getElem here),
        List.getElem_map, List.getElem_range]
      generalize locks.tokens.countP _ = entries
      cases entries <;> rfl
  rw [entries]
  exact sum_countP_lock held.known

end Locks

namespace Machine

variable {program : Program} {thread : ThreadId} {state next : (Machine × List Operation) × Locks}

/-- A guarded move takes a token at most, turns the guard as the bus does, and gives tokens back. -/
theorem turns_of_advanceGuarded (moved : advanceGuarded program thread state = some next) :
    Relation.ReflTransGen Guard.Turns state.2.guard next.2.guard := by
  rcases Option.map_eq_some_iff.mp moved with ⟨locks, entered, rfl⟩
  dsimp only
  generalize (advance program state.1).1 = machine
  have takes : Relation.ReflTransGen Guard.Turns state.2.guard locks.guard := by
    rw [enterNext?] at entered
    split at entered
    · cases entered
      exact .refl
    · rcases Locks.guard_enter? entered with taken | ⟨_, rfl⟩
      · exact .single (.enters taken)
      · exact .refl
  have turned := Guard.Turns.sets locks.guard machine.world.bus.guard.enabled
  rw [← Locks.guard_follow] at turned
  exact (takes.tail turned).trans (Locks.turns_giveBack _ _ _ _)

/-- A session under the guard enters, leaves and turns its guard, and does nothing else with it. -/
theorem turns_of_guardedSession
    {backend : Backend}
    {config : Config}
    {operations : List Operation}
    {time : Nat}
    (reached : guardedSession program thread backend config operations time = some state) :
    Relation.ReflTransGen Guard.Turns { enabled := config.threadSafe } state.2.guard := by
  induction time generalizing state with
  | zero =>
      cases reached
      rw [Locks.guard_follow]
      exact .refl
  | succ time ih =>
      rcases Option.bind_eq_some_iff.mp reached with ⟨earlier, before, moved⟩
      exact (ih before).trans (turns_of_advanceGuarded moved)

/-- What the guard of a session has come to at some moment. -/
structure GuardKept (config : Config) (machine : Machine) (locks : Locks) : Prop where
  turns : Relation.ReflTransGen Guard.Turns { enabled := config.threadSafe } locks.guard
  enabled : locks.guard.enabled = machine.world.bus.guard.enabled
  /-- Every token is one entry into a lock. -/
  held : (locks.made.map ReentrantLock.entries).sum = locks.guard.held
  /-- Between operations no token is held. -/
  returned : machine.stack = [] → locks.guard.held = 0

/-- The locks of a session that is alone are at every moment what its guard has come to. -/
theorem guardKept
    {backend : Backend}
    {config : Config}
    {operations : List Operation}
    {time : Nat}
    (reached : guardedSession program thread backend config operations time = some state) :
    GuardKept config state.1.1 state.2 := by
  have turns := turns_of_guardedSession reached
  rcases guardedSession_eq program thread backend config operations time with ⟨locks, alone, fit⟩
  rw [reached, Option.some.injEq] at alone
  subst alone
  exact
    { turns := turns, enabled := fit.enabled, held := fit.held.sum_entries,
      returned := fun idle => List.length_eq_zero_iff.mpr (fit.returned idle) }

end Machine

end SignalDispatch
