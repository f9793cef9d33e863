/-!
# The concurrency guard

An optional lock around the calls of a bus.  It is re-entrant: whoever holds it may enter again.
Turning the guard off forgets the lock for later calls, and those who hold it keep their token
until they leave.
-/

namespace SignalDispatch

/-- Whether calls are guarded, and how many tokens are held. -/
structure Guard where
  enabled : Bool
  held : Nat := 0
  deriving DecidableEq, Repr, Inhabited

namespace Guard

/-- Turn a guard on or off. -/
def setEnabled (guarded : Guard) (enabled : Bool) : Guard :=
  { guarded with enabled := enabled }

/-- Take a token, if the guard is on. -/
def enter? (guarded : Guard) : Option Guard :=
  if guarded.enabled then some { guarded with held := guarded.held + 1 } else none

/-- Give back the newest token, if one is held. -/
def leave? (guarded : Guard) : Option Guard :=
  if guarded.held = 0 then none else some { guarded with held := guarded.held - 1 }

/-- A guard in readable form. -/
def text (guarded : Guard) : String :=
  "ConcurrencyGuard \x7b enabled: " ++ toString guarded.enabled ++ " \x7d"

/-- Whoever enters can leave, and the guard is as before. -/
theorem leave?_of_enter?
    {guarded entered : Guard}
    (taken : guarded.enter? = some entered) :
    entered.leave? = some guarded := by
  unfold enter? at taken
  split at taken
  · cases taken
    simp [leave?]
  · cases taken

/-- Entering is refused exactly while the guard is off, however many tokens are held. -/
theorem enter?_eq_none_iff (guarded : Guard) :
    guarded.enter? = none ↔ guarded.enabled = false := by
  unfold enter?
  split <;> simp_all

end Guard

end SignalDispatch
