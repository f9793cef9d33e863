/-!
# Routines and contexts

User code is known to the bus only by the number of its routine.  A context is what a connection
passes to its callback: plain text, or a tracked value with a ticket that no other context has.
When the last owner of a tracked context lets go of it, its farewell routine runs.
-/

namespace SignalDispatch

/-- The number of a routine of user code. -/
abbrev RoutineId := Nat

/-- What a connection passes to its callback. -/
inductive Context where
  | text (value : String)
  | tracked (ticket : Nat) (label : String) (farewell : RoutineId)
  deriving DecidableEq, Repr, Inhabited

/-- The ticket of a tracked context. -/
def Context.ticket? : Context → Option Nat
  | text _ => none
  | tracked ticket _ _ => some ticket

end SignalDispatch
