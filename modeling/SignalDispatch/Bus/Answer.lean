import SignalDispatch.Registry.Report

/-!
# Answers

What an operation of user code on a bus comes back with.
-/

namespace SignalDispatch

/-- What an operation comes back with. -/
inductive Answer where
  | done
  | flag (value : Bool)
  | number (value : Nat)
  /-- A connection was made; this is its handle. -/
  | connected (handle : Handle)
  | text (value : Option String)
  | listing (signals : List SignalInfo)
  | timing (timing : Timing)
  | memory (stats : MemoryStats)
  | batch (length : Nat) (display : Option String)
  /-- The operation failed. -/
  | fault (cause : Fault)
  /-- A panic was caught; this is its message. -/
  | panicked (message : String)
  /-- The operation could not be read; this is the complaint. -/
  | unreadable (complaint : String)
  deriving DecidableEq, Repr, Inhabited

namespace Answer

/-- The fault an operation failed with. -/
def fault? : Answer → Option Fault
  | fault cause => some cause
  | _ => none

end Answer

end SignalDispatch
