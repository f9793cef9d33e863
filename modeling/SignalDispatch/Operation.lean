import SignalDispatch.Bus.Basic

/-!
# Operations and routines

User code as data.  An operation is one thing that user code can do: a call on the bus, work on a
batch, a panic, or a routine run so that a panic stops there.  A routine is a list of commands that
runs for a callback, for the error hook or as the farewell of a context; a program is the table of
all routines together with the clock that emissions are timed by.
-/

namespace SignalDispatch

/-- The context that a connection asks for. -/
inductive ContextRequest where
  | text (value : String)
  | tracked (label : String) (farewell : RoutineId)
  deriving DecidableEq, Repr, Inhabited

/-- A signal name that is looked at only when it is needed. -/
inductive NameRequest where
  | name (value : String)
  /-- The name cannot be read; this is the complaint. -/
  | unreadable (complaint : String)
  deriving DecidableEq, Repr, Inhabited

/-- How an operation names a handle. -/
inductive HandleSource where
  | number (value : Nat)
  /-- The handle kept under a name; the handle that is never issued if there is none. -/
  | kept (name : String)
  deriving DecidableEq, Repr, Inhabited

/-- Where the handle of a new connection is kept. -/
inductive KeepRequest where
  | nowhere
  | under (name : String)
  /-- The place cannot be read; this is the complaint. -/
  | unreadable (complaint : String)
  deriving DecidableEq, Repr, Inhabited

/-- One thing that user code can do. -/
inductive Operation where
  | init
  | cleanup
  | isInitialized
  | register (name : String) (description : Option String) (priority : Option Priority)
  | unregister (name : String)
  | contains (name : String)
  | count
  | listing
  | connect
      (name : String)
      (callback : RoutineId)
      (priority : Option Priority)
      (context : Option ContextRequest)
      (keep : KeepRequest)
  | disconnect (name : String) (callback : RoutineId)
  | disconnectHandle (source : HandleSource)
  | disconnectAll (name : String)
  | emit (emission : Emission)
  /-- Emit the current payload. -/
  | forward (name : String)
  /-- Put the current payload into the deferred queue. -/
  | forwardDeferred (name : String)
  /-- Emit one less than the current payload while it is a positive integer; the name matters only
  then. -/
  | emitDown (request : NameRequest)
  | defer (emission : Emission)
  | flush
  | deferredLength
  | setSpace (space : Option String)
  | space
  | emitIn (space : Option String) (emission : Emission)
  | interrupt (name : String) (value : Int32)
  | drain
  | pendingInterrupts
  | setMaxSlots (limit : Nat)
  | maxSlots
  | setThreadSafe (enabled : Bool)
  | isThreadSafe
  | setProfiling (enabled : Bool)
  | isProfiling
  | timing (name : String)
  | resetTiming
  | resetPeak
  | memoryStats
  | display
  | setHook (routine : Option RoutineId)
  | batchAdd (batch : String) (emission : Emission)
  | batchInfo (batch : String)
  | batchClear (batch : String)
  | batchEmit (batch : String)
  | panic (message : String)
  /-- Run a routine; a panic in it stops here. -/
  | catching (routine : RoutineId)
  /-- A request that cannot be read; this is the complaint. -/
  | unreadable (complaint : String)
  deriving DecidableEq, Repr, Inhabited

/-- One line of a routine. -/
structure Command where
  /-- What its author wrote for the operation. -/
  label : String
  /-- The turn in which the line runs; every turn if there is none. -/
  turn : Option Nat := none
  operation : Operation
  deriving DecidableEq, Repr, Inhabited

/-- Commands that run for a callback, a hook or a farewell. -/
structure Routine where
  /-- How many turns run the commands; later ones do nothing. -/
  turns : Nat := 1
  commands : List Command := []
  deriving DecidableEq, Repr, Inhabited

/-- Every routine of user code, and the clock. -/
structure Program where
  routines : List Routine := []
  /-- The time of each reading of the clock, in nanoseconds. -/
  clock : Nat → Nat := id

namespace Program

/-- The routine of a number; one without commands if there is none. -/
def routine (program : Program) (routine : RoutineId) : Routine :=
  program.routines[routine]?.getD {}

/-- The commands of a routine in one of its turns. -/
def commandsAt (program : Program) (routine : RoutineId) (turn : Nat) : List Command :=
  let found := program.routine routine
  if turn ≤ found.turns then found.commands else []

/-- Nanoseconds between two readings of the clock, at most the largest 64-bit count. -/
def elapsed (program : Program) (start finish : Nat) : Nat :=
  min (program.clock finish - program.clock start) Limits.maxCounter

end Program

/-- What can be observed while operations run. -/
inductive Event where
  /-- A callback was called. -/
  | called
      (handle : Handle)
      (callback : RoutineId)
      (payload : Payload)
      (context : Option Context)
  /-- A command of a routine finished. -/
  | acted (label : String) (answer : Answer)
  /-- The error hook was called. -/
  | hooked (kind : FaultKind) (message : String)
  /-- The last owner of a tracked context let go of it. -/
  | released (label : String)
  | logged (record : LogRecord)
  deriving DecidableEq, Repr, Inhabited

end SignalDispatch
