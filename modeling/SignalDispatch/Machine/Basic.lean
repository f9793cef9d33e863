import SignalDispatch.Batch
import SignalDispatch.Operation

/-!
# The machine

Calls on a bus run user code, and user code calls the bus again, to any depth.  The machine makes
this explicit: what is still to be done is a stack of frames, innermost first, and every step takes
the next move of the innermost frame.  So the states of the machine are exactly the points at which
something can be observed, and a panic is one way of leaving a frame.

A tracked context has owners: the slot it was connected with, an emission that is running that
slot's callback, and a frame that is about to let go of it.  It is released when no owner is left.
-/

namespace SignalDispatch

/-- An emission in progress. -/
structure Walk where
  name : String
  payload : Payload
  signalRef : SignalRef
  /-- The position to be read next. -/
  cursor : Option Nat
  /-- The number of callbacks that returned. -/
  invoked : Nat := 0
  /-- The clock reading at the start, if the emission is timed. -/
  startedAt : Option Nat
  /-- The slot whose callback is running. -/
  running : Option Slot := none
  deriving DecidableEq, Repr, Inhabited

/-- What is still to be done at one level. -/
inductive Frame where
  /-- User code; while an operation of it is in progress that one is still in front. -/
  | routine (commands : List Command) (payload : Payload) (turn : Nat)
  | walk (walk : Walk)
  /-- Contexts to let go of, and the panic that goes on afterwards. -/
  | release (contexts : List Context) (panic : Option String)
  /-- Write records and come back with an answer. -/
  | conclude (records : List LogRecord) (answer : Answer)
  /-- Report a fault and come back with it. -/
  | reject (fault : Fault)
  /-- Replay at most `remaining` deferred emissions. -/
  | flush (remaining delivered : Nat)
  /-- Replay pending interrupts from a position on. -/
  | drain (position delivered : Nat)
  | batch (entries : List Emission) (first : Option Fault)
  /-- Stop a panic. -/
  | catching
  deriving DecidableEq, Repr, Inhabited

/-- How the innermost frame goes on. -/
inductive Control where
  /-- It takes its next move. -/
  | proceed
  /-- The operation it started came back with an answer. -/
  | answer (answer : Answer)
  /-- The operation it started panicked. -/
  | unwind (message : String)
  /-- A second panic came while one was being unwound; nothing goes on. -/
  | aborted
  deriving DecidableEq, Repr, Inhabited

/-- Everything that outlives an operation. -/
structure World where
  bus : Bus
  /-- How often each callback has been called. -/
  calls : List (RoutineId × Nat) := []
  /-- The number of tickets issued to tracked contexts. -/
  tickets : Nat := 0
  /-- The handles that user code keeps. -/
  kept : List (String × Handle) := []
  batches : List (String × Batch) := []
  /-- The number of clock readings taken. -/
  readings : Nat := 0
  deriving DecidableEq, Repr, Inhabited

/-- A state of the machine. -/
structure Machine where
  world : World
  stack : List Frame := []
  control : Control := .proceed
  /-- What has been observed, the latest in front. -/
  events : List Event := []
  deriving DecidableEq, Repr, Inhabited

namespace World

/-- How often a callback has been called. -/
def callsOf (world : World) (callback : RoutineId) : Nat :=
  (world.calls.lookup callback).getD 0

/-- Count one more call of a callback. -/
def countCall (world : World) (callback : RoutineId) : World :=
  { world with
    calls :=
      (callback, world.callsOf callback + 1) ::
        world.calls.filter fun entry => entry.1 != callback }

/-- The handle kept under a name. -/
def handleOf (world : World) : HandleSource → Handle
  | .number value => ⟨value⟩
  | .kept name => (world.kept.lookup name).getD Handle.unissued

/-- Keep a handle under a name. -/
def keep (world : World) (name : String) (handle : Handle) : World :=
  { world with
    kept := (name, handle) :: world.kept.filter fun entry => entry.1 != name }

/-- The batch of a name; empty if there is none. -/
def batchOf (world : World) (name : String) : Batch :=
  (world.batches.lookup name).getD {}

/-- Put a batch under a name. -/
def setBatch (world : World) (name : String) (batch : Batch) : World :=
  { world with
    batches := (name, batch) :: world.batches.filter fun entry => entry.1 != name }

end World

/-! ## Owners of contexts -/

/-- Whether a context is the tracked one of a ticket. -/
def Context.hasTicket (context : Context) (ticket : Nat) : Bool :=
  context.ticket? == some ticket

/-- The contexts that the slots of a bus own. -/
def Bus.contexts (bus : Bus) : List Context :=
  match bus.registry with
  | none => []
  | some registry => Bus.contextsOf (registry.slots.toList.map Prod.snd)

/-- The contexts that a frame owns. -/
def Frame.contexts : Frame → List Context
  | walk emission => (emission.running.bind Slot.context).toList
  | release contexts _ => contexts
  | _ => []

namespace Machine

/-- The contexts that still have an owner, once for each of its owners. -/
def contexts (machine : Machine) : List Context :=
  machine.world.bus.contexts ++ machine.stack.flatMap Frame.contexts

/-- Whether the tracked context of a ticket has an owner. -/
def owns (machine : Machine) (ticket : Nat) : Bool :=
  machine.contexts.any fun context => context.hasTicket ticket

/-- Whether nothing is left to be done. -/
def finished (machine : Machine) : Bool :=
  machine.stack.isEmpty || machine.control == .aborted

/-! ## Small moves -/

def push (machine : Machine) (frame : Frame) : Machine :=
  { machine with stack := frame :: machine.stack }

def observe (machine : Machine) (event : Event) : Machine :=
  { machine with events := event :: machine.events }

/-- Write records to the log. -/
def log (machine : Machine) (records : List LogRecord) : Machine :=
  records.foldl (fun machine record => machine.observe (.logged record)) machine

def setBus (machine : Machine) (bus : Bus) : Machine :=
  { machine with world := { machine.world with bus := bus } }

/-- Let the innermost frame take its next move. -/
def proceeding (machine : Machine) : Machine :=
  { machine with control := .proceed }

/-- Hand an answer to the innermost frame. -/
def answering (machine : Machine) (answer : Answer) : Machine :=
  { machine with control := .answer answer }

/-- Let a panic leave the innermost operation. -/
def unwinding (machine : Machine) (message : String) : Machine :=
  { machine with control := .unwind message }

/-! ### What logging changes -/

@[simp]
theorem world_log (machine : Machine) (records : List LogRecord) :
    (machine.log records).world = machine.world := by
  induction records generalizing machine with
  | nil => rfl
  | cons record rest ih => exact ih (machine.observe (.logged record))

@[simp]
theorem stack_log (machine : Machine) (records : List LogRecord) :
    (machine.log records).stack = machine.stack := by
  induction records generalizing machine with
  | nil => rfl
  | cons record rest ih => exact ih (machine.observe (.logged record))

@[simp]
theorem control_log (machine : Machine) (records : List LogRecord) :
    (machine.log records).control = machine.control := by
  induction records generalizing machine with
  | nil => rfl
  | cons record rest ih => exact ih (machine.observe (.logged record))

/-- Records join what has been observed, the latest in front. -/
@[simp]
theorem events_log (machine : Machine) (records : List LogRecord) :
    (machine.log records).events = (records.map Event.logged).reverse ++ machine.events := by
  induction records generalizing machine with
  | nil => rfl
  | cons record rest ih =>
      rw [log, List.foldl_cons, ← log, ih]
      simp [observe]

end Machine

end SignalDispatch
