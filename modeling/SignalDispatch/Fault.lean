import SignalDispatch.Payload.Kind

/-!
# Faults

Why a call on the bus failed.  A fault carries its cause; `Fault.kind` is the flat tag handed to
the error hook, `Fault.message` the one wording of the cause, and `Fault.code` and `Fault.help`
the diagnostic a reader sees beside it.
-/

namespace SignalDispatch

/-! ## Exhausted resources -/

/-- A bounded resource that had no room left, with its bound. -/
inductive Resource where
  | slotsPerSignal (limit : Nat)
  | signalPool (capacity : Nat)
  | slotPool (capacity : Nat)
  | interruptQueue (capacity : Nat)
  | deferredQueue (capacity : Nat)
  deriving DecidableEq, Repr, Inhabited

namespace Resource

/-- The bound of a resource. -/
def bound : Resource → Nat
  | slotsPerSignal limit => limit
  | signalPool capacity => capacity
  | slotPool capacity => capacity
  | interruptQueue capacity => capacity
  | deferredQueue capacity => capacity

/-- The words that describe a resource. -/
def text : Resource → String
  | slotsPerSignal limit => "slot limit of " ++ toString limit ++ " per signal"
  | signalPool capacity => "signal pool (" ++ toString capacity ++ " entries)"
  | slotPool capacity => "slot pool (" ++ toString capacity ++ " entries)"
  | interruptQueue capacity => "interrupt queue (" ++ toString capacity ++ " entries)"
  | deferredQueue capacity => "deferred queue (" ++ toString capacity ++ " entries)"

end Resource

/-! ## Kinds of fault -/

/-- The flat tag of a fault. -/
inductive FaultKind where
  | invalidArgument
  | notFound
  | alreadyExists
  | resourceExhausted
  | allocationFailure
  | invalidPayloadType
  deriving DecidableEq, Repr, Inhabited

namespace FaultKind

/-- Every kind, in declaration order. -/
def all : List FaultKind :=
  [.invalidArgument, .notFound, .alreadyExists, .resourceExhausted, .allocationFailure,
    .invalidPayloadType]

/-- The word used in documents. -/
def word : FaultKind → String
  | .invalidArgument => "invalid_argument"
  | .notFound => "not_found"
  | .alreadyExists => "already_exists"
  | .resourceExhausted => "resource_exhausted"
  | .allocationFailure => "allocation_failure"
  | .invalidPayloadType => "invalid_payload_type"

/-- The words used in messages. -/
def text : FaultKind → String
  | .invalidArgument => "invalid argument"
  | .notFound => "not found"
  | .alreadyExists => "already exists"
  | .resourceExhausted => "resource exhausted"
  | .allocationFailure => "allocation failure"
  | .invalidPayloadType => "invalid payload type"

/-- The kind that goes by a word. -/
def ofWord? (text : String) : Option FaultKind :=
  all.find? fun kind => kind.word = text

theorem mem_all (kind : FaultKind) : kind ∈ all := by
  cases kind <;> decide

@[simp]
theorem ofWord?_word (kind : FaultKind) : ofWord? kind.word = some kind := by
  cases kind <;> decide

end FaultKind

/-! ## Faults -/

/-- Why a call failed. -/
inductive Fault where
  | invalidArgument (detail : String)
  | notFound (what : String)
  | alreadyExists (name : String)
  | resourceExhausted (resource : Resource)
  | allocationFailure (store : String)
  | invalidPayloadType (expected found : PayloadKind)
  deriving DecidableEq, Repr, Inhabited

namespace Fault

/-- The tag of a fault. -/
def kind : Fault → FaultKind
  | invalidArgument _ => .invalidArgument
  | notFound _ => .notFound
  | alreadyExists _ => .alreadyExists
  | resourceExhausted _ => .resourceExhausted
  | allocationFailure _ => .allocationFailure
  | invalidPayloadType _ _ => .invalidPayloadType

/-- The wording of a fault. -/
def message : Fault → String
  | invalidArgument detail => "Invalid argument: " ++ detail
  | notFound what => "Not found: " ++ what
  | alreadyExists name => "Signal already exists: " ++ name
  | resourceExhausted resource => "Resource exhausted: " ++ resource.text
  | allocationFailure store => "Memory allocation failed: " ++ store
  | invalidPayloadType expected found =>
      "Invalid payload type: expected " ++ expected.title ++ ", found " ++ found.title

/-- The diagnostic code of a fault. -/
def code (fault : Fault) : String :=
  "sigslot::" ++ fault.kind.word

/-- The advice that goes with a fault. -/
def help (fault : Fault) : String :=
  match fault.kind with
  | .invalidArgument =>
      "Names must be non-empty and within the backend's length limit; handles start at 1."
  | .notFound =>
      "The signal may never have been registered, or the slot was already disconnected."
  | .alreadyExists => "Signal names are unique. Unregister the existing signal first."
  | .resourceExhausted => "Raise the configured limit or release existing entries."
  | .allocationFailure =>
      "The heap backend could not grow its storage. System may be low on memory."
  | .invalidPayloadType =>
      "Use the accessor matching the payload tag, or the defaulting variant."

/-! ### The causes that the bus itself raises -/

/-- A call that needs an initialized bus came before it was. -/
def notInitialized : Fault :=
  .invalidArgument "bus not initialized"

/-- A signal name without characters. -/
def emptyName : Fault :=
  .invalidArgument "signal name is empty"

/-- A signal name longer than its storage takes. -/
def longName (limit : Nat) : Fault :=
  .invalidArgument ("signal name exceeds " ++ toString limit ++ " bytes")

/-- The handle number that is never issued. -/
def unissuedHandle : Fault :=
  .invalidArgument "handle 0 is never issued"

/-- A slot limit that would leave no slot. -/
def zeroSlotLimit : Fault :=
  .invalidArgument "slot limit must be at least 1"

/-- No live slot of the signal runs the given callback. -/
def noMatchingSlot (name : String) : Fault :=
  .notFound ("no matching slot on '" ++ name ++ "'")

/-- No live slot has the handle with this text. -/
def noSuchSlot (handleText : String) : Fault :=
  .notFound ("slot " ++ handleText)

/-- Signal storage could not grow. -/
def signalMemory : Fault :=
  .allocationFailure "signal storage"

/-- Slot storage could not grow. -/
def slotMemory : Fault :=
  .allocationFailure "slot storage"

end Fault

end SignalDispatch
