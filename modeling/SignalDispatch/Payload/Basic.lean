import SignalDispatch.Fault

/-!
# Payloads

The tagged value that an emission hands to every slot.  Floating-point payloads are their IEEE bit
patterns, so that equal payloads are equal values, NaN included.  A pointer payload shares a value
whose type only the emitter and the slot know; `Pointee` lists the types that can be asked for.

Each defaulting accessor returns the value of the matching tag and the given default for any other
tag; each checked accessor returns a fault that names both tags instead.
-/

namespace SignalDispatch

/-- A shared value behind a pointer payload. -/
inductive Pointee where
  | unsigned64 (value : UInt64)
  | unsigned32 (value : UInt32)
  | signed32 (value : Int32)
  | text (value : String)
  deriving DecidableEq, Repr, Inhabited

/-- The value an emission hands to every slot. -/
inductive Payload where
  | void
  | int (value : Int32)
  | float (bits : UInt32)
  | double (bits : UInt64)
  | string (value : Option String)
  | pointer (target : Option Pointee)
  | custom (bytes : List UInt8)
  deriving DecidableEq, Repr, Inhabited

namespace Payload

/-- The tag of a payload. -/
def kind : Payload → PayloadKind
  | void => .void
  | int _ => .int
  | float _ => .float
  | double _ => .double
  | string _ => .string
  | pointer _ => .pointer
  | custom _ => .custom

/-! ## Defaulting accessors -/

def intOr (default : Int32) : Payload → Int32
  | int value => value
  | _ => default

def floatOr (default : UInt32) : Payload → UInt32
  | float bits => bits
  | _ => default

def doubleOr (default : UInt64) : Payload → UInt64
  | double bits => bits
  | _ => default

/-! ## Checked accessors -/

/-- The fault of reading a payload as a kind that it is not. -/
def mismatch (payload : Payload) (expected : PayloadKind) : Fault :=
  .invalidPayloadType expected payload.kind

def tryInt : Payload → Except Fault Int32
  | int value => .ok value
  | other => .error (other.mismatch .int)

def tryFloat : Payload → Except Fault UInt32
  | float bits => .ok bits
  | other => .error (other.mismatch .float)

def tryDouble : Payload → Except Fault UInt64
  | double bits => .ok bits
  | other => .error (other.mismatch .double)

/-! ## Optional accessors -/

/-- The text of a string payload that is not null. -/
def text? : Payload → Option String
  | string value => value
  | _ => none

/-- The value behind a pointer payload that is not null. -/
def pointee? : Payload → Option Pointee
  | pointer target => target
  | _ => none

/-- The bytes of a custom payload. -/
def bytes? : Payload → Option (List UInt8)
  | custom bytes => some bytes
  | _ => none

def unsigned64? (payload : Payload) : Option UInt64 :=
  match payload.pointee? with
  | some (.unsigned64 value) => some value
  | _ => none

def unsigned32? (payload : Payload) : Option UInt32 :=
  match payload.pointee? with
  | some (.unsigned32 value) => some value
  | _ => none

def signed32? (payload : Payload) : Option Int32 :=
  match payload.pointee? with
  | some (.signed32 value) => some value
  | _ => none

def pointedText? (payload : Payload) : Option String :=
  match payload.pointee? with
  | some (.text value) => some value
  | _ => none

theorem tryInt_eq_ok_iff (payload : Payload) (value : Int32) :
    payload.tryInt = .ok value ↔ payload = .int value := by
  cases payload <;> simp [tryInt]

theorem tryFloat_eq_ok_iff (payload : Payload) (bits : UInt32) :
    payload.tryFloat = .ok bits ↔ payload = .float bits := by
  cases payload <;> simp [tryFloat]

theorem tryDouble_eq_ok_iff (payload : Payload) (bits : UInt64) :
    payload.tryDouble = .ok bits ↔ payload = .double bits := by
  cases payload <;> simp [tryDouble]

end Payload

end SignalDispatch
