import SignalDispatch.Limits
import SignalDispatch.Name.Bounded
import SignalDispatch.Name.Compact
import SignalDispatch.Registry.Report

/-!
# Storage behind a bus

A backend fixes how signals and slots are stored and how long a signal name may be: growing storage
with long names, or pools of a fixed number of entries with names in buffers of fixed width.
-/

namespace SignalDispatch

/-- How a bus stores its signals and slots. -/
structure Backend where
  kind : StorageKind
  signals : StoragePolicy
  slots : StoragePolicy
  deriving DecidableEq, Repr, Inhabited

namespace Backend

/-- Growing storage for signals and slots. -/
def heap : Backend where
  kind := .heap
  signals := .growing
  slots := .growing

/-- Pools of a fixed number of signal and slot entries. -/
def pool (signals slots : Nat) : Backend where
  kind := .pool
  signals := .pool signals
  slots := .pool slots

/-- Growing storage whose signal memory is refused while `limit` signals are registered. -/
def scarceSignals (limit : Nat) : Backend :=
  { heap with signals := .rationed limit true }

/-- Growing storage whose slot memory is refused while `limit` slots are linked; `foretold` says
whether a reservation already fails. -/
def scarceSlots (limit : Nat) (foretold : Bool) : Backend :=
  { heap with slots := .rationed limit foretold }

/-- The longest signal name, in bytes. -/
def nameBytes (backend : Backend) : Nat :=
  match backend.kind with
  | .heap => CompactText.maxNameBytes
  | .pool => Limits.poolNameBytes

/-- A signal name as the backend keeps it, if it is not too long. -/
def keepName? (backend : Backend) (name : String) : Option String :=
  match backend.kind with
  | .heap => (CompactText.ofName? name).map CompactText.text
  | .pool => (BoundedName.ofText? Limits.poolNameBytes name).map BoundedName.text

/-- A signal name as the backend keeps it, or why it keeps none. -/
def acceptName (backend : Backend) (name : String) : Except Fault String :=
  if name.isEmpty then .error Fault.emptyName
  else
    match backend.keepName? name with
    | some kept => .ok kept
    | none => .error (Fault.longName backend.nameBytes)

/-- An empty registry on the backend. -/
def registry (backend : Backend) : Registry :=
  Registry.empty backend.signals backend.slots

end Backend

end SignalDispatch
