import SignalDispatch.Registry.Basic

/-!
# Reports on a registry

Listings, timing and memory statistics: what a registry says about itself.
-/

namespace SignalDispatch

/-- The kind of storage behind a bus. -/
inductive StorageKind where
  | heap
  | pool
  deriving DecidableEq, Repr, Inhabited

namespace StorageKind

def all : List StorageKind := [.heap, .pool]

/-- The capitalised word used in messages. -/
def title : StorageKind → String
  | .heap => "Heap"
  | .pool => "Pool"

/-- The lower-case word used in documents. -/
def word : StorageKind → String
  | .heap => "heap"
  | .pool => "pool"

/-- The kind that goes by a word. -/
def ofWord? (text : String) : Option StorageKind :=
  all.find? fun kind => kind.word = text

@[simp]
theorem ofWord?_word (kind : StorageKind) : ofWord? kind.word = some kind := by
  cases kind <;> decide

end StorageKind

/-- One line of a listing of signals. -/
structure SignalInfo where
  name : String
  description : Option String
  priority : Priority
  slotCount : Nat
  deriving DecidableEq, Repr, Inhabited

/-- How much storage a bus has and uses. -/
structure MemoryStats where
  kind : StorageKind
  signalsAllocated : Nat
  signalsUsed : Nat
  slotsAllocated : Nat
  slotsUsed : Nat
  peakSlotsUsed : Nat
  stringBytes : Nat
  deriving DecidableEq, Repr, Inhabited

/-- The line of a signal in a listing. -/
def Signal.info (signal : Signal) : SignalInfo where
  name := signal.name
  description := signal.description
  priority := signal.priority
  slotCount := signal.live

/-- The bytes of a signal's name and description. -/
def Signal.stringBytes (signal : Signal) : Nat :=
  signal.name.utf8ByteSize + (signal.description.map String.utf8ByteSize).getD 0

namespace Registry

/-- Every signal, in ascending order of index. -/
def listing (registry : Registry) : List SignalInfo :=
  registry.signals.toList.map fun entry => entry.2.info

/-- The timing of the signal of a name. -/
def timing (registry : Registry) (name : String) : Except Fault Timing :=
  match registry.lookup name with
  | .error fault => .error fault
  | .ok index =>
      match registry.signals.get? index with
      | none => .error (.notFound name)
      | some signal => .ok signal.timing

/-- Forget the timing of every signal. -/
def resetTiming (registry : Registry) : Registry :=
  { registry with signals := registry.signals.map fun signal => { signal with timing := {} } }

/-- How much storage the registry has and uses. -/
def memoryStats (registry : Registry) (kind : StorageKind) : MemoryStats where
  kind := kind
  signalsAllocated := registry.signals.reserved
  signalsUsed := registry.signals.size
  slotsAllocated := registry.slots.reserved
  slotsUsed := registry.slots.size
  peakSlotsUsed := registry.peakSlots
  stringBytes := registry.signals.toList.foldl (fun bytes entry => bytes + entry.2.stringBytes) 0

/-- Count the peak from the present use on. -/
def resetPeak (registry : Registry) : Registry :=
  { registry with peakSlots := registry.slots.size }

end Registry

end SignalDispatch
