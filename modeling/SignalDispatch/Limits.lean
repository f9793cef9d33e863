/-!
# Fixed limits

The numbers that size a bus: how many slots a signal takes unless configured otherwise, how long
a signal name may be on each kind of storage, how large the pools and the two queues are.  Lengths
of names count UTF-8 bytes.
-/

namespace SignalDispatch.Limits

/-- Live slots a signal takes unless the configuration says otherwise. -/
def slotsPerSignal : Nat := 100

/-- Longest signal name on growing storage, in bytes. -/
def heapNameBytes : Nat := 255

/-- Longest signal name on pooled storage, in bytes. -/
def poolNameBytes : Nat := 31

/-- Signal entries of a pool of the usual size. -/
def poolSignals : Nat := 32

/-- Slot entries of a pool of the usual size. -/
def poolSlots : Nat := 128

/-- Entries of a bus's interrupt queue. -/
def interruptDepth : Nat := 16

/-- Bytes of a name that an interrupt entry keeps. -/
def interruptNameBytes : Nat := 32

/-- Entries of the deferred queue unless the configuration says otherwise. -/
def deferredCapacity : Nat := 64

/-- Largest value of an unsigned 64-bit counter. -/
def maxCounter : Nat := UInt64.size - 1

/-- The character between a namespace and a signal name. -/
def namespaceSeparator : Char := '.'

/-- Pooled names fit a one-byte length. -/
theorem poolNameBytes_le : poolNameBytes ≤ 255 := by decide

/-- A pooled name is also a name on growing storage. -/
theorem poolNameBytes_le_heapNameBytes : poolNameBytes ≤ heapNameBytes := by decide

/-- An interrupt entry keeps at least one whole character of any name. -/
theorem four_le_interruptNameBytes : 4 ≤ interruptNameBytes := by decide

end SignalDispatch.Limits
