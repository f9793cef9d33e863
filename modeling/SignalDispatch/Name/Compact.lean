import SignalDispatch.Limits

/-!
# Compact texts

A text of any length for names on growing storage and for the details of faults.  Texts of up to
23 bytes are kept in place, longer ones behind a reference; the difference shows only in
`isInline`.  As a signal name a compact text has at most `Limits.heapNameBytes` bytes.
-/

namespace SignalDispatch

/-- A text that is kept in place when it is short. -/
structure CompactText where
  text : String
  deriving DecidableEq, Repr, Inhabited

namespace CompactText

/-- Most bytes of a text that is kept in place. -/
def inlineBytes : Nat := 23

/-- The number of bytes of a text. -/
def length (compact : CompactText) : Nat :=
  compact.text.utf8ByteSize

def isEmpty (compact : CompactText) : Bool :=
  compact.text.isEmpty

/-- Whether a text is kept in place. -/
def isInline (compact : CompactText) : Bool :=
  compact.length ≤ inlineBytes

/-- The longest signal name, in bytes. -/
def maxNameBytes : Nat := Limits.heapNameBytes

/-- The compact text of a signal name, if it is not too long. -/
def ofName? (name : String) : Option CompactText :=
  if name.utf8ByteSize ≤ maxNameBytes then some ⟨name⟩ else none

end CompactText

end SignalDispatch
