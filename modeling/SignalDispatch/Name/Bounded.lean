import SignalDispatch.Text.Quoted
import SignalDispatch.Text.Utf8

/-!
# Names of bounded width

A name kept in a buffer of fixed width: the bytes of the text, then zeros, with the number of
bytes that belong to the text.  A text is taken whole or not at all.
-/

namespace SignalDispatch

/-- A name in a buffer of `width` bytes. -/
structure BoundedName (width : Nat) where
  buffer : List UInt8
  used : UInt8
  deriving DecidableEq, Repr

namespace BoundedName

variable {width : Nat}

/-- The name of a text, if its bytes fit. -/
def ofText? (width : Nat) (text : String) : Option (BoundedName width) :=
  let bytes := Utf8.bytes text
  if bytes.length ≤ width then
    some
      { buffer := bytes ++ List.replicate (width - bytes.length) 0
        used := UInt8.ofNat bytes.length }
  else none

/-- The number of bytes of a name. -/
def length (name : BoundedName width) : Nat :=
  name.used.toNat

/-- Whether a name has no bytes. -/
def isEmpty (name : BoundedName width) : Bool :=
  name.used == 0

/-- The text of a name; empty if the buffer holds none. -/
def text (name : BoundedName width) : String :=
  (Utf8.decode? (name.buffer.take name.length)).getD ""

/-- A name in readable form. -/
def display (name : BoundedName width) : String :=
  "FixedName(" ++ Quoted.quote name.text ++ ")"

theorem ofText?_isSome_iff (width : Nat) (text : String) :
    (ofText? width text).isSome ↔ text.utf8ByteSize ≤ width := by
  simp only [ofText?, Utf8.length_bytes]
  split <;> simp_all

/-- A name gives back the text it was made from. -/
theorem text_of_ofText?
    {text : String}
    {name : BoundedName width}
    (narrow : width ≤ 255)
    (made : ofText? width text = some name) :
    name.text = text := by
  simp only [ofText?] at made
  split at made
  · rename_i fits
    obtain rfl := Option.some.inj made
    have counted : (UInt8.ofNat (Utf8.bytes text).length).toNat = (Utf8.bytes text).length := by
      rw [UInt8.toNat_ofNat_of_lt']
      have : UInt8.size = 256 := rfl
      omega
    simp [BoundedName.text, BoundedName.length, counted]
  · cases made

end BoundedName

end SignalDispatch
