/-!
# Texts as bytes

The UTF-8 bytes of a text, the text of a sequence of bytes, and the places at which a sequence of
bytes may be cut without splitting a character.  Reading back what was written gives the text
again; lengths of bytes are the lengths that every limit on names counts.
-/

namespace SignalDispatch.Utf8

/-- The bytes of a text. -/
def bytes (text : String) : List UInt8 :=
  text.toUTF8.data.toList

/-- The text of a sequence of bytes, if it is well formed. -/
def decode? (sequence : List UInt8) : Option String :=
  String.fromUTF8? ⟨sequence.toArray⟩

/-- Whether a byte continues a character that began earlier. -/
def isContinuation (byte : UInt8) : Bool :=
  byte &&& 0xC0 == 0x80

/-- Whether a cut before the byte at an offset, or at the end, splits no character. -/
def isBoundary (sequence : List UInt8) (offset : Nat) : Bool :=
  match sequence[offset]? with
  | some byte => !isContinuation byte
  | none => offset == sequence.length

/-- The last place at or before an offset where a sequence may be cut. -/
def cutAtOrBefore (sequence : List UInt8) : Nat → Nat
  | 0 => 0
  | offset + 1 =>
      if isBoundary sequence (offset + 1) then offset + 1 else cutAtOrBefore sequence offset

/-- How many bytes of a sequence are kept when at most `limit` may be. -/
def keptLength (sequence : List UInt8) (limit : Nat) : Nat :=
  if sequence.length ≤ limit then sequence.length else cutAtOrBefore sequence limit

@[simp]
theorem decode?_bytes (text : String) : decode? (bytes text) = some text := by
  have whole : (⟨(bytes text).toArray⟩ : ByteArray) = text.toUTF8 := by
    simp [bytes]
  have valid : text.toUTF8.IsValidUTF8 := text.isValidUTF8
  simp only [decode?, whole, String.fromUTF8?, dif_pos valid]
  rfl

theorem length_bytes (text : String) : (bytes text).length = text.utf8ByteSize := by
  rw [bytes, Array.length_toList]
  exact String.size_toByteArray

theorem cutAtOrBefore_le (sequence : List UInt8) (offset : Nat) :
    cutAtOrBefore sequence offset ≤ offset := by
  induction offset with
  | zero => exact Nat.le_refl 0
  | succ offset ih =>
      simp only [cutAtOrBefore]
      split
      · exact Nat.le_refl _
      · exact Nat.le_succ_of_le ih

theorem keptLength_le (sequence : List UInt8) (limit : Nat) :
    keptLength sequence limit ≤ limit := by
  unfold keptLength
  split
  · assumption
  · exact cutAtOrBefore_le sequence limit

end SignalDispatch.Utf8
