import SignalDispatch.Name.Bounded

/-!
# Names are kept whole and apart

A buffer of fixed width takes a text whole or not at all.  What it has taken it gives back, and two
texts that it has taken are equal exactly if their buffers and lengths are: the zeros behind a short
text are told apart from zeros that belong to a longer one by the number of bytes in use.
-/

namespace SignalDispatch.BoundedName

variable {width : Nat} {text : String} {name : BoundedName width}

/-- How a buffer of some width keeps a text. -/
structure KeepsWhole (width : Nat) (text : String) : Prop where
  /-- The text is taken exactly if its bytes fit. -/
  taken : (ofText? width text).isSome ↔ text.utf8ByteSize ≤ width
  filled : ∀ name, ofText? width text = some name → name.buffer.length = width
  /-- The bytes in use are always well formed. -/
  decodes :
    ∀ name, ofText? width text = some name →
      Utf8.decode? (name.buffer.take name.length) = some text
  whole : ∀ name, ofText? width text = some name → name.text = text
  length : ∀ name, ofText? width text = some name → name.length = text.utf8ByteSize
  /-- Names are equal exactly if they were made from the same text. -/
  apart :
    ∀ other name name', ofText? width text = some name → ofText? width other = some name' →
      (name == name' ↔ text = other)

/-- A name is made from the bytes of its text, followed by zeros, and from their number. -/
theorem ofText?_eq_some_iff :
    ofText? width text = some name ↔
      text.utf8ByteSize ≤ width ∧
        name.buffer =
          Utf8.bytes text ++ List.replicate (width - text.utf8ByteSize) 0 ∧
        name.used = UInt8.ofNat text.utf8ByteSize := by
  rw [ofText?, Utf8.length_bytes]
  split
  next fits =>
    rw [Option.some.injEq]
    constructor
    · rintro rfl
      exact ⟨fits, rfl, rfl⟩
    · rintro ⟨_, buffer, used⟩
      cases name
      cases buffer
      cases used
      rfl
  next long =>
    constructor
    · intro made
      cases made
    · intro made
      exact absurd made.1 long

theorem length_buffer_of_ofText? (made : ofText? width text = some name) :
    name.buffer.length = width := by
  rcases ofText?_eq_some_iff.mp made with ⟨fits, buffer, _⟩
  rw [buffer, List.length_append, List.length_replicate, Utf8.length_bytes]
  exact Nat.add_sub_cancel' fits

/-- A width that a byte can count is a width whose lengths a byte can count. -/
theorem length_of_ofText? (narrow : width ≤ 255) (made : ofText? width text = some name) :
    name.length = text.utf8ByteSize := by
  rcases ofText?_eq_some_iff.mp made with ⟨fits, _, used⟩
  have small : text.utf8ByteSize < UInt8.size := Nat.lt_succ_of_le (Nat.le_trans fits narrow)
  rw [BoundedName.length, used, UInt8.toNat_ofNat_of_lt' small]

theorem decode?_of_ofText? (narrow : width ≤ 255) (made : ofText? width text = some name) :
    Utf8.decode? (name.buffer.take name.length) = some text := by
  have buffer := (ofText?_eq_some_iff.mp made).2.1
  rw [length_of_ofText? narrow made, buffer, ← Utf8.length_bytes, List.take_left]
  exact Utf8.decode?_bytes text

/-- A buffer keeps every text whole, and apart from every other one. -/
theorem keeps_whole (narrow : width ≤ 255) (text : String) : KeepsWhole width text where
  taken := ofText?_isSome_iff width text
  filled := fun _ made => length_buffer_of_ofText? made
  decodes := fun _ made => decode?_of_ofText? narrow made
  whole := fun _ made => text_of_ofText? narrow made
  length := fun _ made => length_of_ofText? narrow made
  apart := by
    intro other name name' made made'
    rw [beq_iff_eq]
    constructor
    · intro same
      calc
        text = name.text := (text_of_ofText? narrow made).symm
        _ = name'.text := congrArg BoundedName.text same
        _ = other := text_of_ofText? narrow made'
    · rintro rfl
      exact Option.some.inj (made.symm.trans made')

/-- A text that ends in a zero has the same buffer as the text without it, and is kept apart. -/
theorem keeps_whole_zero :
    3 ≤ 255 ∧ KeepsWhole 3 "é\x00" ∧
      ofText? 3 "é\x00" = some ⟨[0xC3, 0xA9, 0], 3⟩ ∧ ofText? 3 "é" = some ⟨[0xC3, 0xA9, 0], 2⟩ :=
  ⟨by decide, keeps_whole (by decide) _, by decide +kernel, by decide +kernel⟩

end SignalDispatch.BoundedName
