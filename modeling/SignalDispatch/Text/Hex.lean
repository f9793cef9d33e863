/-!
# Bytes and words in base 16

Bytes as pairs of hexadecimal digits, most significant digit first.  Either case is read, lower
case is written.  Words of 32 and 64 bits are read from and written as their bytes, most
significant byte first.
-/

namespace SignalDispatch.Hex

/-- The value of a hexadecimal digit of either case. -/
def digitValue? (digit : Char) : Option Nat :=
  if '0' ≤ digit ∧ digit ≤ '9' then some (digit.toNat - '0'.toNat)
  else if 'a' ≤ digit ∧ digit ≤ 'f' then some (digit.toNat - 'a'.toNat + 10)
  else if 'A' ≤ digit ∧ digit ≤ 'F' then some (digit.toNat - 'A'.toNat + 10)
  else none

/-- The bytes of an even number of digits. -/
def decodeDigits : List Char → Option (List UInt8)
  | [] => some []
  | [_] => none
  | upper :: lower :: rest => do
      let upper ← digitValue? upper
      let lower ← digitValue? lower
      let rest ← decodeDigits rest
      pure (UInt8.ofNat (16 * upper + lower) :: rest)

/-- The bytes of a text of digits. -/
def decode? (text : String) : Option (List UInt8) :=
  decodeDigits text.toList

/-- The two digits of a byte. -/
def encodeByte (byte : UInt8) : List Char :=
  [Nat.digitChar (byte.toNat / 16), Nat.digitChar (byte.toNat % 16)]

/-- The digits of a sequence of bytes. -/
def encode (bytes : List UInt8) : String :=
  String.ofList (bytes.flatMap encodeByte)

/-- The number that a sequence of bytes stands for, most significant byte first. -/
def value (bytes : List UInt8) : Nat :=
  bytes.foldl (fun number byte => 256 * number + byte.toNat) 0

/-- The last `width` bytes of a number, most significant byte first. -/
def bytesOf : Nat → Nat → List UInt8
  | 0, _ => []
  | width + 1, number => bytesOf width (number / 256) ++ [UInt8.ofNat (number % 256)]

/-- The digits of a 32-bit word. -/
def encodeWord32 (word : UInt32) : String :=
  encode (bytesOf 4 word.toNat)

/-- The digits of a 64-bit word. -/
def encodeWord64 (word : UInt64) : String :=
  encode (bytesOf 8 word.toNat)

/-- The 32-bit word of four bytes. -/
def word32? (bytes : List UInt8) : Option UInt32 :=
  if bytes.length = 4 then some (UInt32.ofNat (value bytes)) else none

/-- The 64-bit word of eight bytes. -/
def word64? (bytes : List UInt8) : Option UInt64 :=
  if bytes.length = 8 then some (UInt64.ofNat (value bytes)) else none

/-! ## Reading back -/

theorem digitValue?_digitChar {digit : Nat} (small : digit < 16) :
    digitValue? (Nat.digitChar digit) = some digit := by
  have every : ∀ value : Fin 16, digitValue? (Nat.digitChar value) = some value.val := by
    decide
  exact every ⟨digit, small⟩

/-- The digits of a sequence of bytes read back as the bytes. -/
@[simp]
theorem decode?_encode (bytes : List UInt8) : decode? (encode bytes) = some bytes := by
  have digits : ∀ bytes : List UInt8, decodeDigits (bytes.flatMap encodeByte) = some bytes := by
    intro bytes
    induction bytes with
    | nil => rfl
    | cons byte rest ih =>
        have bound : byte.toNat < 256 := byte.toNat_lt
        have upper : digitValue? (Nat.digitChar (byte.toNat / 16)) = some (byte.toNat / 16) :=
          digitValue?_digitChar (by omega)
        have lower : digitValue? (Nat.digitChar (byte.toNat % 16)) = some (byte.toNat % 16) :=
          digitValue?_digitChar (by omega)
        have whole : UInt8.ofNat (16 * (byte.toNat / 16) + byte.toNat % 16) = byte := by
          rw [Nat.div_add_mod, UInt8.ofNat_toNat]
        simp only [List.flatMap_cons, encodeByte, List.cons_append, List.nil_append,
          decodeDigits, upper, lower, ih, Option.bind_eq_bind, Option.bind_some]
        rw [whole]
        rfl
  simp [decode?, encode, digits]

end SignalDispatch.Hex
