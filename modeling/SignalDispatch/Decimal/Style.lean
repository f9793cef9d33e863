import SignalDispatch.Decimal.Shortest

/-!
# Decimal notation

How a floating-point word is written: the fewest digits that read back, positionally when the
first digit stands between four places after the point and sixteen before it, with at least one
digit on each side of the point; otherwise with a power of ten.  Both zeros show their sign.
-/

namespace SignalDispatch.Decimal

/-- The choices of a notation. -/
structure Style where
  /-- Least power of ten of the first digit in positional notation. -/
  leastPositional : Int
  /-- Greatest power of ten of the first digit in positional notation. -/
  greatestPositional : Int
  notANumber : String
  infinity : String
  deriving DecidableEq, Repr

/-- The notation of payloads in readable form. -/
def Style.readable : Style where
  leastPositional := -4
  greatestPositional := 15
  notANumber := "NaN"
  infinity := "inf"

/-- Drop the zeros at the end of a list of digits, keeping one digit. -/
def withoutTrailingZeros (digits : List Char) : List Char :=
  match digits.reverse.dropWhile (· == '0') with
  | [] => ['0']
  | kept => kept.reverse

/-- The significant digits of a numeral and the power of ten of the first of them. -/
def Numeral.significant (numeral : Numeral) : List Char × Int :=
  let digits := Nat.toDigits 10 numeral.digits
  (withoutTrailingZeros digits, numeral.exponent + ((digits.length : Int) - 1))

/-- Digits with a point behind the first `places`, zeros filling up both sides. -/
def pointed (digits : List Char) (places : Nat) : List Char :=
  let whole := digits.take places ++ List.replicate (places - digits.length) '0'
  let rest := digits.drop places
  whole ++ '.' :: (if rest.isEmpty then ['0'] else rest)

/-- Digits in positional notation, the first at the given power of ten. -/
def positional (digits : List Char) (power : Int) : List Char :=
  if 0 ≤ power then pointed digits (power.toNat + 1)
  else pointed ('0' :: List.replicate ((-power).toNat - 1) '0' ++ digits) 1

/-- Digits with a power of ten. -/
def scientific (digits : List Char) (power : Int) : List Char :=
  let exponent := (toString power).toList
  match digits with
  | [] => '0' :: 'e' :: exponent
  | [digit] => digit :: 'e' :: exponent
  | digit :: rest => digit :: '.' :: rest ++ 'e' :: exponent

/-- The sign of a number. -/
def sign (negative : Bool) : List Char :=
  if negative then ['-'] else []

/-- A floating-point word in a notation. -/
def Style.text (style : Style) (layout : Layout) (bits : Nat) : String :=
  match layout.read bits with
  | .notANumber => style.notANumber
  | .infinite negative => String.ofList (sign negative) ++ style.infinity
  | .zero negative => String.ofList (sign negative ++ ['0', '.', '0'])
  | .finite negative magnitude =>
      let (digits, power) := magnitude.shortest.significant
      let body :=
        if style.leastPositional ≤ power ∧ power ≤ style.greatestPositional then
          positional digits power
        else scientific digits power
      String.ofList (sign negative ++ body)

/-- A 32-bit word in readable form. -/
def singleText (bits : UInt32) : String :=
  Style.readable.text .single bits.toNat

/-- A 64-bit word in readable form. -/
def doubleText (bits : UInt64) : String :=
  Style.readable.text .double bits.toNat

end SignalDispatch.Decimal
