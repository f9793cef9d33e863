/-!
# Shortest decimals

The fewest decimal digits that read back as a given binary number.  A positive binary number is
`significand * 2 ^ exponent`; the reals that round to it lie between the midpoints to its two
neighbours, the midpoints included if the significand is even.  On the grid of decimals with a
given number of digits only the two neighbours of the number itself need a test: if any point of
the grid lies between the midpoints, one of those two does.  The first grid with a hit wins; of
two hits the nearer one, and the upper one if both are equally near.

All arithmetic is exact, on natural numbers.
-/

namespace SignalDispatch.Decimal

/-- A positive number `significand * 2 ^ exponent`. -/
structure Binary where
  significand : Nat
  exponent : Int
  /-- Whether the neighbour below is only half as far away as the one above. -/
  narrowBelow : Bool
  deriving DecidableEq, Repr

/-- A number `digits * 10 ^ exponent`. -/
structure Numeral where
  digits : Nat
  exponent : Int
  deriving DecidableEq, Repr, Inhabited

/-- A positive rational as numerator and denominator. -/
structure Fraction where
  numerator : Nat
  denominator : Nat
  deriving DecidableEq, Repr

/-- The number `count * base ^ exponent`. -/
def Fraction.scaled (base count : Nat) (exponent : Int) : Fraction :=
  if 0 ≤ exponent then { numerator := count * Nat.pow base exponent.toNat, denominator := 1 }
  else { numerator := count, denominator := Nat.pow base (-exponent).toNat }

/-- Whether one rational is less than another. -/
def Fraction.less (left right : Fraction) : Bool :=
  left.numerator * right.denominator < right.numerator * left.denominator

namespace Binary

/-- A quarter of the distance to the neighbour above, counted `count` times. -/
def quarters (number : Binary) (count : Nat) : Fraction :=
  Fraction.scaled 2 count (number.exponent - 2)

/-- The number itself. -/
def value (number : Binary) : Fraction :=
  number.quarters (4 * number.significand)

/-- The midpoint to the neighbour below. -/
def lower (number : Binary) : Fraction :=
  number.quarters (4 * number.significand - if number.narrowBelow then 1 else 2)

/-- The midpoint to the neighbour above. -/
def upper (number : Binary) : Fraction :=
  number.quarters (4 * number.significand + 2)

/-- Whether a rational rounds to the number. -/
def holds (number : Binary) (candidate : Fraction) : Bool :=
  if number.significand % 2 = 0 then
    !candidate.less number.lower && !number.upper.less candidate
  else number.lower.less candidate && candidate.less number.upper

/-- The greatest power of ten that is at most the number, searched upwards from `guess`. -/
def magnitude (number : Binary) : Nat → Int → Int
  | 0, guess => guess
  | fuel + 1, guess =>
      if number.value.less (Fraction.scaled 10 1 (guess + 1)) then guess
      else magnitude number fuel (guess + 1)

/-- The multiple of `10 ^ exponent` at or below the number. -/
def gridFloor (number : Binary) (exponent : Int) : Nat :=
  let step := Fraction.scaled 10 1 exponent
  number.value.numerator * step.denominator / (number.value.denominator * step.numerator)

/-- The point of the grid of multiples of `10 ^ exponent` that stands for the number, if any. -/
def onGrid? (number : Binary) (exponent : Int) : Option Numeral :=
  let below := number.gridFloor exponent
  let above := below + 1
  let holdsBelow := number.holds (Fraction.scaled 10 below exponent)
  let holdsAbove := number.holds (Fraction.scaled 10 above exponent)
  let middle := Fraction.scaled 10 (below + above) exponent
  let twice : Fraction := { number.value with numerator := 2 * number.value.numerator }
  if holdsBelow && (!holdsAbove || twice.less middle) then some ⟨below, exponent⟩
  else if holdsAbove then some ⟨above, exponent⟩
  else none

/-- The first of `count` finer and finer grids, from `exponent` downwards, with a point that
stands for the number. -/
def firstGrid? (number : Binary) : Nat → Int → Option Numeral
  | 0, _ => none
  | count + 1, exponent =>
      match number.onGrid? exponent with
      | some numeral => some numeral
      | none => firstGrid? number count (exponent - 1)

/-- The most digits that a 64-bit number needs. -/
def maxDigits : Nat := 17

/-- The fewest digits that read back as the number. -/
def shortest (number : Binary) : Numeral :=
  let magnitude := number.magnitude 700 (-330)
  (number.firstGrid? maxDigits magnitude).getD ⟨number.gridFloor 0, 0⟩

end Binary

/-! ## Words as numbers -/

/-- How the bits of a floating-point word are divided. -/
structure Layout where
  /-- Bits of the fraction. -/
  fractionBits : Nat
  /-- Bits of the exponent. -/
  exponentBits : Nat
  deriving DecidableEq, Repr

/-- The layout of 32-bit words. -/
def Layout.single : Layout := ⟨23, 8⟩

/-- The layout of 64-bit words. -/
def Layout.double : Layout := ⟨52, 11⟩

/-- What a floating-point word stands for. -/
inductive Reading where
  | notANumber
  | infinite (negative : Bool)
  | zero (negative : Bool)
  | finite (negative : Bool) (magnitude : Binary)
  deriving DecidableEq, Repr

/-- Read a floating-point word. -/
def Layout.read (layout : Layout) (bits : Nat) : Reading :=
  let fraction := bits % Nat.pow 2 layout.fractionBits
  let field := bits / Nat.pow 2 layout.fractionBits % Nat.pow 2 layout.exponentBits
  let negative := bits / Nat.pow 2 (layout.fractionBits + layout.exponentBits) % 2 == 1
  let bias := Nat.pow 2 (layout.exponentBits - 1) - 1
  let least : Int := 1 - (bias : Int) - (layout.fractionBits : Int)
  if field = Nat.pow 2 layout.exponentBits - 1 then
    if fraction = 0 then .infinite negative else .notANumber
  else if field = 0 then
    if fraction = 0 then .zero negative
    else .finite negative { significand := fraction, exponent := least, narrowBelow := false }
  else
    .finite negative
      { significand := Nat.pow 2 layout.fractionBits + fraction
        exponent := least + ((field : Int) - 1)
        narrowBelow := fraction == 0 && field != 1 }

end SignalDispatch.Decimal
