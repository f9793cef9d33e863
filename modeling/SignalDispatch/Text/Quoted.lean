import SignalDispatch.Text.Printable

/-!
# Quoted texts

A text between double quotes, as it appears in the readable form of values: the quote, the
backslash and the usual control characters have short escapes, every other character that is not
printable is shown by its number in base 16.
-/

namespace SignalDispatch.Quoted

/-- The digits of a number in base 16, lower case. -/
def hexDigits (number : Nat) : List Char :=
  Nat.toDigits 16 number

/-- A character shown by its number. -/
def numbered (character : Char) : List Char :=
  ['\\', 'u', '\x7b'] ++ hexDigits character.toNat ++ ['\x7d']

/-- A character inside quotes. -/
def escape (character : Char) : List Char :=
  match character with
  | '\x00' => ['\\', '0']
  | '\t' => ['\\', 't']
  | '\r' => ['\\', 'r']
  | '\n' => ['\\', 'n']
  | '\\' => ['\\', '\\']
  | '\x22' => ['\\', '\x22']
  | other => if Printable.isPrintable other then [other] else numbered other

/-- A text between quotes. -/
def quote (text : String) : String :=
  String.ofList ('\x22' :: text.toList.flatMap escape ++ ['\x22'])

end SignalDispatch.Quoted
