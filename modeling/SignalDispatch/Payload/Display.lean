import SignalDispatch.Decimal.Style
import SignalDispatch.Payload.Basic
import SignalDispatch.Text.Quoted

/-!
# Payloads in readable form

A payload as its constructor and its value: numbers in shortest notation, texts between quotes,
a custom payload by its size.  A pointer that is not null has no readable form, because it would
show where the value is kept.
-/

namespace SignalDispatch.Payload

/-- A payload in readable form. -/
def display? : Payload → Option String
  | void => some "Void"
  | int value => some ("Int(" ++ toString value.toInt ++ ")")
  | float bits => some ("Float(" ++ Decimal.singleText bits ++ ")")
  | double bits => some ("Double(" ++ Decimal.doubleText bits ++ ")")
  | string none => some "Str(None)"
  | string (some value) => some ("Str(Some(" ++ Quoted.quote value ++ "))")
  | pointer none => some "Pointer(None)"
  | pointer (some _) => none
  | custom bytes => some ("Custom \x7b size: " ++ toString bytes.length ++ " \x7d")

end SignalDispatch.Payload
