/-!
# Slot handles

A handle is the number of one connection on one bus.  Numbers are issued from 1 upwards, so 0
never names a slot.
-/

namespace SignalDispatch

/-- The number of one connection. -/
structure Handle where
  number : Nat
  deriving DecidableEq, Repr, Inhabited

namespace Handle

/-- The number that is never issued. -/
def unissued : Handle := ⟨0⟩

/-- Whether a connection can have this number. -/
def isValid (handle : Handle) : Bool :=
  handle.number ≠ 0

/-- The text of a handle, such as #7. -/
def text (handle : Handle) : String :=
  "#" ++ toString handle.number

theorem isValid_eq_false_iff (handle : Handle) :
    handle.isValid = false ↔ handle = unissued := by
  cases handle
  simp [isValid, unissued]

end Handle

end SignalDispatch
