import SignalDispatch.Registry.Basic

/-!
# What threading leaves alone

`thread` writes the links of a list of slots, and nothing else: slots outside the list stay as they
were, so that a chain which shares no slot with the list keeps its links, no room is reserved or
given up, and no slot comes or goes.
-/

namespace SignalDispatch.Registry

/-- Threading a list of slots leaves every slot outside the list as it was. -/
theorem get?_thread_of_not_mem
    (slots : Arena Slot)
    {order : List Nat}
    {index : Nat}
    (outside : index ∉ order) :
    (thread slots order).get? index = slots.get? index := by
  induction order generalizing slots with
  | nil => rfl
  | cons first rest ih =>
      rw [List.mem_cons, not_or] at outside
      rw [thread, ih _ outside.2, Arena.get?_modify, if_neg (Ne.symm outside.1)]

@[simp]
theorem reserved_thread (slots : Arena Slot) (order : List Nat) :
    (thread slots order).reserved = slots.reserved := by
  induction order generalizing slots with
  | nil => rfl
  | cons first rest ih =>
      rw [thread, ih]
      simp [Arena.modify, Arena.reserved]

theorem size_thread (slots : Arena Slot) (order : List Nat) :
    (thread slots order).size = slots.size := by
  induction order generalizing slots with
  | nil => rfl
  | cons first rest ih => exact ih _

end SignalDispatch.Registry
