import SignalDispatch.Arena

/-!
# Storage with other values

Where an arena puts a value does not depend on the values that it holds.  So changing every value
commutes with whatever is done to the arena, as long as the values that are put in and the changes
of single values are changed in the same way.
-/

namespace SignalDispatch

/-- Where two results are the same up to what they are turned into. -/
theorem Except.cases_of_map_eq
    {ε α β γ : Type}
    {left : Except ε α}
    {right : Except ε β}
    {first : α → γ}
    {second : β → γ}
    (same : left.map first = right.map second) :
    (∃ fault, left = .error fault ∧ right = .error fault) ∨
      ∃ value other, left = .ok value ∧ right = .ok other ∧ first value = second other := by
  cases left with
  | error fault =>
      cases right with
      | error other =>
          cases same
          exact Or.inl ⟨fault, rfl, rfl⟩
      | ok other => cases same
  | ok value =>
      cases right with
      | error other => cases same
      | ok other => exact Or.inr ⟨value, other, rfl, rfl, Except.ok.inj same⟩

theorem Option.cases_of_map_eq
    {α β γ : Type}
    {left : Option α}
    {right : Option β}
    {first : α → γ}
    {second : β → γ}
    (same : left.map first = right.map second) :
    left = none ∧ right = none ∨
      ∃ value other, left = some value ∧ right = some other ∧ first value = second other := by
  cases left with
  | none =>
      cases right with
      | none => exact Or.inl ⟨rfl, rfl⟩
      | some other => cases same
  | some value =>
      cases right with
      | none => cases same
      | some other => exact Or.inr ⟨value, other, rfl, rfl, Option.some.inj same⟩

namespace Arena

variable {α : Type} (arena : Arena α) (change : α → α)

@[simp]
theorem reserved_map : (arena.map change).reserved = arena.reserved := by
  simp [map, reserved]

@[simp]
theorem map_empty (policy : StoragePolicy) :
    (empty policy : Arena α).map change = empty policy := by
  cases policy <;> simp [map, empty]

theorem toList_map :
    (arena.map change).toList = arena.toList.map fun entry => (entry.1, change entry.2) := by
  have each (entries : List (Option α)) (start : Nat) :
      ((entries.map (Option.map change)).zipIdx start).filterMap
          (fun entry => entry.1.map fun value => (entry.2, value)) =
        ((entries.zipIdx start).filterMap
          (fun entry => entry.1.map fun value => (entry.2, value))).map
            fun entry => (entry.1, change entry.2) := by
    induction entries generalizing start with
    | nil => rfl
    | cons entry rest ih =>
        cases entry with
        | none => simpa using ih (start + 1)
        | some value => simpa using ih (start + 1)
  exact each arena.entries 0

variable {change} in
theorem map_modify
    (single single' : α → α)
    (commutes : ∀ value, change (single value) = single' (change value))
    (index : Nat) :
    (arena.modify index single).map change = (arena.map change).modify index single' := by
  have each (entry : Option α) :
      (entry.map single).map change = (entry.map change).map single' := by
    cases entry with
    | none => rfl
    | some value => exact congrArg some (commutes value)
  simp only [map, modify, Arena.mk.injEq, and_true, true_and]
  apply List.ext_getElem?
  intro position
  simp only [List.getElem?_map, List.getElem?_modify]
  cases arena.entries[position]? with
  | none => rfl
  | some entry =>
      by_cases here : index = position
      · simp [here, each entry]
      · simp [here]

variable {change} in
theorem map_map
    {other other' : α → α}
    (commutes : ∀ value, change (other value) = other' (change value)) :
    (arena.map other).map change = (arena.map change).map other' := by
  have same : change ∘ other = other' ∘ change := funext commutes
  simp [map, same]

@[simp]
theorem reserve_map : (arena.map change).reserve = arena.reserve :=
  rfl

@[simp]
theorem vacancy_map : (arena.map change).vacancy = arena.vacancy := by
  have vacant : (Option.isNone ∘ Option.map change : Option α → Bool) = Option.isNone := by
    funext entry
    cases entry <;> rfl
  cases policy : arena.policy <;> simp [vacancy, map, policy, vacant, List.findIdx?_map, refuses]

theorem map_write (index : Nat) (value : α) :
    (arena.write index value).map change = (arena.map change).write index (change value) := by
  simp only [map, write, List.length_map]
  split
  · simp
  · simp

/-- Inserting a value that is changed. -/
theorem insert_map (value : α) :
    (arena.map change).insert (change value) =
      (arena.insert value).map fun stored => (stored.1, stored.2.map change) := by
  rw [insert, vacancy_map, insert]
  cases arena.vacancy with
  | error fault => rfl
  | ok index => exact congrArg (fun next => Except.ok (index, next)) (map_write _ _ _ _).symm

theorem map_vacate (index : Nat) :
    (arena.vacate index).map change = (arena.map change).vacate index := by
  simp [map, vacate]

theorem remove?_map (index : Nat) :
    (arena.map change).remove? index =
      (arena.remove? index).map fun removed => (change removed.1, removed.2.map change) := by
  rw [remove?, get?_map, remove?, ← map_vacate]
  cases arena.get? index <;> rfl

/-- Removing several values gives the changed ones, in the same order. -/
theorem removeAll_map (indices : List Nat) :
    (arena.map change).removeAll indices =
      ((arena.removeAll indices).1.map change, (arena.removeAll indices).2.map change) := by
  induction indices generalizing arena with
  | nil => rfl
  | cons index rest ih =>
      rw [removeAll, remove?_map, removeAll]
      cases arena.remove? index with
      | none => exact ih arena
      | some removed => simp [ih removed.2]

end Arena

end SignalDispatch
