/-!
# Index arenas

An arena keeps values under indices that stay valid until the value is removed.  Its policy says
where the next value goes: growing storage takes the index vacated last and grows when none is
vacant; a pool has a fixed number of entries and takes the lowest vacant one; rationed storage is
growing storage whose memory is refused once a number of values is live, announced by `reserve` or
only by `insert`.

Through the view `get?` an arena is a partial map from indices to values: `insert` adds one index
that was vacant, `remove?` vacates one index, `modify` changes the value at one index.
-/

namespace SignalDispatch

/-- Why storage took no further value. -/
inductive StorageFault where
  | full (capacity : Nat)
  | outOfMemory
  deriving DecidableEq, Repr, Inhabited

/-- Where an arena puts the next value. -/
inductive StoragePolicy where
  /-- Reuse the index vacated last, and grow when none is vacant. -/
  | growing
  /-- A fixed number of entries; take the lowest vacant one. -/
  | pool (capacity : Nat)
  /-- Grow, but refuse memory while `limit` values are live; `reserve` says so if `foretold`. -/
  | rationed (limit : Nat) (foretold : Bool)
  deriving DecidableEq, Repr, Inhabited

/-- Values under stable indices. -/
structure Arena (α : Type) where
  policy : StoragePolicy
  /-- The value at each index; `none` marks a vacant one. -/
  entries : List (Option α)
  /-- Vacated indices of growing storage, the one vacated last in front. -/
  vacated : List Nat
  /-- The number of values. -/
  size : Nat
  deriving DecidableEq, Repr, Inhabited

namespace Arena

variable {α : Type}

/-- An arena without values. -/
def empty (policy : StoragePolicy) : Arena α where
  policy := policy
  entries :=
    match policy with
    | .pool capacity => List.replicate capacity none
    | _ => []
  vacated := []
  size := 0

/-! ## Reading -/

/-- The value at an index. -/
def get? (arena : Arena α) (index : Nat) : Option α :=
  arena.entries[index]?.join

/-- The values with their indices, in ascending order of index. -/
def toList (arena : Arena α) : List (Nat × α) :=
  arena.entries.zipIdx.filterMap fun entry => entry.1.map fun value => (entry.2, value)

/-- The number of entries that storage has set aside. -/
def reserved (arena : Arena α) : Nat :=
  arena.entries.length

/-- Whether an arena holds no value. -/
def isEmpty (arena : Arena α) : Bool :=
  arena.size == 0

/-! ## Writing -/

/-- Whether memory for one more value is refused. -/
def refuses (arena : Arena α) : Bool :=
  match arena.policy with
  | .rationed limit _ => limit ≤ arena.size
  | _ => false

/-- The index that the next value takes. -/
def vacancy (arena : Arena α) : Except StorageFault Nat :=
  match arena.policy with
  | .pool capacity =>
      match arena.entries.findIdx? Option.isNone with
      | some index => .ok index
      | none => .error (.full capacity)
  | _ =>
      if arena.refuses then .error .outOfMemory
      else .ok (arena.vacated.head?.getD arena.entries.length)

/-- Whether there is room for one more value. -/
def reserve (arena : Arena α) : Except StorageFault Unit :=
  match arena.policy with
  | .growing => .ok ()
  | .pool capacity => if arena.size < capacity then .ok () else .error (.full capacity)
  | .rationed _ foretold =>
      if foretold && arena.refuses then .error .outOfMemory else .ok ()

/-- Write a value at an index, growing by one entry at the end of the entries. -/
def write (arena : Arena α) (index : Nat) (value : α) : Arena α :=
  { arena with
    entries :=
      if index < arena.entries.length then arena.entries.set index (some value)
      else arena.entries ++ [some value]
    vacated := arena.vacated.tail
    size := arena.size + 1 }

/-- Put a value at the next vacant index. -/
def insert (arena : Arena α) (value : α) : Except StorageFault (Nat × Arena α) :=
  arena.vacancy.map fun index => (index, arena.write index value)

/-- Vacate an index; growing storage will take it up again first. -/
def vacate (arena : Arena α) (index : Nat) : Arena α :=
  { arena with
    entries := arena.entries.set index none
    vacated :=
      match arena.policy with
      | .pool _ => arena.vacated
      | _ => index :: arena.vacated
    size := arena.size - 1 }

/-- Take the value out of an index. -/
def remove? (arena : Arena α) (index : Nat) : Option (α × Arena α) :=
  (arena.get? index).map fun value => (value, arena.vacate index)

/-- Change the value at an index, if there is one. -/
def modify (arena : Arena α) (index : Nat) (change : α → α) : Arena α :=
  { arena with entries := arena.entries.modify index (Option.map change) }

/-- Change every value. -/
def map (arena : Arena α) (change : α → α) : Arena α :=
  { arena with entries := arena.entries.map (Option.map change) }

/-- Take the values out of several indices, in the order given. -/
def removeAll (arena : Arena α) : List Nat → List α × Arena α
  | [] => ([], arena)
  | index :: rest =>
      match arena.remove? index with
      | none => arena.removeAll rest
      | some (value, arena) =>
          let (values, arena) := arena.removeAll rest
          (value :: values, arena)

/-! ## The map view -/

@[simp]
theorem get?_empty (policy : StoragePolicy) (index : Nat) :
    (empty policy : Arena α).get? index = none := by
  cases policy <;> simp [empty, get?, List.getElem?_replicate]
  split <;> simp

theorem get?_modify (arena : Arena α) (index : Nat) (change : α → α) (other : Nat) :
    (arena.modify index change).get? other =
      if index = other then (arena.get? other).map change else arena.get? other := by
  simp only [modify, get?, List.getElem?_modify]
  by_cases same : index = other
  · subst same
    cases arena.entries[index]? <;> simp
  · simp [same]

@[simp]
theorem get?_map (arena : Arena α) (change : α → α) (index : Nat) :
    (arena.map change).get? index = (arena.get? index).map change := by
  simp only [map, get?, List.getElem?_map]
  cases arena.entries[index]? <;> simp

theorem get?_vacate (arena : Arena α) (index other : Nat) :
    (arena.vacate index).get? other = if index = other then none else arena.get? other := by
  by_cases same : index = other
  · subst same
    by_cases bound : index < arena.entries.length <;>
      simp [vacate, get?, bound]
  · simp [vacate, get?, List.getElem?_set_ne same, same]

/-- Writing at an index below the end, or at the end, sets the value there and nowhere else. -/
theorem get?_write
    (arena : Arena α)
    {index : Nat}
    (value : α)
    (bound : index ≤ arena.entries.length)
    (other : Nat) :
    (arena.write index value).get? other =
      if index = other then some value else arena.get? other := by
  unfold write get?
  by_cases inside : index < arena.entries.length
  · by_cases same : index = other
    · subst same
      simp [inside]
    · simp [inside, List.getElem?_set_ne same, same]
  · have last : index = arena.entries.length := by omega
    subst last
    by_cases same : arena.entries.length = other
    · subst same
      simp
    · rcases Nat.lt_or_gt_of_ne same with beyond | before
      · simp [List.getElem?_append, same, Nat.not_lt.mpr (Nat.le_of_lt beyond),
          Nat.sub_ne_zero_of_lt beyond]
      · simp [List.getElem?_append_left before, same]

/-- Removing takes out the value at an index, if there is one. -/
theorem remove?_eq_some_iff (arena rest : Arena α) (index : Nat) (value : α) :
    arena.remove? index = some (value, rest) ↔
      arena.get? index = some value ∧ rest = arena.vacate index := by
  simp only [remove?, Option.map_eq_some_iff, Prod.mk.injEq]
  constructor
  · rintro ⟨found, present, rfl, rfl⟩
    exact ⟨present, rfl⟩
  · rintro ⟨present, rfl⟩
    exact ⟨value, present, rfl, rfl⟩

theorem mem_toList_iff (arena : Arena α) (index : Nat) (value : α) :
    (index, value) ∈ arena.toList ↔ arena.get? index = some value := by
  simp only [toList, get?, List.mem_filterMap, Prod.exists, List.mem_zipIdx_iff_getElem?,
    Option.map_eq_some_iff, Prod.mk.injEq, Option.join_eq_some_iff]
  constructor
  · rintro ⟨entry, position, found, content, rfl, rfl, rfl⟩
    simpa using found
  · intro found
    exact ⟨some value, index, by simpa using found, value, rfl, rfl, rfl⟩

end Arena

end SignalDispatch
