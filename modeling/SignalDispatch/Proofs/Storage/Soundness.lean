import Mathlib.Data.List.Basic
import SignalDispatch.Arena

/-!
# Sound arenas

An arena keeps, beside its entries, a list of vacated indices and a count of its values.  It is
sound when these agree with the entries: the list holds exactly the vacant indices of growing
storage, each once, and the count is the number of values.  Every operation keeps an arena sound,
and a sound arena puts a new value only at an index that was vacant.
-/

namespace SignalDispatch.Arena

variable {α : Type}

/-- The list of vacated indices and the count of values agree with the entries. -/
structure Sound (arena : Arena α) : Prop where
  vacated_vacant :
    ∀ index ∈ arena.vacated, index < arena.reserved ∧ arena.get? index = none
  vacated_nodup : arena.vacated.Nodup
  /-- Growing storage remembers every vacant index. -/
  vacant_vacated :
    (∀ capacity, arena.policy ≠ .pool capacity) →
      ∀ index < arena.reserved, arena.get? index = none → index ∈ arena.vacated
  /-- A pool has all its entries from the start and remembers no vacated index. -/
  pool :
    ∀ capacity, arena.policy = .pool capacity →
      arena.reserved = capacity ∧ arena.vacated = []
  size_eq : arena.size = arena.entries.countP Option.isSome

/-! ## Reading -/

theorem get?_eq_none_of_reserved_le
    (arena : Arena α)
    {index : Nat}
    (beyond : arena.reserved ≤ index) :
    arena.get? index = none := by
  rw [get?, List.getElem?_eq_none beyond]
  rfl

theorem lt_reserved_of_get?_isSome
    (arena : Arena α)
    {index : Nat}
    (present : (arena.get? index).isSome) :
    index < arena.reserved := by
  by_contra outside
  rw [arena.get?_eq_none_of_reserved_le (Nat.le_of_not_lt outside)] at present
  simp at present

/-- The values of an arena come in ascending order of their indices. -/
theorem pairwise_toList_map_fst (arena : Arena α) :
    (arena.toList.map Prod.fst).Pairwise (· < ·) := by
  have ascending : (arena.entries.zipIdx.map Prod.snd).Pairwise (· < ·) := by
    rw [List.zipIdx_map_snd]
    exact List.pairwise_lt_range'
  rw [List.pairwise_map] at ascending ⊢
  rw [toList, List.pairwise_filterMap]
  refine ascending.imp ?_
  intro left right less first found second found'
  rcases Option.map_eq_some_iff.mp found with ⟨_, _, rfl⟩
  rcases Option.map_eq_some_iff.mp found' with ⟨_, _, rfl⟩
  exact less

/-- Values listed at different places of the list have different indices. -/
theorem nodup_toList_map_fst (arena : Arena α) :
    (arena.toList.map Prod.fst).Nodup :=
  arena.pairwise_toList_map_fst.imp Nat.ne_of_lt

theorem length_toList (arena : Arena α) :
    arena.toList.length = arena.entries.countP Option.isSome := by
  have values :
      arena.entries.countP Option.isSome =
        arena.entries.zipIdx.countP fun entry => entry.1.isSome := by
    conv_lhs => rw [← List.zipIdx_map_fst 0 arena.entries]
    rw [List.countP_map]
    rfl
  rw [values, toList, List.length_filterMap_eq_countP]
  congr 1
  funext entry
  rw [Option.isSome_map]

/-! ## Operations -/

theorem sound_empty (policy : StoragePolicy) : (empty policy : Arena α).Sound where
  vacated_vacant := by simp [empty]
  vacated_nodup := by simp [empty]
  vacant_vacated := by
    intro growing index bound _
    cases policy with
    | pool capacity => exact absurd rfl (growing capacity)
    | growing => simp [empty, reserved] at bound
    | rationed limit foretold => simp [empty, reserved] at bound
  pool := by
    intro capacity isPool
    change policy = .pool capacity at isPool
    subst isPool
    simp [empty, reserved]
  size_eq := by
    cases policy <;> simp [empty, List.countP_replicate]

/-- The indices that hold a value, read off the entries. -/
theorem isSome_get? (arena : Arena α) (index : Nat) :
    (arena.get? index).isSome = ((arena.entries.map Option.isSome)[index]?.getD false) := by
  rw [get?, List.getElem?_map]
  cases arena.entries[index]? with
  | none => rfl
  | some entry => rfl

/-- Soundness speaks only of which indices hold a value. -/
theorem Sound.of_places
    {arena other : Arena α}
    (sound : arena.Sound)
    (policy : other.policy = arena.policy)
    (vacated : other.vacated = arena.vacated)
    (size : other.size = arena.size)
    (places : other.entries.map Option.isSome = arena.entries.map Option.isSome) :
    other.Sound := by
  have reserved : other.reserved = arena.reserved := by
    simpa [Arena.reserved] using congrArg List.length places
  have vacant (index : Nat) : other.get? index = none ↔ arena.get? index = none := by
    rw [← Option.isNone_iff_eq_none, ← Option.isNone_iff_eq_none, ← Option.not_isSome,
      ← Option.not_isSome, isSome_get?, isSome_get?, places]
  have countP_places (entries : List (Option α)) :
      entries.countP Option.isSome = (entries.map Option.isSome).countP id := by
    rw [List.countP_map]
    rfl
  constructor
  · intro index member
    rw [reserved, vacant]
    exact sound.vacated_vacant index (vacated ▸ member)
  · rw [vacated]
    exact sound.vacated_nodup
  · intro growing index bound empty
    rw [vacated]
    exact sound.vacant_vacated (policy ▸ growing) index (reserved ▸ bound)
      ((vacant index).mp empty)
  · intro capacity isPool
    rw [reserved, vacated]
    exact sound.pool capacity (policy ▸ isPool)
  · rw [size, sound.size_eq, countP_places, countP_places, places]

theorem isSome_get?_modify (arena : Arena α) (index : Nat) (change : α → α) (other : Nat) :
    ((arena.modify index change).get? other).isSome = (arena.get? other).isSome := by
  rw [get?_modify]
  split <;> simp

/-- Changing a value in place touches neither the vacated indices nor the count. -/
theorem Sound.modify
    {arena : Arena α}
    (sound : arena.Sound)
    (index : Nat)
    (change : α → α) :
    (arena.modify index change).Sound := by
  refine sound.of_places rfl rfl rfl ?_
  apply List.ext_getElem?
  intro other
  rw [List.getElem?_map, List.getElem?_map, Arena.modify, List.getElem?_modify]
  cases arena.entries[other]? with
  | none => rfl
  | some entry =>
      by_cases same : index = other
      · simp [same]
      · simp [same]

theorem Sound.map {arena : Arena α} (sound : arena.Sound) (change : α → α) :
    (arena.map change).Sound := by
  refine sound.of_places rfl rfl rfl ?_
  rw [Arena.map, List.map_map]
  congr 1
  funext entry
  exact Option.isSome_map

/-- A pool gives out a vacant one of its entries. -/
theorem vacancy_of_pool
    {arena : Arena α}
    {capacity index : Nat}
    (isPool : arena.policy = .pool capacity)
    (vacancy : arena.vacancy = .ok index) :
    index < arena.reserved ∧ arena.get? index = none := by
  simp only [Arena.vacancy, isPool] at vacancy
  cases found : arena.entries.findIdx? Option.isNone with
  | none => simp [found] at vacancy
  | some first =>
      simp only [found, Except.ok.injEq] at vacancy
      subst vacancy
      obtain ⟨bound, empty, _⟩ := List.findIdx?_eq_some_iff_getElem.mp found
      refine ⟨bound, ?_⟩
      rw [get?, List.getElem?_eq_getElem bound]
      simpa using empty

/-- Growing storage gives out the index vacated last, or the next new one. -/
theorem vacancy_of_growing
    {arena : Arena α}
    {index : Nat}
    (growing : ∀ capacity, arena.policy ≠ .pool capacity)
    (vacancy : arena.vacancy = .ok index) :
    index = arena.vacated.head?.getD arena.reserved := by
  unfold Arena.vacancy at vacancy
  split at vacancy
  next capacity isPool => exact absurd isPool (growing capacity)
  next =>
    split at vacancy
    · cases vacancy
    · simpa [reserved] using vacancy.symm

/-- An index taken by a new value was vacant, inside the entries or at their end. -/
theorem Sound.vacancy_spec
    {arena : Arena α}
    (sound : arena.Sound)
    {index : Nat}
    (vacancy : arena.vacancy = .ok index) :
    arena.get? index = none ∧ index ≤ arena.reserved := by
  by_cases growing : ∀ capacity, arena.policy ≠ .pool capacity
  · have given := vacancy_of_growing growing vacancy
    cases listed : arena.vacated with
    | nil =>
        rw [listed, List.head?_nil, Option.getD_none] at given
        subst given
        exact ⟨arena.get?_eq_none_of_reserved_le (Nat.le_refl _), Nat.le_refl _⟩
    | cons last rest =>
        rw [listed, List.head?_cons, Option.getD_some] at given
        subst given
        obtain ⟨bound, empty⟩ := sound.vacated_vacant index (by simp [listed])
        exact ⟨empty, Nat.le_of_lt bound⟩
  · push Not at growing
    obtain ⟨capacity, isPool⟩ := growing
    obtain ⟨bound, empty⟩ := vacancy_of_pool isPool vacancy
    exact ⟨empty, Nat.le_of_lt bound⟩

theorem insert_eq_ok_iff (arena grown : Arena α) (value : α) (index : Nat) :
    arena.insert value = .ok (index, grown) ↔
      arena.vacancy = .ok index ∧ grown = arena.write index value := by
  unfold insert
  cases arena.vacancy with
  | error fault => simp [Except.map]
  | ok vacant =>
      simp only [Except.map, Except.ok.injEq, Prod.mk.injEq]
      constructor
      · rintro ⟨rfl, rfl⟩
        exact ⟨rfl, rfl⟩
      · rintro ⟨rfl, rfl⟩
        exact ⟨rfl, rfl⟩

/-- Inserting sets one vacant index and changes no other. -/
theorem Sound.get?_insert
    {arena grown : Arena α}
    (sound : arena.Sound)
    {value : α}
    {index : Nat}
    (inserted : arena.insert value = .ok (index, grown))
    (other : Nat) :
    grown.get? other = if index = other then some value else arena.get? other := by
  obtain ⟨vacancy, rfl⟩ := (insert_eq_ok_iff _ _ _ _).mp inserted
  exact get?_write arena value (sound.vacancy_spec vacancy).2 other

theorem reserved_write (arena : Arena α) (index : Nat) (value : α) :
    (arena.write index value).reserved =
      if index < arena.reserved then arena.reserved else arena.reserved + 1 := by
  unfold write reserved
  split <;> simp

/-- A vacant index inside the entries holds no value there. -/
theorem getElem_eq_none
    {arena : Arena α}
    {index : Nat}
    (empty : arena.get? index = none)
    (bound : index < arena.entries.length) :
    arena.entries[index] = none := by
  rw [get?, List.getElem?_eq_getElem bound] at empty
  exact empty

theorem Sound.countP_write
    {arena : Arena α}
    {index : Nat}
    (value : α)
    (empty : arena.get? index = none) :
    (arena.write index value).entries.countP Option.isSome =
      arena.entries.countP Option.isSome + 1 := by
  unfold write
  by_cases inside : index < arena.entries.length
  · simp only [if_pos inside]
    rw [List.countP_set inside, getElem_eq_none empty inside]
    simp
  · simp [if_neg inside, List.countP_append]

/-- Inserting keeps an arena sound: the index taken is the one that is forgotten. -/
theorem Sound.insert
    {arena grown : Arena α}
    (sound : arena.Sound)
    {value : α}
    {index : Nat}
    (inserted : arena.insert value = .ok (index, grown)) :
    grown.Sound := by
  have present := sound.get?_insert inserted
  obtain ⟨vacancy, rfl⟩ := (insert_eq_ok_iff _ _ _ _).mp inserted
  obtain ⟨empty, bound⟩ := sound.vacancy_spec vacancy
  -- a pool remembers nothing, and growing storage forgets the index it gives out
  have remembered :
      (arena.vacated = [] ∧ ((∀ capacity, arena.policy ≠ .pool capacity) →
          index = arena.reserved)) ∨
        arena.vacated = index :: arena.vacated.tail := by
    cases listed : arena.vacated with
    | nil =>
        refine Or.inl ⟨rfl, fun growing => ?_⟩
        simpa [listed] using vacancy_of_growing growing vacancy
    | cons last rest =>
        have growing : ∀ capacity, arena.policy ≠ .pool capacity := by
          intro capacity isPool
          simp [(sound.pool capacity isPool).2] at listed
        have given := vacancy_of_growing growing vacancy
        rw [listed, List.head?_cons, Option.getD_some] at given
        exact Or.inr (by rw [given, List.tail_cons])
  constructor
  · intro other member
    change other ∈ arena.vacated.tail at member
    obtain ⟨within, vacant⟩ := sound.vacated_vacant other (List.mem_of_mem_tail member)
    have different : index ≠ other := by
      rintro rfl
      rcases remembered with ⟨nothing, _⟩ | first
      · simp [nothing] at member
      · have distinct := sound.vacated_nodup
        rw [first, List.nodup_cons] at distinct
        exact distinct.1 member
    rw [present, if_neg different, reserved_write]
    refine ⟨?_, vacant⟩
    split <;> omega
  · exact sound.vacated_nodup.sublist (List.tail_sublist _)
  · intro growing other within vacant
    change other ∈ arena.vacated.tail
    rw [present] at vacant
    split at vacant
    · cases vacant
    next different =>
      rw [reserved_write] at within
      rcases remembered with ⟨nothing, last⟩ | first
      · have next := last growing
        have inside : other < arena.reserved := by
          split at within <;> omega
        have member := sound.vacant_vacated growing other inside vacant
        simp [nothing] at member
      · have inside : other < arena.reserved := by
          have taken := sound.vacated_vacant index (by rw [first]; exact List.mem_cons_self)
          rwa [if_pos taken.1] at within
        have member := sound.vacant_vacated growing other inside vacant
        rw [first, List.mem_cons] at member
        exact member.resolve_left (Ne.symm different)
  · intro capacity isPool
    change arena.policy = .pool capacity at isPool
    obtain ⟨full, nothing⟩ := sound.pool capacity isPool
    refine ⟨?_, ?_⟩
    · rw [reserved_write, if_pos (vacancy_of_pool isPool vacancy).1]
      exact full
    · change arena.vacated.tail = []
      rw [nothing, List.tail_nil]
  · change arena.size + 1 = _
    rw [Sound.countP_write value empty, sound.size_eq]

/-- Vacating an index that holds a value keeps an arena sound. -/
theorem Sound.vacate
    {arena : Arena α}
    (sound : arena.Sound)
    {index : Nat}
    (present : (arena.get? index).isSome) :
    (arena.vacate index).Sound := by
  have inside := arena.lt_reserved_of_get?_isSome present
  have reserved : (arena.vacate index).reserved = arena.reserved := by
    simp [Arena.vacate, Arena.reserved]
  have held : arena.entries[index].isSome := by
    rw [get?, List.getElem?_eq_getElem inside] at present
    exact present
  have unlisted : index ∉ arena.vacated := by
    intro member
    rw [(sound.vacated_vacant index member).2] at present
    cases present
  -- growing storage remembers the index, a pool remembers nothing
  have vacated :
      (arena.vacate index).vacated = index :: arena.vacated ∨
        (∃ capacity, arena.policy = .pool capacity) ∧
          (arena.vacate index).vacated = arena.vacated := by
    unfold Arena.vacate
    cases policy : arena.policy with
    | pool capacity => exact Or.inr ⟨⟨capacity, rfl⟩, rfl⟩
    | growing => exact Or.inl rfl
    | rationed limit foretold => exact Or.inl rfl
  have listed (other : Nat) (member : other ∈ (arena.vacate index).vacated) :
      other = index ∨ other ∈ arena.vacated := by
    rcases vacated with remembered | ⟨_, same⟩
    · simpa [remembered] using member
    · exact Or.inr (same ▸ member)
  constructor
  · intro other member
    rw [reserved, get?_vacate]
    rcases listed other member with rfl | earlier
    · exact ⟨inside, if_pos rfl⟩
    · obtain ⟨bound, empty⟩ := sound.vacated_vacant other earlier
      refine ⟨bound, ?_⟩
      split
      · rfl
      · exact empty
  · rcases vacated with remembered | ⟨_, same⟩
    · rw [remembered, List.nodup_cons]
      exact ⟨unlisted, sound.vacated_nodup⟩
    · rw [same]
      exact sound.vacated_nodup
  · intro growing other bound empty
    rw [reserved] at bound
    rw [get?_vacate] at empty
    rcases vacated with remembered | ⟨⟨capacity, isPool⟩, _⟩
    · rw [remembered, List.mem_cons]
      split at empty
      next same => exact Or.inl same.symm
      next => exact Or.inr (sound.vacant_vacated growing other bound empty)
    · exact absurd isPool (growing capacity)
  · intro capacity isPool
    change arena.policy = .pool capacity at isPool
    obtain ⟨full, nothing⟩ := sound.pool capacity isPool
    refine ⟨reserved.trans full, ?_⟩
    simpa [Arena.vacate, isPool] using nothing
  · change arena.size - 1 = (arena.entries.set index none).countP Option.isSome
    rw [List.countP_set inside, if_pos held, sound.size_eq]
    simp

/-! ## Removing several values -/

/-- Removing at stored indices, each once, gives their values in order and vacates exactly them. -/
theorem removeAll_spec
    {arena : Arena α}
    {indices : List Nat}
    (distinct : indices.Nodup)
    (stored : ∀ index ∈ indices, (arena.get? index).isSome) :
    (arena.removeAll indices).1 = indices.filterMap arena.get? ∧
      (arena.Sound → (arena.removeAll indices).2.Sound) ∧
      ∀ other, (arena.removeAll indices).2.get? other =
        if other ∈ indices then none else arena.get? other := by
  induction indices generalizing arena with
  | nil => exact ⟨rfl, id, fun other => by simp [removeAll]⟩
  | cons first rest ih =>
      rw [List.nodup_cons] at distinct
      have present := stored first List.mem_cons_self
      obtain ⟨value, found⟩ := Option.isSome_iff_exists.mp present
      have removed : arena.remove? first = some (value, arena.vacate first) :=
        (remove?_eq_some_iff _ _ _ _).mpr ⟨found, rfl⟩
      have elsewhere (index : Nat) (member : index ∈ rest) :
          (arena.vacate first).get? index = arena.get? index := by
        rw [get?_vacate, if_neg]
        rintro rfl
        exact distinct.1 member
      have later := ih distinct.2 (by
        intro index member
        rw [elsewhere index member]
        exact stored index (List.mem_cons_of_mem _ member))
      obtain ⟨values, soundAfter, view⟩ := later
      simp only [removeAll, removed]
      refine ⟨?_, fun sound => soundAfter (sound.vacate present), ?_⟩
      · rw [values, List.filterMap_cons, found]
        congr 1
        exact List.filterMap_congr elsewhere
      · intro other
        rw [view, get?_vacate]
        by_cases same : first = other
        · subst same
          simp
        · simp [same, Ne.symm same]

end SignalDispatch.Arena
