import Mathlib.Order.Bounds.Basic
import SignalDispatch.Proofs.Storage.Soundness

/-!
# How far storage grows

A sound arena never holds more values than it has entries, and the difference is its vacant entries.
A pool takes a value as long as it has one of those, and puts it at the lowest.
Storage sets an entry aside only when every entry it has is taken, so that an insertion takes the
number of entries to the larger of what it was and the number of values.  Nothing else changes the
number of entries, and nothing else adds a value: the entries of storage that starts without any are
the most values it ever held.
-/

namespace SignalDispatch

namespace Arena

variable {α : Type} {arena : Arena α}

/-! ## Entries and values -/

theorem Sound.size_le_reserved (sound : arena.Sound) : arena.size ≤ arena.reserved := by
  rw [sound.size_eq]
  exact List.countP_le_length

/-- There are fewer values than entries just when some entry is vacant. -/
theorem Sound.size_lt_reserved_iff (sound : arena.Sound) :
    arena.size < arena.reserved ↔ ∃ index < arena.reserved, arena.get? index = none := by
  have most : arena.entries.countP Option.isSome ≤ arena.entries.length := List.countP_le_length
  have full :
      arena.entries.countP Option.isSome = arena.entries.length ↔
        ∀ entry ∈ arena.entries, entry.isSome :=
    List.countP_eq_length
  rw [sound.size_eq, reserved]
  constructor
  · intro fewer
    by_contra none
    push Not at none
    refine fewer.ne (full.mpr ?_)
    intro entry member
    rcases List.mem_iff_getElem.mp member with ⟨index, bound, rfl⟩
    have taken := none index bound
    rw [get?, List.getElem?_eq_getElem bound] at taken
    exact Option.isSome_iff_ne_none.mpr taken
  · rintro ⟨index, bound, vacant⟩
    refine Nat.lt_of_le_of_ne most fun every => ?_
    have taken := full.mp every _ (List.getElem_mem bound)
    rw [getElem_eq_none vacant bound] at taken
    cases taken

/-- Growing storage remembers a vacated index just when it has a vacant entry. -/
theorem Sound.mem_vacated_iff
    (sound : arena.Sound)
    (growing : ∀ capacity, arena.policy ≠ .pool capacity)
    (index : Nat) :
    index ∈ arena.vacated ↔ index < arena.reserved ∧ arena.get? index = none :=
  ⟨sound.vacated_vacant index, fun vacant => sound.vacant_vacated growing index vacant.1 vacant.2⟩

theorem Sound.vacated_eq_nil_iff
    (sound : arena.Sound)
    (growing : ∀ capacity, arena.policy ≠ .pool capacity) :
    arena.vacated = [] ↔ arena.size = arena.reserved := by
  have most := sound.size_le_reserved
  have fewer := sound.size_lt_reserved_iff
  rw [List.eq_nil_iff_forall_not_mem]
  simp only [sound.mem_vacated_iff growing]
  constructor
  · intro filled
    refine Nat.le_antisymm most (Nat.le_of_not_lt fun less => ?_)
    rcases fewer.mp less with ⟨index, vacant⟩
    exact filled index vacant
  · intro every index vacant
    exact (fewer.mpr ⟨index, vacant⟩).ne every

/-! ## Room -/

theorem insert_of_growing (growing : arena.policy = .growing) (value : α) :
    ∃ index, arena.insert value = .ok (index, arena.write index value) := by
  refine ⟨arena.vacated.head?.getD arena.entries.length, ?_⟩
  have vacancy : arena.vacancy = .ok (arena.vacated.head?.getD arena.entries.length) := by
    rw [Arena.vacancy, growing]
    simp [refuses, growing]
  rw [insert, vacancy]
  rfl

theorem reserve_of_growing (growing : arena.policy = .growing) : arena.reserve = .ok () := by
  rw [reserve, growing]

/-- A pool takes a value exactly as long as it has fewer than its capacity. -/
theorem Sound.insert_of_pool
    (sound : arena.Sound)
    {capacity : Nat}
    (isPool : arena.policy = .pool capacity)
    (value : α) :
    (arena.size < capacity ∧ ∃ index, arena.insert value = .ok (index, arena.write index value)) ∨
      capacity ≤ arena.size ∧ arena.insert value = .error (.full capacity) := by
  have reserved := (sound.pool capacity isPool).1
  have fewer := sound.size_lt_reserved_iff
  rw [reserved] at fewer
  cases found : arena.entries.findIdx? Option.isNone with
  | some index =>
      have vacancy : arena.vacancy = .ok index := by
        rw [Arena.vacancy, isPool]
        simp only [found]
      have vacant := vacancy_of_pool isPool vacancy
      rw [reserved] at vacant
      exact Or.inl ⟨fewer.mpr ⟨index, vacant⟩, index, by rw [Arena.insert, vacancy]; rfl⟩
  | none =>
      have vacancy : arena.vacancy = .error (.full capacity) := by
        rw [Arena.vacancy, isPool]
        simp only [found]
      refine Or.inr ⟨Nat.le_of_not_lt fun less => ?_, by rw [Arena.insert, vacancy]; rfl⟩
      rcases fewer.mp less with ⟨index, bound, vacant⟩
      have inside : index < arena.entries.length := lt_of_lt_of_eq bound reserved.symm
      have filled := List.findIdx?_eq_none_iff.mp found _ (List.getElem_mem inside)
      rw [getElem_eq_none vacant inside] at filled
      cases filled

/-- The index that a pool gives out is its lowest vacant one. -/
theorem isLeast_of_pool
    {capacity index : Nat}
    (isPool : arena.policy = .pool capacity)
    (vacancy : arena.vacancy = .ok index) :
    IsLeast {vacant | vacant < arena.reserved ∧ arena.get? vacant = none} index := by
  refine ⟨vacancy_of_pool isPool vacancy, ?_⟩
  rintro vacant ⟨bound, empty⟩
  simp only [Arena.vacancy, isPool] at vacancy
  split at vacancy
  next first found =>
      rw [Except.ok.injEq] at vacancy
      subst vacancy
      by_contra earlier
      have inside : vacant < arena.entries.length := bound
      have filled :=
        (List.findIdx?_eq_some_iff_getElem.mp found).2.2 vacant (Nat.lt_of_not_le earlier)
      rw [getElem_eq_none empty inside] at filled
      exact filled rfl
  next => cases vacancy

/-! ## Growing -/

@[simp]
theorem reserved_vacate (arena : Arena α) (index : Nat) :
    (arena.vacate index).reserved = arena.reserved := by
  simp [vacate, reserved]

@[simp]
theorem reserved_modify (arena : Arena α) (index : Nat) (change : α → α) :
    (arena.modify index change).reserved = arena.reserved := by
  simp [modify, reserved]

/-- One more entry is set aside only for a value that none of the entries can take. -/
theorem Sound.reserved_insert
    {grown : Arena α}
    {value : α}
    {index : Nat}
    (sound : arena.Sound)
    (inserted : arena.insert value = .ok (index, grown)) :
    grown.reserved = max arena.reserved grown.size := by
  obtain ⟨vacancy, rfl⟩ := (insert_eq_ok_iff _ _ _ _).mp inserted
  have most := sound.size_le_reserved
  have fewer := sound.size_lt_reserved_iff
  have size : (arena.write index value).size = arena.size + 1 := rfl
  rw [size, reserved_write]
  split
  next inside =>
    have less := fewer.mpr ⟨index, inside, (sound.vacancy_spec vacancy).1⟩
    omega
  next outside =>
    have growing : ∀ capacity, arena.policy ≠ .pool capacity :=
      fun capacity isPool => outside (vacancy_of_pool isPool vacancy).1
    have given := vacancy_of_growing growing vacancy
    cases listed : arena.vacated with
    | nil =>
        have every := (sound.vacated_eq_nil_iff growing).mp listed
        omega
    | cons last rest =>
        rw [listed, List.head?_cons, Option.getD_some] at given
        subst given
        exact absurd (sound.vacated_vacant index (by simp [listed])).1 outside

/-- An entry is set aside just when none of the entries is vacant. -/
theorem Sound.reserved_lt_iff
    {grown : Arena α}
    {value : α}
    {index : Nat}
    (sound : arena.Sound)
    (inserted : arena.insert value = .ok (index, grown)) :
    arena.reserved < grown.reserved ↔ ∀ index < arena.reserved, arena.get? index ≠ none := by
  have most := sound.size_le_reserved
  have fewer := sound.size_lt_reserved_iff
  have size : grown.size = arena.size + 1 := by
    rw [((insert_eq_ok_iff _ _ _ _).mp inserted).2]
    rfl
  rw [sound.reserved_insert inserted, size]
  constructor
  · intro more other bound vacant
    have less := fewer.mpr ⟨other, bound, vacant⟩
    omega
  · intro filled
    have every : ¬ arena.size < arena.reserved := by
      intro less
      rcases fewer.mp less with ⟨other, bound, vacant⟩
      exact filled other bound vacant
    omega

end Arena

/-! ## High-water marks -/

/-- A mark that a level raises whenever it passes it is the highest the level has been. -/
theorem isGreatest_of_raised
    {level mark : Nat → Nat}
    {start last : Nat}
    (begins : mark start = level start)
    (order : start ≤ last)
    (raised :
      ∀ time, start ≤ time → time < last →
        mark (time + 1) = max (mark time) (level (time + 1))) :
    IsGreatest (level '' Set.Icc start last) (mark last) := by
  induction last, order using Nat.le_induction with
  | base => simp [begins]
  | succ last order ih =>
      have earlier := ih fun time after before => raised time after (Nat.lt_succ_of_lt before)
      have times : Set.Icc start (last + 1) = insert (last + 1) (Set.Icc start last) := by
        ext time
        simp only [Set.mem_Icc, Set.mem_insert_iff]
        omega
      rw [times, Set.image_insert_eq, raised last order (Nat.lt_succ_self last), max_comm]
      exact earlier.insert _

end SignalDispatch
