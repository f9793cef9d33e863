import Mathlib.Data.List.Induction
import Mathlib.Logic.Function.Basic
import SignalDispatch.Proofs.Storage.Growth

/-!
# Arenas as finite maps

An arena answers calls: it takes a value in, hands one out, shows or changes one, and says whether
it has room.  Whatever calls it has served since it was empty, and whatever indices they named, it
is a finite map from indices to values: an insertion adds one index that was vacant, a removal
vacates one index, and the listing has every index of the map once, in ascending order.

Which vacant index an insertion takes depends on the storage.  Growing storage takes the index that
a value was taken out of last, among those still vacant, and sets a new entry aside only when there
is none; so its entries are the most values it has ever held.  A pool takes the lowest vacant index,
and has room while it holds fewer values than its capacity.  Room that is promised is there: both
refuse an insertion just when they say that they have no room.
-/

namespace SignalDispatch

/-- A call on an arena. -/
inductive ArenaRequest (α : Type) where
  | insert (value : α)
  | remove (index : Nat)
  | get (index : Nat)
  /-- Look at the value at an index and change it through the reference. -/
  | modify (index : Nat) (change : α → α)
  | reserve

/-- What an arena answers. -/
inductive ArenaAnswer (α : Type) where
  /-- The value was put at an index. -/
  | placed (index : Nat)
  /-- What stands at the index, or stood there until now. -/
  | found (value : Option α)
  /-- There is room for one more value. -/
  | room
  | refused (fault : StorageFault)

/-- What a call on a map from indices to values may answer, and the map that it leaves. -/
inductive MapStep {α : Type} (map : Nat → Option α) :
    ArenaRequest α → ArenaAnswer α → (Nat → Option α) → Prop where
  | insert {value : α} {index : Nat} (vacant : map index = none) :
      MapStep map (.insert value) (.placed index) (Function.update map index (some value))
  | insertRefused {value : α} {fault : StorageFault} :
      MapStep map (.insert value) (.refused fault) map
  | remove {index : Nat} :
      MapStep map (.remove index) (.found (map index)) (Function.update map index none)
  | get {index : Nat} : MapStep map (.get index) (.found (map index)) map
  | modify {index : Nat} {change : α → α} :
      MapStep map (.modify index change) (.found (map index))
        (Function.update map index ((map index).map change))
  | reserve : MapStep map .reserve .room map
  | reserveRefused {fault : StorageFault} : MapStep map .reserve (.refused fault) map

/-- Several calls on a map, one after the other, with what they answer. -/
inductive MapRun {α : Type} :
    (Nat → Option α) → List (ArenaRequest α) → List (ArenaAnswer α) → (Nat → Option α) → Prop where
  | nil {map : Nat → Option α} : MapRun map [] [] map
  | cons {map next last : Nat → Option α} {request : ArenaRequest α} {answer : ArenaAnswer α}
      {requests : List (ArenaRequest α)} {answers : List (ArenaAnswer α)}
      (step : MapStep map request answer next) (rest : MapRun next requests answers last) :
      MapRun map (request :: requests) (answer :: answers) last

namespace Arena

variable {α : Type} {arena : Arena α}

/-- Serve one call. -/
def answer (arena : Arena α) : ArenaRequest α → ArenaAnswer α × Arena α
  | .insert value =>
      match arena.insert value with
      | .ok (index, grown) => (.placed index, grown)
      | .error fault => (.refused fault, arena)
  | .remove index =>
      match arena.remove? index with
      | some (value, left) => (.found (some value), left)
      | none => (.found none, arena)
  | .get index => (.found (arena.get? index), arena)
  | .modify index change => (.found (arena.get? index), arena.modify index change)
  | .reserve =>
      match arena.reserve with
      | .ok _ => (.room, arena)
      | .error fault => (.refused fault, arena)

/-- Serve several calls, one after the other. -/
def serve (arena : Arena α) (requests : List (ArenaRequest α)) : Arena α :=
  requests.foldl (fun arena request => (arena.answer request).2) arena

/-- What several calls answer, one after the other. -/
def answers (arena : Arena α) : List (ArenaRequest α) → List (ArenaAnswer α)
  | [] => []
  | request :: rest => (arena.answer request).1 :: (arena.answer request).2.answers rest

/-- The indices that a call takes a value out of. -/
def freedBy (arena : Arena α) : ArenaRequest α → List Nat
  | .remove index => if (arena.get? index).isSome then [index] else []
  | _ => []

/-- The indices that several calls took values out of, the latest in front. -/
def freed (arena : Arena α) : List (ArenaRequest α) → List Nat
  | [] => []
  | request :: rest => (arena.answer request).2.freed rest ++ arena.freedBy request

@[simp]
theorem serve_concat
    (arena : Arena α)
    (requests : List (ArenaRequest α))
    (request : ArenaRequest α) :
    arena.serve (requests ++ [request]) = ((arena.serve requests).answer request).2 := by
  simp [serve]

@[simp]
theorem freed_concat
    (arena : Arena α)
    (requests : List (ArenaRequest α))
    (request : ArenaRequest α) :
    arena.freed (requests ++ [request]) =
      (arena.serve requests).freedBy request ++ arena.freed requests := by
  induction requests generalizing arena with
  | nil => simp [freed, serve]
  | cons first rest ih =>
      rw [List.cons_append, freed, ih, freed, List.append_assoc]
      rfl

/-! ## One call -/

theorem answer_insert_of_ok
    {grown : Arena α}
    {value : α}
    {index : Nat}
    (inserted : arena.insert value = .ok (index, grown)) :
    arena.answer (.insert value) = (.placed index, grown) := by
  rw [answer, inserted]

theorem answer_insert_of_error
    {value : α}
    {fault : StorageFault}
    (refused : arena.insert value = .error fault) :
    arena.answer (.insert value) = (.refused fault, arena) := by
  rw [answer, refused]

theorem answer_remove_of_some
    {value : α}
    {index : Nat}
    (present : arena.get? index = some value) :
    arena.answer (.remove index) = (.found (some value), arena.vacate index) := by
  rw [answer, (remove?_eq_some_iff _ _ _ _).mpr ⟨present, rfl⟩]

/-- Nothing comes out of a vacant index, and nothing changes. -/
theorem answer_remove_of_none {index : Nat} (vacant : arena.get? index = none) :
    arena.answer (.remove index) = (.found none, arena) := by
  rw [answer, remove?, vacant]
  rfl

theorem answer_reserve (arena : Arena α) : (arena.answer .reserve).2 = arena := by
  rw [answer]
  split <;> rfl

/-- What one call does to an arena. -/
theorem answer_cases
    (arena : Arena α)
    (request : ArenaRequest α) :
    (arena.answer request).2 = arena ∨
      (∃ value index, arena.insert value = .ok (index, (arena.answer request).2) ∧
        request = .insert value) ∨
      (∃ index, (arena.get? index).isSome ∧ (arena.answer request).2 = arena.vacate index ∧
        request = .remove index) ∨
      ∃ index change, (arena.answer request).2 = arena.modify index change ∧
        request = .modify index change := by
  cases request with
  | insert value =>
      cases inserted : arena.insert value with
      | error fault => exact Or.inl (by rw [answer_insert_of_error inserted])
      | ok placed =>
          refine Or.inr (Or.inl ⟨value, placed.1, ?_, rfl⟩)
          rw [answer_insert_of_ok inserted]
          exact inserted
  | remove index =>
      cases present : arena.get? index with
      | none => exact Or.inl (by rw [answer_remove_of_none present])
      | some value =>
          refine Or.inr (Or.inr (Or.inl ⟨index, ?_, ?_, rfl⟩))
          · rw [present, Option.isSome_some]
          · rw [answer_remove_of_some present]
  | get index => exact Or.inl rfl
  | modify index change => exact Or.inr (Or.inr (Or.inr ⟨index, change, rfl, rfl⟩))
  | reserve => exact Or.inl arena.answer_reserve

theorem Sound.answered (sound : arena.Sound) (request : ArenaRequest α) :
    (arena.answer request).2.Sound := by
  rcases arena.answer_cases request with
    same | ⟨value, index, inserted, _⟩ | ⟨index, present, left, _⟩ | ⟨index, change, left, _⟩
  · rwa [same]
  · exact sound.insert inserted
  · rw [left]
    exact sound.vacate present
  · rw [left]
    exact sound.modify index change

theorem policy_answer (arena : Arena α) (request : ArenaRequest α) :
    (arena.answer request).2.policy = arena.policy := by
  rcases arena.answer_cases request with
    same | ⟨value, index, inserted, _⟩ | ⟨index, _, left, _⟩ | ⟨index, change, left, _⟩
  · rw [same]
  · rw [((insert_eq_ok_iff _ _ _ _).mp inserted).2]
    rfl
  · rw [left]
    rfl
  · rw [left]
    rfl

/-- A call on a sound arena is a step of the map that the arena is. -/
theorem Sound.mapStep (sound : arena.Sound) (request : ArenaRequest α) :
    MapStep arena.get? request (arena.answer request).1 (arena.answer request).2.get? := by
  cases request with
  | insert value =>
      cases inserted : arena.insert value with
      | error fault =>
          rw [answer_insert_of_error inserted]
          exact .insertRefused
      | ok placed =>
          obtain ⟨index, grown⟩ := placed
          have vacancy := ((insert_eq_ok_iff _ _ _ _).mp inserted).1
          have after : grown.get? = Function.update arena.get? index (some value) := by
            funext other
            rw [sound.get?_insert inserted, Function.update_apply]
            simp only [eq_comm]
          rw [answer_insert_of_ok inserted, after]
          exact .insert (sound.vacancy_spec vacancy).1
  | remove index =>
      have vacated : (arena.vacate index).get? = Function.update arena.get? index none := by
        funext other
        rw [get?_vacate, Function.update_apply]
        simp only [eq_comm]
      have step := @MapStep.remove _ arena.get? index
      cases present : arena.get? index with
      | none =>
          have same : Function.update arena.get? index none = arena.get? :=
            Function.update_eq_self_iff.mpr present.symm
          rw [answer_remove_of_none present]
          rwa [present, same] at step
      | some value =>
          rw [answer_remove_of_some present, vacated]
          rwa [present] at step
  | get index => exact .get
  | modify index change =>
      have after :
          (arena.modify index change).get? =
            Function.update arena.get? index ((arena.get? index).map change) := by
        funext other
        rw [get?_modify, Function.update_apply]
        by_cases same : index = other
        · subst same
          simp
        · simp [same, Ne.symm same]
      change MapStep arena.get? _ (.found (arena.get? index)) (arena.modify index change).get?
      rw [after]
      exact .modify
  | reserve =>
      rw [answer]
      cases arena.reserve with
      | ok => exact .reserve
      | error fault => exact .reserveRefused

/-! ## Several calls -/

theorem sound_serve (policy : StoragePolicy) (requests : List (ArenaRequest α)) :
    ((empty policy).serve requests).Sound := by
  induction requests using List.reverseRecOn with
  | nil => exact sound_empty policy
  | append_singleton requests request ih =>
      rw [serve_concat]
      exact ih.answered request

theorem policy_serve (arena : Arena α) (requests : List (ArenaRequest α)) :
    (arena.serve requests).policy = arena.policy := by
  induction requests using List.reverseRecOn with
  | nil => rfl
  | append_singleton requests request ih =>
      rw [serve_concat, policy_answer, ih]

theorem Sound.mapRun (sound : arena.Sound) (requests : List (ArenaRequest α)) :
    MapRun arena.get? requests (arena.answers requests) (arena.serve requests).get? := by
  induction requests generalizing arena with
  | nil => exact .nil
  | cons request rest ih => exact .cons (sound.mapStep request) (ih (sound.answered request))

/-- An arena that has served some calls is the map that `get?` shows, its listing and its size are
those of the map, and it has the room that it promises. -/
structure FiniteMap
    (policy : StoragePolicy)
    (requests : List (ArenaRequest α))
    (arena : Arena α) : Prop where
  served : MapRun (fun _ => none) requests ((empty policy).answers requests) arena.get?
  next :
    ∀ request, MapStep arena.get? request (arena.answer request).1 (arena.answer request).2.get?
  /-- No value comes out of a vacant index or one beyond the entries, and nothing changes. -/
  unmoved :
    ∀ index, arena.get? index = none ∨ arena.reserved ≤ index →
      arena.answer (.remove index) = (.found none, arena)
  listed : ∀ index value, (index, value) ∈ arena.toList ↔ arena.get? index = some value
  ascending : (arena.toList.map Prod.fst).Pairwise (· < ·)
  counted : arena.size = arena.toList.length
  /-- An insertion comes back as `reserve` says. -/
  promised : ∀ value, (arena.insert value).map (fun _ => ()) = arena.reserve

theorem finiteMap
    {policy : StoragePolicy}
    {requests : List (ArenaRequest α)}
    (promised :
      ∀ value, (((empty policy).serve requests).insert value).map (fun _ => ()) =
        ((empty policy).serve requests).reserve) :
    ((empty policy).serve requests).FiniteMap policy requests where
  served := by
    have run := (sound_empty policy).mapRun requests
    rwa [show (empty policy : Arena α).get? = fun _ => none from funext (get?_empty policy)] at run
  next := (sound_serve policy requests).mapStep
  unmoved := by
    rintro index (vacant | beyond)
    · exact answer_remove_of_none vacant
    · exact answer_remove_of_none (get?_eq_none_of_reserved_le _ beyond)
  listed := mem_toList_iff _
  ascending := pairwise_toList_map_fst _
  counted := (sound_serve policy requests).size_eq.trans (length_toList _).symm
  promised := promised

/-! ## Growing storage -/

/-- The indices of a list that are vacant, each once, at its first place. -/
def stillVacant (arena : Arena α) (indices : List Nat) : List Nat :=
  (indices.filter fun index => (arena.get? index).isNone).eraseDups

theorem head?_stillVacant (arena : Arena α) (indices : List Nat) :
    (arena.stillVacant indices).head? =
      indices.find? fun index => (arena.get? index).isNone := by
  rw [← List.head?_filter, stillVacant]
  cases indices.filter fun index => (arena.get? index).isNone with
  | nil => rfl
  | cons first rest => rw [List.eraseDups_cons, List.head?_cons, List.head?_cons]

theorem stillVacant_congr
    {other : Arena α}
    (same : ∀ index, (other.get? index).isNone = (arena.get? index).isNone)
    (indices : List Nat) :
    other.stillVacant indices = arena.stillVacant indices := by
  simp only [stillVacant, same]

/-- Filling the first vacant index of a list leaves the others. -/
theorem stillVacant_write
    {other : Arena α}
    {indices : List Nat}
    {value : α}
    (present :
      ∀ index, other.get? index =
        if (arena.stillVacant indices).head?.getD arena.reserved = index then some value
        else arena.get? index) :
    other.stillVacant indices = (arena.stillVacant indices).tail := by
  have filled :
      (indices.filter fun index => (other.get? index).isNone) =
        (indices.filter fun index => (arena.get? index).isNone).filter fun index =>
          !index == (arena.stillVacant indices).head?.getD arena.reserved := by
    rw [List.filter_filter]
    refine List.filter_congr fun index _ => ?_
    rw [present]
    by_cases same : (arena.stillVacant indices).head?.getD arena.reserved = index
    · simp [same]
    · simp [same, Ne.symm same]
  rw [stillVacant, filled, stillVacant]
  generalize indices.filter (fun index => (arena.get? index).isNone) = vacant
  cases vacant with
  | nil => rfl
  | cons first rest =>
      simp only [List.eraseDups_cons, List.head?_cons, Option.getD_some, List.tail_cons]
      rw [List.filter_cons_of_neg (by simp)]

/-- Vacating an index puts it in front. -/
theorem stillVacant_vacate
    {index : Nat}
    (present : (arena.get? index).isSome)
    (indices : List Nat) :
    (arena.vacate index).stillVacant (index :: indices) = index :: arena.stillVacant indices := by
  have vacant : (arena.vacate index).get? index = none := by
    rw [get?_vacate, if_pos rfl]
  rw [stillVacant, List.filter_cons_of_pos (by simp [vacant]), List.eraseDups_cons,
    List.filter_filter, stillVacant]
  congr 2
  refine List.filter_congr fun other _ => ?_
  rw [get?_vacate]
  by_cases same : index = other
  · subst same
    simp [present]
  · simp [same, Ne.symm same]

/-- One call keeps the vacated indices of growing storage in the order in which values were taken
out of them. -/
theorem Sound.vacated_answer
    {freed : List Nat}
    (sound : arena.Sound)
    (growing : arena.policy = .growing)
    (remembered : arena.vacated = arena.stillVacant freed)
    (request : ArenaRequest α) :
    (arena.answer request).2.vacated =
      (arena.answer request).2.stillVacant (arena.freedBy request ++ freed) := by
  cases request with
  | insert value =>
      rcases insert_of_growing growing value with ⟨index, inserted⟩
      have vacancy := ((insert_eq_ok_iff _ _ _ _).mp inserted).1
      have given := vacancy_of_growing (by simp [growing]) vacancy
      have freedNothing : arena.freedBy (.insert value) = [] := rfl
      rw [answer_insert_of_ok inserted, freedNothing, List.nil_append, stillVacant_write]
      · rw [← remembered]
        rfl
      · intro other
        rw [← remembered, ← given]
        exact sound.get?_insert inserted other
  | remove index =>
      cases present : arena.get? index with
      | none =>
          have freedNothing : arena.freedBy (.remove index) = [] := by simp [freedBy, present]
          rw [answer_remove_of_none present, freedNothing]
          exact remembered
      | some value =>
          have taken : (arena.get? index).isSome := by rw [present, Option.isSome_some]
          have freedHere : arena.freedBy (.remove index) = [index] := if_pos taken
          have front : (arena.vacate index).vacated = index :: arena.vacated := by
            simp [Arena.vacate, growing]
          rw [answer_remove_of_some present, freedHere, List.singleton_append, front, remembered,
            stillVacant_vacate taken]
  | get index => exact remembered
  | modify index change =>
      refine remembered.trans (stillVacant_congr (fun other => ?_) freed).symm
      rw [← Option.not_isSome, ← Option.not_isSome]
      exact congrArg _ (arena.isSome_get?_modify index change other)
  | reserve =>
      rw [answer_reserve]
      exact remembered

theorem vacated_serve (requests : List (ArenaRequest α)) :
    ((empty .growing).serve requests).vacated =
      ((empty .growing).serve requests).stillVacant ((empty .growing).freed requests) := by
  induction requests using List.reverseRecOn with
  | nil => rfl
  | append_singleton requests request ih =>
      rw [serve_concat, freed_concat]
      exact (sound_serve .growing requests).vacated_answer (policy_serve _ requests) ih request

/-- How growing storage reuses its entries, after calls that it served. -/
structure ReusesLatest (requests : List (ArenaRequest α)) (arena : Arena α) : Prop where
  once : arena.vacated.Nodup
  vacant : ∀ index, index ∈ arena.vacated ↔ index < arena.reserved ∧ arena.get? index = none
  /-- A value goes where one was taken out last, among the indices that are vacant still, and to a
  new entry if there is no such index. -/
  latest :
    ∀ value,
      (arena.answer (.insert value)).1 =
        .placed ((((empty .growing).freed requests).find? fun index =>
          (arena.get? index).isNone).getD arena.reserved)
  /-- The entries grow only if none of them is vacant. -/
  grows :
    ∀ value, arena.reserved < (arena.answer (.insert value)).2.reserved ↔
      ∀ index < arena.reserved, arena.get? index ≠ none
  /-- There are as many entries as there were values at most. -/
  most :
    IsGreatest ((fun served => ((empty .growing).serve (requests.take served)).size) ''
      Set.Iic requests.length) arena.reserved

/-- A call raises the number of entries to that of the values, if that has become larger. -/
theorem Sound.reserved_answer
    (sound : arena.Sound)
    (request : ArenaRequest α) :
    (arena.answer request).2.reserved =
      max arena.reserved (arena.answer request).2.size := by
  have most := sound.size_le_reserved
  rcases arena.answer_cases request with
    same | ⟨value, index, inserted, _⟩ | ⟨index, _, left, _⟩ | ⟨index, change, left, _⟩
  · rw [same, Nat.max_eq_left most]
  · exact sound.reserved_insert inserted
  · rw [left, reserved_vacate]
    exact (Nat.max_eq_left ((Nat.sub_le _ _).trans most)).symm
  · rw [left, reserved_modify]
    exact (Nat.max_eq_left most).symm

theorem reserved_serve (requests : List (ArenaRequest α)) :
    IsGreatest ((fun served => ((empty .growing).serve (requests.take served)).size) ''
      Set.Iic requests.length) ((empty .growing).serve requests).reserved := by
  have mark := @isGreatest_of_raised
    (fun served => ((empty .growing).serve (requests.take served)).size)
    (fun served => ((empty .growing).serve (requests.take served)).reserved)
    0 requests.length rfl (Nat.zero_le _) ?_
  · have upTo : Set.Icc 0 requests.length = Set.Iic requests.length := by
      ext served
      simp
    rwa [upTo, List.take_length] at mark
  · intro served _ more
    simp only [List.take_succ_eq_append_getElem more, serve_concat]
    exact (sound_serve .growing _).reserved_answer _

theorem reusesLatest (requests : List (ArenaRequest α)) :
    ((empty .growing).serve requests).ReusesLatest requests := by
  have sound := sound_serve .growing requests
  have growing : ((empty .growing).serve requests).policy = .growing := policy_serve _ requests
  have notPool : ∀ capacity, ((empty .growing).serve requests).policy ≠ .pool capacity := by
    simp [growing]
  refine ⟨sound.vacated_nodup, sound.mem_vacated_iff notPool, ?_, ?_, reserved_serve requests⟩
  · intro value
    rcases insert_of_growing growing value with ⟨index, inserted⟩
    have vacancy := ((insert_eq_ok_iff _ _ _ _).mp inserted).1
    rw [answer_insert_of_ok inserted, vacancy_of_growing notPool vacancy, vacated_serve,
      head?_stillVacant]
  · intro value
    rcases insert_of_growing growing value with ⟨index, inserted⟩
    rw [answer_insert_of_ok inserted]
    exact sound.reserved_lt_iff inserted

/-! ## Pools -/

/-- Where a pool puts a value, and when it has room. -/
structure TakesLowest (capacity : Nat) (arena : Arena α) : Prop where
  reserved : arena.reserved = capacity
  lowest :
    ∀ value index, (arena.answer (.insert value)).1 = .placed index ↔
      IsLeast {vacant | vacant < capacity ∧ arena.get? vacant = none} index
  room : arena.reserve = .ok () ↔ arena.size < capacity

theorem Sound.takesLowest
    {capacity : Nat}
    (sound : arena.Sound)
    (isPool : arena.policy = .pool capacity) :
    arena.TakesLowest capacity := by
  have reserved := (sound.pool capacity isPool).1
  refine ⟨reserved, ?_, ?_⟩
  · intro value index
    rcases sound.insert_of_pool isPool value with ⟨_, taken, inserted⟩ | ⟨full, refused⟩
    · have lowest := isLeast_of_pool isPool ((insert_eq_ok_iff _ _ _ _).mp inserted).1
      rw [reserved] at lowest
      rw [answer_insert_of_ok inserted, ArenaAnswer.placed.injEq]
      constructor
      · rintro rfl
        exact lowest
      · exact lowest.unique
    · rw [answer_insert_of_error refused]
      constructor
      · intro placed
        cases placed
      · intro lowest
        have less := sound.size_lt_reserved_iff.mpr ⟨index, reserved ▸ lowest.1⟩
        rw [reserved] at less
        exact absurd less (Nat.not_lt.mpr full)
  · rw [reserve, isPool]
    dsimp only
    split
    next room => exact ⟨fun _ => room, fun _ => rfl⟩
    next full =>
      constructor
      · intro granted
        cases granted
      · intro room
        exact absurd room full

end Arena

/-- Whatever calls growing storage or a pool has served, it is a finite map that keeps its promises
of room, and its next value goes to the index that its storage is to take. -/
theorem arenas_are_maps {α : Type} (requests : List (ArenaRequest α)) :
    (((Arena.empty .growing).serve requests).FiniteMap .growing requests ∧
      ((Arena.empty .growing).serve requests).ReusesLatest requests) ∧
    ∀ capacity,
      ((Arena.empty (.pool capacity)).serve requests).FiniteMap (.pool capacity) requests ∧
        ((Arena.empty (.pool capacity)).serve requests).TakesLowest capacity := by
  refine ⟨⟨Arena.finiteMap fun value => ?_, Arena.reusesLatest requests⟩, fun capacity => ?_⟩
  · have growing : ((Arena.empty (α := α) .growing).serve requests).policy = .growing :=
      Arena.policy_serve _ requests
    rcases Arena.insert_of_growing growing value with ⟨index, inserted⟩
    rw [inserted, Arena.reserve_of_growing growing]
    rfl
  · have sound := Arena.sound_serve (α := α) (.pool capacity) requests
    have isPool : ((Arena.empty (α := α) (.pool capacity)).serve requests).policy =
        .pool capacity :=
      Arena.policy_serve _ requests
    refine ⟨Arena.finiteMap fun value => ?_, sound.takesLowest isPool⟩
    rw [Arena.reserve, isPool]
    rcases sound.insert_of_pool isPool value with ⟨room, index, inserted⟩ | ⟨full, refused⟩
    · rw [inserted]
      exact (if_pos room).symm
    · rw [refused]
      exact (if_neg (Nat.not_lt.mpr full)).symm

end SignalDispatch
