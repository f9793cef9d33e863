import SignalDispatch.Proofs.Directory.Connections
import SignalDispatch.Registry.Report

/-!
# Directories and registries

`Directory.Mirrors` relates a directory to a registry: names are listed once, and the entries of the
directory are the entries that the registry shows, in any order.  What a caller can ask about a
registry it can ask about the directory that mirrors it, and a registry whose entries are revised is
mirrored by the directory that is revised alike.
-/

namespace SignalDispatch

/-- The directory lists what the registry shows, every name once. -/
structure Directory.Mirrors (directory : Directory) (registry : Registry) : Prop where
  names : (directory.entries.map Entry.name).Nodup
  entries :
    ∀ entry, entry ∈ directory.entries ↔ ∃ index, registry.entryAt index = some entry

namespace Registry

variable {registry : Registry}

theorem entryAt_eq_some_iff (registry : Registry) (index : Nat) (entry : Entry) :
    registry.entryAt index = some entry ↔
      ∃ signal, registry.signals.get? index = some signal ∧
        registry.entryOf index signal = entry := by
  rw [entryAt, Option.map_eq_some_iff]
  constructor
  · rintro ⟨content, found, rfl⟩
    rcases (signalAt_eq_some_iff _ _ _).mp found with ⟨signal, stored, rfl⟩
    exact ⟨signal, stored, rfl⟩
  · rintro ⟨signal, stored, rfl⟩
    exact ⟨signal.content, signalAt_of_get? stored, rfl⟩

/-- A name is found at the index of the entry that has it. -/
theorem WellFormed.find?_of_entryAt
    (formed : registry.WellFormed)
    {index : Nat}
    {entry : Entry}
    (shown : registry.entryAt index = some entry) :
    registry.find? entry.name = some index := by
  rw [entryAt, Option.map_eq_some_iff] at shown
  rcases shown with ⟨signal, registered, rfl⟩
  exact (formed.find?_eq_some_iff _ _).mpr ⟨signal, registered, rfl⟩

/-- The entry at an index where a name is found has that name. -/
theorem entryAt_of_find?
    {name : String}
    {index : Nat}
    (located : registry.find? name = some index) :
    ∃ entry, registry.entryAt index = some entry ∧ entry.name = name := by
  rcases signalAt_of_find? located with ⟨signal, registered, named⟩
  refine ⟨registry.entryOf index signal, ?_, named⟩
  rw [entryAt, registered]
  rfl

/-- The number of connections shown is the number of live slots counted. -/
theorem WellFormed.length_connections
    (formed : registry.WellFormed)
    {index : Nat}
    {signal : Signal}
    (registered : registry.signals.get? index = some signal) :
    (registry.connections index).length = signal.live := by
  rw [connections_eq, length_connectionsOf]
  exact (formed.live_eq (signalAt_of_get? registered)).symm

/-- A first live slot is found exactly if its test accepts a connection. -/
theorem firstLive?_isSome_iff (registry : Registry) (index : Nat) (test : Connection → Bool) :
    (registry.firstLive? index fun slot => test slot.connection).isSome ↔
      ∃ connection ∈ registry.connections index, test connection = true := by
  rw [← Option.ne_none_iff_isSome, Ne, firstLive?_eq_none_iff]
  constructor
  · intro found
    simp only [Classical.not_forall, Classical.not_not] at found
    rcases found with ⟨position, member, slot, stored, live, accepted⟩
    refine ⟨slot.connection, (mem_connectionsOf_iff _ _).mpr ⟨slot, ?_, live, rfl⟩, accepted⟩
    exact List.mem_filterMap.mpr ⟨position, member, stored⟩
  · rintro ⟨connection, member, accepted⟩ refused
    rcases (mem_connectionsOf_iff _ _).mp member with ⟨slot, among, live, rfl⟩
    rcases List.mem_filterMap.mp among with ⟨position, linked, stored⟩
    exact refused position linked slot stored ⟨live, accepted⟩

/-- Connections of one handle are shown at one index. -/
theorem WellFormed.connections_apart
    (formed : registry.WellFormed)
    {left right : Nat}
    {first second : Connection}
    (inLeft : first ∈ registry.connections left)
    (inRight : second ∈ registry.connections right)
    (same : first.handle = second.handle) :
    left = right := by
  rw [connections_eq, mem_connectionsOf_iff] at inLeft inRight
  rcases inLeft with ⟨slot, among, _, rfl⟩
  rcases inRight with ⟨other, among', _, rfl⟩
  rcases (mem_contentsOf_iff _ _ _).mp among with ⟨position, linked, stored⟩
  rcases (mem_contentsOf_iff _ _ _).mp among' with ⟨place, linked', stored'⟩
  have places := formed.handles_apart stored stored' same
  subst places
  exact formed.chained.apart linked linked'

/-! ## All entries -/

/-- The entries that a registry shows, in ascending order of index. -/
def entries (registry : Registry) : List Entry :=
  registry.signals.toList.map fun entry => registry.entryOf entry.1 entry.2

theorem mem_entries_iff (registry : Registry) (entry : Entry) :
    entry ∈ registry.entries ↔ ∃ index, registry.entryAt index = some entry := by
  simp only [entries, List.mem_map, Prod.exists, Arena.mem_toList_iff, entryAt_eq_some_iff]

theorem WellFormed.nodup_names (formed : registry.WellFormed) :
    (registry.entries.map Entry.name).Nodup := by
  rw [entries, List.map_map]
  refine List.Nodup.map_on ?_ (List.Nodup.of_map _ (Arena.nodup_toList_map_fst registry.signals))
  rintro ⟨left, first⟩ leftMember ⟨right, second⟩ rightMember same
  rw [Arena.mem_toList_iff] at leftMember rightMember
  have places : left = right :=
    formed.names_apart (signalAt_of_get? leftMember) (signalAt_of_get? rightMember) same
  subst places
  rw [leftMember, Option.some.injEq] at rightMember
  rw [rightMember]

theorem WellFormed.length_entries (formed : registry.WellFormed) :
    registry.entries.length = registry.count := by
  rw [entries, List.length_map, Arena.length_toList, count, formed.signals_sound.size_eq]

theorem WellFormed.map_info_entries (formed : registry.WellFormed) :
    registry.entries.map Entry.info = registry.listing := by
  rw [entries, List.map_map, listing]
  refine List.map_congr_left ?_
  rintro ⟨index, signal⟩ member
  rw [Arena.mem_toList_iff] at member
  have counted := formed.length_connections member
  simp only [Function.comp_apply, Entry.info, entryOf, counted]
  rfl

end Registry

namespace Directory

/-- Where names are listed once, the entry of a name is the one that has it. -/
theorem find?_eq_some_iff
    {directory : Directory}
    (names : (directory.entries.map Entry.name).Nodup)
    (name : String)
    (entry : Entry) :
    directory.find? name = some entry ↔ entry ∈ directory.entries ∧ entry.name = name := by
  constructor
  · intro found
    exact ⟨List.mem_of_find?_eq_some found, by simpa using List.find?_some found⟩
  · rintro ⟨member, rfl⟩
    cases found : directory.find? entry.name with
    | none =>
        have absent := List.find?_eq_none.mp found entry member
        simp at absent
    | some other =>
        have named : other.name = entry.name := by simpa using List.find?_some found
        exact congrArg some
          (List.inj_on_of_nodup_map names (List.mem_of_find?_eq_some found) member named)

namespace Mirrors

variable {directory : Directory} {registry after : Registry} {name : String} {index : Nat}

/-- What is found in the directory is what the registry shows where it finds the name. -/
theorem find?_eq (mirrors : directory.Mirrors registry) (formed : registry.WellFormed)
    (name : String) :
    directory.find? name = (registry.find? name).bind registry.entryAt := by
  cases located : registry.find? name with
  | none =>
      rw [Option.bind_none, find?, List.find?_eq_none]
      intro entry member
      rcases (mirrors.entries entry).mp member with ⟨index, shown⟩
      have found := formed.find?_of_entryAt shown
      simp only [decide_eq_true_eq]
      rintro rfl
      rw [located] at found
      cases found
  | some index =>
      rcases Registry.entryAt_of_find? located with ⟨entry, shown, named⟩
      rw [Option.bind_some, shown]
      exact (find?_eq_some_iff mirrors.names name entry).mpr
        ⟨(mirrors.entries entry).mpr ⟨index, shown⟩, named⟩

theorem find?_of_some (mirrors : directory.Mirrors registry) (formed : registry.WellFormed)
    (located : registry.find? name = some index) :
    ∃ entry, directory.find? name = some entry ∧ registry.entryAt index = some entry ∧
      entry.name = name := by
  rcases Registry.entryAt_of_find? located with ⟨entry, shown, named⟩
  refine ⟨entry, ?_, shown, named⟩
  rw [mirrors.find?_eq formed, located, Option.bind_some, shown]

theorem find?_of_none (mirrors : directory.Mirrors registry) (formed : registry.WellFormed)
    (unknown : registry.find? name = none) :
    directory.find? name = none := by
  rw [mirrors.find?_eq formed, unknown, Option.bind_none]

/-- The entries of the directory are those of the registry in another order. -/
theorem perm (mirrors : directory.Mirrors registry) (formed : registry.WellFormed) :
    directory.entries.Perm registry.entries := by
  refine (List.perm_ext_iff_of_nodup (List.Nodup.of_map _ mirrors.names)
    (List.Nodup.of_map _ formed.nodup_names)).mpr ?_
  intro entry
  rw [mirrors.entries, Registry.mem_entries_iff]

/-! ### Changes -/

/-- A change that is not seen. -/
theorem unseen (mirrors : directory.Mirrors registry) (same : after.entryAt = registry.entryAt) :
    directory.Mirrors after := by
  refine ⟨mirrors.names, ?_⟩
  rw [same]
  exact mirrors.entries

/-- The entry of a name is revised in both. -/
theorem revise
    {change : List Connection → List Connection}
    (mirrors : directory.Mirrors registry)
    (formed : registry.WellFormed)
    (located : registry.find? name = some index)
    (revises : Registry.Revises registry after index change) :
    (directory.revise name change).Mirrors after := by
  have here {other : Nat} {entry : Entry} (shown : registry.entryAt other = some entry) :
      entry.name = name ↔ index = other := by
    have found := formed.find?_of_entryAt shown
    constructor
    · rintro rfl
      rw [found, Option.some.injEq] at located
      exact located.symm
    · rintro rfl
      rcases Registry.entryAt_of_find? located with ⟨same, shown', named⟩
      rw [shown, Option.some.injEq] at shown'
      rw [shown', named]
  constructor
  · have kept : (directory.revise name change).entries.map Entry.name =
        directory.entries.map Entry.name := by
      rw [Directory.revise, List.map_map]
      refine List.map_congr_left fun entry _ => ?_
      rw [Function.comp_apply]
      split <;> rfl
    rw [kept]
    exact mirrors.names
  · intro entry
    rw [Directory.revise, List.mem_map]
    constructor
    · rintro ⟨earlier, member, rfl⟩
      rcases (mirrors.entries earlier).mp member with ⟨other, shown⟩
      refine ⟨other, ?_⟩
      rw [revises other, shown]
      by_cases same : earlier.name = name
      · rw [if_pos same, if_pos ((here shown).mp same)]
        rfl
      · rw [if_neg same, if_neg fun place => same ((here shown).mpr place)]
    · rintro ⟨other, shown⟩
      rw [revises other] at shown
      by_cases place : index = other
      · rw [if_pos place, Option.map_eq_some_iff] at shown
        rcases shown with ⟨earlier, found, rfl⟩
        refine ⟨earlier, (mirrors.entries earlier).mpr ⟨other, found⟩, ?_⟩
        rw [if_pos ((here found).mpr place)]
      · rw [if_neg place] at shown
        refine ⟨entry, (mirrors.entries entry).mpr ⟨other, shown⟩, ?_⟩
        rw [if_neg fun same => place ((here shown).mp same)]

/-- An entry is added to both. -/
theorem add
    {entry : Entry}
    (mirrors : directory.Mirrors registry)
    (unknown : directory.find? entry.name = none)
    {place : Nat}
    (vacant : registry.entryAt place = none)
    (added :
      ∀ other, after.entryAt other = if place = other then some entry else registry.entryAt other) :
    ({ directory with entries := directory.entries ++ [entry] } : Directory).Mirrors after := by
  constructor
  · rw [List.map_append, List.nodup_append]
    refine ⟨mirrors.names, List.nodup_singleton _, ?_⟩
    intro listed member last again same
    rcases List.mem_map.mp member with ⟨earlier, among, rfl⟩
    have absent := List.find?_eq_none.mp unknown earlier among
    rw [List.map_singleton, List.mem_singleton] at again
    simp [same.trans again] at absent
  · intro other
    rw [List.mem_append, List.mem_singleton]
    constructor
    · rintro (member | rfl)
      · rcases (mirrors.entries other).mp member with ⟨index, shown⟩
        refine ⟨index, ?_⟩
        rw [added, if_neg]
        · exact shown
        · rintro rfl
          rw [vacant] at shown
          cases shown
      · exact ⟨place, by rw [added, if_pos rfl]⟩
    · rintro ⟨index, shown⟩
      rw [added] at shown
      split at shown
      · exact Or.inr (Option.some.inj shown).symm
      · exact Or.inl ((mirrors.entries other).mpr ⟨index, shown⟩)

/-- The entry of a name is taken out of both. -/
theorem drop
    (mirrors : directory.Mirrors registry)
    (formed : registry.WellFormed)
    (located : registry.find? name = some index)
    (dropped :
      ∀ other, after.entryAt other = if index = other then none else registry.entryAt other) :
    ({ directory with
        entries := directory.entries.filter fun entry => entry.name ≠ name } : Directory).Mirrors
      after := by
  constructor
  · exact mirrors.names.sublist (List.filter_sublist.map _)
  · intro entry
    rw [List.mem_filter, decide_eq_true_eq, mirrors.entries]
    constructor
    · rintro ⟨⟨other, shown⟩, different⟩
      refine ⟨other, ?_⟩
      rw [dropped, if_neg]
      · exact shown
      · rintro rfl
        rcases Registry.entryAt_of_find? located with ⟨same, again, named⟩
        rw [shown, Option.some.injEq] at again
        exact different (again ▸ named)
    · rintro ⟨other, shown⟩
      rw [dropped] at shown
      split at shown
      · cases shown
      next place =>
        refine ⟨⟨other, shown⟩, ?_⟩
        rintro rfl
        have found := formed.find?_of_entryAt shown
        rw [located, Option.some.injEq] at found
        exact place found

end Mirrors

end Directory

end SignalDispatch
