import SignalDispatch.Proofs.Registry.Alike

/-!
# Removals, emissions and reports of registries that show the same

A removal finds the same slot in both registries and takes it out of both, an emission begins and
ends alike, and what is read at two cursors that are at slots of one handle is the same slot, with
cursors behind it that are at slots of one handle again.
-/

namespace SignalDispatch.Registry

variable {registry : Registry} {index position : Nat}

/-- There is no first live slot exactly when the test accepts no live slot shown. -/
theorem firstLive?_eq_none_iff_contents
    (registry : Registry)
    (index : Nat)
    {accepts : Slot → Bool}
    (blind : ∀ slot : Slot, accepts slot.content = accepts slot) :
    registry.firstLive? index accepts = none ↔
      ∀ slot ∈ registry.contents index, ¬ (slot.removed = false ∧ accepts slot = true) := by
  rw [firstLive?_eq_none_iff]
  constructor
  · intro refused slot member
    rcases (mem_contentsOf_iff _ _ _).mp member with ⟨place, linked, found⟩
    rcases (contentAt_eq_some_iff _ _ _).mp found with ⟨raw, stored, rfl⟩
    rw [blind]
    exact refused place linked raw stored
  · intro refused place linked raw stored
    have member : raw.content ∈ registry.contents index :=
      (mem_contentsOf_iff _ _ _).mpr ⟨place, linked, contentAt_of_get? stored⟩
    have neither := refused raw.content member
    rw [blind] at neither
    exact neither

/-- The handle of a slot is not the one of a slot passed on the way to it. -/
theorem WellFormed.handle_ne_of_passed
    (formed : registry.WellFormed)
    {passed rest : List Nat}
    {slot : Slot}
    (chain : registry.chain index = passed ++ position :: rest)
    (found : contentAt registry.slots position = some slot) :
    ∀ other ∈ contentsOf registry.slots passed, ¬ other.handle = slot.handle := by
  intro other member same
  rcases (mem_contentsOf_iff _ _ _).mp member with ⟨place, linked, found'⟩
  have distinct := formed.chained.distinct index
  rw [chain, List.nodup_middle, List.nodup_cons, List.mem_append, not_or] at distinct
  exact distinct.1.1 (formed.handles_apart found' found same ▸ linked)

/-- The first of some stored slots is stored at the first of their positions. -/
theorem head?_contentsOf
    {slots : Arena Slot}
    {positions : List Nat}
    (stored : ∀ place ∈ positions, (contentAt slots place).isSome) :
    positions.head?.bind (contentAt slots) = (contentsOf slots positions).head? := by
  cases positions with
  | nil => rfl
  | cons first rest =>
      rcases Option.isSome_iff_exists.mp (stored first List.mem_cons_self) with ⟨slot, found⟩
      rw [List.head?_cons, Option.bind_some, found, contentsOf_cons found, List.head?_cons]

/-- The handle of the slot at a cursor. -/
def handleAt? (registry : Registry) (cursor : Option Nat) : Option Handle :=
  (cursor.bind (contentAt registry.slots)).map Slot.handle

/-- The handle at the head of a chain is the one of its first slot. -/
theorem WellFormed.handleAt?_head
    (formed : registry.WellFormed)
    (index : Nat) :
    registry.handleAt? (registry.chain index).head? =
      (registry.contents index).head?.map Slot.handle := by
  rw [handleAt?, head?_contentsOf fun _ member => formed.contentAt_isSome member, contents]

/-- A live slot of a handle nobody owns is not shown. -/
theorem owner?_eq_none_iff (registry : Registry) (handle : Handle) :
    registry.owner? handle = none ↔
      ∀ index signal, registry.signalAt index = some signal →
        ∀ slot ∈ registry.contents index, ¬ (slot.removed = false ∧ slot.handle = handle) := by
  rw [owner?, Option.map_eq_none_iff, List.find?_eq_none]
  have blind (slot : Slot) : (slot.content.handle == handle) = (slot.handle == handle) := rfl
  constructor
  · intro nobody index signal found slot member both
    rcases (signalAt_eq_some_iff _ _ _).mp found with ⟨raw, stored, _⟩
    have blank := nobody (index, raw) ((Arena.mem_toList_iff _ _ _).mpr stored)
    rw [Option.not_isSome_iff_eq_none, firstLive?_eq_none_iff_contents _ _ blind] at blank
    exact blank slot member ⟨both.1, beq_iff_eq.mpr both.2⟩
  · rintro nobody ⟨index, raw⟩ member
    have stored := (Arena.mem_toList_iff _ _ _).mp member
    rw [Option.not_isSome_iff_eq_none, firstLive?_eq_none_iff_contents _ _ blind]
    intro slot shown both
    exact nobody index raw.content (signalAt_of_get? stored) slot shown
      ⟨both.1, beq_iff_eq.mp both.2⟩

/-- The owner of a handle shows a live slot of it. -/
theorem owner?_eq_some_contents {handle : Handle} (owned : registry.owner? handle = some index) :
    ∃ signal, registry.signalAt index = some signal ∧
      ∃ slot ∈ registry.contents index, slot.removed = false ∧ slot.handle = handle := by
  rw [owner?, Option.map_eq_some_iff] at owned
  rcases owned with ⟨⟨place, raw⟩, first, rfl⟩
  have stored := (Arena.mem_toList_iff _ _ _).mp (List.mem_of_find?_eq_some first)
  have accepted := List.find?_some first
  refine ⟨raw.content, signalAt_of_get? stored, ?_⟩
  by_contra none
  rw [← Option.ne_none_iff_isSome] at accepted
  refine accepted ((firstLive?_eq_none_iff_contents _ _ fun _ => rfl).mpr ?_)
  intro slot member both
  exact none ⟨slot, member, both.1, beq_iff_eq.mp both.2⟩

/-- A handle is shown at one index. -/
theorem WellFormed.index_eq_of_handle
    (formed : registry.WellFormed)
    {left right : Nat}
    {first second : Slot}
    (inLeft : first ∈ registry.contents left)
    (inRight : second ∈ registry.contents right)
    (same : first.handle = second.handle) :
    left = right := by
  rcases (mem_contentsOf_iff _ _ _).mp inLeft with ⟨position, linked, stored⟩
  rcases (mem_contentsOf_iff _ _ _).mp inRight with ⟨place, linked', stored'⟩
  have places := formed.handles_apart stored stored' same
  subst places
  exact formed.chained.apart linked linked'

/-- The number of slots that a removal of all slots comes back with. -/
theorem retireAll_fst {signal : Signal} (registered : registry.signalAt index = some signal) :
    (registry.retireAll index).1 = signal.live := by
  rcases (signalAt_eq_some_iff _ _ _).mp registered with ⟨raw, stored, rfl⟩
  rw [retireAll, stored]
  dsimp only
  split <;> rfl

/-- Forgetting the timing changes nothing else that is shown. -/
theorem WellFormed.shows_resetTiming
    (formed : registry.WellFormed)
    (signal : Signal)
    (slots : List Slot) :
    registry.resetTiming.Shows signal slots ↔
      ∃ earlier, registry.Shows earlier slots ∧ { earlier with timing := {} } = signal := by
  rcases formed.resetTiming with ⟨adjusts, _⟩
  constructor
  · rintro ⟨index, found, contents⟩
    rw [adjusts.signals, Option.map_eq_some_iff] at found
    rcases found with ⟨earlier, before, same⟩
    rw [adjusts.contents_eq] at contents
    exact ⟨earlier, ⟨index, before, contents⟩, same⟩
  · rintro ⟨earlier, ⟨index, before, contents⟩, same⟩
    refine ⟨index, ?_, ?_⟩
    · rw [adjusts.signals, before]
      exact congrArg some same
    · rw [adjusts.contents_eq, contents]

/-- After an emission began, its registration is at its index only. -/
theorem WellFormed.beginEmission_home
    (formed : registry.WellFormed)
    {name : String}
    {next : Registry}
    {signalRef : SignalRef}
    {head : Option Nat}
    (begun : registry.beginEmission name = .ok (next, signalRef, head))
    (index : Nat)
    (signal : Signal)
    (found : next.signalAt index = some signal)
    (same : signal.serial = signalRef.serial) :
    index = signalRef.index := by
  rcases formed.beginEmission begun with
    ⟨_, _, ⟨raw, present, serial, _⟩, adjusts, formedNext⟩
  have entered : next.signalAt signalRef.index = some (Registry.entered raw.content) := by
    rw [adjusts.signals_onlyAt, if_pos rfl, signalAt_of_get? present]
    rfl
  exact formedNext.serials_apart found entered (same.trans serial.symm)

/-- The entries of a registry are what it shows, tombstones apart. -/
theorem mem_entries_iff_shows (registry : Registry) (entry : Entry) :
    entry ∈ registry.entries ↔
      ∃ signal slots, registry.Shows signal slots ∧
        entry = ⟨signal.name, signal.description, signal.priority, connectionsOf slots⟩ := by
  rw [mem_entries_iff]
  constructor
  · rintro ⟨index, shown⟩
    rw [entryAt, Option.map_eq_some_iff] at shown
    rcases shown with ⟨signal, found, rfl⟩
    exact ⟨signal, _, ⟨index, found, rfl⟩, by rw [entryOf, connections_eq]⟩
  · rintro ⟨signal, _, ⟨index, found, rfl⟩, rfl⟩
    refine ⟨index, ?_⟩
    rw [entryAt, found, Option.map_some, entryOf, connections_eq]

/-- Cursors at slots of one handle are at the same slot, and so are the cursors after it. -/
theorem Coincides.slot_of_handle
    {here there : Nat}
    {left right : Registry}
    {signal : Signal}
    (both : Coincides left right here there signal)
    (formed : left.WellFormed)
    (formed' : right.WellFormed)
    {position position' : Nat}
    (linked : position ∈ left.chain here)
    (linked' : position' ∈ right.chain there)
    (same : left.handleAt? (some position) = right.handleAt? (some position')) :
    ∃ slot slot', left.slots.get? position = some slot ∧ right.slots.get? position' = some slot' ∧
      slot.content = slot'.content ∧ left.handleAt? slot.next = right.handleAt? slot'.next := by
  rcases List.append_of_mem linked with ⟨passed, rest, chain⟩
  rcases List.append_of_mem linked' with ⟨passed', rest', chain'⟩
  rcases formed.next_eq chain with ⟨slot, stored, next⟩
  rcases formed'.next_eq chain' with ⟨slot', stored', next'⟩
  have content := contentAt_of_get? stored
  have content' := contentAt_of_get? stored'
  have handles : slot.handle = slot'.handle := by
    rw [handleAt?, Option.bind_some, content, handleAt?, Option.bind_some, content'] at same
    exact Option.some.inj same
  have contents := both.contents
  rw [Registry.contents, chain, Registry.contents, chain', contentsOf_append, contentsOf_append,
    contentsOf_cons content, contentsOf_cons content'] at contents
  have apart := formed'.handle_ne_of_passed chain' content'
  rw [Slot.content_handle, ← handles] at apart
  rcases first_split_unique contents (formed.handle_ne_of_passed chain content) rfl apart
    handles.symm with ⟨_, first, others⟩
  refine ⟨slot, slot', stored, stored', first, ?_⟩
  have after : ∀ place ∈ rest, (contentAt left.slots place).isSome := fun place member =>
    formed.contentAt_isSome
      (chain ▸ List.mem_append_right _ (List.mem_cons_of_mem _ member))
  have after' : ∀ place ∈ rest', (contentAt right.slots place).isSome := fun place member =>
    formed'.contentAt_isSome
      (chain' ▸ List.mem_append_right _ (List.mem_cons_of_mem _ member))
  rw [handleAt?, next, head?_contentsOf after, handleAt?, next', head?_contentsOf after', others]

namespace Alike

variable
  {allowed : Context → Prop}
  {signalRoom slotRoom here there : Nat}
  {left right : Registry}
  {signal : Signal}

/-! ## Removing slots -/

/-- The first live slot that a test accepts is removed alike. -/
theorem removeFirst
    (alike : Alike allowed signalRoom slotRoom left right)
    (formed : left.WellFormed)
    (formed' : right.WellFormed)
    (both : Coincides left right here there signal)
    (accepts : Slot → Bool)
    (blind : ∀ slot : Slot, accepts slot.content = accepts slot) :
    (left.removeFirst here accepts = none ∧ right.removeFirst there accepts = none) ∨
      ∃ result result', left.removeFirst here accepts = some result ∧
        right.removeFirst there accepts = some result' ∧
        Removed allowed signalRoom slotRoom result result' := by
  have absent := firstLive?_eq_none_iff_contents left here blind
  rw [both.contents, ← firstLive?_eq_none_iff_contents right there blind] at absent
  rw [Registry.removeFirst, Registry.removeFirst]
  cases first : left.firstLive? here accepts with
  | none => exact Or.inl ⟨rfl, by rw [absent.mp first]; rfl⟩
  | some place =>
      cases first' : right.firstLive? there accepts with
      | none =>
          rw [absent.mpr first'] at first
          cases first
      | some place' =>
          rcases formed.retire_alters both.inLeft blind first with
            ⟨passed, slot, rest, contents, refused, accepted, alters, values⟩
          rcases formed'.retire_alters both.inRight blind first' with
            ⟨passed', slot', rest', contents', refused', accepted', alters', values'⟩
          rcases first_split_unique
            (contents.symm.trans (both.contents.trans contents')) refused accepted refused'
            accepted' with ⟨rfl, rfl, rfl⟩
          have carries := alike.carries_contents both
          rw [contents] at carries
          have kept := carries slot (List.mem_append_right _ List.mem_cons_self)
          have away : ∀ other ∈ (left.retire here place).2.map Slot.content,
              other.Carries allowed := by
            rw [values]
            split
            · exact fun other member => List.mem_singleton.mp member ▸ kept
            · exact fun other member => absurd member List.not_mem_nil
          refine Or.inr ⟨left.retire here place, right.retire there place', rfl, rfl, ?_⟩
          refine alike.removed alters alters' (retire_stocks _ _ _) (retire_stocks _ _ _) rfl
            (values.trans values'.symm) ?_ away
          · intro changed others same other member
            rw [Option.some.injEq, shortened] at same
            split at same
            all_goals
              rw [Prod.mk.injEq] at same
              rw [← same.2, List.mem_append] at member
            · rcases member with before | after
              · exact carries other (List.mem_append_left _ before)
              · exact carries other (List.mem_append_right _ (List.mem_cons_of_mem _ after))
            · rw [List.mem_cons] at member
              rcases member with before | rfl | after
              · exact carries other (List.mem_append_left _ before)
              · exact kept
              · exact carries other (List.mem_append_right _ (List.mem_cons_of_mem _ after))

/-- The live slots of a handle are found in both registries or in none. -/
theorem owner?
    (alike : Alike allowed signalRoom slotRoom left right)
    (formed' : right.WellFormed)
    (handle : Handle) :
    (left.owner? handle = none ∧ right.owner? handle = none) ∨
      ∃ here there signal, left.owner? handle = some here ∧ right.owner? handle = some there ∧
        Coincides left right here there signal := by
  cases owned : left.owner? handle with
  | none =>
      refine Or.inl ⟨rfl, ?_⟩
      rw [owner?_eq_none_iff]
      intro there signal found
      rcases alike.coincides_right found with ⟨here, both⟩
      rw [← both.contents]
      exact (owner?_eq_none_iff _ _).mp owned here signal both.inLeft
  | some here =>
      rcases owner?_eq_some_contents owned with ⟨signal, found, slot, member, live, same⟩
      rcases alike.coincides found with ⟨there, both⟩
      refine Or.inr ⟨here, there, signal, rfl, ?_, both⟩
      rw [both.contents] at member
      cases owned' : right.owner? handle with
      | none =>
          exact absurd ⟨live, same⟩
            ((owner?_eq_none_iff _ _).mp owned' there signal both.inRight slot member)
      | some place =>
          rcases owner?_eq_some_contents owned' with ⟨_, _, other, among, _, same'⟩
          rw [formed'.index_eq_of_handle among member (same'.trans same.symm)]

/-- The slot of a handle is removed alike. -/
theorem removeHandle
    (alike : Alike allowed signalRoom slotRoom left right)
    (formed : left.WellFormed)
    (formed' : right.WellFormed)
    (handle : Handle) :
    (left.removeHandle handle = none ∧ right.removeHandle handle = none) ∨
      ∃ result result', left.removeHandle handle = some result ∧
        right.removeHandle handle = some result' ∧
        Removed allowed signalRoom slotRoom result result' := by
  rw [Registry.removeHandle, Registry.removeHandle]
  rcases alike.owner? formed' handle with ⟨absent, absent'⟩ | ⟨here, there, _, found, found', both⟩
  · rw [absent, absent']
    exact Or.inl ⟨rfl, rfl⟩
  · rw [found, found', Option.bind_some, Option.bind_some]
    exact alike.removeFirst formed formed' both _ fun _ => rfl

/-- All slots of a signal are removed alike. -/
theorem retireAll
    (alike : Alike allowed signalRoom slotRoom left right)
    (formed : left.WellFormed)
    (formed' : right.WellFormed)
    (both : Coincides left right here there signal) :
    (left.retireAll here).1 = (right.retireAll there).1 ∧
      Removed allowed signalRoom slotRoom (left.retireAll here).2 (right.retireAll there).2 := by
  rcases formed.retireAll_alters both.inLeft with ⟨alters, values⟩
  rcases formed'.retireAll_alters both.inRight with ⟨alters', values'⟩
  have carries := alike.carries_contents both
  rw [← both.contents] at alters' values'
  have away : ∀ slot ∈ (left.retireAll here).2.2.map Slot.content, slot.Carries allowed := by
    rw [values]
    split
    · exact carries
    · exact fun other member => absurd member List.not_mem_nil
  refine ⟨?_, ?_⟩
  · rw [retireAll_fst both.inLeft, retireAll_fst both.inRight]
  · refine alike.removed alters alters' (retireAll_stocks _ _) (retireAll_stocks _ _) rfl
      (values.trans values'.symm) ?_ away
    intro changed others same other member
    rw [Option.some.injEq, emptied] at same
    split at same
    all_goals
      rw [Prod.mk.injEq] at same
      rw [← same.2] at member
    · cases member
    · rcases List.mem_map.mp member with ⟨earlier, among, rfl⟩
      exact carries earlier among

/-! ## Emissions -/

/-- An emission begins alike, in the same signal and at slots of the same handle. -/
theorem beginEmission
    (alike : Alike allowed signalRoom slotRoom left right)
    (formed : left.WellFormed)
    (formed' : right.WellFormed)
    (name : String) :
    (∃ fault, left.beginEmission name = .error fault ∧ right.beginEmission name = .error fault) ∨
      ∃ next next' signalRef signalRef' head head',
        left.beginEmission name = .ok (next, signalRef, head) ∧
          right.beginEmission name = .ok (next', signalRef', head') ∧
          Alike allowed signalRoom slotRoom next next' ∧
          signalRef.serial = signalRef'.serial ∧
          next.handleAt? head = next'.handleAt? head' := by
  rcases alike.lookup formed' name with
    ⟨absent, absent'⟩ | ⟨here, there, signal, found, found', named, both⟩
  · refine Or.inl ⟨.notFound name, ?_, ?_⟩
    · rw [Registry.beginEmission, absent]
    · rw [Registry.beginEmission, absent']
  · rcases (signalAt_eq_some_iff _ _ _).mp both.inLeft with ⟨raw, stored, content⟩
    rcases (signalAt_eq_some_iff _ _ _).mp both.inRight with ⟨raw', stored', content'⟩
    have begun : ∃ next signalRef head, left.beginEmission name = .ok (next, signalRef, head) ∧
        signalRef.index = here := by
      rw [Registry.beginEmission, found]
      simp only [stored]
      exact ⟨_, _, _, rfl, rfl⟩
    have begun' : ∃ next signalRef head, right.beginEmission name = .ok (next, signalRef, head) ∧
        signalRef.index = there := by
      rw [Registry.beginEmission, found']
      simp only [stored']
      exact ⟨_, _, _, rfl, rfl⟩
    rcases begun with ⟨next, signalRef, head, begun, rfl⟩
    rcases begun' with ⟨next', signalRef', head', begun', rfl⟩
    rcases formed.beginEmission_alters begun with
      ⟨_, registered, _, serial, rfl, _, slots, alters⟩
    rcases formed'.beginEmission_alters begun' with
      ⟨_, registered', _, serial', rfl, _, slots', alters'⟩
    rw [both.inLeft, Option.some.injEq] at registered
    rw [both.inRight, Option.some.injEq] at registered'
    subst registered registered'
    rw [← both.contents] at alters'
    refine Or.inr ⟨_, _, _, _, _, _, begun, begun', ?_, serial.symm.trans serial', ?_⟩
    · refine alike.alter alters alters' (beginEmission_stocks begun) (beginEmission_stocks begun')
        rfl ?_ rfl rfl
      intro changed others same
      rw [Option.some.injEq, Prod.mk.injEq] at same
      rw [← same.2]
      exact alike.carries_contents both
    · have first := formed.handleAt?_head signalRef.index
      have first' := formed'.handleAt?_head signalRef'.index
      rw [handleAt?] at first first'
      rw [handleAt?, slots, first, handleAt?, slots', first', both.contents]

/-- An emission ends alike. -/
theorem endEmission
    (alike : Alike allowed signalRoom slotRoom left right)
    (formed : left.WellFormed)
    (formed' : right.WellFormed)
    {signalRef signalRef' : SignalRef}
    (both : Coincides left right signalRef.index signalRef'.index signal)
    (serial : signal.serial = signalRef.serial)
    (serial' : signal.serial = signalRef'.serial)
    (elapsed : Option Nat) :
    Removed allowed signalRoom slotRoom (left.endEmission signalRef elapsed)
      (right.endEmission signalRef' elapsed) := by
  rcases formed.endEmission_alters both.inLeft serial elapsed with ⟨alters, values⟩
  rcases formed'.endEmission_alters both.inRight serial' elapsed with ⟨alters', values'⟩
  have carries := alike.carries_contents both
  rw [← both.contents] at alters' values'
  have away : ∀ slot ∈ (left.endEmission signalRef elapsed).2.map Slot.content,
      slot.Carries allowed := by
    rw [values, sweptAway]
    split
    · exact fun slot member => carries slot (List.mem_filter.mp member).1
    · exact fun slot member => absurd member List.not_mem_nil
  refine alike.removed alters alters' (endEmission_stocks _ _ _) (endEmission_stocks _ _ _) rfl
    (values.trans values'.symm) ?_ away
  intro changed others same other member
  rw [Option.some.injEq, swept] at same
  split at same
  all_goals
    rw [Prod.mk.injEq] at same
    rw [← same.2] at member
  · exact carries other (List.mem_filter.mp member).1
  · exact carries other member

/-! ## Reports -/

theorem resetTiming
    (alike : Alike allowed signalRoom slotRoom left right)
    (formed : left.WellFormed)
    (formed' : right.WellFormed) :
    Alike allowed signalRoom slotRoom left.resetTiming right.resetTiming := by
  refine ⟨?_, ?_, ⟨alike.growing.signals, alike.growing.slots⟩, alike.pooledSignals,
    alike.pooledSlots, alike.signalSize, alike.slotSize⟩
  · intro signal slots
    rw [formed.shows_resetTiming, formed'.shows_resetTiming]
    exact exists_congr fun earlier => and_congr_left' (alike.shows earlier slots)
  · intro signal slots shown
    rcases (formed.shows_resetTiming signal slots).mp shown with ⟨earlier, before, _⟩
    exact alike.carries earlier slots before

theorem resetPeak
    (alike : Alike allowed signalRoom slotRoom left right) :
    Alike allowed signalRoom slotRoom left.resetPeak right.resetPeak :=
  ⟨alike.shows, alike.carries, ⟨alike.growing.signals, alike.growing.slots⟩, alike.pooledSignals,
    alike.pooledSlots, alike.signalSize, alike.slotSize⟩

/-- The listings have the same lines. -/
theorem listing
    (alike : Alike allowed signalRoom slotRoom left right)
    (formed : left.WellFormed)
    (formed' : right.WellFormed) :
    left.listing.Perm right.listing := by
  rw [← formed.map_info_entries, ← formed'.map_info_entries]
  refine List.Perm.map _ ?_
  refine (List.perm_ext_iff_of_nodup (List.Nodup.of_map _ formed.nodup_names)
    (List.Nodup.of_map _ formed'.nodup_names)).mpr ?_
  intro entry
  rw [mem_entries_iff_shows, mem_entries_iff_shows]
  exact exists_congr fun signal => exists_congr fun slots =>
    and_congr_left' (alike.shows signal slots)

theorem timing
    (alike : Alike allowed signalRoom slotRoom left right)
    (formed' : right.WellFormed)
    (name : String) :
    left.timing name = right.timing name := by
  rcases alike.lookup formed' name with
    ⟨absent, absent'⟩ | ⟨here, there, signal, found, found', named, both⟩
  · rw [Registry.timing, absent, Registry.timing, absent']
  · rcases (signalAt_eq_some_iff _ _ _).mp both.inLeft with ⟨raw, stored, content⟩
    rcases (signalAt_eq_some_iff _ _ _).mp both.inRight with ⟨raw', stored', content'⟩
    have contents := congrArg Signal.timing (content.trans content'.symm)
    have same : raw.timing = raw'.timing := contents
    rw [Registry.timing, found, Registry.timing, found']
    simp only [stored, stored', same]

end Alike

end SignalDispatch.Registry
