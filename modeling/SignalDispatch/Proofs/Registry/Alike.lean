import SignalDispatch.Proofs.Directory.Mirror
import SignalDispatch.Proofs.Registry.Shown

/-!
# Registries that show the same

A registry on growing storage and one on pools hand out different indices for the same history.
`Registry.Alike` says that they show the same all the same: the same signals with the same lists of
slots, in arenas of the same sizes.  Every call keeps two registries alike, and comes back with the
same from both, unless a pool has no room left.
-/

namespace SignalDispatch

/-- The context of a slot, if it has one, passes a test. -/
def Slot.Carries (allowed : Context → Prop) (slot : Slot) : Prop :=
  ∀ context, slot.context = some context → allowed context

theorem Slot.carries_insertedInto
    {allowed : Context → Prop}
    {slot : Slot}
    {slots : List Slot}
    (first : slot.Carries allowed)
    (others : ∀ other ∈ slots, other.Carries allowed) :
    ∀ other ∈ slot.insertedInto slots, other.Carries allowed := by
  intro other member
  rw [insertedInto, List.mem_append, List.mem_cons] at member
  rcases member with before | rfl | after
  · exact others other (List.mem_filter.mp before).1
  · exact first
  · exact others other (List.mem_filter.mp after).1

/-- A list has one first element that a test accepts. -/
theorem first_split_unique
    {α : Type}
    {test : α → Prop}
    {passed passed' rest rest' : List α}
    {first first' : α}
    (same : passed ++ first :: rest = passed' ++ first' :: rest')
    (refused : ∀ other ∈ passed, ¬ test other)
    (accepted : test first)
    (refused' : ∀ other ∈ passed', ¬ test other)
    (accepted' : test first') :
    passed = passed' ∧ first = first' ∧ rest = rest' := by
  induction passed generalizing passed' with
  | nil =>
      cases passed' with
      | nil =>
          rw [List.nil_append, List.nil_append, List.cons.injEq] at same
          exact ⟨rfl, same⟩
      | cons other others =>
          rw [List.nil_append, List.cons_append, List.cons.injEq] at same
          exact absurd (same.1 ▸ accepted) (refused' other List.mem_cons_self)
  | cons other others ih =>
      cases passed' with
      | nil =>
          rw [List.nil_append, List.cons_append, List.cons.injEq] at same
          exact absurd (same.1 ▸ accepted') (refused other List.mem_cons_self)
      | cons other' others' =>
          rw [List.cons_append, List.cons_append, List.cons.injEq] at same
          rcases ih same.2 (fun _ member => refused _ (List.mem_cons_of_mem _ member))
            (fun _ member => refused' _ (List.mem_cons_of_mem _ member)) with ⟨rfl, rest⟩
          exact ⟨by rw [same.1], rest⟩

namespace Registry

/-- Two registries, one on growing storage and one on pools, show the same, and the contexts of
their slots pass a test. -/
structure Alike
    (allowed : Context → Prop)
    (signalRoom slotRoom : Nat)
    (left right : Registry) : Prop where
  shows : ∀ signal slots, left.Shows signal slots ↔ right.Shows signal slots
  carries : ∀ signal slots, left.Shows signal slots → ∀ slot ∈ slots, slot.Carries allowed
  growing : left.Growing
  pooledSignals : right.signals.policy = .pool signalRoom
  pooledSlots : right.slots.policy = .pool slotRoom
  signalSize : left.signals.size = right.signals.size
  slotSize : left.slots.size = right.slots.size

/-- A well-formed registry shows one thing under a name. -/
theorem WellFormed.shows_eq
    {registry : Registry}
    (formed : registry.WellFormed)
    {first second : Signal}
    {slots others : List Slot}
    (shown : registry.Shows first slots)
    (shown' : registry.Shows second others)
    (same : first.name = second.name) :
    first = second ∧ slots = others := by
  rcases shown with ⟨here, found, rfl⟩
  rcases shown' with ⟨there, found', rfl⟩
  have places := formed.names_apart found found' same
  subst places
  rw [found, Option.some.injEq] at found'
  exact ⟨found', rfl⟩

/-- Two indices hold the same signal with the same slots. -/
structure Coincides
    (left right : Registry)
    (here there : Nat)
    (signal : Signal) : Prop where
  inLeft : left.signalAt here = some signal
  inRight : right.signalAt there = some signal
  contents : left.contents here = right.contents there

theorem not_shows_empty (policy other : StoragePolicy) (signal : Signal) (slots : List Slot) :
    ¬ (empty policy other).Shows signal slots := by
  rintro ⟨index, found, _⟩
  rw [signalAt_empty] at found
  cases found

theorem alike_empty (allowed : Context → Prop) (signalRoom slotRoom : Nat) :
    Alike allowed signalRoom slotRoom (empty .growing .growing)
      (empty (.pool signalRoom) (.pool slotRoom)) where
  shows := fun _ _ => iff_of_false (not_shows_empty _ _ _ _) (not_shows_empty _ _ _ _)
  carries := fun _ _ shown => absurd shown (not_shows_empty _ _ _ _)
  growing := growing_empty
  pooledSignals := rfl
  pooledSlots := rfl
  signalSize := rfl
  slotSize := rfl

/-- The slots at two such indices carry contexts that pass the test. -/
theorem Alike.carries_contents
    {allowed : Context → Prop}
    {signalRoom slotRoom here there : Nat}
    {left right : Registry}
    {signal : Signal}
    (alike : Alike allowed signalRoom slotRoom left right)
    (both : Coincides left right here there signal) :
    ∀ slot ∈ left.contents here, slot.Carries allowed :=
  alike.carries signal _ ⟨here, both.inLeft, rfl⟩

/-- Two registries that are alike after a removal, and the slots that went out of storage. -/
structure Removed
    (allowed : Context → Prop)
    (signalRoom slotRoom : Nat)
    (left right : Registry × List Slot) : Prop where
  alike : Alike allowed signalRoom slotRoom left.1 right.1
  same : left.2.map Slot.content = right.2.map Slot.content
  carries : ∀ slot ∈ left.2, slot.Carries allowed

namespace Alike

variable
  {allowed : Context → Prop}
  {signalRoom slotRoom : Nat}
  {left right nextLeft nextRight : Registry}

/-- The same change of one registration keeps two registries alike. -/
theorem alter
    (alike : Alike allowed signalRoom slotRoom left right)
    {serial : Nat}
    {outcome outcome' : Option (Signal × List Slot)}
    {signals signals' slots slots' : Nat → Nat}
    (altersLeft : Alters left nextLeft serial outcome)
    (altersRight : Alters right nextRight serial outcome')
    (stocksLeft : Stocks left nextLeft signals slots)
    (stocksRight : Stocks right nextRight signals' slots')
    (sameOutcome : outcome = outcome')
    (carries :
      ∀ changed kept, outcome = some (changed, kept) → ∀ slot ∈ kept, slot.Carries allowed)
    (sameSignals : signals = signals')
    (sameSlots : slots = slots') :
    Alike allowed signalRoom slotRoom nextLeft nextRight := by
  subst sameOutcome sameSignals sameSlots
  refine ⟨?_, ?_, ⟨stocksLeft.signalPolicy.trans alike.growing.signals,
    stocksLeft.slotPolicy.trans alike.growing.slots⟩,
    stocksRight.signalPolicy.trans alike.pooledSignals,
    stocksRight.slotPolicy.trans alike.pooledSlots, ?_, ?_⟩
  · intro signal kept
    rw [altersLeft, altersRight, alike.shows]
  · intro signal kept shown
    rcases (altersLeft signal kept).mp shown with ⟨_, earlier⟩ | changed
    · exact alike.carries signal kept earlier
    · exact carries signal kept changed
  · rw [stocksLeft.signalSize, stocksRight.signalSize, alike.signalSize]
  · rw [stocksLeft.slotSize, stocksRight.slotSize, alike.slotSize]

/-- The same change of one registration that takes the same slots out of storage. -/
theorem removed
    (alike : Alike allowed signalRoom slotRoom left right)
    {serial : Nat}
    {outcome outcome' : Option (Signal × List Slot)}
    {signals : Nat → Nat}
    {released released' : List Slot}
    (altersLeft : Alters left nextLeft serial outcome)
    (altersRight : Alters right nextRight serial outcome')
    (stocksLeft : Stocks left nextLeft signals (· - released.length))
    (stocksRight : Stocks right nextRight signals (· - released'.length))
    (sameOutcome : outcome = outcome')
    (same : released.map Slot.content = released'.map Slot.content)
    (carries :
      ∀ changed kept, outcome = some (changed, kept) → ∀ slot ∈ kept, slot.Carries allowed)
    (carriesReleased : ∀ slot ∈ released.map Slot.content, slot.Carries allowed) :
    Removed allowed signalRoom slotRoom (nextLeft, released) (nextRight, released') := by
  have lengths := congrArg List.length same
  rw [List.length_map, List.length_map] at lengths
  refine ⟨?_, same, ?_⟩
  · exact alike.alter altersLeft altersRight stocksLeft stocksRight sameOutcome carries rfl
      (by rw [lengths])
  · intro slot member
    have kept : slot.content.Carries allowed :=
      carriesReleased slot.content (List.mem_map_of_mem member)
    exact kept

/-- What one of the registries keeps at an index the other one keeps somewhere. -/
theorem coincides
    (alike : Alike allowed signalRoom slotRoom left right)
    {here : Nat}
    {signal : Signal}
    (found : left.signalAt here = some signal) :
    ∃ there, Coincides left right here there signal := by
  rcases (alike.shows signal _).mp ⟨here, found, rfl⟩ with ⟨there, present, contents⟩
  exact ⟨there, found, present, contents.symm⟩

theorem coincides_right
    (alike : Alike allowed signalRoom slotRoom left right)
    {there : Nat}
    {signal : Signal}
    (found : right.signalAt there = some signal) :
    ∃ here, Coincides left right here there signal := by
  rcases (alike.shows signal _).mpr ⟨there, found, rfl⟩ with ⟨here, present, contents⟩
  exact ⟨here, present, found, contents⟩

/-- A name is found in both registries or in none. -/
theorem find?
    (alike : Alike allowed signalRoom slotRoom left right)
    (formed : right.WellFormed)
    (name : String) :
    (left.find? name = none ∧ right.find? name = none) ∨
      ∃ here there signal, left.find? name = some here ∧ right.find? name = some there ∧
        signal.name = name ∧ Coincides left right here there signal := by
  cases located : left.find? name with
  | none =>
      refine Or.inl ⟨rfl, ?_⟩
      rw [find?_eq_none_iff]
      intro there signal found same
      rcases alike.coincides_right found with ⟨here, both⟩
      exact (find?_eq_none_iff _ _).mp located here signal both.inLeft same
  | some here =>
      rcases signalAt_of_find? located with ⟨signal, found, named⟩
      rcases alike.coincides found with ⟨there, both⟩
      exact Or.inr ⟨here, there, signal, rfl,
        (formed.find?_eq_some_iff name there).mpr ⟨signal, both.inRight, named⟩, named, both⟩

/-- A name is looked up alike. -/
theorem lookup
    (alike : Alike allowed signalRoom slotRoom left right)
    (formed : right.WellFormed)
    (name : String) :
    (left.lookup name = .error (.notFound name) ∧ right.lookup name = .error (.notFound name)) ∨
      ∃ here there signal, left.lookup name = .ok here ∧ right.lookup name = .ok there ∧
        signal.name = name ∧ Coincides left right here there signal := by
  rcases alike.find? formed name with ⟨absent, absent'⟩ | ⟨here, there, signal, found, found', rest⟩
  · refine Or.inl ⟨?_, ?_⟩
    · rw [Registry.lookup, absent]
    · rw [Registry.lookup, absent']
  · refine Or.inr ⟨here, there, signal, ?_, ?_, rest⟩
    · rw [Registry.lookup, found]
    · rw [Registry.lookup, found']

/-! ## Signals -/

/-- A registration comes to the same, unless the pool of signals is full. -/
theorem register
    (alike : Alike allowed signalRoom slotRoom left right)
    (formed : left.WellFormed)
    (formed' : right.WellFormed)
    {serial : Nat}
    (fresh : ∀ index signal, left.signalAt index = some signal → signal.serial < serial)
    (name : String)
    (description : Option String)
    (priority : Priority) :
    (∃ fault, left.register name description priority serial = .error fault ∧
        right.register name description priority serial = .error fault) ∨
      (∃ nextLeft nextRight, left.register name description priority serial = .ok nextLeft ∧
        right.register name description priority serial = .ok nextRight ∧
        Alike allowed signalRoom slotRoom nextLeft nextRight) ∨
      ∃ nextLeft, left.register name description priority serial = .ok nextLeft ∧
        signalRoom < nextLeft.signals.size ∧
        right.register name description priority serial =
          .error (.resourceExhausted (.signalPool signalRoom)) := by
  have fresh' : ∀ index signal, right.signalAt index = some signal → signal.serial < serial := by
    intro there signal found
    rcases alike.coincides_right found with ⟨here, both⟩
    exact fresh here signal both.inLeft
  rcases alike.find? formed' name with ⟨absent, absent'⟩ | ⟨here, there, _, found, found', _⟩
  · rcases alike.growing.register_of_unknown absent description priority serial with
      ⟨nextLeft, registered, _⟩
    have stocks := register_stocks registered
    refine Or.inr ?_
    rcases formed'.signals_sound.insert_of_pool alike.pooledSignals
      { name := name, description := description, priority := priority, serial := serial } with
      ⟨_, index, inserted⟩ | ⟨full, refused⟩
    · have done : ∃ nextRight, right.register name description priority serial = .ok nextRight := by
        rw [Registry.register, absent']
        simp only [Option.isSome_none, Bool.false_eq_true, if_false, inserted]
        exact ⟨_, rfl⟩
      rcases done with ⟨nextRight, registered'⟩
      refine Or.inl ⟨nextLeft, nextRight, registered, registered', ?_⟩
      refine alike.alter (formed.register_alters fresh registered)
        (formed'.register_alters fresh' registered') stocks (register_stocks registered') rfl ?_
        rfl rfl
      intro changed kept same slot member
      rw [Option.some.injEq, Prod.mk.injEq] at same
      rw [← same.2] at member
      cases member
    · refine Or.inr ⟨nextLeft, registered, ?_, ?_⟩
      · rw [stocks.signalSize, alike.signalSize]
        exact Nat.lt_succ_of_le full
      · rw [Registry.register, absent']
        simp only [Option.isSome_none, Bool.false_eq_true, if_false, refused]
        rfl
  · refine Or.inl ⟨.alreadyExists name, ?_, ?_⟩
    · rw [Registry.register, found]
      rfl
    · rw [Registry.register, found']
      rfl

/-- The end of a registration comes to the same. -/
theorem unregister
    (alike : Alike allowed signalRoom slotRoom left right)
    (formed : left.WellFormed)
    (formed' : right.WellFormed)
    (name : String) :
    (left.unregister name = .error (.notFound name) ∧
        right.unregister name = .error (.notFound name)) ∨
      ∃ result result', left.unregister name = .ok result ∧ right.unregister name = .ok result' ∧
        Removed allowed signalRoom slotRoom result result' := by
  rcases alike.lookup formed' name with
    ⟨absent, absent'⟩ | ⟨here, there, signal, found, found', named, both⟩
  · refine Or.inl ⟨?_, ?_⟩
    · rw [Registry.unregister, absent]
    · rw [Registry.unregister, absent']
  · have done : ∃ nextLeft released, left.unregister name = .ok (nextLeft, released) := by
      rw [Registry.unregister, found]
      exact ⟨_, _, rfl⟩
    have done' : ∃ nextRight released, right.unregister name = .ok (nextRight, released) := by
      rw [Registry.unregister, found']
      exact ⟨_, _, rfl⟩
    rcases done with ⟨nextLeft, released, done⟩
    rcases done' with ⟨nextRight, released', done'⟩
    rcases formed.unregister_alters done with ⟨gone, slots, shown, name, alters, values⟩
    rcases formed'.unregister_alters done' with ⟨gone', slots', shown', name', alters', values'⟩
    rcases formed'.shows_eq ((alike.shows _ _).mp shown) shown' (name.trans name'.symm) with
      ⟨rfl, rfl⟩
    refine Or.inr ⟨_, _, done, done', ?_⟩
    refine alike.removed alters alters' (unregister_stocks done) (unregister_stocks done')
      rfl (values.trans values'.symm) ?_ ?_
    · intro changed kept same
      cases same
    · rw [values]
      exact alike.carries _ _ shown

/-! ## Connecting -/

/-- The room for one more slot is granted alike, unless the pool of slots is full. -/
theorem grant
    (alike : Alike allowed signalRoom slotRoom left right)
    {here there : Nat}
    {signal : Signal}
    (both : Coincides left right here there signal)
    (limit : Nat) :
    (∃ fault, left.grant here limit = .error fault ∧ right.grant there limit = .error fault) ∨
      left.grant here limit = .ok signal.priority ∧
        (right.slots.size < slotRoom ∧ right.grant there limit = .ok signal.priority ∨
          slotRoom ≤ right.slots.size ∧
            right.grant there limit = .error (.resourceExhausted (.slotPool slotRoom))) := by
  rcases (signalAt_eq_some_iff _ _ _).mp both.inLeft with ⟨raw, stored, content⟩
  rcases (signalAt_eq_some_iff _ _ _).mp both.inRight with ⟨raw', stored', content'⟩
  have live : raw.live = signal.live := by rw [← content, Signal.content_live]
  have live' : raw'.live = signal.live := by rw [← content', Signal.content_live]
  have declared : raw.priority = signal.priority := by rw [← content, Signal.content_priority]
  have declared' : raw'.priority = signal.priority := by rw [← content', Signal.content_priority]
  rw [alike.growing.grant_eq stored, Registry.grant, stored']
  dsimp only
  rw [live, live', declared, declared']
  by_cases capped : limit ≤ signal.live
  · rw [if_pos capped, if_pos capped]
    exact Or.inl ⟨_, rfl, rfl⟩
  · rw [if_neg capped, if_neg capped, Arena.reserve, alike.pooledSlots]
    refine Or.inr ⟨rfl, ?_⟩
    by_cases room : right.slots.size < slotRoom
    · exact Or.inl ⟨room, by simp only [if_pos room]⟩
    · exact Or.inr ⟨Nat.le_of_not_lt room, by simp only [if_neg room]; rfl⟩

/-- A slot for which there is room is attached alike. -/
theorem attach
    (alike : Alike allowed signalRoom slotRoom left right)
    (formed : left.WellFormed)
    (formed' : right.WellFormed)
    {here there : Nat}
    {signal : Signal}
    (both : Coincides left right here there signal)
    (slot : Slot)
    (live : slot.removed = false)
    (carries : slot.Carries allowed)
    (latest :
      ∀ position other, contentAt left.slots position = some other →
        other.handle.number < slot.handle.number)
    (latest' :
      ∀ position other, contentAt right.slots position = some other →
        other.handle.number < slot.handle.number)
    (room : right.slots.size < slotRoom) :
    ∃ nextLeft nextRight, left.attach here slot = .ok nextLeft ∧
      right.attach there slot = .ok nextRight ∧
      Alike allowed signalRoom slotRoom nextLeft nextRight := by
  rcases alike.growing.attach here slot with ⟨nextLeft, attached, _⟩
  have done : ∃ nextRight, right.attach there slot = .ok nextRight := by
    rcases formed'.slots_sound.insert_of_pool alike.pooledSlots slot with
      ⟨_, position, inserted⟩ | ⟨full, _⟩
    · rw [Registry.attach, inserted]
      exact ⟨_, rfl⟩
    · exact absurd room (Nat.not_lt.mpr full)
  rcases done with ⟨nextRight, attached'⟩
  refine ⟨nextLeft, nextRight, attached, attached', ?_⟩
  refine alike.alter (formed.attach_alters both.inLeft live latest attached)
    (formed'.attach_alters both.inRight live latest' attached') (attach_stocks attached)
    (attach_stocks attached') (by rw [both.contents]) ?_ rfl rfl
  intro changed kept same
  rw [Option.some.injEq, Prod.mk.injEq] at same
  rw [← same.2]
  exact Slot.carries_insertedInto carries (alike.carries_contents both)

end Alike

end Registry

end SignalDispatch
